/-
FlashSeal.Region.Error — why a region cannot be written, placed, hashed or read.

A `Defect` says what is wrong with the bytes of a region; a `RegionError` says what is wrong with
the work as a whole.  `message` is the sentence for a reader; `diagnostic` names the fault and its
data.
-/
import FlashSeal.Text.Column
import FlashSeal.Text.Quoted

namespace FlashSeal

open Text

/-- What is wrong with the bytes of a region. -/
inductive Defect
  | truncated
  /-- The footer's length is below the least or above what there is. -/
  | badLength
  /-- The header names a layout that is not known. -/
  | unsupportedVersion
  /-- A record's payload reaches into the footer. -/
  | overrunsFooter
  /-- An area record has a payload of the wrong length. -/
  | badAreaLength
  /-- An area record stands behind the hash. -/
  | areaAfterHash
  /-- A hash record has a payload of the wrong length. -/
  | badHashLength
  /-- A second hash record stands behind the first. -/
  | duplicateHash
  | unknownCode
  | missingHash
  /-- The region begins before the boot loader area. -/
  | outsideBootLoader
  deriving DecidableEq, Repr

/-- The wording of a defect. -/
def Defect.message : Defect → String
  | truncated => "truncated region"
  | badLength => "bad region size"
  | unsupportedVersion => "unsupported version"
  | overrunsFooter => "TLV overruns footer"
  | badAreaLength => "bad flash area TLV size"
  | areaAfterHash => "flash area TLV after hash"
  | badHashLength => "bad hash TLV size"
  | duplicateHash => "duplicate hash TLV"
  | unknownCode => "unknown TLV code"
  | missingHash => "missing hash TLV"
  | outsideBootLoader => "region extends outside boot loader area"

/-- A field of a region that can be too narrow for its value. -/
inductive NarrowField
  | areaId
  | deviceId
  | regionSize
  deriving DecidableEq, Repr

/-- The name of a field. -/
def NarrowField.label : NarrowField → String
  | areaId => "flash area id"
  | deviceId => "flash device id"
  | regionSize => "meta region size"

/-- Why work on a region failed. -/
inductive RegionError
  | missingArea (name : String)
  | regionTooLarge (areaSize : UInt32) (regionSize : Nat)
  /-- The place for the region was written before. -/
  | spaceOccupied (regionOffset : Nat)
  /-- The boot loader area ends behind the image. -/
  | areaOutsideImage (areaEnd imageLength : Nat)
  | doesNotFit (field : NarrowField) (value : Nat)
  /-- The hash field reaches past the image. -/
  | hashOutOfRange (offset imageLength : Nat)
  | noRegion
  | malformed (defect : Defect)
  deriving DecidableEq, Repr

namespace RegionError

/-- The fault in a sentence. -/
def message : RegionError → String
  | missingArea name => "required flash area missing: " ++ name
  | regionTooLarge areaSize regionSize =>
    "boot loader flash area too small to accommodate meta region; boot="
      ++ decimal areaSize.toNat ++ " meta=" ++ decimal regionSize
  | spaceOccupied regionOffset =>
    "boot loader extends into meta region; meta region starts at offset "
      ++ decimal regionOffset ++ " (" ++ address regionOffset ++ ")"
  | areaOutsideImage areaEnd imageLength =>
    "flash area ends at " ++ address areaEnd ++ " but image is only " ++ decimal imageLength
      ++ " bytes"
  | doesNotFit field value =>
    "cannot encode " ++ field.label ++ ": value " ++ decimal value ++ " does not fit its field"
  | hashOutOfRange offset imageLength =>
    "hash offset " ++ decimal offset ++ " out of range for " ++ decimal imageLength ++ " byte image"
  | noRegion => "no meta region found"
  | malformed defect => "malformed meta region: " ++ defect.message

/-- The fault's name and data. -/
def diagnostic : RegionError → String
  | missingArea name => "MissingRequiredArea(" ++ quoted name ++ ")"
  | regionTooLarge areaSize regionSize =>
    "RegionTooLarge \x7b area_size: " ++ decimal areaSize.toNat ++ ", region_size: "
      ++ decimal regionSize ++ " \x7d"
  | spaceOccupied regionOffset =>
    "RegionSpaceOccupied \x7b meta_offset: " ++ decimal regionOffset ++ " \x7d"
  | areaOutsideImage areaEnd imageLength =>
    "AreaOutsideImage \x7b area_end: " ++ decimal areaEnd ++ ", image_len: " ++ decimal imageLength
      ++ " \x7d"
  | doesNotFit field value =>
    "EncodingFailure \x7b field: " ++ quoted field.label ++ ", value: " ++ decimal value ++ " \x7d"
  | hashOutOfRange offset imageLength =>
    "HashOffsetOutOfRange \x7b offset: " ++ decimal offset ++ ", image_len: "
      ++ decimal imageLength ++ " \x7d"
  | noRegion => "NoMetaRegion"
  | malformed defect => "MalformedRegion(" ++ quoted defect.message ++ ")"

end RegionError

end FlashSeal

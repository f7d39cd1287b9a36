/-
FlashSeal.Region.Record — the fixed records of a region, each with its writer and its reader.

    header        version, pad, pad (2)
    area record   code 2, length 12, id, device, pad (2), offset (4), size (4)
    hash record   code 1, length 32, digest (32)
    footer        length (2), pad (2), magic (4)

Numbers stand least significant byte first.  A record is written at the end of a buffer (`writeTo`),
field by field, and `write` is the string that this appends.  A reader takes exactly the bytes that its
writer gives, so a record and its bytes determine each other; the pads are read as they stand and
written back unchanged.
-/
import FlashSeal.Area
import FlashSeal.Bytes.Digest
import FlashSeal.Bytes.LittleEndian
import FlashSeal.Bytes.Writer
import FlashSeal.Region.Error

namespace FlashSeal

/-- The number that ends every region. -/
def regionMagic : UInt32 := 0x3BB2A269

/-- The layout that this library writes and reads. -/
def layoutVersion : UInt8 := 1

/-- The code of a hash record. -/
def hashCode : UInt8 := 1

/-- The code of an area record. -/
def areaCode : UInt8 := 2

/-- The number of bytes of a header. -/
def headerLength : Nat := 4

/-- The number of bytes in front of a record's payload. -/
def recordHeaderLength : Nat := 2

/-- The number of payload bytes of an area record. -/
def areaPayloadLength : Nat := 12

/-- The number of payload bytes of a hash record. -/
def hashPayloadLength : Nat := digestLength

/-- The number of bytes of a footer. -/
def footerLength : Nat := 8

/-- The number of bytes of a region without area records, which is the least. -/
def leastRegionLength : Nat :=
  headerLength + recordHeaderLength + hashPayloadLength + footerLength

/-- The value of a reserved byte. -/
def reservedByte : UInt8 := 0xFF

/-- The value of two reserved bytes. -/
def reservedPair : UInt16 := 0xFFFF

/-- Narrows a value to one byte, or says which field is too narrow for it. -/
def narrowToByte (field : NarrowField) (value : Nat) : Except RegionError UInt8 :=
  if value < UInt8.size then .ok (UInt8.ofNat value) else .error (.doesNotFit field value)

/-! ## Header -/

/-- The first record of a region. -/
structure Header where
  version : UInt8
  pad8 : UInt8
  pad16 : UInt16
  deriving DecidableEq, Repr

namespace Header

/-- The header that this library writes. -/
def current : Header := ⟨layoutVersion, reservedByte, reservedPair⟩

/-- Writes the header. -/
def writeTo (h : Header) : Writer Unit := do
  Writer.push h.version
  Writer.push h.pad8
  Writer.extend (littleEndian 2 h.pad16.toNat)

/-- The header's bytes. -/
def write (h : Header) : Bytes := h.version :: h.pad8 :: littleEndian 2 h.pad16.toNat

/-- Reads a header from exactly its bytes. -/
def read? : Bytes → Option Header
  | [version, pad, p0, p1] => some ⟨version, pad, UInt16.ofNat (ofLittleEndian [p0, p1])⟩
  | _ => none

end Header

/-! ## Records with a code and a length -/

/-- The code and the payload length in front of a record. -/
structure RecordHeader where
  code : UInt8
  size : UInt8
  deriving DecidableEq, Repr

namespace RecordHeader

/-- Writes the code and the length. -/
def writeTo (h : RecordHeader) : Writer Unit := do
  Writer.push h.code
  Writer.push h.size

/-- The two bytes. -/
def write (h : RecordHeader) : Bytes := [h.code, h.size]

/-- Reads the two bytes. -/
def read? : Bytes → Option RecordHeader
  | [code, size] => some ⟨code, size⟩
  | _ => none

end RecordHeader

/-- The record that describes one area. -/
structure AreaRecord where
  header : RecordHeader
  areaId : UInt8
  deviceId : UInt8
  pad16 : UInt16
  offset : UInt32
  size : UInt32
  deriving DecidableEq, Repr

namespace AreaRecord

/-- The code and length of every area record. -/
def standardHeader : RecordHeader := ⟨areaCode, UInt8.ofNat areaPayloadLength⟩

/-- The record of an area, if its id and its device fit one byte each. -/
def ofArea (a : Area) : Except RegionError AreaRecord := do
  let areaId ← narrowToByte .areaId a.id.toNat
  let deviceId ← narrowToByte .deviceId a.device.toNat
  return ⟨standardHeader, areaId, deviceId, reservedPair, a.offset, a.size⟩

/-- Writes the record, code and length included. -/
def writeTo (r : AreaRecord) : Writer Unit := do
  r.header.writeTo
  Writer.push r.areaId
  Writer.push r.deviceId
  Writer.extend (littleEndian 2 r.pad16.toNat)
  Writer.extend (littleEndian 4 r.offset.toNat)
  Writer.extend (littleEndian 4 r.size.toNat)

/-- The payload's bytes. -/
def payload (r : AreaRecord) : Bytes :=
  r.areaId :: r.deviceId :: littleEndian 2 r.pad16.toNat ++ littleEndian 4 r.offset.toNat
    ++ littleEndian 4 r.size.toNat

/-- The record's bytes, code and length included. -/
def write (r : AreaRecord) : Bytes := r.header.write ++ r.payload

/-- Reads a record from its header and exactly its payload. -/
def ofPayload? (header : RecordHeader) : Bytes → Option AreaRecord
  | [areaId, deviceId, p0, p1, o0, o1, o2, o3, s0, s1, s2, s3] =>
    some ⟨header, areaId, deviceId, UInt16.ofNat (ofLittleEndian [p0, p1]),
      UInt32.ofNat (ofLittleEndian [o0, o1, o2, o3]), UInt32.ofNat (ofLittleEndian [s0, s1, s2, s3])⟩
  | _ => none

end AreaRecord

/-- The record that holds the digest of the image. -/
structure HashRecord where
  header : RecordHeader
  digest : Digest
  deriving DecidableEq

namespace HashRecord

/-- The code and length of every hash record. -/
def standardHeader : RecordHeader := ⟨hashCode, UInt8.ofNat hashPayloadLength⟩

/-- A hash record with this digest. -/
def ofDigest (d : Digest) : HashRecord := ⟨standardHeader, d⟩

/-- Writes the record, code and length included. -/
def writeTo (r : HashRecord) : Writer Unit := do
  r.header.writeTo
  Writer.extend r.digest.bytes

/-- The record's bytes, code and length included. -/
def write (r : HashRecord) : Bytes := r.header.write ++ r.digest.bytes

end HashRecord

/-! ## Footer -/

/-- The last record of a region. -/
structure Footer where
  /-- The number of bytes of the whole region, footer included. -/
  size : UInt16
  pad16 : UInt16
  magic : UInt32
  deriving DecidableEq, Repr

namespace Footer

/-- The footer behind `n` bytes, if the whole region's length fits its field. -/
def behind (n : Nat) : Except RegionError Footer :=
  let total := n + footerLength
  if total < UInt16.size then .ok ⟨UInt16.ofNat total, reservedPair, regionMagic⟩
  else .error (.doesNotFit .regionSize total)

/-- Writes the footer. -/
def writeTo (f : Footer) : Writer Unit := do
  Writer.extend (littleEndian 2 f.size.toNat)
  Writer.extend (littleEndian 2 f.pad16.toNat)
  Writer.extend (littleEndian 4 f.magic.toNat)

/-- The footer's bytes. -/
def write (f : Footer) : Bytes :=
  littleEndian 2 f.size.toNat ++ littleEndian 2 f.pad16.toNat ++ littleEndian 4 f.magic.toNat

/-- Reads a footer from exactly its bytes. -/
def read? : Bytes → Option Footer
  | [s0, s1, p0, p1, m0, m1, m2, m3] =>
    some ⟨UInt16.ofNat (ofLittleEndian [s0, s1]), UInt16.ofNat (ofLittleEndian [p0, p1]),
      UInt32.ofNat (ofLittleEndian [m0, m1, m2, m3])⟩
  | _ => none

end Footer

end FlashSeal

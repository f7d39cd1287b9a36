/-
FlashSeal.Region — a region read back from the bytes that it ends.

A region is found from its end: the footer gives its length, the length gives its header, and
between the two stand the records.  Area records come first and one hash record closes them, so
the walk along the records needs no memory but the position: `recordsFrom` collects areas until it
meets the hash, and `closed` accepts nothing behind it.

The walk has the footer in sight.  It ends where the footer starts, but it reads two bytes for every
header, and the second may be the footer's.
-/
import FlashSeal.Region.Record

namespace FlashSeal

/-- A region as it was read. -/
structure Region where
  offset : Nat
  header : Header
  /-- The area records, in the order in which they stand. -/
  areas : List AreaRecord
  hash : Digest
  hashOffset : Nat
  footer : Footer
  deriving DecidableEq

/-- The records between a header and a footer. -/
structure Records where
  areas : List AreaRecord
  hash : Digest
  hashOffset : Nat
  deriving DecidableEq

namespace Region

/-- The number of bytes, footer included. -/
def length (r : Region) : Nat := r.footer.size.toNat

/-- Whether the footer gives no byte at all. -/
def isEmpty (r : Region) : Bool := r.footer.size == 0

/-- The offset just past the last byte. -/
def stop (r : Region) : Nat := r.offset + r.length

/-- The region's bytes. -/
def write (r : Region) : Bytes :=
  r.header.write ++ r.areas.flatMap AreaRecord.write ++ (HashRecord.ofDigest r.hash).write
    ++ r.footer.write

/-! ## The walk along the records -/

/-- Reads the header of the record that begins these bytes, of which `room` stand in front of the
footer, and gives it with the bytes behind it.  A header that is cut off there goes on with the footer's
bytes. -/
def cutHeader (room : Nat) : Bytes → Except Defect (RecordHeader × Bytes)
  | code :: size :: rest =>
    if room < recordHeaderLength + size.toNat then .error .overrunsFooter
    else .ok (⟨code, size⟩, rest)
  | _ => .error .truncated

/-- Accepts the footer behind the hash, and nothing else. -/
def closed (room : Nat) (bs : Bytes) : Except Defect Unit :=
  if room = 0 then .ok ()
  else
    match cutHeader room bs with
    | .error defect => .error defect
    | .ok (h, _) =>
      if h.code = areaCode then
        .error (if h.size.toNat = areaPayloadLength then .areaAfterHash else .badAreaLength)
      else if h.code = hashCode then
        .error (if h.size.toNat = hashPayloadLength then .duplicateHash else .badHashLength)
      else .error .unknownCode

/-- Reads area records up to the hash record, which must be the last; `position` is where the
bytes stand, and `room` of them stand in front of the footer. -/
def recordsFrom (position room : Nat) (bs : Bytes) : Except Defect Records :=
  if _hroom : room = 0 then .error .missingHash
  else
    match cutHeader room bs with
    | .error defect => .error defect
    | .ok (h, rest) =>
      let payloadAt := position + recordHeaderLength
      if h.code = areaCode then
        if h.size.toNat ≠ areaPayloadLength then .error .badAreaLength
        else
          match Bytes.split? areaPayloadLength rest with
          | none => .error .truncated
          | some (payload, rest) =>
            match AreaRecord.ofPayload? h payload with
            | none => .error .truncated
            | some area =>
              match recordsFrom (payloadAt + areaPayloadLength)
                (room - (recordHeaderLength + areaPayloadLength)) rest with
              | .error defect => .error defect
              | .ok records => .ok { records with areas := area :: records.areas }
      else if h.code = hashCode then
        if h.size.toNat ≠ hashPayloadLength then .error .badHashLength
        else
          match Bytes.split? hashPayloadLength rest with
          | none => .error .truncated
          | some (payload, rest) =>
            match Digest.ofBytes? payload with
            | none => .error .truncated
            | some digest =>
              match closed (room - (recordHeaderLength + hashPayloadLength)) rest with
              | .error defect => .error defect
              | .ok () => .ok ⟨[], digest, payloadAt⟩
      else .error .unknownCode
termination_by room
decreasing_by
  simp only [recordHeaderLength]
  omega

/-! ## The whole region -/

/-- Reads the region of `footer.size` bytes that ends these bytes. -/
def ofFooter (bs : Bytes) (footer : Footer) : Except Defect Region :=
  let size := footer.size.toNat
  if size < leastRegionLength ∨ bs.length < size then .error .badLength
  else
    let offset := bs.length - size
    match Bytes.split? headerLength (bs.drop offset) with
    | none => .error .truncated
    | some (front, rest) =>
      match Header.read? front with
      | none => .error .truncated
      | some header =>
        if header.version ≠ layoutVersion then .error .unsupportedVersion
        else
          match recordsFrom (offset + headerLength) (rest.length - footerLength) rest with
          | .error defect => .error defect
          | .ok records =>
            .ok ⟨offset, header, records.areas, records.hash, records.hashOffset, footer⟩

/-- Reads the region whose footer ends these bytes; offsets count from their start. -/
def decode (bs : Bytes) : Except RegionError Region :=
  if bs.length < footerLength then .error .noRegion
  else
    match Footer.read? (bs.drop (bs.length - footerLength)) with
    | none => .error (.malformed .truncated)
    | some footer =>
      if footer.magic ≠ regionMagic then .error .noRegion
      else (ofFooter bs footer).mapError .malformed

end Region

end FlashSeal

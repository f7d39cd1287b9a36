/-
FlashSeal.Proofs.SealPermanence — a sealed image withstands every operation that respects its seal.

`Operation` lists what the library can do to an image, and `run` does one operation after another on
one image, keeping for each its answer and the image it left.  An operation respects a seal if it
stores a digest at no other place than the seal's, and places a region nowhere else than where the
sealed boot loader area ends (`Operation.RespectsSeal`).

One step preserves the image (`Sealing.on_after`), so a run does (`Sealing.run_after`).  Two facts
carry the step.  The last byte of a region is the last byte of the magic, which is not erased, so no
window that ends there is free, however long (`Sealing.slice_after_ne_erased`).  And the digest that
filling would store is the one that stands there already (`Sealing.fillHash_after`).
-/
import FlashSeal.Proofs.TamperEvidence

namespace FlashSeal

/-! ## Operations and their runs -/

/-- What can be done to an image. -/
inductive Operation
  | calcHash (offset : Nat)
  | fillHash (offset : Nat)
  | verify (region : Region)
  | read (m : FlashMap)
  | find
  | place (region : Encoded) (m : FlashMap)
  | embed (m : FlashMap)

/-- What an operation answers. -/
inductive Answer
  | digest (result : Except RegionError Digest)
  | verdict (result : Except RegionError Bool)
  | region (result : Except RegionError Region)
  | hashOffset (result : Except RegionError Nat)
  | placement (result : Except RegionError Placement)

/-- An operation that was done, with its answer and the image it left. -/
structure Step where
  operation : Operation
  answer : Answer
  left : Bytes

/-- The map has a boot loader area that ends at `stop`. -/
def FlashMap.BootLoaderStopsAt (m : FlashMap) (stop : Nat) : Prop :=
  ∃ boot, m.bootLoader? = some boot ∧ boot.stop = stop

namespace Operation

/-- Does an operation to an image. -/
def on (digest : Bytes → Digest) (image : Bytes) : Operation → Answer × Bytes
  | calcHash offset => ((FlashSeal.calcHash offset digest).on image).map .digest id
  | fillHash offset => ((FlashSeal.fillHash offset digest).on image).map .digest id
  | verify region => ((FlashSeal.verify region digest).on image).map .verdict id
  | read m => (.region (Region.read image m), image)
  | find => (.region (Region.find image), image)
  | place region m => ((FlashSeal.place region m).on image).map .hashOffset id
  | embed m => ((FlashSeal.embed m digest).on image).map .placement id

/-- Does operations to an image, one after another. -/
def run (digest : Bytes → Digest) (image : Bytes) : List Operation → List Step
  | [] => []
  | op :: ops =>
    let (answer, left) := op.on digest image
    ⟨op, answer, left⟩ :: run digest left ops

/-- The operation respects a seal at `hashOffset` in a boot loader area that ends at `stop`: a digest
is filled in nowhere else, and a region is placed nowhere else. -/
def RespectsSeal (hashOffset stop : Nat) : Operation → Prop
  | fillHash offset => offset = hashOffset
  | place region m => (∃ areas, Encoded.ofAreas areas = .ok region) ∧ m.BootLoaderStopsAt stop
  | embed m => m.BootLoaderStopsAt stop
  | _ => True

/-- The answer is one that a sealed image gives: no region finds a place, and the digest is the
seal's. -/
def AnsweredBySeal (hash : Digest) : Operation → Answer → Prop
  | fillHash _, answer => answer = .digest (.ok hash)
  | place _ _, answer => ∃ e, answer = .hashOffset (.error e)
  | embed _, answer => ∃ e, answer = .placement (.error e)
  | _, _ => True

end Operation

/-! ## One step -/

namespace Sealing

variable {digest : Bytes → Digest} {m other : FlashMap} (s : Sealing digest m)

/-- In front of the boot loader area's end stands the last byte of the magic. -/
theorem getElem?_after_stop (hpos : 0 < s.boot.stop) : s.after[s.boot.stop - 1]? = some 0x3B := by
  rw [← Bytes.getLast?_take hpos s.stop_le_after]
  exact Region.getLast?_of_decode s.decode_take

/-- No window that ends where the boot loader area ends is erased. -/
theorem slice_after_ne_erased {n : Nat} (hpos : 0 < n) (hn : n ≤ s.boot.stop) :
    s.after.slice (s.boot.stop - n) n ≠ erased n := by
  intro herased
  have hlast := Bytes.slice_eq_erased_iff.1 herased (s.boot.stop - 1) (by omega) (by omega)
  rw [s.getElem?_after_stop (by omega)] at hlast
  exact absurd hlast (by decide)

/-- No region finds a place that ends where the sealed one ends. -/
theorem place_after (hother : other.BootLoaderStopsAt s.boot.stop) {areas : List Area}
    {region : Encoded} (hregion : Encoded.ofAreas areas = .ok region) :
    ∃ e, (place region other).on s.after = (.error e, s.after) := by
  obtain ⟨boot, hboot, hstop⟩ := hother
  rw [place_on hboot, hstop]
  split
  · exact ⟨_, rfl⟩
  next hlarge =>
  split
  · exact ⟨_, rfl⟩
  have hsize : boot.size.toNat ≤ s.boot.stop := by
    rw [← hstop]
    exact Nat.le_add_left _ _
  have hwindow := s.slice_after_ne_erased (Encoded.length_pos_of_ofAreas hregion) (by omega)
  rw [if_neg hwindow]
  exact ⟨_, rfl⟩

/-- The map of the seal fails at the place that the seal takes. -/
theorem embed_after :
    (embed m digest).on s.after = (.error (.spaceOccupied s.front.length), s.after) := by
  have hstop : s.boot.stop = s.boot.offset.toNat + s.boot.size.toNat := rfl
  have hoffset := s.offset_le
  have hend := s.stop_eq
  have hsize : ¬ s.boot.size.toNat < s.encoded.length := by
    rw [length_encoded]
    omega
  have himage : ¬ s.after.length < s.boot.stop := Nat.not_lt.2 s.stop_le_after
  have hplace : (place s.encoded m).on s.after
      = (.error (.spaceOccupied s.front.length), s.after) := by
    rw [place_on s.boot_eq, if_neg hsize, if_neg himage, length_encoded,
      if_neg (s.slice_after_ne_erased (by omega) (by omega)), ← hend, Nat.add_sub_cancel]
  exact embed_on_of_place_error s.ofAreas_emission hplace

/-- No map that ends the boot loader area where the seal's map does finds a place. -/
theorem embed_other_after (hother : other.BootLoaderStopsAt s.boot.stop) :
    ∃ e, (embed other digest).on s.after = (.error e, s.after) := by
  cases hregion : Encoded.ofAreas other.emission with
  | error e => exact ⟨e, embed_on_of_ofAreas_error hregion⟩
  | ok region =>
    obtain ⟨e, hplace⟩ := s.place_after hother hregion
    exact ⟨e, embed_on_of_place_error hregion hplace⟩

/-- Filling in the digest again stores what is stored. -/
theorem fillHash_after :
    (fillHash s.region.hashOffset digest).on s.after = (.ok s.hash, s.after) := by
  have hsealed : digest (s.after.blanked s.region.hashOffset) = s.hash := s.hash_eq.symm
  have hstored : s.after.overwrite s.region.hashOffset s.hash.bytes = s.after := by
    rw [← s.slice_after]
    exact Bytes.overwrite_slice s.hashOffset_le
  rw [fillHash_on, if_pos s.hashOffset_le, hsealed, hstored]

/-- An operation that respects the seal leaves the image as it is and gets the seal's answer. -/
theorem on_after {op : Operation} (hop : op.RespectsSeal s.region.hashOffset s.boot.stop) :
    (op.on digest s.after).2 = s.after ∧ op.AnsweredBySeal s.hash (op.on digest s.after).1 := by
  -- Filling, placing and embedding could write, and have lemmas of their own; the rest only look.
  cases op with
  | calcHash offset =>
    refine ⟨?_, trivial⟩
    simp only [Operation.on, calcHash_on, Prod.map_snd]
    split <;> rfl
  | fillHash offset =>
    obtain rfl : offset = s.region.hashOffset := hop
    simp only [Operation.on, fillHash_after]
    exact ⟨rfl, rfl⟩
  | verify region =>
    refine ⟨?_, trivial⟩
    simp only [Operation.on, verify_on, Prod.map_snd]
    split <;> rfl
  | read other => exact ⟨rfl, trivial⟩
  | find => exact ⟨rfl, trivial⟩
  | place region other =>
    obtain ⟨⟨areas, hregion⟩, hother⟩ := hop
    obtain ⟨e, hplace⟩ := s.place_after hother hregion
    simp only [Operation.on, hplace]
    exact ⟨rfl, e, rfl⟩
  | embed other =>
    obtain ⟨e, hembed⟩ := s.embed_other_after hop
    simp only [Operation.on, hembed]
    exact ⟨rfl, e, rfl⟩

/-! ## A whole run -/

/-- Every step of a run that respects the seal leaves the image as it is and gets the seal's answer. -/
theorem run_after {ops : List Operation}
    (hops : ∀ op ∈ ops, op.RespectsSeal s.region.hashOffset s.boot.stop) :
    ∀ step ∈ Operation.run digest s.after ops,
      step.left = s.after ∧ step.operation.AnsweredBySeal s.hash step.answer := by
  induction ops with
  | nil => simp [Operation.run]
  | cons op ops ih =>
    obtain ⟨hop, hrest⟩ := List.forall_mem_cons.1 hops
    obtain ⟨hleft, hanswer⟩ := s.on_after hop
    rw [Operation.run, List.forall_mem_cons]
    refine ⟨⟨hleft, hanswer⟩, ?_⟩
    rw [hleft]
    exact ih hrest

end Sealing

theorem Operation.map_operation_run (digest : Bytes → Digest) (image : Bytes)
    (ops : List Operation) : (run digest image ops).map Step.operation = ops := by
  induction ops generalizing image with
  | nil => rfl
  | cons op ops ih => rw [run, List.map_cons, ih]

/-- A sealed image stays as it is under every run that respects its seal: each step leaves it, no region
finds a place, the digest that is filled in is the seal's, and reading and verifying succeed after
every step.  Embedding with the seal's own map fails at the region's place. -/
theorem sealed_withstands {digest : Bytes → Digest} {m : FlashMap} {image left : Bytes}
    {p : Placement} {boot : Area} (hseal : (embed m digest).on image = (.ok p, left))
    (hboot : m.bootLoader? = some boot) :
    (∀ ops : List Operation, (∀ op ∈ ops, op.RespectsSeal p.hashOffset boot.stop) →
      (Operation.run digest left ops).map Step.operation = ops ∧
      ∀ step ∈ Operation.run digest left ops,
        step.left = left ∧ step.operation.AnsweredBySeal p.hash step.answer ∧
        ∃ r, Region.read step.left m = .ok r ∧
          (verify r digest).on step.left = (.ok true, step.left)) ∧
    (embed m digest).on left = (.error (.spaceOccupied p.regionOffset), left) := by
  obtain ⟨s, -, rfl, rfl⟩ := exists_sealing hseal
  obtain rfl : s.boot = boot := Option.some.inj (s.boot_eq.symm.trans hboot)
  refine ⟨?_, s.embed_after⟩
  intro ops hops
  refine ⟨Operation.map_operation_run digest s.after ops, ?_⟩
  intro step hstep
  obtain ⟨hleft, hanswer⟩ := s.run_after hops step hstep
  refine ⟨hleft, hanswer, s.region, ?_⟩
  rw [hleft]
  exact ⟨s.read_after, s.verify_after⟩

/-- Operations that try to change a sealed image, with its own map and with another. -/
def attempts : List Operation :=
  [.calcHash 80, .fillHash 38, .embed bootOnlyMap,
    .place ⟨(Region.current 0 [] .zero).write, 6⟩ twoAreaMap, .find, .fillHash 38]

theorem sealed_withstands_attempts :
    (∀ op ∈ attempts, op.RespectsSeal 38 78) ∧
    (∀ step ∈ Operation.run sha256 (bootImageWith bootDigest) attempts,
      step.left = bootImageWith bootDigest) ∧
    (embed twoAreaMap).on (bootImageWith bootDigest)
      = (.error (.spaceOccupied 4), bootImageWith bootDigest) := by
  have hother : bootOnlyMap.BootLoaderStopsAt 78 := ⟨⟨_, 9, 2, 4, 74⟩, by cbv, rfl⟩
  have hrespects : ∀ op ∈ attempts, op.RespectsSeal 38 78 := by
    simp only [attempts, List.forall_mem_cons, Operation.RespectsSeal, List.not_mem_nil,
      false_implies, implies_true, and_true, true_and]
    exact ⟨hother, ⟨[], rfl⟩, _, bootLoader?_twoAreaMap, rfl⟩
  obtain ⟨hrun, hagain⟩ := sealed_withstands embed_bootImage bootLoader?_twoAreaMap
  exact ⟨hrespects, fun step hstep => ((hrun attempts hrespects).2 step hstep).1, hagain⟩

end FlashSeal

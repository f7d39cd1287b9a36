/-
FlashSeal.Bytes — byte strings, and the few cuts that the library makes in them.

An image, a region and a record are all lists of bytes.  `Bytes.split?` is the only way to take a
field of known length off the front, and it refuses a string that is too short; `Bytes.overwrite`
is the only way to write into a string, and it never moves the bytes around the written field.
-/

namespace FlashSeal

/-- A byte string: an image, a region, a record or a file. -/
abbrev Bytes := List UInt8

/-- The value a flash cell holds after it was erased. -/
def erasedByte : UInt8 := 0xFF

/-- A stretch of `n` erased cells. -/
def erased (n : Nat) : Bytes := List.replicate n erasedByte

/-- A field of `n` zero bytes. -/
def zeroes (n : Nat) : Bytes := List.replicate n 0

namespace Bytes

/-- Splits off the first `n` bytes, and refuses a string that has fewer. -/
def split? : Nat → Bytes → Option (Bytes × Bytes)
  | 0, bs => some ([], bs)
  | _ + 1, [] => none
  | n + 1, b :: bs => (split? n bs).map fun (front, rest) => (b :: front, rest)

/-- Writes `field` over the bytes from `start` on. -/
def overwrite (bs : Bytes) (start : Nat) (field : Bytes) : Bytes :=
  bs.take start ++ field ++ bs.drop (start + field.length)

/-- Puts erased bytes behind a string until it is `size` bytes long. -/
def padTo (bs : Bytes) (size : Nat) : Bytes := bs ++ erased (size - bs.length)

/-! ## Small laws -/

theorem split?_eq_some_iff {n : Nat} {bs front rest : Bytes} :
    split? n bs = some (front, rest) ↔ bs = front ++ rest ∧ front.length = n := by
  induction n generalizing bs front with
  | zero =>
    simp only [split?, Option.some.injEq, Prod.mk.injEq]
    constructor
    · rintro ⟨rfl, rfl⟩; simp
    · rintro ⟨h, hl⟩
      obtain rfl := List.eq_nil_of_length_eq_zero hl
      simp [h]
  | succ n ih =>
    cases bs with
    | nil => cases front <;> simp [split?]
    | cons b bs =>
      cases front with
      | nil => simp [split?]
      | cons f front =>
        simp only [split?, Option.map_eq_some_iff, Prod.exists, Prod.mk.injEq, List.cons.injEq,
          List.cons_append, List.length_cons, Nat.add_right_cancel_iff]
        constructor
        · rintro ⟨a, r, h, ⟨rfl, rfl⟩, rfl⟩
          obtain ⟨rfl, hl⟩ := ih.1 h
          exact ⟨⟨rfl, rfl⟩, hl⟩
        · rintro ⟨⟨rfl, rfl⟩, hl⟩
          exact ⟨front, rest, ih.2 ⟨rfl, hl⟩, ⟨rfl, rfl⟩, rfl⟩

theorem length_overwrite {bs field : Bytes} {start : Nat} (h : start + field.length ≤ bs.length) :
    (overwrite bs start field).length = bs.length := by
  simp only [overwrite, List.length_append, List.length_take, List.length_drop]
  omega

end Bytes

end FlashSeal

/-
FlashSeal.Bytes.LittleEndian — numbers as bytes, least significant byte first.

One encoder serves every width: `littleEndian w n` writes the `w` low bytes of `n`, and
`ofLittleEndian` reads any byte string back as a number.
-/
import FlashSeal.Bytes

namespace FlashSeal

/-- The `w` low bytes of `n`, least significant first. -/
def littleEndian : Nat → Nat → Bytes
  | 0, _ => []
  | w + 1, n => UInt8.ofNat n :: littleEndian w (n / 256)

/-- The number whose bytes, least significant first, are given. -/
def ofLittleEndian : Bytes → Nat
  | [] => 0
  | b :: bs => b.toNat + 256 * ofLittleEndian bs

@[simp] theorem length_littleEndian (w n : Nat) : (littleEndian w n).length = w := by
  induction w generalizing n with
  | zero => rfl
  | succ w ih => simp [littleEndian, ih]

end FlashSeal

/-
FlashSeal.Proofs.QuantityRoundTrip — what is printed of a 32-bit number reads back as that number.

Offsets are printed in base sixteen and sizes with the largest unit that divides them.  Each printed
text is of the grammar that the readers accept (`PrintsNumber.writesNumber`, `multiple_sizeText`), so
reading it back is a matter of the grammar alone, and white space around it falls away by trimming.

In base sixteen the capital digits of the columns are one way among many: digits spell the same number
in either case of their letters and behind zeroes, so the digits of `PrintsNumber.hex` are compared in
small letters.
-/
import FlashSeal.Proofs.QuantityReading

namespace FlashSeal

open Text

variable {n : Nat} {c : Char} {cs digits : List Char} {s front back : String}

/-! ## Numbers -/

theorem mem_toDigits {b : Nat} (hb : 1 < b) (n : Nat) :
    ∀ c ∈ Nat.toDigits b n, ∃ d < b, c = Nat.digitChar d := by
  induction n using Nat.strongRecOn with
  | ind n ih =>
    intro c hc
    by_cases hlt : n < b
    · rw [Nat.toDigits_of_lt_base hlt, List.mem_singleton] at hc
      exact ⟨n, hlt, hc⟩
    · rw [Nat.toDigits_of_base_le hb (Nat.not_lt.1 hlt), List.mem_append, List.mem_singleton] at hc
      rcases hc with hc | hc
      · exact ih (n / b) (Nat.div_lt_self (by omega) hb) c hc
      · exact ⟨n % b, Nat.mod_lt n (by omega), hc⟩

theorem toLower_toUpper_digitChar :
    ∀ d < 16, (Nat.digitChar d).toUpper.toLower = Nat.digitChar d := by decide

theorem map_toLower_capitalHex (n : Nat) :
    (capitalHex n).map Char.toLower = Nat.toDigits 16 n := by
  have hsmall : ∀ c ∈ Nat.toDigits 16 n, (Char.toLower ∘ Char.toUpper) c = id c := by
    intro c hc
    obtain ⟨d, hd, rfl⟩ := mem_toDigits (by decide) n c hc
    exact toLower_toUpper_digitChar d hd
  rw [capitalHex, List.map_map, List.map_congr_left hsmall, List.map_id]

/-- A text that is printed for a number, or stands for it in base sixteen: zeroes in front and the case
of letters make no difference. -/
inductive PrintsNumber (n : Nat) : String → Prop
  | decimal : PrintsNumber n (decimal n)
  | column (width : Nat) : PrintsNumber n (hex width n)
  | hex {x : Char} {digits : List Char} {zeroes : Nat} (hx : x = 'x' ∨ x = 'X')
      (h : digits.map Char.toLower = List.replicate zeroes '0' ++ Nat.toDigits 16 n) :
      PrintsNumber n (String.ofList ('0' :: x :: digits))

theorem numeral_decimal (n : Nat) : Numeral 10 (Nat.toDigits 10 n) n :=
  .plain Nat.toDigits_ne_nil (spells_toDigits (by decide) (by decide) n)

/-- Digits that are those of a number in small letters, behind any zeroes, are a numeral of it. -/
theorem numeral_of_map_toLower {zeroes : Nat}
    (h : digits.map Char.toLower = List.replicate zeroes '0' ++ Nat.toDigits 16 n) :
    Numeral 16 digits n := by
  have hspells : Spells 16 (digits.map Char.toLower) n := by
    rw [h]
    exact (spells_toDigits (by decide) (by decide) n).zeros (by decide) zeroes
  refine .plain ?_ (spells_map_toLower_iff.1 hspells)
  intro hnil
  rw [hnil] at h
  exact Nat.toDigits_ne_nil (List.append_eq_nil_iff.1 h.symm).2

theorem map_toLower_leftpad (width n : Nat) :
    ((capitalHex n).leftpad width '0').map Char.toLower =
      List.replicate (width - (capitalHex n).length) '0' ++ Nat.toDigits 16 n := by
  rw [List.leftpad, List.map_append, List.map_replicate, map_toLower_capitalHex]
  rfl

theorem PrintsNumber.writesNumber (h : PrintsNumber n s) : WritesNumber s.toList n := by
  cases h with
  | decimal =>
    rw [Text.decimal, String.toList_ofList]
    exact .decimal (numeral_decimal n)
  | column width =>
    rw [Text.hex, String.toList_ofList]
    exact .hex (.inl rfl) (numeral_of_map_toLower (map_toLower_leftpad width n))
  | hex hx h =>
    rw [String.toList_ofList]
    exact .hex hx (numeral_of_map_toLower h)

theorem WritesNumber.tight (h : WritesNumber cs n) : Tight cs := by
  refine .of_forall fun c hc => ?_
  cases h with
  | @hex x digits n hx hdigits =>
    simp only [List.mem_cons] at hc
    rcases hc with rfl | rfl | hc
    · rfl
    · rcases hx with rfl | rfl <;> rfl
    · exact hdigits.isBlank_eq_false hc
  | decimal hcs => exact hcs.isBlank_eq_false hc

/-! ## Sizes -/

/-- A size is printed as a decimal with a unit that divides it. -/
theorem exists_sizeText (size : UInt32) :
    ∃ v name factor, (sizeText size).toList = Nat.toDigits 10 v ++ [' '] ++ name ∧
      name.getLast? = some 'B' ∧ (lowered name, factor) ∈ mapUnits ∧ v * factor = size.toNat := by
  simp only [sizeText]
  split_ifs with hmebi hkibi
  · refine ⟨_, ['M', 'i', 'B'], mebi, ?_, rfl, by decide, Nat.div_mul_cancel ?_⟩
    · simp [decimal]
    · exact Nat.dvd_of_mod_eq_zero hmebi.2
  · refine ⟨_, ['K', 'i', 'B'], kibi, ?_, rfl, by decide, Nat.div_mul_cancel ?_⟩
    · simp [decimal]
    · exact Nat.dvd_of_mod_eq_zero hkibi.2
  · refine ⟨_, ['B'], 1, ?_, rfl, by decide, Nat.mul_one _⟩
    simp [decimal]

theorem tight_sizeText (size : UInt32) : Tight (sizeText size).toList := by
  obtain ⟨v, name, factor, htext, hlast, -⟩ := exists_sizeText size
  have hdigits := numeral_decimal v
  rw [htext]
  refine ⟨fun c hc => hdigits.isBlank_eq_false ?_, fun c hc => ?_⟩
  · rw [List.append_assoc, List.head?_append_of_ne_nil _ hdigits.ne_nil] at hc
    exact List.mem_of_head? hc
  · rw [List.getLast?_append, hlast] at hc
    obtain rfl := Option.some.inj hc
    rfl

theorem multiple_sizeText (size : UInt32) :
    ∃ v factor, Multiple mapUnits (lowered (sizeText size).toList) v factor ∧
      v * factor = size.toNat := by
  obtain ⟨v, name, factor, htext, -, hunit, heq⟩ := exists_sizeText size
  have hdigits := numeral_decimal v
  have hgap : AllBlank [' '] := by simp [AllBlank, isBlank]
  have hsmall : lowered (Nat.toDigits 10 v ++ [' ']) = Nat.toDigits 10 v ++ [' '] := by
    rw [lowered_append, lowered_eq_self fun c hc => hdigits.lt_of_decimal hc]
    rfl
  refine ⟨v, factor, ?_, heq⟩
  rw [htext, lowered_append, hsmall]
  exact .intro hdigits hgap hunit

/-! ## Reading back -/

theorem trimmed_toList_surround (hfront : AllBlank front.toList) (hback : AllBlank back.toList)
    (h : Tight s.toList) : trimmed (front ++ s ++ back).toList = s.toList := by
  rw [String.toList_append, String.toList_append, trimmed_surround hfront hback h]

theorem readNumber_of_prints {m : UInt32} (hfront : AllBlank front.toList)
    (hback : AllBlank back.toList) (h : PrintsNumber m.toNat s) :
    readNumber (front ++ s ++ back) = .ok m := by
  rw [readNumber_eq_ok_iff, trimmed_toList_surround hfront hback h.writesNumber.tight]
  exact h.writesNumber

theorem readSize_of_readNumber {m : UInt32} (h : readNumber s = .ok m) : readSize s = .ok m :=
  readSize_eq_ok_iff.2 (.inl (readNumber_eq_ok_iff.1 h))

theorem readSize_sizeText {m : UInt32} (hfront : AllBlank front.toList)
    (hback : AllBlank back.toList) : readSize (front ++ sizeText m ++ back) = .ok m := by
  rw [readSize_eq_ok_iff, trimmed_toList_surround hfront hback (tight_sizeText m)]
  exact .inr (multiple_sizeText m)

/-- What is printed of a 32-bit number reads back as that number, whatever white space stands around it: a
size as a size, a number as a number and as a size.  So no two sizes are printed alike. -/
theorem printed_reads_back :
    (∀ (m : UInt32) (front back : String), AllBlank front.toList → AllBlank back.toList →
      readSize (front ++ sizeText m ++ back) = .ok m ∧
      ∀ s, PrintsNumber m.toNat s →
        readNumber (front ++ s ++ back) = .ok m ∧ readSize (front ++ s ++ back) = .ok m) ∧
    Function.Injective sizeText := by
  refine ⟨fun m front back hfront hback => ⟨readSize_sizeText hfront hback, fun s hs => ?_⟩, ?_⟩
  · have hnumber := readNumber_of_prints hfront hback hs
    exact ⟨hnumber, readSize_of_readNumber hnumber⟩
  · intro m m' heq
    have hempty : AllBlank "".toList := by simp [AllBlank]
    have hm := readSize_sizeText (m := m) hempty hempty
    have hm' := readSize_sizeText (m := m') hempty hempty
    rw [heq, hm'] at hm
    exact (Except.ok.inj hm).symm

/-- The last digit of 171 is a b, and it is not taken for the unit of that name. -/
theorem printed_reads_back_trailing_b :
    readSize ("\t" ++ sizeText 16384 ++ "") = .ok 16384 ∧
      readNumber ("" ++ "0X00aB" ++ " \n") = .ok 171 ∧ readSize ("" ++ "0X00aB" ++ " \n") = .ok 171 := by
  have hempty : AllBlank "".toList := by simp [AllBlank]
  have htab : AllBlank "\t".toList := by simp [AllBlank, isBlank]
  have hend : AllBlank " \n".toList := by simp [AllBlank, isBlank]
  have hdigits : ['0', '0', 'a', 'B'].map Char.toLower =
      List.replicate 2 '0' ++ Nat.toDigits 16 (171 : UInt32).toNat := by decide
  have hprints : PrintsNumber (171 : UInt32).toNat "0X00aB" := .hex (.inr rfl) hdigits
  exact ⟨(printed_reads_back.1 16384 "\t" "" htab hempty).1,
    (printed_reads_back.1 171 "" " \n" hempty hend).2 "0X00aB" hprints⟩

end FlashSeal

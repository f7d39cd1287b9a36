/-
FlashSeal.Proofs.QuantityLanguage — the language of numbers and sizes in map files, character by character.

The language is told without the readers' own tables: a digit by its place in a row of digits, a number
by the value that its digits have in their base, a unit by its letters.  So `Positional` is the numeral
that is read, `Suffixed` the multiple (`numeral_iff_positional`, `multiple_iff_suffixed`), and
`quantity_language` says which texts are numbers and sizes, which number each of them is, and what is
wrong with the others.

What is wrong with a size is decided late.  Only a text that is no number at all is looked at for a unit,
and only a numeral that a 32-bit word holds is multiplied, so a size is too large because of its unit and
never because of its digits (`readSize_eq_error_iff`).
-/
import Mathlib.Data.Nat.Digits.Defs
import FlashSeal.Proofs.QuantityReading

namespace FlashSeal

open Text

variable {cs text unit : List Char} {c : Char} {d n v factor radix : Nat} {s : String}

/-! ## Digits and their value -/

/-- The digits in small letters, each in the place of its value. -/
def smallDigits : List Char := "0123456789abcdef".toList

/-- The digits in capital letters, each in the place of its value. -/
def capitalDigits : List Char := "0123456789ABCDEF".toList

/-- The character is the digit `d` of the base. -/
def IsDigit (radix : Nat) (c : Char) (d : Nat) : Prop :=
  d < radix ∧ (smallDigits[d]? = some c ∨ capitalDigits[d]? = some c)

instance : Decidable (IsDigit radix c d) := inferInstanceAs (Decidable (_ ∧ _))

/-- An optional plus sign and one digit or more, which have the value `n` in the base. -/
inductive Positional (radix : Nat) : List Char → Nat → Prop
  | intro {sign digits : List Char} {ds : List Nat} (hsign : sign = [] ∨ sign = ['+'])
      (hne : digits ≠ []) (hdigits : List.Forall₂ (IsDigit radix) digits ds) :
      Positional radix (sign ++ digits) (Nat.ofDigits radix ds.reverse)

theorem getElem?_eq_some_iff_code {row : List Char} {code : Nat} (h : row[d]?.map Char.toNat = some code) :
    row[d]? = some c ↔ c.toNat = code := by
  rw [← (Option.map_injective fun _ _ => Char.toNat_inj.1).eq_iff, h, Option.map_some,
    Option.some.injEq, eq_comm]

theorem smallDigits_code :
    ∀ d < 16, smallDigits[d]?.map Char.toNat = some (if d < 10 then 48 + d else 87 + d) := by decide

theorem capitalDigits_code :
    ∀ d < 16, capitalDigits[d]?.map Char.toNat = some (if d < 10 then 48 + d else 55 + d) := by decide

/-- The two rows hold the digits that are read, up to base sixteen. -/
theorem digitValue?_eq_some_iff_isDigit (hradix : radix ≤ 16) :
    digitValue? radix c = some d ↔ IsDigit radix c d := by
  rw [digitValue?_eq_some_iff, IsDigit]
  refine and_congr_right fun hd => ?_
  have hlt : d < 16 := Nat.lt_of_lt_of_le hd hradix
  rw [getElem?_eq_some_iff_code (smallDigits_code d hlt),
    getElem?_eq_some_iff_code (capitalDigits_code d hlt)]
  split <;> omega

/-- Taking the digits from the left one by one gives their value in the base. -/
theorem foldl_digits (radix : Nat) (ds : List Nat) :
    ds.foldl (fun v d => v * radix + d) 0 = Nat.ofDigits radix ds.reverse := by
  rw [Nat.ofDigits_eq_foldr, List.foldr_reverse]
  simp [Nat.add_comm, Nat.mul_comm]

theorem spells_iff_forall₂ (hradix : radix ≤ 16) :
    Spells radix cs n ↔
      ∃ ds, List.Forall₂ (IsDigit radix) cs ds ∧ Nat.ofDigits radix ds.reverse = n := by
  have hdigit : (fun c d => digitValue? radix c = some d) = IsDigit radix := by
    funext c d
    exact propext (digitValue?_eq_some_iff_isDigit hradix)
  simp only [Spells, hdigit, foldl_digits]

theorem numeral_iff_positional (hradix : radix ≤ 16) :
    Numeral radix cs n ↔ Positional radix cs n := by
  constructor
  · intro h
    cases h with
    | plain hne h =>
      obtain ⟨ds, hds, rfl⟩ := (spells_iff_forall₂ hradix).1 h
      exact .intro (.inl rfl) hne hds
    | signed hne h =>
      obtain ⟨ds, hds, rfl⟩ := (spells_iff_forall₂ hradix).1 h
      exact .intro (.inr rfl) hne hds
  · intro h
    cases h with
    | @intro sign digits ds hsign hne hdigits =>
      have hspells : Spells radix digits (Nat.ofDigits radix ds.reverse) :=
        (spells_iff_forall₂ hradix).2 ⟨ds, hdigits, rfl⟩
      rcases hsign with rfl | rfl
      · exact .plain hne hspells
      · exact .signed hne hspells

/-! ## Numbers and multiples -/

/-- A number's text: 0x and digits in base sixteen, or digits in base ten, each perhaps behind a plus
sign. -/
inductive NumberForm : List Char → Nat → Prop
  | hex {x : Char} {numeral : List Char} {n : Nat} (hx : x = 'x' ∨ x = 'X')
      (h : Positional 16 numeral n) : NumberForm ('0' :: x :: numeral) n
  | decimal {numeral : List Char} {n : Nat} (h : Positional 10 numeral n) : NumberForm numeral n

/-- The units in small letters, each with its factor. -/
inductive UnitFactor : List Char → Nat → Prop
  | mib : UnitFactor ['m', 'i', 'b'] (2 ^ 20)
  | mb : UnitFactor ['m', 'b'] (2 ^ 20)
  | kib : UnitFactor ['k', 'i', 'b'] (2 ^ 10)
  | kb : UnitFactor ['k', 'b'] (2 ^ 10)
  | b : UnitFactor ['b'] 1

/-- The text of a number with a unit: digits in base ten of the value `v`, perhaps behind a plus sign,
then white space if any, and the unit. -/
inductive Suffixed : List Char → Nat → Nat → Prop
  | intro {numeral gap unit : List Char} {v factor : Nat} (hnumeral : Positional 10 numeral v)
      (hgap : AllBlank gap) (hunit : UnitFactor unit factor) :
      Suffixed (numeral ++ gap ++ unit) v factor

theorem writesNumber_iff_numberForm : WritesNumber cs n ↔ NumberForm cs n := by
  constructor
  · intro h
    cases h with
    | hex hx h => exact .hex hx ((numeral_iff_positional (Nat.le_refl 16)).1 h)
    | decimal h => exact .decimal ((numeral_iff_positional (by decide)).1 h)
  · intro h
    cases h with
    | hex hx h => exact .hex hx ((numeral_iff_positional (Nat.le_refl 16)).2 h)
    | decimal h => exact .decimal ((numeral_iff_positional (by decide)).2 h)

theorem mem_mapUnits_iff : (unit, factor) ∈ mapUnits ↔ UnitFactor unit factor := by
  constructor
  · intro h
    simp only [mapUnits, List.mem_cons, Prod.mk.injEq, List.not_mem_nil, or_false] at h
    rcases h with ⟨rfl, rfl⟩ | ⟨rfl, rfl⟩ | ⟨rfl, rfl⟩ | ⟨rfl, rfl⟩ | ⟨rfl, rfl⟩
    · exact .mib
    · exact .mb
    · exact .kib
    · exact .kb
    · exact .b
  · intro h
    cases h <;> decide

theorem multiple_iff_suffixed : Multiple mapUnits text v factor ↔ Suffixed text v factor := by
  constructor
  · intro h
    cases h with
    | intro hdigits hgap hunit =>
      exact .intro ((numeral_iff_positional (by decide)).1 hdigits) hgap (mem_mapUnits_iff.1 hunit)
  · intro h
    cases h with
    | intro hnumeral hgap hunit =>
      exact .intro ((numeral_iff_positional (by decide)).2 hnumeral) hgap (mem_mapUnits_iff.2 hunit)

/-! ## What is wrong with a size -/

/-- A multiple of a 32-bit number that is itself no 32-bit number is too large. -/
theorem readSize_of_large_multiple (hm : Multiple mapUnits (lowered (trimmed s.toList)) v factor)
    (hv : v < UInt32.size) (hlarge : UInt32.size ≤ v * factor) :
    readSize s = .error (.tooLarge (String.ofList (trimmed s.toList))) := by
  have hall : mapUnits.Sublist mapUnits := List.Sublist.refl mapUnits
  obtain ⟨front, hcut, hfront⟩ := (exists_cutUnit?_iff hall (first_lowered_trimmed s.toList)).2 hm
  have hread : readNumeral 10 UInt32.size front = .ok v :=
    (readNumeral_eq_ok_iff (by decide)).2 ⟨hfront, hv⟩
  simp only [readSize]
  cases hnumber : readNumber s with
  | ok m => exact absurd hm ((readNumber_eq_ok_iff.1 hnumber).not_multiple hall)
  | error cause => simp only [hcut, hread, if_neg (Nat.not_lt.2 hlarge)]

/-- A text that is neither a number nor a multiple of a 32-bit number has none of the forms of a size. -/
theorem readSize_of_no_form (hnumber : ∀ m, readNumber s ≠ .ok m)
    (hm : ∀ v factor, Multiple mapUnits (lowered (trimmed s.toList)) v factor → UInt32.size ≤ v) :
    readSize s = .error (.badSize (String.ofList (trimmed s.toList))) := by
  have hall : mapUnits.Sublist mapUnits := List.Sublist.refl mapUnits
  simp only [readSize]
  cases hread : readNumber s with
  | ok m => exact absurd hread (hnumber m)
  | error cause =>
    cases hcut : cutUnit? mapUnits (lowered (trimmed s.toList)) with
    | none => rfl
    | some found =>
      obtain ⟨front, factor⟩ := found
      cases hfront : readNumeral 10 UInt32.size front with
      | error fault => simp only [hfront]
      | ok v =>
        obtain ⟨hv, hlt⟩ := (readNumeral_eq_ok_iff (by decide)).1 hfront
        have hle := hm v factor ((multiple_iff_of_cutUnit? hall hcut).2 ⟨rfl, hv⟩)
        exact absurd hlt (Nat.not_lt.2 hle)

/-- A size is too large if it is a multiple of a 32-bit number and no 32-bit number itself.  Else a text
is no size if it is neither a number nor a multiple of a 32-bit number. -/
theorem readSize_eq_error_iff {e : SizeError} :
    readSize s = .error e ↔
      ((∃ v factor, Multiple mapUnits (lowered (trimmed s.toList)) v factor ∧ v < UInt32.size ∧
          UInt32.size ≤ v * factor) ∧
        e = .tooLarge (String.ofList (trimmed s.toList))) ∨
      ((∀ m, readNumber s ≠ .ok m) ∧
        (∀ v factor, Multiple mapUnits (lowered (trimmed s.toList)) v factor → UInt32.size ≤ v) ∧
        e = .badSize (String.ofList (trimmed s.toList))) := by
  constructor
  · intro h
    -- a text that reads as a size has no error, so the forms of a size are excluded one by one
    have hfail (m : UInt32) : readSize s ≠ .ok m := by simp [h]
    by_cases hlarge : ∃ v factor, Multiple mapUnits (lowered (trimmed s.toList)) v factor ∧
        v < UInt32.size ∧ UInt32.size ≤ v * factor
    · obtain ⟨v, factor, hm, hv, hprod⟩ := hlarge
      have hread := readSize_of_large_multiple hm hv hprod
      exact .inl ⟨⟨v, factor, hm, hv, hprod⟩, Except.error.inj (h.symm.trans hread)⟩
    · have hnumber (m : UInt32) : readNumber s ≠ .ok m := fun hread =>
        hfail m (readSize_eq_ok_iff.2 (.inl (readNumber_eq_ok_iff.1 hread)))
      have hmultiple (v factor : Nat)
          (hm : Multiple mapUnits (lowered (trimmed s.toList)) v factor) : UInt32.size ≤ v := by
        refine Nat.not_lt.1 fun hv => ?_
        have hprod : v * factor < UInt32.size :=
          Nat.not_le.1 fun hprod => hlarge ⟨v, factor, hm, hv, hprod⟩
        refine hfail (UInt32.ofNat (v * factor)) (readSize_eq_ok_iff.2 (.inr ⟨v, factor, hm, ?_⟩))
        rw [UInt32.toNat_ofNat_of_lt' hprod]
      have hread := readSize_of_no_form hnumber hmultiple
      exact .inr ⟨hnumber, hmultiple, Except.error.inj (h.symm.trans hread)⟩
  · rintro (⟨⟨v, factor, hm, hv, hprod⟩, rfl⟩ | ⟨hnumber, hmultiple, rfl⟩)
    · exact readSize_of_large_multiple hm hv hprod
    · exact readSize_of_no_form hnumber hmultiple

/-! ## The language -/

/-- A text is a number exactly if it has a number's form and 32 bits hold the value.  It is a size
exactly if it is a number, or if in small letters it is a 32-bit number with a unit and the product, as
it stands, is held by 32 bits.  A product that is not is reported as such, and every other text as no
size; both reports quote the text without the white space around it. -/
theorem quantity_language (s : String) :
    (∀ n : UInt32, readNumber s = .ok n ↔ NumberForm (trimmed s.toList) n.toNat) ∧
    (∀ n : UInt32, readSize s = .ok n ↔
      readNumber s = .ok n ∨
        ∃ v factor, Suffixed (lowered (trimmed s.toList)) v factor ∧ v < 2 ^ 32 ∧
          v * factor < 2 ^ 32 ∧ n.toNat = v * factor) ∧
    (∀ e, readSize s = .error e ↔
      ((∃ v factor, Suffixed (lowered (trimmed s.toList)) v factor ∧ v < 2 ^ 32 ∧
          2 ^ 32 ≤ v * factor) ∧
        e = .tooLarge (String.ofList (trimmed s.toList))) ∨
      ((¬ ∃ n : UInt32, NumberForm (trimmed s.toList) n.toNat) ∧
        (¬ ∃ v factor, Suffixed (lowered (trimmed s.toList)) v factor ∧ v < 2 ^ 32) ∧
        e = .badSize (String.ofList (trimmed s.toList)))) ∧
    (∀ text, (SizeError.tooLarge text).message = "size too large: " ++ text ∧
      (SizeError.badSize text).message = "invalid size: " ++ text) := by
  have hnumber (n : UInt32) : readNumber s = .ok n ↔ NumberForm (trimmed s.toList) n.toNat := by
    rw [readNumber_eq_ok_iff, writesNumber_iff_numberForm]
  have hsize : UInt32.size = 2 ^ 32 := by decide
  refine ⟨hnumber, ?_, ?_, fun text => ⟨rfl, rfl⟩⟩
  · intro n
    have hn : n.toNat < UInt32.size := n.toNat_lt_size
    rw [readSize_eq_ok_iff, ← readNumber_eq_ok_iff, ← hsize]
    refine or_congr_right (exists_congr fun v => exists_congr fun factor => ?_)
    rw [← multiple_iff_suffixed]
    constructor
    · rintro ⟨hm, heq⟩
      have hle : v ≤ v * factor := hm.le_mul (List.Sublist.refl mapUnits)
      exact ⟨hm, by omega, by omega, heq.symm⟩
    · rintro ⟨hm, -, -, heq⟩
      exact ⟨hm, heq.symm⟩
  · intro e
    simp only [readSize_eq_error_iff, multiple_iff_suffixed, ← hsize, ← hnumber, not_exists, not_and,
      Nat.not_lt, ne_eq]

/-- In small letters the Kelvin sign is a k.  A product of 2^32 is too large, but a numeral of 2^32 is no
32-bit number in front of a unit to begin with. -/
theorem quantity_language_edges :
    readSize "\t+12 \u212AB" = .ok 12288 ∧
    readSize " 4096 MiB" = .error (.tooLarge "4096 MiB") ∧
    (readSize "4294967296 b" = .error (.badSize "4294967296 b") ∧
      ¬ ∃ v factor, Suffixed (lowered (trimmed "4294967296 b".toList)) v factor ∧ v < 2 ^ 32) := by
  have hblank : AllBlank [' '] := by simp [AllBlank, isBlank]
  have htwelve : Suffixed (['+', '1', '2'] ++ [' '] ++ ['k', 'b']) 12 (2 ^ 10) :=
    .intro (@Positional.intro 10 ['+'] ['1', '2'] [1, 2] (.inr rfl) (by decide) (by decide))
      hblank .kb
  have hlarge : Suffixed (['4', '0', '9', '6'] ++ [' '] ++ ['m', 'i', 'b']) 4096 (2 ^ 20) :=
    .intro (@Positional.intro 10 [] ['4', '0', '9', '6'] [4, 0, 9, 6] (.inl rfl) (by decide)
      (by decide)) hblank .mib
  have hbad : readSize "4294967296 b" = .error (.badSize "4294967296 b") := by decide +kernel
  refine ⟨?_, ?_, hbad, ?_⟩
  · exact ((quantity_language _).2.1 12288).2
      (.inr ⟨12, 2 ^ 10, htwelve, by decide, by decide, rfl⟩)
  · exact ((quantity_language _).2.2.1 _).2
      (.inl ⟨⟨4096, 2 ^ 20, hlarge, by decide, by decide⟩, rfl⟩)
  · rcases ((quantity_language _).2.2.1 _).1 hbad with ⟨-, ⟨⟩⟩ | ⟨-, hnone, -⟩
    exact hnone

end FlashSeal

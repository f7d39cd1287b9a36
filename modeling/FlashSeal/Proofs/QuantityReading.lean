/-
FlashSeal.Proofs.QuantityReading — which texts are numbers and sizes.

A number stands alone (`WritesNumber`), a multiple is a decimal numeral with a unit behind it
(`Multiple`).  Each reader accepts a union of these with a bound on the value (`readNumber_eq_ok_iff`,
`readSize_eq_ok_iff`, `readPadSize_eq_ok_iff`), though one kind of sizes is tried as a plain number first
and the other one decides by 0x.

What makes the order of their branches immaterial is about letters.  Every unit has a b, so a multiple
is never a decimal numeral; no unit has an x, so it is never a number behind 0x either.  The units are
looked for one after the other, and the first that fits is the one that was written: what stands before
a unit ends with a digit or with white space, so a longer unit does not end the text unless it ends the
unit itself, and no unit is the ending of a later one.
-/
import FlashSeal.Proofs.Numerals
import FlashSeal.Proofs.Outcome
import FlashSeal.Quantity

namespace FlashSeal

open Text

variable {units : List (List Char × Nat)} {unit cs text body front : List Char}
  {factor v n : Nat} {c : Char} {s : String}

/-! ## Units -/

/-- The text before an ending is what the ending was appended to. -/
theorem dropEnding?_eq_some_iff {ending : List Char} :
    dropEnding? ending cs = some front ↔ cs = front ++ ending := by
  unfold dropEnding?
  split
  · next h =>
    obtain ⟨before, rfl⟩ := List.isSuffixOf_iff_suffix.1 h
    simp [eq_comm]
  · next h =>
    have hnot : cs ≠ front ++ ending := by
      intro heq
      exact h (List.isSuffixOf_iff_suffix.2 ⟨front, heq.symm⟩)
    simp [hnot]

theorem factor_pos_of_mem : ∀ p ∈ mapUnits, 0 < p.2 := by decide

/-- The letters of units are small ones, and none of them is an x. -/
theorem letter_of_mem : ∀ p ∈ mapUnits, ∀ c ∈ p.1, 97 ≤ c.toNat ∧ c.toNat < 120 := by
  simp [mapUnits]

theorem b_suffix_of_mem : ∀ p ∈ mapUnits, ['b'] <:+ p.1 := by decide

theorem b_mem_of_mem (p : List Char × Nat) (h : p ∈ mapUnits) : 'b' ∈ p.1 :=
  (b_suffix_of_mem p h).mem (List.mem_singleton_self 'b')

/-- No unit is the ending of one that is looked for after it. -/
theorem pairwise_mapUnits : mapUnits.Pairwise fun p q => ¬ p.1 <:+ q.1 := by decide

theorem padUnits_sublist : padUnits.Sublist mapUnits := by decide

/-- An ending that shares no letter with the front of a text ends the text's rest. -/
theorem suffix_of_suffix_append (hbody : ∀ c ∈ unit, c ∉ body) (h : unit <:+ body ++ text) :
    unit <:+ text := by
  rcases List.suffix_or_suffix_of_suffix h (List.suffix_append body text) with h | ⟨more, rfl⟩
  · exact h
  · rw [List.suffix_append_self_iff] at h
    cases more with
    | nil => exact List.suffix_rfl
    | cons c more =>
      have hc : c ∈ body := h.mem List.mem_cons_self
      exact absurd hc (hbody c (by simp))

/-- What may stand before a unit: a sign, decimal digits and white space, but no letter. -/
def LetterFree (body : List Char) : Prop := ∀ c ∈ body, ¬ (97 ≤ c.toNat ∧ c.toNat < 120)

/-- Behind a text without letters the unit that was written is the unit that is found. -/
theorem cutUnit?_append (hunits : units.Sublist mapUnits) (hbody : LetterFree body)
    (h : (unit, factor) ∈ units) :
    cutUnit? units (body ++ unit) = some (trimmed body, factor) := by
  induction units with
  | nil => cases h
  | cons p units ih =>
    obtain ⟨ending, size⟩ := p
    have hletters := letter_of_mem (ending, size) (hunits.mem List.mem_cons_self)
    have hshares : ∀ c ∈ ending, c ∉ body := fun c hc hin => hbody c hin (hletters c hc)
    rw [cutUnit?, List.findSome?_cons]
    rcases List.mem_cons.1 h with h | h
    · obtain ⟨rfl, rfl⟩ := Prod.mk.inj h
      simp [dropEnding?_eq_some_iff.2 rfl]
    · have hfirst : ¬ ending <:+ unit :=
        (List.pairwise_cons.1 (pairwise_mapUnits.sublist hunits)).1 (unit, factor) h
      have hother : dropEnding? ending (body ++ unit) = none := by
        refine Option.eq_none_iff_forall_ne_some.2 fun front hcut => hfirst ?_
        exact suffix_of_suffix_append hshares ⟨front, (dropEnding?_eq_some_iff.1 hcut).symm⟩
      simp only [hother, Option.map_none]
      exact ih (List.sublist_of_cons_sublist hunits) h

/-- What is found is what stands before a unit at the end, without white space around it. -/
theorem exists_of_cutUnit? (h : cutUnit? units cs = some (front, factor)) :
    ∃ raw unit, (unit, factor) ∈ units ∧ cs = raw ++ unit ∧ front = trimmed raw := by
  obtain ⟨⟨unit, k⟩, hunit, hcut⟩ := List.exists_of_findSome?_eq_some h
  obtain ⟨raw, hraw, hfound⟩ := Option.map_eq_some_iff.1 hcut
  obtain ⟨rfl, rfl⟩ := Prod.mk.inj hfound
  exact ⟨raw, unit, hunit, dropEnding?_eq_some_iff.1 hraw, rfl⟩

/-- A decimal numeral of `v`, white space, and a unit of `factor`. -/
inductive Multiple (units : List (List Char × Nat)) : List Char → Nat → Nat → Prop
  | intro {digits gap unit : List Char} {v factor : Nat} (hdigits : Numeral 10 digits v)
      (hgap : AllBlank gap) (hunit : (unit, factor) ∈ units) :
      Multiple units (digits ++ gap ++ unit) v factor

theorem not_letter_of_isBlank (h : isBlank c = true) : ¬ (97 ≤ c.toNat ∧ c.toNat < 120) := by
  simp only [isBlank] at h
  grind

theorem letterFree_append {digits gap : List Char} (hdigits : Numeral 10 digits v)
    (hgap : AllBlank gap) : LetterFree (digits ++ gap) := by
  intro c hc
  rcases List.mem_append.1 hc with hc | hc
  · have hcode := hdigits.lt_of_decimal hc
    omega
  · exact not_letter_of_isBlank (hgap c hc)

/-- Looking for a unit finds one behind a numeral in the multiples alone. -/
theorem exists_cutUnit?_iff (hunits : units.Sublist mapUnits)
    (htext : ∀ c ∈ text.head?, isBlank c = false) :
    (∃ front, cutUnit? units text = some (front, factor) ∧ Numeral 10 front v) ↔
      Multiple units text v factor := by
  constructor
  · intro ⟨front, hcut, hnumeral⟩
    obtain ⟨raw, unit, hunit, rfl, rfl⟩ := exists_of_cutUnit? hcut
    obtain ⟨-, lead, gap, hlead, hgap, heq⟩ := exists_trimmed raw
    cases lead with
    | nil =>
      rw [heq]
      exact .intro hnumeral hgap hunit
    | cons c lead =>
      have hblank : isBlank c = true := hlead c List.mem_cons_self
      rw [heq] at htext
      simp [hblank] at htext
  · intro h
    cases h with
    | @intro digits gap unit v factor hdigits hgap hunit =>
      have htight : Tight digits := .of_forall fun c hc => hdigits.isBlank_eq_false hc
      have htrim : trimmed (digits ++ gap) = digits :=
        trimmed_eq_iff.2 ⟨htight, [], gap, by simp [AllBlank], hgap, by simp⟩
      refine ⟨digits, ?_, hdigits⟩
      rw [cutUnit?_append hunits (letterFree_append hdigits hgap) hunit, htrim]

section Multiple

variable (hunits : units.Sublist mapUnits) (h : Multiple units text v factor)

include h hunits

theorem Multiple.factor_pos : 0 < factor := by
  cases h with
  | intro _ _ hunit => exact factor_pos_of_mem _ (hunits.mem hunit)

theorem Multiple.le_mul : v ≤ v * factor := Nat.le_mul_of_pos_right v (h.factor_pos hunits)

theorem Multiple.not_numeral : ¬ Numeral 10 text n := by
  intro hnumeral
  cases h with
  | @intro digits gap unit v factor _ _ hunit =>
    have hb : 'b' ∈ unit := b_mem_of_mem _ (hunits.mem hunit)
    exact absurd (hnumeral.lt_of_decimal (List.mem_append_right _ hb)) (by decide)

theorem Multiple.x_not_mem : 'x' ∉ text := by
  intro hx
  cases h with
  | @intro digits gap unit v factor hdigits hgap hunit =>
    rcases List.mem_append.1 hx with hx | hx
    · rcases List.mem_append.1 hx with hx | hx
      · exact absurd (hdigits.lt_of_decimal hx) (by decide)
      · exact absurd (hgap 'x' hx) (by decide)
    · exact absurd (letter_of_mem _ (hunits.mem hunit) 'x' hx) (by decide)

end Multiple

/-! ## Numbers -/

/-- A number: a numeral in base sixteen behind 0x, or one in base ten. -/
inductive WritesNumber : List Char → Nat → Prop
  | hex {x : Char} {digits : List Char} {n : Nat} (hx : x = 'x' ∨ x = 'X') (h : Numeral 16 digits n) :
      WritesNumber ('0' :: x :: digits) n
  | decimal {cs : List Char} {n : Nat} (h : Numeral 10 cs n) : WritesNumber cs n

theorem hexPart?_eq_some_iff {digits : List Char} :
    hexPart? cs = some digits ↔ ∃ x, (x = 'x' ∨ x = 'X') ∧ cs = '0' :: x :: digits := by
  unfold hexPart?
  split <;> grind

theorem not_numeral_hex {x : Char} {digits : List Char} (hx : x = 'x' ∨ x = 'X') :
    ¬ Numeral 10 ('0' :: x :: digits) n := by
  intro h
  have hcode := h.lt_of_decimal (List.mem_cons_of_mem '0' List.mem_cons_self)
  rcases hx with rfl | rfl <;> exact absurd hcode (by decide)

theorem writesNumber_of_hexPart? {digits : List Char} (h : hexPart? cs = some digits) :
    WritesNumber cs n ↔ Numeral 16 digits n := by
  obtain ⟨x, hx, rfl⟩ := hexPart?_eq_some_iff.1 h
  constructor
  · intro hw
    cases hw with
    | hex _ hdigits => exact hdigits
    | decimal hcs => exact absurd hcs (not_numeral_hex hx)
  · exact .hex hx

theorem writesNumber_of_no_hexPart? (h : hexPart? cs = none) :
    WritesNumber cs n ↔ Numeral 10 cs n := by
  constructor
  · intro hw
    cases hw with
    | @hex x digits n hx _ =>
      rw [hexPart?_eq_some_iff.2 ⟨x, hx, rfl⟩] at h
      cases h
    | decimal hcs => exact hcs
  · exact .decimal

theorem not_multiple_of_hexPart? {digits : List Char} (hunits : units.Sublist mapUnits)
    (h : hexPart? cs = some digits) : ¬ Multiple units (lowered cs) v factor := by
  obtain ⟨x, hx, rfl⟩ := hexPart?_eq_some_iff.1 h
  have hin : 'x' ∈ lowered ('0' :: x :: digits) := by
    rcases hx with rfl | rfl <;> simp [lowered_cons, loweredChar]
  exact fun hm => hm.x_not_mem hunits hin

/-- A multiple in small letters never was a number. -/
theorem WritesNumber.not_multiple (h : WritesNumber cs n) (hunits : units.Sublist mapUnits) :
    ¬ Multiple units (lowered cs) v factor := by
  cases h with
  | hex hx _ => exact not_multiple_of_hexPart? hunits (hexPart?_eq_some_iff.2 ⟨_, hx, rfl⟩)
  | decimal hcs => exact fun hm => hm.not_numeral hunits (numeral_lowered_iff.2 hcs)

/-! ## Readers -/

theorem ofNat_eq_iff {m : UInt32} (h : n < UInt32.size) : UInt32.ofNat n = m ↔ n = m.toNat := by
  rw [← UInt32.toNat_inj, UInt32.toNat_ofNat_of_lt' h]

/-- A numeral read below 2^32, as a 32-bit number. -/
theorem ofNat_readNumeral_eq_ok_iff {ε : Type} {fault : NumeralError → ε} {radix : Nat} {m : UInt32} :
    (match readNumeral radix UInt32.size cs with
      | .ok n => Except.ok (UInt32.ofNat n)
      | .error cause => .error (fault cause)) = .ok m ↔ Numeral radix cs m.toNat := by
  have hm : readNumeral radix UInt32.size cs = .ok m.toNat ↔ Numeral radix cs m.toNat := by
    rw [readNumeral_eq_ok_iff (by decide), and_iff_left m.toNat_lt_size]
  rw [← hm]
  cases hread : readNumeral radix UInt32.size cs with
  | ok n =>
    have hlt := ((readNumeral_eq_ok_iff (by decide)).1 hread).2
    simp [ofNat_eq_iff hlt]
  | error cause => simp

/-- A 32-bit number is read from the texts that write it. -/
theorem readNumber_eq_ok_iff {m : UInt32} :
    readNumber s = .ok m ↔ WritesNumber (trimmed s.toList) m.toNat := by
  simp only [readNumber]
  split
  · next digits hhex =>
    rw [writesNumber_of_hexPart? hhex]
    exact ofNat_readNumeral_eq_ok_iff
  · next hhex =>
    rw [writesNumber_of_no_hexPart? hhex]
    exact ofNat_readNumeral_eq_ok_iff

theorem first_lowered_trimmed (cs : List Char) :
    ∀ c ∈ (lowered (trimmed cs)).head?, isBlank c = false :=
  first_lowered (exists_trimmed cs).1.first

theorem multiple_iff_of_cutUnit? (hunits : units.Sublist mapUnits) {k : Nat}
    (h : cutUnit? units (lowered (trimmed cs)) = some (front, factor)) :
    Multiple units (lowered (trimmed cs)) v k ↔ k = factor ∧ Numeral 10 front v := by
  rw [← exists_cutUnit?_iff hunits (first_lowered_trimmed cs), h]
  simp [eq_comm, and_assoc]

theorem not_multiple_of_no_unit (hunits : units.Sublist mapUnits) {k : Nat}
    (h : cutUnit? units (lowered (trimmed cs)) = none) :
    ¬ Multiple units (lowered (trimmed cs)) v k := by
  rw [← exists_cutUnit?_iff hunits (first_lowered_trimmed cs), h]
  simp

/-- Once a unit is found, a multiple below the bound is read from what stands before the unit. -/
theorem exists_multiple_iff_of_cutUnit? {bound : Nat} (hunits : units.Sublist mapUnits)
    (h : cutUnit? units (lowered (trimmed cs)) = some (front, factor)) (hn : n < bound) :
    (∃ v k, Multiple units (lowered (trimmed cs)) v k ∧ v * k = n) ↔
      ∃ v, readNumeral 10 bound front = .ok v ∧ v * factor = n := by
  have hbound : 0 < bound := Nat.zero_lt_of_lt hn
  constructor
  · intro ⟨v, k, hm, heq⟩
    have hle : v ≤ v * k := hm.le_mul hunits
    obtain ⟨rfl, hv⟩ := (multiple_iff_of_cutUnit? hunits h).1 hm
    exact ⟨v, (readNumeral_eq_ok_iff hbound).2 ⟨hv, by omega⟩, heq⟩
  · intro ⟨v, hread, heq⟩
    have hv := ((readNumeral_eq_ok_iff hbound).1 hread).1
    exact ⟨v, factor, (multiple_iff_of_cutUnit? hunits h).2 ⟨rfl, hv⟩, heq⟩

/-- A 32-bit size is read from the texts that write a number, and from those that are a multiple in small
letters. -/
theorem readSize_eq_ok_iff {m : UInt32} :
    readSize s = .ok m ↔ WritesNumber (trimmed s.toList) m.toNat ∨
      ∃ v factor, Multiple mapUnits (lowered (trimmed s.toList)) v factor ∧ v * factor = m.toNat := by
  have hall : mapUnits.Sublist mapUnits := List.Sublist.refl mapUnits
  have hm : m.toNat < UInt32.size := m.toNat_lt_size
  simp only [readSize, ← readNumber_eq_ok_iff]
  cases hnumber : readNumber s with
  | ok m' =>
    have hplain (v factor : Nat) : ¬ Multiple mapUnits (lowered (trimmed s.toList)) v factor :=
      (readNumber_eq_ok_iff.1 hnumber).not_multiple hall
    simp [hplain]
  | error cause =>
    simp only [reduceCtorEq, false_or]
    split
    · next hcut => simp [not_multiple_of_no_unit hall hcut]
    · next front factor hcut =>
      rw [exists_multiple_iff_of_cutUnit? hall hcut hm]
      split
      · next hread => simp [hread]
      · next n hread =>
        simp only [hread, Except.ok.injEq, exists_eq_left']
        split
        · next hlt => rw [Except.ok.injEq, ofNat_eq_iff hlt]
        · next hlarge => simp; omega

/-- A numeral read and multiplied below a bound. -/
theorem mul_readNumeral_eq_ok_iff {ε : Type} {fault : NumeralError → ε} {large : ε} {bound : Nat} :
    (match readNumeral 10 bound front with
      | .error cause => Except.error (fault cause)
      | .ok n => if n * factor < bound then .ok (n * factor) else .error large) = .ok n ↔
      n < bound ∧ ∃ v, readNumeral 10 bound front = .ok v ∧ v * factor = n := by
  split
  · next hread => simp [hread]
  · next v hread =>
    simp only [hread, Except.ok.injEq, exists_eq_left']
    split <;> simp <;> omega

/-- A padded size is read from the texts that write a number, and from those that are a multiple of one of
its own units in small letters, as long as 64 bits hold it. -/
theorem readPadSize_eq_ok_iff :
    readPadSize s = .ok n ↔ n < UInt64.size ∧ (WritesNumber (trimmed s.toList) n ∨
      ∃ v factor, Multiple padUnits (lowered (trimmed s.toList)) v factor ∧ v * factor = n) := by
  have hsize : 0 < UInt64.size := by decide
  simp only [readPadSize]
  split
  · next digits hhex =>
    rw [Except.mapError_eq_ok_iff, readNumeral_eq_ok_iff hsize, writesNumber_of_hexPart? hhex]
    simp [not_multiple_of_hexPart? padUnits_sublist hhex, and_comm]
  · next hhex =>
    rw [writesNumber_of_no_hexPart? hhex]
    refine Iff.trans mul_readNumeral_eq_ok_iff (and_congr_right fun hn => ?_)
    cases hcut : cutUnit? padUnits (lowered (trimmed s.toList)) with
    | none =>
      have hnone (v factor : Nat) : ¬ Multiple padUnits (lowered (trimmed s.toList)) v factor :=
        not_multiple_of_no_unit padUnits_sublist hcut
      simp [hnone, readNumeral_eq_ok_iff hsize, numeral_lowered_iff, hn]
    | some p =>
      obtain ⟨front, factor⟩ := p
      have hnot : ¬ Numeral 10 (trimmed s.toList) n := by
        obtain ⟨raw, unit, hunit, htext, -⟩ := exists_of_cutUnit? hcut
        intro h
        rw [← numeral_lowered_iff, htext] at h
        have hb := b_mem_of_mem _ (padUnits_sublist.mem hunit)
        exact absurd (h.lt_of_decimal (List.mem_append_right raw hb)) (by decide)
      simp only [Option.getD_some, hnot, false_or]
      exact (exists_multiple_iff_of_cutUnit? padUnits_sublist hcut hn).symm

end FlashSeal

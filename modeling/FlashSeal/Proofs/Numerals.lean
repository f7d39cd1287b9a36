/-
FlashSeal.Proofs.Numerals — which texts are numerals, and which numbers they are.

Reading goes from the left and stops as soon as the value reaches the bound.  What it accepts can be said
without the bound and without an order: the characters are digits, and their value is below the bound
(`readNumeral_eq_ok_iff`).  The value never falls while digits are read, so stopping early loses nothing.

A digit is known by its code (`digitValue?_eq_some_iff`), and from the code follows what a numeral cannot
hold: no white space, and in base ten no letter.  So trimming takes nothing of a numeral away, and small
letters make no decimal numeral that was none before (`numeral_lowered_iff`).
-/
import Mathlib.Data.List.Forall2
import FlashSeal.Proofs.Trimming
import FlashSeal.Text.Numeral

namespace FlashSeal.Text

variable {radix bound value n d : Nat} {c : Char} {cs : List Char}

/-! ## Digits -/

/-- The code of a digit is that of its value among the decimal digits, the small letters or the capital
letters. -/
theorem digitValue?_eq_some_iff :
    digitValue? radix c = some d ↔
      d < radix ∧ ((c.toNat = 48 + d ∧ d < 10) ∨ (c.toNat = 87 + d ∧ 10 ≤ d ∧ d < 36) ∨
        (c.toNat = 55 + d ∧ 10 ≤ d ∧ d < 36)) := by
  have hle (a b : Char) : a ≤ b ↔ a.toNat ≤ b.toNat := Iff.rfl
  simp only [digitValue?, hle, Option.filter_eq_some_iff, decide_eq_true_eq, Char.reduceToNat]
  split_ifs <;> simp <;> omega

theorem digitValue?_digitChar :
    ∀ radix ≤ 16, ∀ d < radix, digitValue? radix (Nat.digitChar d) = some d := by decide

theorem digitValue?_zero (h : 0 < radix) : digitValue? radix '0' = some 0 :=
  digitValue?_eq_some_iff.2 ⟨h, .inl ⟨rfl, by decide⟩⟩

/-- A letter is the same digit in either case. -/
theorem digitValue?_toLower (radix : Nat) (c : Char) :
    digitValue? radix c.toLower = digitValue? radix c := by
  ext d
  simp only [digitValue?_eq_some_iff, toNat_toLower]
  split <;> omega

theorem isBlank_of_digitValue? (h : digitValue? radix c = some d) : isBlank c = false := by
  have hcode := (digitValue?_eq_some_iff.1 h).2
  simp only [isBlank, Bool.or_eq_false_iff, Bool.and_eq_false_iff, decide_eq_false_iff_not,
    beq_eq_false_iff_ne]
  omega

/-! ## Numbers from digits -/

/-- The characters are digits, and from the left they make this number. -/
def Spells (radix : Nat) (cs : List Char) (n : Nat) : Prop :=
  ∃ ds, List.Forall₂ (fun c d => digitValue? radix c = some d) cs ds ∧
    ds.foldl (fun v d => v * radix + d) 0 = n

theorem Spells.snoc (h : Spells radix cs n) (hc : digitValue? radix c = some d) :
    Spells radix (cs ++ [c]) (n * radix + d) := by
  obtain ⟨ds, hds, rfl⟩ := h
  exact ⟨ds ++ [d], List.rel_append hds (.cons hc .nil), by simp⟩

theorem Spells.zeros (h : Spells radix cs n) (hradix : 0 < radix) (k : Nat) :
    Spells radix (List.replicate k '0' ++ cs) n := by
  induction k with
  | zero => exact h
  | succ k ih =>
    obtain ⟨ds, hds, hn⟩ := ih
    exact ⟨0 :: ds, .cons (digitValue?_zero hradix) hds, by simpa using hn⟩

theorem spells_map_toLower_iff : Spells radix (cs.map Char.toLower) n ↔ Spells radix cs n := by
  simp only [Spells, List.forall₂_map_left_iff, digitValue?_toLower]

/-- The digits that a number is written with spell it. -/
theorem spells_toDigits (hradix : 1 < radix) (hmax : radix ≤ 16) (n : Nat) :
    Spells radix (Nat.toDigits radix n) n := by
  have hempty : Spells radix [] 0 := ⟨[], .nil, rfl⟩
  induction n using Nat.strongRecOn with
  | ind n ih =>
    by_cases hlt : n < radix
    · rw [Nat.toDigits_of_lt_base hlt]
      simpa using hempty.snoc (digitValue?_digitChar radix hmax n hlt)
    · have hle := Nat.not_lt.1 hlt
      have hmod := Nat.mod_lt n (Nat.lt_trans Nat.zero_lt_one hradix)
      have hfront := ih (n / radix) (Nat.div_lt_self (by omega) hradix)
      rw [Nat.toDigits_of_base_le hradix hle]
      simpa [Nat.div_add_mod'] using hfront.snoc (digitValue?_digitChar radix hmax _ hmod)

theorem Spells.exists_digitValue? (h : Spells radix cs n) (hc : c ∈ cs) :
    ∃ d, digitValue? radix c = some d := by
  obtain ⟨ds, hds, -⟩ := h
  induction hds with
  | nil => cases hc
  | cons hfirst _ ih =>
    rcases List.mem_cons.1 hc with rfl | hc
    · exact ⟨_, hfirst⟩
    · exact ih hc

/-! ## Reading -/

theorem le_foldl_digits (hradix : 0 < radix) (value : Nat) (ds : List Nat) :
    value ≤ ds.foldl (fun v d => v * radix + d) value := by
  induction ds generalizing value with
  | nil => exact Nat.le_refl value
  | cons d ds ih =>
    have hstep := Nat.le_mul_of_pos_right value hradix
    exact Nat.le_trans (by omega) (ih (value * radix + d))

/-- Reading accepts digits whose value stays below the bound to the end. -/
theorem readDigits_eq_ok_iff (hvalue : value < bound) :
    readDigits radix bound value cs = .ok n ↔
      (∃ ds, List.Forall₂ (fun c d => digitValue? radix c = some d) cs ds ∧
        ds.foldl (fun v d => v * radix + d) value = n) ∧ n < bound := by
  induction cs generalizing value with
  | nil =>
    simp only [readDigits, Except.ok.injEq, List.forall₂_nil_left_iff, exists_eq_left,
      List.foldl_nil]
    omega
  | cons c cs ih =>
    simp only [readDigits, List.forall₂_cons_left_iff]
    cases hc : digitValue? radix c with
    | none => simp
    | some d =>
      have hradix : 0 < radix := Nat.zero_lt_of_lt (digitValue?_eq_some_iff.1 hc).1
      simp only [Option.some.injEq]
      split
      · next hstep =>
        rw [ih hstep]
        grind
      · next hstep =>
        have hlong (ds : List Nat) := le_foldl_digits hradix (value * radix + d) ds
        grind

/-- A numeral: an optional plus sign, and one digit or more that spell the number. -/
inductive Numeral (radix : Nat) : List Char → Nat → Prop
  | plain {cs : List Char} {n : Nat} (hne : cs ≠ []) (h : Spells radix cs n) : Numeral radix cs n
  | signed {cs : List Char} {n : Nat} (hne : cs ≠ []) (h : Spells radix cs n) :
    Numeral radix ('+' :: cs) n

theorem digitValue?_plus (radix : Nat) : digitValue? radix '+' = none := by
  refine Option.eq_none_iff_forall_ne_some.2 fun d hd => ?_
  have hcode := (digitValue?_eq_some_iff.1 hd).2
  have hplus : '+'.toNat = 43 := rfl
  omega

theorem not_spells_plus : ¬ Spells radix ('+' :: cs) n := by
  intro h
  obtain ⟨d, hd⟩ := h.exists_digitValue? List.mem_cons_self
  rw [digitValue?_plus] at hd
  cases hd

theorem numeral_plus_iff : Numeral radix ('+' :: cs) n ↔ cs ≠ [] ∧ Spells radix cs n := by
  constructor
  · intro h
    cases h with
    | plain _ h => exact absurd h not_spells_plus
    | signed hne h => exact ⟨hne, h⟩
  · intro ⟨hne, h⟩
    exact .signed hne h

theorem numeral_cons_iff (hc : c ≠ '+') : Numeral radix (c :: cs) n ↔ Spells radix (c :: cs) n := by
  constructor
  · intro h
    cases h with
    | plain _ h => exact h
    | signed => exact absurd rfl hc
  · exact .plain (List.cons_ne_nil c cs)

/-- Reading accepts exactly the numerals of numbers below the bound. -/
theorem readNumeral_eq_ok_iff (hbound : 0 < bound) :
    readNumeral radix bound cs = .ok n ↔ Numeral radix cs n ∧ n < bound := by
  cases cs with
  | nil =>
    have hnone : ¬ Numeral radix [] n := by
      intro h
      cases h with
      | plain hne => exact hne rfl
    simp [readNumeral, hnone]
  | cons c cs =>
    by_cases hc : c = '+'
    · subst hc
      rw [numeral_plus_iff]
      cases cs with
      | nil => simp [readNumeral]
      | cons c cs => simp [readNumeral, readDigits_eq_ok_iff hbound, Spells]
    · rw [numeral_cons_iff hc, Spells, ← readDigits_eq_ok_iff hbound]
      unfold readNumeral
      split <;> simp_all

/-! ## What a numeral holds -/

theorem Numeral.ne_nil (h : Numeral radix cs n) : cs ≠ [] := by
  cases h with
  | plain hne => exact hne
  | signed => exact List.cons_ne_nil _ _

theorem Numeral.plus_or_digit (h : Numeral radix cs n) (hc : c ∈ cs) :
    c = '+' ∨ ∃ d, digitValue? radix c = some d := by
  cases h with
  | plain _ h => exact .inr (h.exists_digitValue? hc)
  | signed _ h => exact (List.mem_cons.1 hc).imp_right h.exists_digitValue?

theorem Numeral.isBlank_eq_false (h : Numeral radix cs n) (hc : c ∈ cs) : isBlank c = false := by
  rcases h.plus_or_digit hc with rfl | ⟨d, hd⟩
  · rfl
  · exact isBlank_of_digitValue? hd

/-- In base ten there are no letters in a numeral. -/
theorem Numeral.lt_of_decimal (h : Numeral 10 cs n) (hc : c ∈ cs) : c.toNat < 65 := by
  rcases h.plus_or_digit hc with rfl | ⟨d, hd⟩
  · decide
  · have hcode := digitValue?_eq_some_iff.1 hd
    omega

/-- Small letters make no decimal numeral out of another text, and leave every one as it is. -/
theorem numeral_lowered_iff : Numeral 10 (lowered cs) n ↔ Numeral 10 cs n := by
  constructor
  · intro h
    have hcodes := forall_lt_of_lowered fun d hd => h.lt_of_decimal hd
    rwa [lowered_eq_self hcodes] at h
  · intro h
    rwa [lowered_eq_self fun c hc => h.lt_of_decimal hc]

end FlashSeal.Text

/-
FlashSeal.Proofs.Trimming — what trimming leaves of a text, and what small letters make of it.

A trimmed text is known by its place alone: it has no white space at its ends, and nothing but white
space stands around it (`trimmed_eq_iff`).

Small letters leave the characters below the capitals as they are, and make none of them out of others
(`lowered_eq_self`, `forall_lt_of_lowered`).  So a text that holds signs and decimal digits alone in
small letters held nothing else before.
-/
import Mathlib.Data.List.TakeWhile
import FlashSeal.Text.Blank

namespace FlashSeal.Text

variable {c : Char} {cs front back : List Char}

/-- The text is white space all through, as it may stand around another one. -/
def AllBlank (cs : List Char) : Prop := ∀ c ∈ cs, isBlank c = true

/-- The text neither begins nor ends with white space. -/
structure Tight (cs : List Char) : Prop where
  first : ∀ c ∈ cs.head?, isBlank c = false
  last : ∀ c ∈ cs.getLast?, isBlank c = false

theorem Tight.of_forall (h : ∀ c ∈ cs, isBlank c = false) : Tight cs where
  first c hc := h c (List.mem_of_head? hc)
  last c hc := h c (List.mem_of_getLast? hc)

/-! ## Trimming -/

theorem dropWhile_isBlank_append (hfront : AllBlank front)
    (hcs : ∀ c ∈ cs.head?, isBlank c = false) : (front ++ cs).dropWhile isBlank = cs := by
  rw [List.dropWhile_append_of_pos hfront]
  cases cs with
  | nil => rfl
  | cons c cs => exact List.dropWhile_cons_of_neg (by simp [hcs c rfl])

/-- A text falls into white space and a rest that does not begin with any. -/
theorem exists_dropWhile_isBlank (cs : List Char) :
    ∃ front, AllBlank front ∧ cs = front ++ cs.dropWhile isBlank ∧
      ∀ c ∈ (cs.dropWhile isBlank).head?, isBlank c = false := by
  refine ⟨cs.takeWhile isBlank, fun c hc => List.mem_takeWhile_imp hc,
    List.takeWhile_append_dropWhile.symm, fun c hc => ?_⟩
  have hhead := List.head?_dropWhile_not isBlank cs
  rw [hc] at hhead
  exact hhead

theorem exists_trimmed (cs : List Char) :
    Tight (trimmed cs) ∧
      ∃ front back, AllBlank front ∧ AllBlank back ∧ cs = front ++ trimmed cs ++ back := by
  obtain ⟨front, hfront, hcs, hfirst⟩ := exists_dropWhile_isBlank cs
  obtain ⟨back, hback, hrest, hlast⟩ := exists_dropWhile_isBlank (cs.dropWhile isBlank).reverse
  have hrest' : cs.dropWhile isBlank = trimmed cs ++ back.reverse := by
    simpa [trimmed] using congrArg List.reverse hrest
  refine ⟨⟨fun c hc => hfirst c ?_, fun c hc => hlast c ?_⟩, front, back.reverse, hfront, ?_, ?_⟩
  · rw [hrest', List.head?_append, hc]
    rfl
  · rwa [trimmed, List.getLast?_reverse] at hc
  · exact fun c hc => hback c (List.mem_reverse.1 hc)
  · rw [List.append_assoc, ← hrest', ← hcs]

/-- White space around a text is all that trimming takes away. -/
theorem trimmed_surround (hfront : AllBlank front) (hback : AllBlank back) (h : Tight cs) :
    trimmed (front ++ cs ++ back) = cs := by
  have hreverse : ∀ c ∈ cs.reverse.head?, isBlank c = false := by
    rw [List.head?_reverse]
    exact h.last
  have hback' : AllBlank back.reverse := fun c hc => hback c (List.mem_reverse.1 hc)
  cases cs with
  | nil =>
    have hall : (front ++ back).dropWhile isBlank = [] :=
      List.dropWhile_eq_nil_iff.2 fun c hc => (List.mem_append.1 hc).elim (hfront c) (hback c)
    rw [List.append_nil, trimmed, hall]
    rfl
  | cons c cs =>
    have hrest : ((front ++ (c :: cs) ++ back).dropWhile isBlank) = c :: cs ++ back := by
      rw [List.append_assoc]
      exact dropWhile_isBlank_append hfront (fun d hd => h.first d hd)
    rw [trimmed, hrest, List.reverse_append, dropWhile_isBlank_append hback' hreverse,
      List.reverse_reverse]

/-- The trimmed text is the one without white space at its ends that has nothing else around it. -/
theorem trimmed_eq_iff {text : List Char} :
    trimmed cs = text ↔ Tight text ∧
      ∃ front back, AllBlank front ∧ AllBlank back ∧ cs = front ++ text ++ back := by
  constructor
  · intro h
    subst h
    exact exists_trimmed cs
  · intro ⟨htight, front, back, hfront, hback, heq⟩
    rw [heq, trimmed_surround hfront hback htight]

/-! ## Small letters -/

theorem toNat_toLower (c : Char) :
    c.toLower.toNat = if 65 ≤ c.toNat ∧ c.toNat ≤ 90 then c.toNat + 32 else c.toNat := by
  have hupper : (c.val ≥ 'A'.val ∧ c.val ≤ 'Z'.val) ↔ 65 ≤ c.toNat ∧ c.toNat ≤ 90 := Iff.rfl
  unfold Char.toLower
  split
  · next h =>
    have hcode := hupper.1 h
    rw [if_pos hcode]
    show (c.val + 32).toNat = c.toNat + 32
    rw [UInt32.toNat_add]
    exact Nat.mod_eq_of_lt (show c.toNat + 32 < 4294967296 by omega)
  · next h => rw [if_neg (mt hupper.2 h)]

theorem toLower_eq_self (h : c.toNat < 65) : c.toLower = c := by
  refine Char.toNat_inj.1 ?_
  rw [toNat_toLower, if_neg (by omega)]

theorem isBlank_toLower (c : Char) : isBlank c.toLower = isBlank c := by
  have hcode := toNat_toLower c
  split at hcode
  · next h =>
    simp only [isBlank]
    grind
  · next h => rw [Char.toNat_inj.1 hcode]

/-- What becomes of one character: itself or its small letter, but for the two that have an ASCII letter
only in their small form. -/
theorem loweredChar_cases (c : Char) :
    loweredChar c = [c.toLower] ∨ loweredChar c = ['k'] ∨ loweredChar c = ['i', '\u0307'] := by
  unfold loweredChar
  split_ifs <;> simp

theorem lowered_cons (c : Char) (cs : List Char) : lowered (c :: cs) = loweredChar c ++ lowered cs :=
  List.flatMap_cons

theorem lowered_append (cs cs' : List Char) : lowered (cs ++ cs') = lowered cs ++ lowered cs' :=
  List.flatMap_append

theorem loweredChar_eq_self (h : c.toNat < 65) : loweredChar c = [c] := by
  have hkelvin : c ≠ '\u212A' := by
    rintro rfl
    exact absurd h (by decide)
  have hdotted : c ≠ '\u0130' := by
    rintro rfl
    exact absurd h (by decide)
  rw [loweredChar, if_neg hkelvin, if_neg hdotted, toLower_eq_self h]

theorem lowered_eq_self (h : ∀ c ∈ cs, c.toNat < 65) : lowered cs = cs := by
  induction cs with
  | nil => rfl
  | cons c cs ih =>
    rw [lowered_cons, loweredChar_eq_self (h c List.mem_cons_self),
      ih fun d hd => h d (List.mem_cons_of_mem c hd)]
    rfl

theorem lt_of_loweredChar (h : ∀ d ∈ loweredChar c, d.toNat < 65) : c.toNat < 65 := by
  rcases loweredChar_cases c with hc | hc | hc
  · have hlower := h c.toLower (by simp [hc])
    rw [toNat_toLower] at hlower
    split at hlower <;> omega
  · exact absurd (h 'k' (by simp [hc])) (by decide)
  · exact absurd (h 'i' (by simp [hc])) (by decide)

theorem forall_lt_of_lowered (h : ∀ d ∈ lowered cs, d.toNat < 65) : ∀ c ∈ cs, c.toNat < 65 := by
  intro c hc
  exact lt_of_loweredChar fun d hd => h d (List.mem_flatMap.2 ⟨c, hc, hd⟩)

/-- Small letters put no white space at the beginning of a text. -/
theorem first_lowered (h : ∀ c ∈ cs.head?, isBlank c = false) :
    ∀ c ∈ (lowered cs).head?, isBlank c = false := by
  cases cs with
  | nil => exact h
  | cons c cs =>
    have hc : isBlank c = false := h c rfl
    intro d hd
    rw [lowered_cons, Option.mem_def] at hd
    rcases loweredChar_cases c with hlow | hlow | hlow <;> rw [hlow] at hd <;>
      obtain rfl := Option.some.inj hd
    · rw [isBlank_toLower, hc]
    · decide
    · decide

end FlashSeal.Text

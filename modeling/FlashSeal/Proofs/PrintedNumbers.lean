/-
FlashSeal.Proofs.PrintedNumbers — the numbers and digests on a command's lines, digit by digit.

What is printed is told here without the functions that print it.  A number's digits stand in a row of
digits, each in the place of its value, and together they have the number's value in their base
(`Figures`).  How many there are is fixed as well: a width that zeroes fill up, and more digits only where
the number takes more.  A decimal, an address and a dump of bytes are written so (`DecimalText`,
`AddressText`, `DumpText`).

Each text is then written for one value and for no other (`Tells`), because a row holds every digit once.
So whoever reads a line knows the number that it was printed for, and two lines that read the same were
printed for the same number.
-/
import FlashSeal.Proofs.QuantityLanguage
import FlashSeal.Text.Column

namespace FlashSeal

open Text

/-! ## Texts of numbers -/

/-- The character is the digit `d` of the base, taken from the row. -/
def IsFigure (row : List Char) (radix : Nat) (c : Char) (d : Nat) : Prop :=
  d < radix ∧ row[d]? = some c

/-- Digits from the row that have the value of the number in the base: `width` of them at least, and more
only if the first is not zero. -/
inductive Figures (row : List Char) (radix width : Nat) (cs : List Char) (n : Nat) : Prop
  | intro {ds : List Nat} (hdigits : List.Forall₂ (IsFigure row radix) cs ds)
    (hvalue : Nat.ofDigits radix ds.reverse = n) (hwidth : width ≤ cs.length)
    (hshort : width < cs.length → ds.head? ≠ some 0) : Figures row radix width cs n

/-- A number in base ten, with no zero in front that it does not need. -/
def DecimalText (cs : List Char) (n : Nat) : Prop := Figures smallDigits 10 1 cs n

/-- An address: 0x and eight capital digits in base sixteen, or as many more as the number takes. -/
inductive AddressText : List Char → Nat → Prop
  | intro {cs : List Char} {n : Nat} (h : Figures capitalDigits 16 8 cs n) :
    AddressText ('0' :: 'x' :: cs) n

/-- Two small digits in base sixteen for each byte, the higher half first. -/
inductive DumpText : List Char → Bytes → Prop
  | nil : DumpText [] []
  | cons {high low : Char} {cs : List Char} {b : UInt8} {bs : Bytes}
    (hhigh : IsFigure smallDigits 16 high (b.toNat / 16))
    (hlow : IsFigure smallDigits 16 low (b.toNat % 16)) (hrest : DumpText cs bs) :
    DumpText (high :: low :: cs) (b :: bs)

/-- The text is written for this value and for no other. -/
structure Tells {α : Type} (Writes : List Char → α → Prop) (text : String) (a : α) : Prop where
  writes : Writes text.toList a
  unique : ∀ b, Writes text.toList b → b = a

/-- What is printed for every value so that it tells the value is printed for no two alike. -/
theorem injective_of_tells {α : Type} {Writes : List Char → α → Prop} {print : α → String}
    (h : ∀ a, Tells Writes (print a) a) : Function.Injective print := by
  intro a b heq
  exact (h b).unique a (heq ▸ (h a).writes)

variable {row cs : List Char} {radix width n n' d d' : Nat} {c zero : Char} {bs bs' : Bytes}

/-! ## The value of a text -/

/-- In a row without repetition a character is one digit. -/
theorem IsFigure.unique (hrow : row.Nodup) (h : IsFigure row radix c d) (h' : IsFigure row radix c d') :
    d = d' := by
  have hlt : d < row.length := (List.getElem?_eq_some_iff.1 h.2).1
  exact (List.getElem?_inj hlt hrow).1 (h.2.trans h'.2.symm)

theorem forall₂_isFigure_unique (hrow : row.Nodup) {ds ds' : List Nat}
    (h : List.Forall₂ (IsFigure row radix) cs ds) (h' : List.Forall₂ (IsFigure row radix) cs ds') :
    ds = ds' := by
  induction h generalizing ds' with
  | nil =>
    cases h'
    rfl
  | cons hfirst _ ih =>
    cases h' with
    | cons hfirst' hrest' => rw [hfirst.unique hrow hfirst', ih hrest']

theorem Figures.unique (hrow : row.Nodup) (h : Figures row radix width cs n)
    (h' : Figures row radix width cs n') : n = n' := by
  cases h with
  | intro hdigits hvalue =>
    cases h' with
    | intro hdigits' hvalue' =>
      rw [← hvalue, ← hvalue', forall₂_isFigure_unique hrow hdigits hdigits']

theorem nodup_smallDigits : smallDigits.Nodup := by decide

theorem nodup_capitalDigits : capitalDigits.Nodup := by decide

theorem AddressText.unique (h : AddressText cs n) (h' : AddressText cs n') : n = n' := by
  cases h with
  | intro h =>
    cases h' with
    | intro h' => exact h.unique nodup_capitalDigits h'

theorem DumpText.unique (h : DumpText cs bs) (h' : DumpText cs bs') : bs = bs' := by
  induction h generalizing bs' with
  | nil =>
    cases h'
    rfl
  | @cons _ _ _ b _ hhigh hlow _ ih =>
    cases h' with
    | @cons _ _ _ b' _ hhigh' hlow' hrest' =>
      have hdiv := hhigh.unique nodup_smallDigits hhigh'
      have hmod := hlow.unique nodup_smallDigits hlow'
      have hbyte : b = b' := UInt8.toNat_inj.1 (by omega)
      rw [hbyte, ih hrest']

/-! ## What is printed -/

/-- The digits that a number is printed with, the first of which is not zero unless the number is. -/
theorem exists_digits_toDigits (hradix : 1 < radix) (n : Nat) :
    ∃ ds, List.Forall₂ (fun c d => d < radix ∧ c = Nat.digitChar d) (Nat.toDigits radix n) ds ∧
      Nat.ofDigits radix ds.reverse = n ∧ (n ≠ 0 → ds.head? ≠ some 0) := by
  induction n using Nat.strongRecOn with
  | ind n ih =>
    by_cases hlt : n < radix
    · rw [Nat.toDigits_of_lt_base hlt]
      exact ⟨[n], .cons ⟨hlt, rfl⟩ .nil, by simp, by simp⟩
    · have hle := Nat.not_lt.1 hlt
      have hfront : 0 < n / radix := Nat.div_pos hle (by omega)
      obtain ⟨ds, hds, hvalue, hhead⟩ := ih (n / radix) (Nat.div_lt_self (by omega) hradix)
      rw [Nat.toDigits_of_base_le hradix hle]
      have hlast : n % radix < radix := Nat.mod_lt n (by omega)
      refine ⟨ds ++ [n % radix], List.rel_append hds (.cons ⟨hlast, rfl⟩ .nil), ?_, ?_⟩
      · rw [List.reverse_append, List.reverse_singleton, List.singleton_append, Nat.ofDigits_cons,
          hvalue, Nat.mod_add_div]
      · intro _
        have hne : ds ≠ [] := by
          rintro rfl
          exact hfront.ne hvalue
        rw [List.head?_append_of_ne_nil _ hne]
        exact hhead hfront.ne'

/-- Filled up with zeroes to its width, what is printed are the digits of the number. -/
theorem figures_leftpad (hradix : 1 < radix) (hwidth : 0 < width) {form : Char → Char}
    (hrow : ∀ d < radix, row[d]? = some (form (Nat.digitChar d))) (hzero : row[0]? = some zero)
    (n : Nat) :
    Figures row radix width (((Nat.toDigits radix n).map form).leftpad width zero) n := by
  obtain ⟨ds, hds, hvalue, hhead⟩ := exists_digits_toDigits hradix n
  have hdigits : List.Forall₂ (IsFigure row radix) ((Nat.toDigits radix n).map form) ds := by
    rw [List.forall₂_map_left_iff]
    refine hds.imp fun c d hd => ⟨hd.1, ?_⟩
    rw [hd.2]
    exact hrow d hd.1
  generalize hcs : (Nat.toDigits radix n).map form = cs at hdigits
  have hzeros (k : Nat) : List.Forall₂ (IsFigure row radix) (List.replicate k zero)
      (List.replicate k 0) := by
    induction k with
    | zero => exact .nil
    | succ k ih => exact .cons ⟨by omega, hzero⟩ ih
  refine .intro (List.rel_append (hzeros (width - cs.length)) hdigits) ?_ ?_ ?_
  · rw [List.reverse_append, List.reverse_replicate, Nat.ofDigits_append_replicate_zero, hvalue]
  · rw [List.leftpad, List.length_append, List.length_replicate]
    omega
  · intro hlong
    rw [List.leftpad, List.length_append, List.length_replicate] at hlong
    -- A text longer than its width has more than one digit, so its number is not zero.
    have hlonger : width < cs.length := by omega
    have hpos : n ≠ 0 := by
      rintro rfl
      rw [← hcs, Nat.toDigits_zero, List.map_singleton, List.length_singleton] at hlonger
      omega
    rw [Nat.sub_eq_zero_of_le hlonger.le]
    exact hhead hpos

theorem smallDigits_digitChar : ∀ d < 16, smallDigits[d]? = some (Nat.digitChar d) := by decide

theorem capitalDigits_digitChar : ∀ d < 16, capitalDigits[d]? = some (Nat.digitChar d).toUpper := by
  decide

/-- A decimal is the text of its number and of no other. -/
theorem tells_decimal (n : Nat) : Tells DecimalText (decimal n) n := by
  have hfigures : DecimalText (((Nat.toDigits 10 n).map id).leftpad 1 '0') n :=
    figures_leftpad (by decide) (by decide)
      (fun d hd => smallDigits_digitChar d (Nat.lt_trans hd (by decide))) rfl n
  have hlength : 0 < (Nat.toDigits 10 n).length := List.length_pos_iff.2 Nat.toDigits_ne_nil
  have hwrites : DecimalText (decimal n).toList n := by
    rw [List.map_id, List.leftpad, Nat.sub_eq_zero_of_le hlength] at hfigures
    rwa [decimal, String.toList_ofList]
  exact ⟨hwrites, fun n' h => Figures.unique nodup_smallDigits h hwrites⟩

/-- An address is the text of its number and of no other. -/
theorem tells_address (n : Nat) : Tells AddressText (address n) n := by
  have hwrites : AddressText (address n).toList n := by
    rw [address, hex, String.toList_ofList]
    exact .intro (figures_leftpad (by decide) (by decide) capitalDigits_digitChar rfl n)
  exact ⟨hwrites, fun n' h => h.unique hwrites⟩

/-- A byte is printed as its two halves. -/
theorem byteDigits_eq (b : UInt8) :
    byteDigits b = [Nat.digitChar (b.toNat / 16), Nat.digitChar (b.toNat % 16)] := by
  have hb : b.toNat < 256 := b.toNat_lt
  unfold byteDigits
  by_cases h : b.toNat < 16
  · rw [Nat.toDigits_of_lt_base h, Nat.div_eq_of_lt h, Nat.mod_eq_of_lt h]
    rfl
  · rw [Nat.toDigits_of_base_le (by decide) (Nat.not_lt.1 h),
      Nat.toDigits_of_lt_base (by omega)]
    rfl

theorem dumpText_flatMap : ∀ bs : Bytes, DumpText (bs.flatMap byteDigits) bs
  | [] => .nil
  | b :: bs => by
    have hb : b.toNat < 256 := b.toNat_lt
    have hfigure {d : Nat} (hd : d < 16) : IsFigure smallDigits 16 (Nat.digitChar d) d :=
      ⟨hd, smallDigits_digitChar d hd⟩
    rw [List.flatMap_cons, byteDigits_eq]
    exact .cons (hfigure (by omega)) (hfigure (by omega)) (dumpText_flatMap bs)

/-- A dump is the text of its bytes and of no others. -/
theorem tells_hexDump (bs : Bytes) : Tells DumpText (hexDump bs) bs := by
  have hwrites : DumpText (hexDump bs).toList bs := by
    rw [hexDump, String.toList_ofList]
    exact dumpText_flatMap bs
  exact ⟨hwrites, fun bs' h => h.unique hwrites⟩

end FlashSeal

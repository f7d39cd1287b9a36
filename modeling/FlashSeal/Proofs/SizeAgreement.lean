/-
FlashSeal.Proofs.SizeAgreement — the sizes of map files and the padded sizes of the command line.

The two readers differ in their width, in their units and in the order of their branches.  By the
grammar of the texts only the first two matter: a number is a size of both kinds, and so is a multiple
of a unit that both have.  A multiple of another unit ends in no unit that padded sizes have
(`Multiple.padUnits_or_endsInMapUnit`), so it is no padded size, rather than one of another value.
-/
import FlashSeal.Proofs.QuantityReading

namespace FlashSeal

open Text

variable {text : List Char} {factor v n : Nat} {m : UInt32} {s : String}

/-- The text ends in a unit that padded sizes do not have. -/
structure EndsInMapUnit (text : List Char) : Prop where
  b : ['b'] <:+ text
  not_kib : ¬ ['k', 'i', 'b'] <:+ text
  not_mib : ¬ ['m', 'i', 'b'] <:+ text
  not_hex : ¬ ['0', 'x'] <+: text

/-- A unit that padded sizes do not have does not end with one that they have. -/
theorem mem_padUnits_or_not_suffix :
    ∀ p ∈ mapUnits, p ∈ padUnits ∨ ∀ q ∈ padUnits, ¬ q.1 <:+ p.1 := by decide

theorem Multiple.of_padUnits (h : Multiple padUnits text v factor) : Multiple mapUnits text v factor := by
  cases h with
  | intro hdigits hgap hunit => exact .intro hdigits hgap (padUnits_sublist.mem hunit)

/-- A multiple has a unit that both kinds of sizes have, or it ends in none of those. -/
theorem Multiple.padUnits_or_endsInMapUnit (h : Multiple mapUnits text v factor) :
    Multiple padUnits text v factor ∨ EndsInMapUnit text := by
  have hx : 'x' ∉ text := h.x_not_mem (List.Sublist.refl mapUnits)
  cases h with
  | @intro digits gap unit v factor hdigits hgap hunit =>
    rcases mem_padUnits_or_not_suffix _ hunit with hpad | hother
    · exact .inl (.intro hdigits hgap hpad)
    · -- the letters of a unit do not reach into what stands before another one
      have hends (q : List Char × Nat) (hq : q ∈ padUnits) : ¬ q.1 <:+ digits ++ gap ++ unit := by
        have hletters := letter_of_mem q (padUnits_sublist.mem hq)
        have hshares : ∀ c ∈ q.1, c ∉ digits ++ gap := fun c hc hin =>
          letterFree_append hdigits hgap c hin (hletters c hc)
        exact fun hsuffix => hother q hq (suffix_of_suffix_append hshares hsuffix)
      right
      exact {
        b := List.suffix_append_of_suffix (b_suffix_of_mem _ hunit)
        not_kib := hends (['k', 'i', 'b'], kibi) (by decide)
        not_mib := hends (['m', 'i', 'b'], mebi) (by decide)
        not_hex := fun hfirst => hx (hfirst.mem (by decide)) }

theorem EndsInMapUnit.not_multiple (h : EndsInMapUnit text) : ¬ Multiple padUnits text v factor := by
  intro hm
  cases hm with
  | @intro digits gap unit v factor _ _ hunit =>
    simp only [padUnits, List.mem_cons, Prod.mk.injEq, List.not_mem_nil, or_false] at hunit
    rcases hunit with ⟨rfl, -⟩ | ⟨rfl, -⟩
    · exact h.not_mib (List.suffix_append _ _)
    · exact h.not_kib (List.suffix_append _ _)

/-! ## One reader after the other -/

theorem readSize_of_readPadSize (h : readPadSize s = .ok m.toNat) : readSize s = .ok m := by
  rw [readSize_eq_ok_iff]
  rcases (readPadSize_eq_ok_iff.1 h).2 with hplain | ⟨v, factor, hm, heq⟩
  · exact .inl hplain
  · exact .inr ⟨v, factor, hm.of_padUnits, heq⟩

/-- A multiple of a unit that padded sizes do not have is no padded size. -/
theorem readPadSize_eq_error (hm : Multiple mapUnits (lowered (trimmed s.toList)) v factor)
    (hends : EndsInMapUnit (lowered (trimmed s.toList))) : ∃ e, readPadSize s = .error e := by
  cases hread : readPadSize s with
  | error e => exact ⟨e, rfl⟩
  | ok n =>
    rcases (readPadSize_eq_ok_iff.1 hread).2 with hplain | ⟨v', factor', hpad, -⟩
    · exact absurd hm (hplain.not_multiple (List.Sublist.refl mapUnits))
    · exact absurd hpad hends.not_multiple

theorem readPadSize_of_readSize (h : readSize s = .ok m) :
    readPadSize s = .ok m.toNat ∨
      EndsInMapUnit (lowered (trimmed s.toList)) ∧ ∃ e, readPadSize s = .error e := by
  have hlt : m.toNat < UInt64.size := Nat.lt_trans m.toNat_lt_size (by decide)
  rcases readSize_eq_ok_iff.1 h with hplain | ⟨v, factor, hm, heq⟩
  · exact .inl (readPadSize_eq_ok_iff.2 ⟨hlt, .inl hplain⟩)
  · rcases hm.padUnits_or_endsInMapUnit with hpad | hends
    · exact .inl (readPadSize_eq_ok_iff.2 ⟨hlt, .inr ⟨v, factor, hpad, heq⟩⟩)
    · exact .inr ⟨hends, readPadSize_eq_error hm hends⟩

theorem eq_toNat_of_readSize (h : readSize s = .ok m) (hpad : readPadSize s = .ok n) :
    n = m.toNat := by
  rcases readPadSize_of_readSize h with hsame | ⟨-, e, he⟩
  · exact Except.ok.inj (hpad.symm.trans hsame)
  · cases hpad.symm.trans he

/-- The two kinds of sizes agree.  What a padded size reads below 2^32 a map file reads as the same
number; the other way it is the same but for the units that padded sizes do not have, and those texts
are no padded sizes at all. -/
theorem readSize_readPadSize_agree (s : String) :
    (∀ m : UInt32, readPadSize s = .ok m.toNat → readSize s = .ok m) ∧
    (∀ m : UInt32, readSize s = .ok m → readPadSize s = .ok m.toNat ∨
      EndsInMapUnit (lowered (trimmed s.toList)) ∧ ∃ e, readPadSize s = .error e) ∧
    (∀ (m : UInt32) (n : Nat), readSize s = .ok m → readPadSize s = .ok n → n = m.toNat) ∧
    (∀ n : Nat, readPadSize s = .ok n → UInt32.size ≤ n → ∃ e, readSize s = .error e) := by
  refine ⟨fun m => readSize_of_readPadSize, fun m => readPadSize_of_readSize,
    fun m n => eq_toNat_of_readSize, ?_⟩
  intro n hpad hlarge
  cases hread : readSize s with
  | error e => exact ⟨e, rfl⟩
  | ok m =>
    have hlt := m.toNat_lt_size
    have heq := eq_toNat_of_readSize hread hpad
    omega

/-- A size in kB is one for map files alone, a size in KiB one for both, with the Kelvin sign for a k as well,
and from 2^32 on there are padded sizes alone. -/
theorem readSize_readPadSize_agree_units :
    (readSize " 16 kB" = .ok 16384 ∧
      EndsInMapUnit (lowered (trimmed " 16 kB".toList)) ∧ ∃ e, readPadSize " 16 kB" = .error e) ∧
    readSize "+3 \u212AiB" = .ok 3072 ∧
    ∃ e, readSize "0x100000000" = .error e := by
  have hmap : readSize " 16 kB" = .ok 16384 := by decide +kernel
  have hpad : readPadSize " 16 kB" ≠ .ok 16384 := by decide +kernel
  have hboth : readPadSize "+3 \u212AiB" = .ok 3072 := by decide +kernel
  have hlarge : readPadSize "0x100000000" = .ok UInt32.size := by decide +kernel
  refine ⟨⟨hmap, ?_⟩, ?_, ?_⟩
  · exact ((readSize_readPadSize_agree " 16 kB").2.1 16384 hmap).resolve_left hpad
  · exact (readSize_readPadSize_agree "+3 \u212AiB").1 3072 hboth
  · exact (readSize_readPadSize_agree "0x100000000").2.2.2 UInt32.size hlarge (Nat.le_refl _)

end FlashSeal

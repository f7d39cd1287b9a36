/-
FlashSeal.Proofs.EmissionOrder — the order in which a region records the areas of a map.

The order compares id, device, offset and name, one after the other.  `Area.key` puts the four into one
key of a lexicographic order, and `Area.precedes_iff_key_lt` says that one area precedes another exactly
when its key is smaller, so what is known of linear orders is known of areas.

Names are part of the key and differ between the areas of a map.  So no two areas of a map tie, and
the emission lists every area once, each strictly before the next (`perm_emission`,
`pairwise_emission`).  There is one such list only (`eq_emission_of_pairwise`).
-/
import Mathlib.Data.List.Nodup
import Mathlib.Data.Prod.Lex
import Mathlib.Data.String.Basic
import FlashSeal.FlashMap

namespace FlashSeal

namespace Area

/-- What the order compares, the most significant number first. -/
def key (a : Area) : Nat ×ₗ Nat ×ₗ Nat ×ₗ String :=
  toLex (a.id.toNat, toLex (a.device.toNat, toLex (a.offset.toNat, a.name)))

theorem precedes_iff_key_lt {a b : Area} : a.precedes b = true ↔ a.key < b.key := by
  simp only [precedes, key, Prod.Lex.toLex_lt_toLex, UInt32.lt_iff_toNat_lt, UInt32.toNat_inj,
    Bool.or_eq_true, Bool.and_eq_true, decide_eq_true_eq, beq_iff_eq]

theorem not_precedes_iff_key_le {a b : Area} : (!b.precedes a) = true ↔ a.key ≤ b.key := by
  rw [Bool.not_eq_true', ← Bool.not_eq_true, precedes_iff_key_lt, not_lt]

theorem name_eq_of_key_eq {a b : Area} (h : a.key = b.key) : a.name = b.name := by
  simp only [key, toLex_inj, Prod.mk.injEq] at h
  exact h.2.2.2

end Area

namespace FlashMap

theorem perm_emission (m : FlashMap) : m.emission.Perm m.areas :=
  List.mergeSort_perm m.areas _

/-- The names of a map differ. -/
theorem nodup_names (m : FlashMap) : (m.areas.map Area.name).Nodup := by
  rw [List.Nodup, List.pairwise_map]
  exact m.ascending.imp fun h => ne_of_lt h

theorem nodup_emission (m : FlashMap) : m.emission.Nodup :=
  (m.perm_emission.nodup_iff).2 (m.nodup_names.of_map Area.name)

/-- Each area of a map strictly precedes those that are emitted behind it. -/
theorem pairwise_emission (m : FlashMap) :
    m.emission.Pairwise (fun a b => a.precedes b = true) := by
  have hsorted : m.emission.Pairwise (fun a b => (!b.precedes a) = true) := by
    refine List.pairwise_mergeSort ?_ ?_ m.areas
    · intro a b c hab hbc
      rw [Area.not_precedes_iff_key_le] at hab hbc ⊢
      exact le_trans hab hbc
    · intro a b
      rw [Bool.or_eq_true, Area.not_precedes_iff_key_le, Area.not_precedes_iff_key_le]
      exact le_total a.key b.key
  have hnames : m.emission.Pairwise (fun a b => a.name ≠ b.name) := by
    rw [← List.pairwise_map]
    exact ((m.perm_emission.map Area.name).nodup_iff).2 m.nodup_names
  refine (hsorted.and hnames).imp ?_
  rintro a b ⟨hle, hname⟩
  rw [Area.not_precedes_iff_key_le] at hle
  rw [Area.precedes_iff_key_lt]
  exact lt_of_le_of_ne hle fun hkey => hname (Area.name_eq_of_key_eq hkey)

/-- A list of the areas of a map, each strictly before the next, is the emission. -/
theorem eq_emission_of_pairwise {m : FlashMap} {areas : List Area}
    (hmem : ∀ a, a ∈ areas ↔ a ∈ m.areas)
    (hareas : areas.Pairwise (fun a b => a.precedes b = true)) : areas = m.emission := by
  have hnodup : areas.Nodup := by
    refine hareas.imp fun {a b} h heq => ?_
    rw [heq, Area.precedes_iff_key_lt] at h
    exact lt_irrefl _ h
  have hperm : areas.Perm m.emission := by
    refine (List.perm_ext_iff_of_nodup hnodup m.nodup_emission).2 fun a => ?_
    rw [hmem, m.perm_emission.mem_iff]
  refine hperm.eq_of_pairwise ?_ hareas m.pairwise_emission
  intro a b _ _ hab hba
  rw [Area.precedes_iff_key_lt] at hab hba
  exact absurd hba (lt_asymm hab)

end FlashMap

end FlashSeal

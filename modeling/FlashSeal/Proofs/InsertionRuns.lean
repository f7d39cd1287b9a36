/-
FlashSeal.Proofs.InsertionRuns — the map that a run of insertions leaves, failures and all.

Each call leaves a map behind, be it that the call succeeds or fails (`afterInsert`), and the run goes on
with that map.  What a map holds is told by looking it up: a call leaves its area under its name unless
something stands there, and everything else where it stood (`get?_afterInsert_self`,
`get?_afterInsert_other`), so a run leaves under each name the first area that was inserted under it
(`get?_foldl_afterInsert`).  That is all of the map, since it holds what is found in it under its own name
and nothing else (`mem_areas_iff`).

The emission is told apart from the run, by the map that is left: it is the one list of the areas held
that ascends by id, device, offset and the bytes of the name (`eq_emission_of_pairwise`).
-/
import Mathlib.Data.Finset.Card
import FlashSeal.Proofs.MapBuilding
import FlashSeal.Proofs.NameOrder

namespace FlashSeal

namespace FlashMap

variable {m built : FlashMap} {a : Area} {calls : List Area} {name : String}

/-! ## Looking up -/

/-- A map holds what is found in it, each area under its own name. -/
theorem mem_areas_iff : a ∈ m.areas ↔ m.get? a.name = some a := by
  rw [get?_eq_some_iff, and_iff_left rfl]

theorem get?_eq_none_iff : m.get? name = none ↔ name ∉ m.areas.map Area.name := by
  rw [Option.eq_none_iff_forall_ne_some, List.mem_map, not_exists]
  exact forall_congr' fun a => not_congr get?_eq_some_iff

theorem get?_of_insert_self (h : m.insert a = .ok built) : built.get? a.name = some a := by
  obtain ⟨-, -, hperm⟩ := insert_eq_ok_iff.1 h
  exact get?_eq_some_iff.2 ⟨hperm.mem_iff.2 List.mem_cons_self, rfl⟩

theorem get?_of_insert_other (h : m.insert a = .ok built) (hne : a.name ≠ name) :
    built.get? name = m.get? name := by
  obtain ⟨-, -, hperm⟩ := insert_eq_ok_iff.1 h
  ext b
  rw [get?_eq_some_iff, get?_eq_some_iff, hperm.mem_iff, List.mem_cons]
  constructor
  · rintro ⟨rfl | hb, rfl⟩
    · exact absurd rfl hne
    · exact ⟨hb, rfl⟩
  · rintro ⟨hb, rfl⟩
    exact ⟨.inr hb, rfl⟩

/-! ## One call -/

/-- The map that a call of `insert` leaves, whatever its outcome is. -/
def afterInsert (m : FlashMap) (a : Area) : FlashMap := ((MapOp.insert a).on m).2

/-- A call that succeeds gives the map that it leaves. -/
theorem afterInsert_of_ok (h : m.insert a = .ok built) : m.afterInsert a = built := by
  obtain ⟨hnew, -⟩ := insert_eq_ok_iff.1 h
  have hfree : ¬ ∃ b ∈ m.areas, b.name = a.name := fun ⟨b, hb, heq⟩ => hnew b hb heq
  rw [insert_eq, if_neg hfree] at h
  rw [afterInsert, on_insert, if_neg hfree]
  exact Except.ok.inj h

/-- A call that fails has changed nothing. -/
theorem afterInsert_of_error {fault : MapError} (h : m.insert a = .error fault) :
    m.afterInsert a = m := by
  have htaken : ∃ b ∈ m.areas, b.name = a.name := List.mem_map.1 (insert_eq_error_iff.1 h).1
  rw [afterInsert, on_insert, if_pos htaken]

/-- A call leaves its area under its name, unless something stands there. -/
theorem get?_afterInsert_self (m : FlashMap) (a : Area) :
    (m.afterInsert a).get? a.name = (m.get? a.name).or (some a) := by
  cases hinsert : m.insert a with
  | ok built =>
    have hnew : m.get? a.name = none := by
      rw [get?_eq_none_iff, List.mem_map]
      rintro ⟨b, hb, heq⟩
      exact (insert_eq_ok_iff.1 hinsert).1 b hb heq
    rw [afterInsert_of_ok hinsert, hnew, Option.none_or]
    exact get?_of_insert_self hinsert
  | error fault =>
    obtain ⟨b, hb, hname⟩ := List.mem_map.1 (insert_eq_error_iff.1 hinsert).1
    have hheld : m.get? a.name = some b := get?_eq_some_iff.2 ⟨hb, hname⟩
    rw [afterInsert_of_error hinsert, hheld, Option.some_or]

/-- A call leaves everything else where it stood. -/
theorem get?_afterInsert_other (m : FlashMap) (h : a.name ≠ name) :
    (m.afterInsert a).get? name = m.get? name := by
  cases hinsert : m.insert a with
  | ok built =>
    rw [afterInsert_of_ok hinsert]
    exact get?_of_insert_other hinsert h
  | error fault => rw [afterInsert_of_error hinsert]

/-! ## A run of calls -/

/-- A run leaves under each name what stood there, or else the first area that was inserted under it. -/
theorem get?_foldl_afterInsert (m : FlashMap) (calls : List Area) (name : String) :
    (calls.foldl afterInsert m).get? name = (m.get? name).or (calls.find? (·.name == name)) := by
  induction calls generalizing m with
  | nil => exact Option.or_none.symm
  | cons a calls ih =>
    rw [List.foldl_cons, ih]
    by_cases hname : a.name = name
    · subst hname
      simp only [get?_afterInsert_self, Option.or_assoc, Option.some_or, List.find?_cons,
        beq_self_eq_true]
    · rw [get?_afterInsert_other m hname, List.find?_cons_of_neg (by simpa using hname)]

/-- The map that calls of `insert` leave, one after another from the empty map on. -/
def leftBy (calls : List Area) : FlashMap := calls.foldl afterInsert .empty

theorem leftBy_append (calls : List Area) (a : Area) :
    leftBy (calls ++ [a]) = (leftBy calls).afterInsert a := List.foldl_append

/-- Under each name stands the first area that was inserted under it. -/
theorem get?_leftBy (calls : List Area) (name : String) :
    (leftBy calls).get? name = calls.find? (·.name == name) := by
  rw [leftBy, get?_foldl_afterInsert]
  rfl

theorem mem_leftBy_iff :
    a ∈ (leftBy calls).areas ↔
      ∃ before after, calls = before ++ a :: after ∧ ∀ b ∈ before, b.name ≠ a.name := by
  rw [mem_areas_iff, get?_leftBy, List.find?_eq_some_iff_append]
  simp

/-- The names held are those that were inserted. -/
theorem mem_names_leftBy_iff :
    name ∈ (leftBy calls).areas.map Area.name ↔ name ∈ calls.map Area.name := by
  rw [← not_iff_not, ← get?_eq_none_iff, get?_leftBy, List.find?_eq_none, List.mem_map, not_exists]
  simp

theorem size_leftBy (calls : List Area) :
    (leftBy calls).size = (calls.map Area.name).toFinset.card := by
  have hnames : (calls.map Area.name).toFinset = ((leftBy calls).areas.map Area.name).toFinset := by
    ext name
    rw [List.mem_toFinset, List.mem_toFinset, mem_names_leftBy_iff]
  rw [hnames, List.toFinset_card_of_nodup (nodup_names _), List.length_map, size]

/-- A call behind others fails exactly if its name was inserted before. -/
theorem insert_leftBy_eq_error_iff {fault : MapError} :
    (leftBy calls).insert a = .error fault ↔
      a.name ∈ calls.map Area.name ∧ fault = .duplicateName a.name := by
  rw [insert_eq_error_iff, mem_names_leftBy_iff]

theorem leftBy_append_of_mem (h : a.name ∈ calls.map Area.name) :
    leftBy (calls ++ [a]) = leftBy calls := by
  rw [leftBy_append, afterInsert_of_error (insert_leftBy_eq_error_iff.2 ⟨h, rfl⟩)]

theorem insert_leftBy_of_not_mem (h : a.name ∉ calls.map Area.name) :
    (leftBy calls).insert a = .ok (leftBy (calls ++ [a])) := by
  cases hinsert : (leftBy calls).insert a with
  | ok built => rw [leftBy_append, afterInsert_of_ok hinsert]
  | error fault => exact absurd (insert_leftBy_eq_error_iff.1 hinsert).1 h

theorem on_insert_leftBy_of_mem (h : a.name ∈ calls.map Area.name) :
    (MapOp.insert a).on (leftBy calls) = (.error (.duplicateName a.name), leftBy calls) := by
  have htaken : ∃ b ∈ (leftBy calls).areas, b.name = a.name :=
    List.mem_map.1 (mem_names_leftBy_iff.2 h)
  rw [on_insert, if_pos htaken]

theorem on_insert_leftBy_of_not_mem (h : a.name ∉ calls.map Area.name) :
    (MapOp.insert a).on (leftBy calls) = (.ok (), leftBy (calls ++ [a])) := by
  have hfree : ¬ ∃ b ∈ (leftBy calls).areas, b.name = a.name :=
    fun htaken => h (mem_names_leftBy_iff.1 (List.mem_map.2 htaken))
  rw [leftBy_append, afterInsert, on_insert, if_neg hfree]

/-! ## Every run -/

/-- A run of insertions from the empty map holds the first area of each name and nothing else, under its
own name.  One more call fails exactly if the name was inserted before, tells the name, and leaves the
map as it was, since it asks for the name before it changes anything; else it leaves the map with the
area.  The emission lists each area once, ascending
strictly by id, device, offset and the bytes of the name, and is the only such list. -/
theorem insertion_run_keeps_first (calls : List Area) :
    (∀ a, a ∈ (leftBy calls).areas ↔
      ∃ before after, calls = before ++ a :: after ∧ ∀ b ∈ before, b.name ≠ a.name) ∧
    (∀ name, (leftBy calls).get? name = calls.find? (·.name == name)) ∧
    (leftBy calls).size = (calls.map Area.name).toFinset.card ∧
    (∀ a fault, (leftBy calls).insert a = .error fault ↔
      a.name ∈ calls.map Area.name ∧ fault = .duplicateName a.name) ∧
    (∀ a, a.name ∈ calls.map Area.name →
      (MapOp.insert a).on (leftBy calls) = (.error (.duplicateName a.name), leftBy calls) ∧
        leftBy (calls ++ [a]) = leftBy calls) ∧
    (∀ a, a.name ∉ calls.map Area.name →
      (MapOp.insert a).on (leftBy calls) = (.ok (), leftBy (calls ++ [a])) ∧
        (leftBy calls).insert a = .ok (leftBy (calls ++ [a]))) ∧
    (∀ a, (leftBy calls).emission.count a = if a ∈ (leftBy calls).areas then 1 else 0) ∧
    (leftBy calls).emission.Pairwise (fun a b => a.byteKey < b.byteKey) ∧
    ∀ areas : List Area, (∀ a, a ∈ areas ↔ a ∈ (leftBy calls).areas) →
      areas.Pairwise (fun a b => a.byteKey < b.byteKey) → areas = (leftBy calls).emission := by
  refine ⟨fun a => mem_leftBy_iff, get?_leftBy calls, size_leftBy calls,
    fun a fault => insert_leftBy_eq_error_iff,
    fun a h => ⟨on_insert_leftBy_of_mem h, leftBy_append_of_mem h⟩,
    fun a h => ⟨on_insert_leftBy_of_not_mem h, insert_leftBy_of_not_mem h⟩, fun a => ?_, ?_, ?_⟩
  · simp only [(nodup_emission _).count, (perm_emission _).mem_iff]
  · simpa only [Area.precedes_iff_byteKey_lt] using pairwise_emission (leftBy calls)
  · intro areas hmem hareas
    refine eq_emission_of_pairwise hmem ?_
    simpa only [Area.precedes_iff_byteKey_lt] using hareas

/-- Two areas that their names alone tell apart, and names that are used again or differ in case. -/
def retriedAreas : List Area :=
  [⟨"💾", 7, 0, 0x100, 8⟩, ⟨"log", 8, 0, 0, 4⟩, ⟨"～", 7, 0, 0x100, 8⟩, ⟨"log", 1, 1, 1, 1⟩,
    ⟨"LOG", 8, 0, 0, 4⟩]

/-- The first areas of the names, in the order of emission. -/
def retriedEmission : List Area :=
  [⟨"～", 7, 0, 0x100, 8⟩, ⟨"💾", 7, 0, 0x100, 8⟩, ⟨"LOG", 8, 0, 0, 4⟩, ⟨"log", 8, 0, 0, 4⟩]

theorem insertion_run_keeps_first_retriedAreas :
    (leftBy retriedAreas).size = 4 ∧
    (leftBy retriedAreas).get? "log" = some ⟨"log", 8, 0, 0, 4⟩ ∧
    (leftBy retriedAreas).insert ⟨"～", 2, 2, 2, 2⟩ = .error (.duplicateName "～") ∧
    (MapOp.insert ⟨"～", 2, 2, 2, 2⟩).on (leftBy retriedAreas)
      = (.error (.duplicateName "～"), leftBy retriedAreas) ∧
    leftBy (retriedAreas ++ [⟨"～", 2, 2, 2, 2⟩]) = leftBy retriedAreas ∧
    retriedEmission = (leftBy retriedAreas).emission := by
  obtain ⟨-, hget, hsize, hfail, hleft, -, -, -, hemission⟩ := insertion_run_keeps_first retriedAreas
  have htaken : "～" ∈ retriedAreas.map Area.name := by decide
  have hperm : retriedEmission.Perm (leftBy retriedAreas).areas := by decide
  obtain ⟨hfailed, hkept⟩ := hleft ⟨"～", 2, 2, 2, 2⟩ htaken
  refine ⟨?_, ?_, ?_, hfailed, hkept, hemission _ (fun a => hperm.mem_iff) ?_⟩
  · rw [hsize]
    decide
  · rw [hget]
    decide
  · exact (hfail ⟨"～", 2, 2, 2, 2⟩ _).2 ⟨htaken, rfl⟩
  · simp only [← Area.precedes_iff_byteKey_lt]
    decide

end FlashMap

end FlashSeal

/-
FlashSeal.Proofs.StoreWork — what is read from a store after something was written to it.

Following a path looks at directories alone, so where a path leads (`Store.LeadsTo`) is the same before
and after a file is written.  Reading succeeds exactly when the path leads to a file, and writing
exactly when it leads to a place that can hold one (`read_eq_ok_iff`, `write_eq_ok_iff`).  From these
two: what was written is read back through the same path, and every other file reads as before.

Different paths may lead to one file, as ./m and m do.  Where a path leads is told by its names alone
(`LeadsTo.exists_place_eq`), so of plain names no two lead to one file (`eq_of_sameFile_of_isName`).
-/
import FlashSeal.Command.Store
import FlashSeal.Proofs.Outcome

namespace FlashSeal

namespace Store

variable {s t : Store} {path other : String} {place : Place} {bytes : Bytes}

/-! ## Files -/

theorem lookup_replace_self (place : Place) (bytes : Bytes) :
    ∀ files : List (Place × Bytes), (replace place bytes files).lookup place = some bytes
  | [] => by simp [replace]
  | (p, b) :: files => by
    rw [replace]
    split
    · simp
    · next hne =>
      have hkey : (place == p) = false := beq_false_of_ne (Ne.symm hne)
      simp only [List.lookup_cons, hkey]
      exact lookup_replace_self place bytes files

theorem lookup_replace_of_ne {elsewhere : Place} (hne : elsewhere ≠ place) (bytes : Bytes) :
    ∀ files : List (Place × Bytes),
      (replace place bytes files).lookup elsewhere = files.lookup elsewhere
  | [] => by simp [replace, List.lookup_cons, beq_false_of_ne hne]
  | (p, b) :: files => by
    rw [replace]
    split
    · next heq =>
      simp only [List.lookup_cons, heq, beq_false_of_ne hne]
    · simp only [List.lookup_cons, lookup_replace_of_ne hne bytes files]

/-! ## Where a path leads -/

/-- The path leads to this place, and a file may stand there. -/
def LeadsTo (s : Store) (path : String) (place : Place) : Prop :=
  ∃ p, Path.ofText path = .ok p ∧ p.endsWithSlash = false ∧
    s.follow p.start p.names = .ok place ∧ s.hasDirectory place = false

/-- The paths lead to one file. -/
def SameFile (s : Store) (path other : String) : Prop :=
  ∃ place, s.LeadsTo path place ∧ s.LeadsTo other place

/-- Names are followed through directories, and files never matter on a way that does not fail. -/
theorem follow_withFiles (files : List (Place × Bytes)) :
    ∀ {names : List String} {here : Place}, s.follow here names = .ok place →
      ({ s with files } : Store).follow here names = .ok place
  | [], here, hfollow => hfollow
  | name :: names, here, hfollow => by
    have hsame : ({ s with files } : Store).hasDirectory = s.hasDirectory := rfl
    simp only [follow, hsame] at hfollow ⊢
    split at hfollow
    · next hway =>
      rw [if_pos hway]
      exact follow_withFiles files hfollow
    · cases hfollow

/-- A way that does not fail ends where its names lead. -/
theorem eq_foldl_of_follow :
    ∀ {names : List String} {here : Place}, s.follow here names = .ok place →
      place = names.foldl Place.enter here
  | [], here, hfollow => (Except.ok.inj hfollow).symm
  | name :: names, here, hfollow => by
    simp only [follow] at hfollow
    split at hfollow
    · rw [List.foldl_cons]
      exact eq_foldl_of_follow hfollow
    · cases hfollow

/-- A path that leads somewhere leads where its names do. -/
theorem LeadsTo.exists_place_eq (h : s.LeadsTo path place) :
    ∃ p, Path.ofText path = .ok p ∧ place = p.place := by
  obtain ⟨p, hp, -, hfollow, -⟩ := h
  exact ⟨p, hp, eq_foldl_of_follow hfollow⟩

theorem LeadsTo.withFiles (h : s.LeadsTo path place) (files : List (Place × Bytes)) :
    ({ s with files } : Store).LeadsTo path place := by
  obtain ⟨p, hp, hslash, hfollow, hdirectory⟩ := h
  exact ⟨p, hp, hslash, follow_withFiles files hfollow, hdirectory⟩

/-! ## Reading and writing -/

theorem read_eq_ok_iff :
    s.read path = .ok bytes ↔ ∃ place, s.LeadsTo path place ∧ s.file? place = some bytes := by
  simp only [read, Except.bind_eq_ok_iff, Except.ite_throw_eq_ok_iff]
  constructor
  · intro ⟨p, hp, place, hfollow, hdirectory, h⟩
    cases hfile : s.file? place with
    | none =>
      rw [hfile] at h
      cases h
    | some found =>
      rw [hfile] at h
      obtain ⟨hslash, hfound⟩ := Except.ite_throw_eq_ok_iff.1 h
      obtain rfl := Except.ok.inj hfound
      exact ⟨place, ⟨p, hp, by simpa using hslash, hfollow, by simpa using hdirectory⟩, hfile⟩
  · intro ⟨place, ⟨p, hp, hslash, hfollow, hdirectory⟩, hfile⟩
    refine ⟨p, hp, place, hfollow, by simp [hdirectory], ?_⟩
    rw [hfile]
    exact Except.ite_throw_eq_ok_iff.2 ⟨by simp [hslash], rfl⟩

theorem write_eq_ok_iff :
    s.write path bytes = .ok t ↔
      ∃ place, s.LeadsTo path place ∧ place.isTooLong = false ∧
        t = { s with files := replace place bytes s.files } := by
  simp only [write, Except.bind_eq_ok_iff, Except.ite_throw_eq_ok_iff, Bool.or_eq_true, not_or,
    Bool.not_eq_true]
  constructor
  · intro ⟨p, hp, place, hfollow, ⟨hslash, hdirectory⟩, hlong, h⟩
    exact ⟨place, ⟨p, hp, hslash, hfollow, hdirectory⟩, hlong, (Except.ok.inj h).symm⟩
  · rintro ⟨place, ⟨p, hp, hslash, hfollow, hdirectory⟩, hlong, rfl⟩
    exact ⟨p, hp, place, hfollow, ⟨hslash, hdirectory⟩, hlong, rfl⟩

/-- What was written is read back. -/
theorem read_of_write (h : s.write path bytes = .ok t) : t.read path = .ok bytes := by
  obtain ⟨place, hplace, -, rfl⟩ := write_eq_ok_iff.1 h
  exact read_eq_ok_iff.2
    ⟨place, hplace.withFiles _, lookup_replace_self place bytes s.files⟩

/-- A file that was not written reads as before. -/
theorem read_of_write_other {old : Bytes} (h : s.write path bytes = .ok t)
    (hother : ¬ s.SameFile other path) (hread : s.read other = .ok old) :
    t.read other = .ok old := by
  obtain ⟨place, hplace, -, rfl⟩ := write_eq_ok_iff.1 h
  obtain ⟨elsewhere, helsewhere, hfile⟩ := read_eq_ok_iff.1 hread
  have hne : elsewhere ≠ place := by
    intro heq
    exact hother ⟨place, heq ▸ helsewhere, hplace⟩
  refine read_eq_ok_iff.2 ⟨elsewhere, helsewhere.withFiles _, ?_⟩
  exact (lookup_replace_of_ne hne bytes s.files).trans hfile

end Store

/-! ## Plain names -/

/-- The name of something in the working directory. -/
structure Path.IsName (name : String) : Prop where
  no_slash : '/' ∉ name.toList
  ne_here : name ≠ "."
  ne_above : name ≠ ".."

theorem Path.pieces_of_no_slash : ∀ {cs : List Char}, '/' ∉ cs → Path.pieces cs = [cs]
  | [], _ => rfl
  | c :: cs, h => by
    simp only [List.mem_cons, not_or] at h
    have hcs : pieces cs = [cs] := pieces_of_no_slash h.2
    unfold pieces at hcs ⊢
    simp only [List.foldr_cons, hcs, if_neg (Ne.symm h.1)]

/-- A name is a path of one step. -/
theorem Path.IsName.names_eq {name : String} {p : Path} (h : IsName name)
    (hp : Path.ofText name = .ok p) : p.start = [] ∧ p.names = [name] := by
  simp only [ofText] at hp
  split at hp
  · cases hp
  split at hp
  · cases hp
  next hempty =>
  split at hp
  · cases hp
  have hhead : name.toList.head? ≠ some '/' := fun heq => h.no_slash (List.mem_of_head? heq)
  obtain rfl := Except.ok.inj hp
  refine ⟨if_neg hhead, ?_⟩
  simp only [pieces_of_no_slash h.no_slash]
  rw [List.filter_cons_of_pos (by simpa using hempty)]
  simp

namespace Store

variable {s : Store} {name name' : String} {place : Place}

/-- A name leads to the place that has it. -/
theorem LeadsTo.place_eq (h : s.LeadsTo name place) (hname : Path.IsName name) :
    place = [name] := by
  obtain ⟨p, hp, rfl⟩ := h.exists_place_eq
  obtain ⟨hstart, hnames⟩ := hname.names_eq hp
  rw [Path.place, hstart, hnames, List.foldl_cons, List.foldl_nil, Place.enter,
    if_neg hname.ne_here, if_neg hname.ne_above, List.nil_append]

/-- Two names of one file are one name. -/
theorem eq_of_sameFile_of_isName (h : s.SameFile name name') (hname : Path.IsName name)
    (hname' : Path.IsName name') : name = name' := by
  obtain ⟨place, hplace, hplace'⟩ := h
  have heq := (hplace.place_eq hname).symm.trans (hplace'.place_eq hname')
  simpa using heq

end Store

end FlashSeal

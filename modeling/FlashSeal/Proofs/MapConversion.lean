/-
FlashSeal.Proofs.MapConversion — which entries make a map, and what is wrong with those that do not.

What an entry means is told by itself, apart from how it is read: `AreaEntry.Gives` is the area that it
gives, field by field, and `AreaEntry.FieldFault` is the first of its fields that is wrong.  Behind other
entries only one thing more can be wrong with it, and that is its name (`AreaEntry.HasFault`).

Converting goes through the entries in their order and keeps the map of those that it has seen, and of
that map it looks at the names alone.  So it stops at the first entry with a fault, and with that fault
(`foldlM_insertEntry_eq_error_iff`).  Without one the map holds every entry's area under the entry's name
and nothing else, which leaves one map (`FlashMap.holds_iff_perm`), and validating it decides.
-/
import FlashSeal.MapFile.Form
import FlashSeal.Proofs.DefinitionOrder

namespace FlashSeal

variable {e : AreaEntry} {a b : Area} {n : UInt32} {err : EntryError} {m built : FlashMap}
  {entries : List AreaEntry} {areas : List Area} {taken : List String}

/-! ## Numbers -/

namespace RawNumber

/-- An integer stands for itself, and a text for what is read from it. -/
inductive Reads {ε : Type} (read : String → Except ε UInt32) : RawNumber → UInt32 → Prop
  | word (n : UInt32) : Reads read (.word n) n
  | text {s : String} {n : UInt32} (h : read s = .ok n) : Reads read (.text s) n

/-- Only a text can stand for nothing. -/
inductive Misreads {ε : Type} (read : String → Except ε UInt32) : RawNumber → ε → Prop
  | text {s : String} {reason : ε} (h : read s = .error reason) : Misreads read (.text s) reason

section

variable {ε : Type} {read : String → Except ε UInt32} {convert : RawNumber → Except ε UInt32}
  {raw : RawNumber} {reason : ε} (hword : ∀ n, convert (.word n) = .ok n)
  (htext : ∀ s, convert (.text s) = read s)
include hword htext

theorem convert_eq_ok_iff : convert raw = .ok n ↔ raw.Reads read n := by
  constructor
  · intro h
    cases raw with
    | word k =>
      obtain rfl := Except.ok.inj ((hword k).symm.trans h)
      exact .word k
    | text s => exact .text ((htext s).symm.trans h)
  · rintro (_ | h)
    · exact hword n
    · exact (htext _).trans h

theorem convert_eq_error_iff : convert raw = .error reason ↔ raw.Misreads read reason := by
  constructor
  · intro h
    cases raw with
    | word k => cases (hword k).symm.trans h
    | text s => exact .text ((htext s).symm.trans h)
  · rintro ⟨h⟩
    exact (htext _).trans h

end

variable {raw : RawNumber}

theorem number_eq_ok_iff : raw.number = .ok n ↔ raw.Reads readNumber n :=
  convert_eq_ok_iff (fun _ => rfl) fun _ => rfl

theorem number_eq_error_iff {reason : NumberError} :
    raw.number = .error reason ↔ raw.Misreads readNumber reason :=
  convert_eq_error_iff (fun _ => rfl) fun _ => rfl

theorem size_eq_ok_iff : raw.size = .ok n ↔ raw.Reads readSize n :=
  convert_eq_ok_iff (fun _ => rfl) fun _ => rfl

theorem size_eq_error_iff {reason : SizeError} :
    raw.size = .error reason ↔ raw.Misreads readSize reason :=
  convert_eq_error_iff (fun _ => rfl) fun _ => rfl

end RawNumber

/-! ## One entry -/

namespace AreaEntry

/-- The id that an entry names, or that its name stands for. -/
inductive HasId (e : AreaEntry) (id : UInt32) : Prop
  | named {raw : RawNumber} (hid : e.id? = some raw) (h : raw.Reads readNumber id)
  | system (hid : e.id? = none) (h : Area.systemId? e.name = some id)

/-- The device that an entry names, or 0. -/
inductive HasDevice (e : AreaEntry) : UInt32 → Prop
  | named {raw : RawNumber} {device : UInt32} (hdevice : e.device? = some raw)
      (h : raw.Reads readNumber device) : HasDevice e device
  | first (hdevice : e.device? = none) : HasDevice e 0

/-- The area that an entry gives. -/
structure Gives (e : AreaEntry) (a : Area) : Prop where
  name_eq : a.name = e.name
  hasId : e.HasId a.id
  hasDevice : e.HasDevice a.device
  offset_reads : e.offset.Reads readNumber a.offset
  size_reads : e.size.Reads readSize a.size

/-- The first field of an entry that is wrong, and how. -/
inductive FieldFault (e : AreaEntry) : EntryError → Prop
  | missingId (hid : e.id? = none) (h : Area.systemId? e.name = none) :
      FieldFault e (.missingId e.name)
  | id {raw : RawNumber} {reason : NumberError} (hid : e.id? = some raw)
      (h : raw.Misreads readNumber reason) : FieldFault e (.badNumber e.name .id reason)
  | device {id : UInt32} {raw : RawNumber} {reason : NumberError} (hid : e.HasId id)
      (hdevice : e.device? = some raw) (h : raw.Misreads readNumber reason) :
      FieldFault e (.badNumber e.name .device reason)
  | offset {id device : UInt32} {reason : NumberError} (hid : e.HasId id)
      (hdevice : e.HasDevice device) (h : e.offset.Misreads readNumber reason) :
      FieldFault e (.badNumber e.name .offset reason)
  | size {id device offset : UInt32} {reason : SizeError} (hid : e.HasId id)
      (hdevice : e.HasDevice device) (hoffset : e.offset.Reads readNumber offset)
      (h : e.size.Misreads readSize reason) : FieldFault e (.badSize e.name reason)

/-- What is wrong with an entry behind others that have taken these names. -/
inductive HasFault (taken : List String) (e : AreaEntry) : EntryError → Prop
  | field {err : EntryError} (h : e.FieldFault err) : HasFault taken e err
  | duplicate {a : Area} (h : e.Gives a) (htaken : e.name ∈ taken) :
      HasFault taken e (.map (.duplicateName e.name))

theorem id_eq_ok_iff : e.id = .ok n ↔ e.HasId n := by
  unfold id
  constructor
  · intro h
    split at h
    · next raw hraw =>
      exact .named hraw (RawNumber.number_eq_ok_iff.1 (Except.mapError_eq_ok_iff.1 h))
    next hraw =>
    split at h
    · next known hknown =>
      obtain rfl := Except.ok.inj h
      exact .system hraw hknown
    · cases h
  · rintro (⟨hraw, h⟩ | ⟨hraw, h⟩)
    · simp only [hraw, RawNumber.number_eq_ok_iff.2 h, Except.ok_mapError]
    · simp only [hraw, h]

theorem device_eq_ok_iff : e.device = .ok n ↔ e.HasDevice n := by
  unfold device
  constructor
  · intro h
    split at h
    · next raw hraw =>
      exact .named hraw (RawNumber.number_eq_ok_iff.1 (Except.mapError_eq_ok_iff.1 h))
    · next hraw =>
      obtain rfl := Except.ok.inj h
      exact .first hraw
  · rintro (⟨hraw, h⟩ | hraw)
    · simp only [hraw, RawNumber.number_eq_ok_iff.2 h, Except.ok_mapError]
    · simp only [hraw]

theorem id_eq_error_iff :
    e.id = .error err ↔
      (e.id? = none ∧ Area.systemId? e.name = none ∧ err = .missingId e.name) ∨
        ∃ raw reason, e.id? = some raw ∧ raw.Misreads readNumber reason ∧
          err = .badNumber e.name .id reason := by
  unfold id
  cases hraw : e.id? with
  | some raw => simp [Except.mapError_eq_error_iff, RawNumber.number_eq_error_iff, @eq_comm _ err]
  | none => cases hknown : Area.systemId? e.name <;> simp [eq_comm]

theorem device_eq_error_iff :
    e.device = .error err ↔
      ∃ raw reason, e.device? = some raw ∧ raw.Misreads readNumber reason ∧
        err = .badNumber e.name .device reason := by
  unfold device
  cases hraw : e.device? with
  | some raw => simp [Except.mapError_eq_error_iff, RawNumber.number_eq_error_iff, @eq_comm _ err]
  | none => simp

theorem area_eq_ok_iff : e.area = .ok a ↔ e.Gives a := by
  simp only [area, Except.bind_eq_ok_iff, Except.mapError_eq_ok_iff, id_eq_ok_iff,
    device_eq_ok_iff, RawNumber.number_eq_ok_iff, RawNumber.size_eq_ok_iff]
  constructor
  · rintro ⟨id, hid, device, hdevice, offset, hoffset, size, hsize, h⟩
    obtain rfl := Except.ok.inj h
    exact ⟨rfl, hid, hdevice, hoffset, hsize⟩
  · rintro ⟨hname, hid, hdevice, hoffset, hsize⟩
    refine ⟨_, hid, _, hdevice, _, hoffset, _, hsize, ?_⟩
    rw [← hname]
    rfl

theorem Gives.unique (ha : e.Gives a) (hb : e.Gives b) : a = b :=
  Except.ok.inj ((area_eq_ok_iff.2 ha).symm.trans (area_eq_ok_iff.2 hb))

/-- Reading an entry fails as its first field that is wrong. -/
theorem area_eq_error_iff : e.area = .error err ↔ e.FieldFault err := by
  simp only [area, Except.bind_eq_error_iff, Except.mapError_eq_error_iff,
    Except.mapError_eq_ok_iff, id_eq_ok_iff, id_eq_error_iff, device_eq_ok_iff,
    device_eq_error_iff, RawNumber.number_eq_ok_iff, RawNumber.number_eq_error_iff,
    RawNumber.size_eq_ok_iff, RawNumber.size_eq_error_iff]
  constructor
  · rintro ((⟨hid, h, rfl⟩ | ⟨raw, reason, hid, h, rfl⟩) | ⟨id, hid, hrest⟩)
    · exact .missingId hid h
    · exact .id hid h
    rcases hrest with ⟨raw, reason, hdevice, h, rfl⟩ | ⟨device, hdevice, hrest⟩
    · exact .device hid hdevice h
    rcases hrest with ⟨reason, h, rfl⟩ | ⟨offset, hoffset, hrest⟩
    · exact .offset hid hdevice h
    rcases hrest with ⟨reason, h, rfl⟩ | ⟨size, -, hdone⟩
    · exact .size hid hdevice hoffset h
    · cases hdone
  · intro h
    cases h with
    | missingId hid h => exact .inl (.inl ⟨hid, h, rfl⟩)
    | id hid h => exact .inl (.inr ⟨_, _, hid, h, rfl⟩)
    | device hid hdevice h => exact .inr ⟨_, hid, .inl ⟨_, _, hdevice, h, rfl⟩⟩
    | offset hid hdevice h => exact .inr ⟨_, hid, .inr ⟨_, hdevice, .inl ⟨_, h, rfl⟩⟩⟩
    | size hid hdevice hoffset h =>
      exact .inr ⟨_, hid, .inr ⟨_, hdevice, .inr ⟨_, hoffset, .inl ⟨_, h, rfl⟩⟩⟩⟩

end AreaEntry

/-- Inserting an entry fails with its fault behind the areas of the map. -/
theorem FlashMap.insertEntry_eq_error_iff :
    m.insertEntry e = .error err ↔ e.HasFault (m.areas.map Area.name) err := by
  simp only [insertEntry, Except.bind_eq_error_iff, Except.mapError_eq_error_iff,
    AreaEntry.area_eq_error_iff, AreaEntry.area_eq_ok_iff, insert_eq_error_iff]
  constructor
  · rintro (h | ⟨a, ha, fault, ⟨hname, rfl⟩, rfl⟩)
    · exact .field h
    · rw [ha.name_eq] at hname ⊢
      exact .duplicate ha hname
  · rintro (h | ⟨ha, hname⟩)
    · exact .inl h
    · rw [← ha.name_eq] at hname ⊢
      exact .inr ⟨_, ha, _, ⟨hname, rfl⟩, rfl⟩

/-! ## Entries one after another -/

/-- What is related to a list one by one has a partner for each member. -/
theorem exists_mem_of_forall₂ {α β : Type} {R : α → β → Prop} {xs : List α} {ys : List β} {x : α}
    (h : List.Forall₂ R xs ys) (hx : x ∈ xs) : ∃ y ∈ ys, R x y := by
  induction h with
  | nil => cases hx
  | cons hxy _ ih =>
    rcases List.mem_cons.1 hx with rfl | hx
    · exact ⟨_, List.mem_cons_self, hxy⟩
    · obtain ⟨y, hy, hxy⟩ := ih hx
      exact ⟨y, List.mem_cons_of_mem _ hy, hxy⟩

namespace AreaEntry

/-- Every entry gives an area, and the names differ. -/
structure FaultFree (entries : List AreaEntry) : Prop where
  exists_gives : ∀ e ∈ entries, ∃ a, e.Gives a
  names_differ : (entries.map AreaEntry.name).Nodup

/-- The fault of the first entry that has one: those in front of it have none. -/
def FirstFault (entries : List AreaEntry) (err : EntryError) : Prop :=
  ∃ front e back, entries = front ++ e :: back ∧ FaultFree front ∧
    e.HasFault (front.map AreaEntry.name) err

/-- In which order the names were taken does not matter. -/
theorem HasFault.of_perm {others : List String} (h : e.HasFault taken err)
    (hperm : taken.Perm others) : e.HasFault others err := by
  cases h with
  | field h => exact .field h
  | duplicate h htaken => exact .duplicate h (hperm.mem_iff.1 htaken)

theorem map_name_of_gives (h : List.Forall₂ Gives entries areas) :
    areas.map Area.name = entries.map AreaEntry.name := by
  induction h with
  | nil => rfl
  | cons hgives _ ih => rw [List.map_cons, List.map_cons, hgives.name_eq, ih]

theorem exists_forall₂_gives (h : ∀ e ∈ entries, ∃ a, e.Gives a) :
    ∃ areas, List.Forall₂ Gives entries areas := by
  induction entries with
  | nil => exact ⟨[], .nil⟩
  | cons e entries ih =>
    obtain ⟨⟨a, ha⟩, hrest⟩ := List.forall_mem_cons.1 h
    obtain ⟨areas, hareas⟩ := ih hrest
    exact ⟨a :: areas, .cons ha hareas⟩

/-- Entries without a fault have their areas, one for each and under different names. -/
theorem faultFree_iff :
    FaultFree entries ↔
      ∃ areas, List.Forall₂ Gives entries areas ∧ (areas.map Area.name).Nodup := by
  constructor
  · intro ⟨hgives, hnodup⟩
    obtain ⟨areas, hareas⟩ := exists_forall₂_gives hgives
    exact ⟨areas, hareas, by rwa [map_name_of_gives hareas]⟩
  · intro ⟨areas, hareas, hnodup⟩
    rw [map_name_of_gives hareas] at hnodup
    refine ⟨fun e he => ?_, hnodup⟩
    obtain ⟨a, -, ha⟩ := exists_mem_of_forall₂ hareas he
    exact ⟨a, ha⟩

end AreaEntry

namespace FlashMap

open AreaEntry

/-- The map holds the area of each entry under the entry's name, and no other. -/
structure Holds (m : FlashMap) (entries : List AreaEntry) : Prop where
  size_eq : m.size = entries.length
  exists_get? : ∀ e ∈ entries, ∃ a, e.Gives a ∧ m.get? e.name = some a

/-- To hold the entries is to consist of their areas. -/
theorem holds_iff_perm (hareas : List.Forall₂ Gives entries areas)
    (hnodup : (areas.map Area.name).Nodup) : m.Holds entries ↔ m.areas.Perm areas := by
  constructor
  · intro h
    -- There are as many areas as entries, so the map has no other if it has theirs.
    have hsubset : areas ⊆ m.areas := by
      intro a ha
      obtain ⟨e, he, hgives⟩ := exists_mem_of_forall₂ hareas.flip ha
      obtain ⟨held, hheld, hget⟩ := h.exists_get? e he
      obtain rfl := hheld.unique hgives
      exact (get?_eq_some_iff.1 hget).1
    have hlength : m.areas.length ≤ areas.length := by
      rw [← hareas.length_eq, ← h.size_eq]
      rfl
    exact ((List.subperm_of_subset (hnodup.of_map _) hsubset).perm_of_length_le hlength).symm
  · intro hperm
    refine ⟨hperm.length_eq.trans hareas.length_eq.symm, ?_⟩
    intro e he
    obtain ⟨a, ha, hgives⟩ := exists_mem_of_forall₂ hareas he
    exact ⟨a, hgives, get?_eq_some_iff.2 ⟨hperm.mem_iff.2 ha, hgives.name_eq⟩⟩

/-- Inserting entries one after another succeeds exactly when none has a fault, and gives the map that
holds them. -/
theorem foldlM_insertEntry_eq_ok_iff_holds {name : Option String} :
    entries.foldlM insertEntry { FlashMap.empty with name := name } = .ok built ↔
      FaultFree entries ∧ built.name = name ∧ built.Holds entries := by
  rw [foldlM_insertEntry_eq_ok_iff, faultFree_iff]
  simp only [area_eq_ok_iff, foldlM_insert_eq_ok_iff]
  constructor
  · rintro ⟨areas, hareas, hnodup, hname, hperm⟩
    exact ⟨⟨areas, hareas, hnodup⟩, hname, (holds_iff_perm hareas hnodup).2 hperm⟩
  · rintro ⟨⟨areas, hareas, hnodup⟩, hname, hholds⟩
    exact ⟨areas, hareas, hnodup, hname, (holds_iff_perm hareas hnodup).1 hholds⟩

/-- Entries without a fault are held by one map of this name. -/
theorem exists_holds (name : Option String) (h : FaultFree entries) :
    ∃ m : FlashMap, m.name = name ∧ m.Holds entries ∧
      ∀ other : FlashMap, other.name = name → other.Holds entries → other = m := by
  obtain ⟨areas, hareas, hnodup⟩ := faultFree_iff.1 h
  obtain ⟨m, hm⟩ := exists_foldlM_insert (m := { FlashMap.empty with name := name }) hnodup
  obtain ⟨-, hname, hperm⟩ := foldlM_insert_eq_ok_iff.1 hm
  refine ⟨m, hname, (holds_iff_perm hareas hnodup).2 hperm, ?_⟩
  intro other hother hholds
  have hsame := (holds_iff_perm hareas hnodup).1 hholds
  exact ext_of_perm (hother.trans hname.symm) (hsame.trans hperm.symm)

/-- The names of the map are the names of the entries that it holds. -/
theorem Holds.perm_names (h : m.Holds entries) (hfree : FaultFree entries) :
    (m.areas.map Area.name).Perm (entries.map AreaEntry.name) := by
  obtain ⟨areas, hareas, hnodup⟩ := faultFree_iff.1 hfree
  rw [← map_name_of_gives hareas]
  exact ((holds_iff_perm hareas hnodup).1 h).map Area.name

/-- Inserting entries one after another fails exactly as the first entry with a fault. -/
theorem foldlM_insertEntry_eq_error_iff {name : Option String} :
    entries.foldlM insertEntry { FlashMap.empty with name := name } = .error err ↔
      FirstFault entries err := by
  rw [Except.foldlM_eq_error_iff]
  constructor
  · rintro ⟨front, e, back, seen, rfl, hfront, he⟩
    obtain ⟨hfree, -, hholds⟩ := foldlM_insertEntry_eq_ok_iff_holds.1 hfront
    have hfault := insertEntry_eq_error_iff.1 he
    exact ⟨front, e, back, rfl, hfree, hfault.of_perm (hholds.perm_names hfree)⟩
  · rintro ⟨front, e, back, rfl, hfree, hfault⟩
    obtain ⟨seen, hname, hholds, -⟩ := exists_holds name hfree
    have hfront := foldlM_insertEntry_eq_ok_iff_holds.2 ⟨hfree, hname, hholds⟩
    have he := insertEntry_eq_error_iff.2 (hfault.of_perm (hholds.perm_names hfree).symm)
    exact ⟨front, e, back, seen, rfl, hfront, he⟩

end FlashMap

/-! ## The whole file -/

namespace MapFile

open AreaEntry

variable {name : Option String}

theorem flashMap_eq_ok_iff_holds :
    flashMap ⟨name, entries⟩ = .ok m ↔
      FaultFree entries ∧ m.name = name ∧ m.Holds entries ∧ m.validate = .ok () := by
  simp only [flashMap, Except.bind_eq_ok_iff, Except.mapError_eq_ok_iff,
    FlashMap.foldlM_insertEntry_eq_ok_iff_holds]
  constructor
  · rintro ⟨built, ⟨hfree, hname, hholds⟩, ⟨⟩, hvalid, h⟩
    obtain rfl := Except.ok.inj h
    exact ⟨hfree, hname, hholds, hvalid⟩
  · rintro ⟨hfree, hname, hholds, hvalid⟩
    exact ⟨m, ⟨hfree, hname, hholds⟩, (), hvalid, rfl⟩

theorem flashMap_eq_error_iff :
    flashMap ⟨name, entries⟩ = .error err ↔
      FirstFault entries err ∨
        ∃ (m : FlashMap) (fault : MapError), FaultFree entries ∧ m.name = name ∧ m.Holds entries ∧
          m.validate = .error fault ∧ err = .map fault := by
  simp only [flashMap, Except.bind_eq_error_iff, Except.mapError_eq_error_iff,
    FlashMap.foldlM_insertEntry_eq_ok_iff_holds, FlashMap.foldlM_insertEntry_eq_error_iff]
  constructor
  · rintro (h | ⟨m, ⟨hfree, hname, hholds⟩, ⟨fault, hvalid, rfl⟩ | ⟨⟨⟩, -, hdone⟩⟩)
    · exact .inl h
    · exact .inr ⟨m, fault, hfree, hname, hholds, hvalid, rfl⟩
    · cases hdone
  · rintro (h | ⟨m, fault, hfree, hname, hholds, hvalid, rfl⟩)
    · exact .inl h
    · exact .inr ⟨m, ⟨hfree, hname, hholds⟩, .inl ⟨fault, hvalid, rfl⟩⟩

/-- Entries make a map exactly when each gives an area, the names differ and the one map that holds
them is accepted.  Else the fault is that of the first entry that has one, and of its fields in their
order and its name it is the first that is wrong; only if none has a fault it is what validating finds.
A text makes what its entries make, whatever reads it. -/
theorem conversion_exact (name : Option String) (entries : List AreaEntry) :
    (∀ m, flashMap ⟨name, entries⟩ = .ok m ↔
      FaultFree entries ∧ m.name = name ∧ m.Holds entries ∧ m.validate = .ok ()) ∧
    (FaultFree entries → ∃ m : FlashMap, m.name = name ∧ m.Holds entries ∧
      ∀ other : FlashMap, other.name = name → other.Holds entries → other = m) ∧
    (∀ err, flashMap ⟨name, entries⟩ = .error err ↔
      FirstFault entries err ∨
        ∃ (m : FlashMap) (fault : MapError), FaultFree entries ∧ m.name = name ∧ m.Holds entries ∧
          m.validate = .error fault ∧ err = .map fault) ∧
    (∀ text document?, MapFile.ofText text document? = .ok ⟨name, entries⟩ →
      FlashMap.ofText text document? = (flashMap ⟨name, entries⟩).mapError .entry) := by
  refine ⟨fun m => flashMap_eq_ok_iff_holds, FlashMap.exists_holds name,
    fun err => flashMap_eq_error_iff, ?_⟩
  intro text document? htext
  rw [FlashMap.ofText, htext]
  rfl

/-- A map file whose second area has a device and a size that are none, and whose third has no id. -/
def faultyText : String :=
  "[[area]]\nname=\"A\"\nid=1\noffset=0\nsize=\"0x400\"\n" ++
  "[[area]]\nname=\"B\"\nid=2\ndevice=\"0x\"\noffset=0\nsize=\"some\"\n" ++
  "[[area]]\nname=\"C\"\noffset=0\nsize=4\n"

def faultyEntries : List AreaEntry :=
  [⟨"A", some (.word 1), none, .word 0, .text "0x400"⟩,
    ⟨"B", some (.word 2), some (.text "0x"), .word 0, .text "some"⟩,
    ⟨"C", none, none, .word 0, .word 4⟩]

theorem conversion_exact_faultyEntries :
    (bootEntriesMap.Holds bootEntries ∧
      ∀ other : FlashMap, other.name = none → other.Holds bootEntries → other = bootEntriesMap) ∧
    flashMap ⟨none, faultyEntries⟩ = .error (.badNumber "B" .device (.badHex .empty)) ∧
    FlashMap.ofText faultyText = .error (.entry (.badNumber "B" .device (.badHex .empty))) := by
  obtain ⟨hboot, hone, -, -⟩ := conversion_exact none bootEntries
  obtain ⟨hfree, hname, hholds, -⟩ := (hboot bootEntriesMap).1 flashMap_bootEntries
  obtain ⟨m, -, -, hunique⟩ := hone hfree
  obtain rfl := hunique bootEntriesMap hname hholds
  obtain ⟨-, -, hfault, htext⟩ := conversion_exact none faultyEntries
  have hfront : FaultFree (faultyEntries.take 1) :=
    faultFree_iff.2 ⟨[⟨"A", 1, 0, 0, 1024⟩],
      .cons ⟨rfl, .named rfl (.word 1), .first rfl, .word 0, .text rfl⟩ .nil, by decide⟩
  have hdevice : faultyEntries[1].FieldFault (.badNumber "B" .device (.badHex .empty)) :=
    .device (.named rfl (.word 2)) rfl (.text rfl)
  have herror := (hfault _).2 (.inl ⟨_, _, faultyEntries.drop 2, rfl, hfront, .field hdevice⟩)
  have hfile : MapFile.ofText faultyText = .ok ⟨none, faultyEntries⟩ := by decide +kernel
  refine ⟨⟨hholds, hunique⟩, herror, ?_⟩
  rw [htext _ _ hfile, herror]
  rfl

end MapFile

end FlashSeal

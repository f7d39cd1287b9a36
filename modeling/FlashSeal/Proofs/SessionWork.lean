/-
FlashSeal.Proofs.SessionWork — the outcome and the progress of each step of a command.

A step starts with the progress of the steps before it (`Session.resume`), and `resume_bind` runs one
step after another, so each step of a command gets one equation.

Most steps are `Quiet`: what they give depends on the store alone, they leave the store as it is, print
nothing and at most report events.  A quiet step can be looked at by itself, from the store as it
stands and without what was printed before.  Loading a map and locating a region are quiet, so commands
that begin with them differ only in what they do afterwards.

The reader of documents is an arbitrary function throughout.
-/
import FlashSeal.Command.Inspect
import FlashSeal.Proofs.Outcome

namespace FlashSeal

namespace Session

open Toml

variable {α β ε : Type} {document? : String → Option Entries}

/-! ## Running the steps of a command -/

/-- The outcome of a session that starts with some progress made, and the progress after it. -/
def resume (session : Session α) (p : Progress) : Except CommandError α × Progress :=
  Work.on session p

theorem on_eq_resume (session : Session α) (store : Store) :
    session.on store = session.resume { store } := rfl

/-- A failure ends the session and leaves the progress of the step that failed. -/
theorem resume_bind (session : Session α) (next : α → Session β) (p : Progress) :
    (session >>= next).resume p =
      match session.resume p with
      | (.ok a, q) => (next a).resume q
      | (.error e, q) => (.error e, q) := by
  simp only [resume, Work.on_bind]
  rcases Work.on session p with ⟨a | e, q⟩ <;> rfl

theorem resume_pure (a : α) (p : Progress) : (pure a : Session α).resume p = (.ok a, p) := rfl

theorem resume_throw (e : CommandError) (p : Progress) :
    (throw e : Session α).resume p = (.error e, p) := rfl

theorem resume_get (p : Progress) : (get : Session Progress).resume p = (.ok p, p) := rfl

theorem resume_print (lines : List String) (p : Progress) :
    (print lines).resume p = (.ok (), { p with lines := p.lines ++ lines }) := rfl

theorem resume_report (events : List Event) (p : Progress) :
    (report events).resume p = (.ok (), { p with events := p.events ++ events }) := rfl

theorem resume_require (fault : ε → CommandError) (x : Except ε α) (p : Progress) :
    (require fault x).resume p = (x.mapError fault, p) := by
  cases x <;> rfl

theorem resume_readImage (path : String) (p : Progress) :
    (readImage path).resume p = ((p.store.read path).mapError .file, p) := by
  simp only [readImage, resume_bind, resume_get, resume_require]

theorem resume_writeImage (path : String) (image : Bytes) (p : Progress) :
    (writeImage path image).resume p =
      match p.store.write path image with
      | .ok store => (.ok (), { p with store })
      | .error e => (.error (.file e), p) := by
  simp only [writeImage, resume_bind, resume_get, resume_require]
  cases p.store.write path image <;> rfl

/-! ## Quiet steps -/

/-- What the session gives depends on the store alone, and all that it leaves behind is events. -/
def Quiet (session : Session α) : Prop :=
  ∀ p : Progress, ∃ events,
    session.resume p = ((session.on p.store).1, { p with events := p.events ++ events })

theorem quiet_pure (a : α) : Quiet (pure a : Session α) :=
  fun p => ⟨[], by simp [on_eq_resume, resume_pure]⟩

theorem quiet_throw (e : CommandError) : Quiet (throw e : Session α) :=
  fun p => ⟨[], by simp [on_eq_resume, resume_throw]⟩

theorem quiet_report (events : List Event) : Quiet (report events) :=
  fun _ => ⟨events, rfl⟩

theorem quiet_require (fault : ε → CommandError) (x : Except ε α) : Quiet (require fault x) :=
  fun p => ⟨[], by simp [on_eq_resume, resume_require]⟩

theorem Quiet.bind {session : Session α} {next : α → Session β} (h : Quiet session)
    (hnext : ∀ a, Quiet (next a)) : Quiet (session >>= next) := by
  intro p
  obtain ⟨events, hp⟩ := h p
  obtain ⟨alone, hs⟩ := h { store := p.store }
  generalize (session.on p.store).1 = outcome at hp hs
  simp only [on_eq_resume, resume_bind, hp, hs]
  cases outcome with
  | error e => exact ⟨events, rfl⟩
  | ok a =>
    obtain ⟨more, hmore⟩ := hnext a { p with events := p.events ++ events }
    obtain ⟨rest, hrest⟩ := hnext a { store := p.store, events := alone }
    refine ⟨events ++ more, ?_⟩
    simp only [hmore, List.nil_append, hrest, List.append_assoc]

/-- A step that looks at the progress is quiet if it looks at the store alone. -/
theorem quiet_get_bind {next : Progress → Session α} (h : ∀ p, Quiet (next p))
    (hstore : ∀ p q : Progress, p.store = q.store → next p = next q) :
    Quiet (get >>= next) := by
  intro p
  obtain ⟨events, hp⟩ := h p p
  refine ⟨events, ?_⟩
  rw [on_eq_resume, resume_bind, resume_bind]
  simp only [resume_get]
  rw [← hstore p { store := p.store } rfl]
  exact hp

theorem quiet_readImage (path : String) : Quiet (readImage path) :=
  quiet_get_bind (fun p => quiet_require .file (p.store.read path)) (fun p q h => by rw [h])

theorem quiet_loadMap (path : String) : Quiet (loadMap path document?) := by
  refine quiet_get_bind (fun p => ?_) (fun p q h => by rw [h])
  refine (quiet_require (.mapUnreadable path) (p.store.read path)).bind fun bytes => ?_
  split
  · exact quiet_throw _
  · exact (quiet_report _).bind fun _ => quiet_require _ _

theorem quiet_locate (image : Bytes) (mapPath : Option String) :
    Quiet (locate image mapPath document?) := by
  cases mapPath with
  | none => exact (quiet_report _).bind fun _ => (quiet_report _).bind fun _ => quiet_require _ _
  | some path =>
    exact (quiet_loadMap path).bind fun m => (quiet_report _).bind fun _ => quiet_require _ _

/-- A quiet session by itself leaves events and nothing else. -/
theorem Quiet.exists_on {session : Session α} (h : Quiet session) (store : Store) :
    ∃ events, session.on store = ((session.on store).1, ⟨store, [], events⟩) := by
  obtain ⟨events, hp⟩ := h { store }
  exact ⟨events, hp⟩

/-! ## The outcome of quiet steps -/

variable {store : Store}

/-- After a quiet step the next one starts as if it were the first. -/
theorem Quiet.on_bind {session : Session α} {next : α → Session β} (h : Quiet session)
    (hnext : ∀ a, Quiet (next a)) :
    ((session >>= next).on store).1 = (session.on store).1 >>= fun a => ((next a).on store).1 := by
  obtain ⟨events, hp⟩ := h.exists_on store
  generalize (session.on store).1 = outcome at hp
  rw [on_eq_resume] at hp
  rw [on_eq_resume, resume_bind, hp]
  cases outcome with
  | error e => rfl
  | ok a =>
    obtain ⟨more, hmore⟩ := hnext a ⟨store, [], events⟩
    simp only [hmore]
    rfl

/-- A session that begins quietly fails where the beginning does, and then it has printed nothing. -/
theorem Quiet.exists_bind_on_of_error {session : Session α} {next : α → Session β} {e : CommandError}
    (h : Quiet session) (he : (session.on store).1 = .error e) :
    ∃ events, (session >>= next).on store = (.error e, ⟨store, [], events⟩) := by
  obtain ⟨events, hon⟩ := h.exists_on store
  refine ⟨events, ?_⟩
  rw [he, on_eq_resume] at hon
  rw [on_eq_resume, resume_bind, hon]

/-- A session that begins quietly goes on with the store as it was and nothing printed. -/
theorem Quiet.exists_bind_on_of_ok {session : Session α} {next : α → Session β} {a : α}
    (h : Quiet session) (ha : (session.on store).1 = .ok a) :
    ∃ events, (session >>= next).on store = (next a).resume ⟨store, [], events⟩ := by
  obtain ⟨events, hon⟩ := h.exists_on store
  refine ⟨events, ?_⟩
  rw [ha, on_eq_resume] at hon
  rw [on_eq_resume, resume_bind, hon]

theorem on_readImage (path : String) :
    ((readImage path).on store).1 = (store.read path).mapError .file := by
  rw [on_eq_resume, resume_readImage]

theorem on_loadMap (path : String) :
    ((loadMap path document?).on store).1 =
      (store.read path).mapError (CommandError.mapUnreadable path) >>= fun bytes =>
        match String.fromUTF8? (ByteArray.mk bytes.toArray) with
        | none => .error (.mapNoText path)
        | some text => (FlashMap.ofText text document?).mapError .map := by
  simp only [on_eq_resume, loadMap, resume_bind, resume_get, resume_require]
  cases store.read path with
  | error e => rfl
  | ok bytes =>
    simp only [Except.ok_mapError, Except.ok_bind]
    cases String.fromUTF8? (ByteArray.mk bytes.toArray) with
    | none => rfl
    | some text => simp only [resume_bind, resume_report, resume_require]

/-- A file that holds a text gives the map of the text. -/
theorem on_loadMap_of_text {path text : String} (h : store.read path = .ok text.toUTF8.data.toList) :
    ((loadMap path document?).on store).1 = (FlashMap.ofText text document?).mapError .map := by
  have hvalid : text.toUTF8.IsValidUTF8 := text.isValidUTF8
  have htext : String.fromUTF8? (ByteArray.mk text.toUTF8.data.toList.toArray) = some text := by
    rw [Array.toArray_toList]
    exact dif_pos hvalid
  rw [on_loadMap, h]
  simp only [Except.ok_mapError, Except.ok_bind, htext]

theorem on_locate_some (image : Bytes) (path : String) :
    ((locate image (some path) document?).on store).1 =
      ((loadMap path document?).on store).1 >>= fun m => (Region.read image m).mapError .region := by
  rw [locate, (quiet_loadMap path).on_bind fun m => (quiet_report _).bind fun _ => quiet_require _ _]
  simp only [on_eq_resume, resume_bind, resume_report, resume_require]

theorem on_locate_none (image : Bytes) :
    ((locate image none document?).on store).1 = (Region.find image).mapError .region := by
  simp only [on_eq_resume, locate, resume_bind, resume_report, resume_require]

/-- Loading a map looks at the map file alone. -/
theorem on_loadMap_congr {other : Store} {path : String} (h : store.read path = other.read path) :
    ((loadMap path document?).on store).1 = ((loadMap path document?).on other).1 := by
  rw [on_loadMap, on_loadMap, h]

end Session

end FlashSeal

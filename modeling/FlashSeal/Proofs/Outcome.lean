/-
FlashSeal.Proofs.Outcome — the outcome of steps that may fail, taken apart.

A step behind another is looked at only through these: the two succeed together exactly when the
first gives a value and the second succeeds on it, and they fail exactly when one of them does.
Steps along a list fail as the first of them that fails (`mapM_eq_error_iff`,
`foldlM_eq_error_iff`).
-/

namespace Except

variable {ε ε' α β : Type} {x : Except ε α} {f : α → Except ε β}

theorem ok_bind (a : α) : (Except.ok a >>= f) = f a := rfl

theorem ok_mapError (g : ε → ε') (a : α) : (Except.ok a).mapError g = .ok a := rfl

theorem error_mapError (g : ε → ε') (e : ε) :
    (Except.error e : Except ε α).mapError g = .error (g e) := rfl

theorem bind_eq_ok_iff {b : β} : (x >>= f) = .ok b ↔ ∃ a, x = .ok a ∧ f a = .ok b := by
  cases x <;> simp [bind, Except.bind]

theorem bind_eq_error_iff {e : ε} :
    (x >>= f) = .error e ↔ x = .error e ∨ ∃ a, x = .ok a ∧ f a = .error e := by
  cases x <;> simp [bind, Except.bind]

/-- A step that refuses in one case succeeds exactly in the other, if what follows does. -/
theorem ite_throw_eq_ok_iff {c : Prop} [Decidable c] {e : ε} {y : Except ε β} {b : β} :
    (if c then throw e >>= f else y) = .ok b ↔ ¬ c ∧ y = .ok b := by
  by_cases h : c <;> simp [h, throw, throwThe, MonadExceptOf.throw, bind, Except.bind]

theorem mapError_eq_error_iff {g : ε → ε'} {e' : ε'} :
    x.mapError g = .error e' ↔ ∃ e, x = .error e ∧ g e = e' := by
  cases x with
  | error e => simp [error_mapError]
  | ok b => simp [ok_mapError]

theorem mapError_eq_ok_iff {g : ε → ε'} {a : α} : x.mapError g = .ok a ↔ x = .ok a := by
  cases x with
  | error e => simp [error_mapError]
  | ok b => simp [ok_mapError]

/-- Steps along a list fail exactly as the first that fails. -/
theorem mapM_eq_error_iff {xs : List α} {e : ε} :
    xs.mapM f = .error e ↔
      ∃ front x back, xs = front ++ x :: back ∧ (∀ y ∈ front, ∃ b, f y = .ok b) ∧
        f x = .error e := by
  induction xs with
  | nil => simp [pure, Except.pure]
  | cons x xs ih =>
    rw [List.mapM_cons, bind_eq_error_iff]
    constructor
    · rintro (hx | ⟨b, hb, hrest⟩)
      · exact ⟨[], x, xs, rfl, by simp, hx⟩
      · rcases bind_eq_error_iff.1 hrest with hxs | ⟨bs, -, hdone⟩
        · obtain ⟨front, y, back, rfl, hfront, hy⟩ := ih.1 hxs
          exact ⟨x :: front, y, back, rfl, List.forall_mem_cons.2 ⟨⟨b, hb⟩, hfront⟩, hy⟩
        · cases hdone
    · rintro ⟨front, y, back, hxs, hfront, hy⟩
      cases front with
      | nil =>
        obtain ⟨rfl, rfl⟩ := List.cons.inj hxs
        exact .inl hy
      | cons z front =>
        obtain ⟨rfl, rfl⟩ := List.cons.inj hxs
        obtain ⟨⟨b, hb⟩, hfront⟩ := List.forall_mem_cons.1 hfront
        have hrest := ih.2 ⟨front, y, back, rfl, hfront, hy⟩
        exact .inr ⟨b, hb, bind_eq_error_iff.2 (.inl hrest)⟩

/-- A fold fails as the first step that fails, on what the steps in front of it gave. -/
theorem foldlM_eq_error_iff {g : β → α → Except ε β} {b : β} {xs : List α} {e : ε} :
    xs.foldlM g b = .error e ↔
      ∃ front x back c, xs = front ++ x :: back ∧ front.foldlM g b = .ok c ∧ g c x = .error e := by
  induction xs generalizing b with
  | nil => simp [pure, Except.pure]
  | cons x xs ih =>
    rw [List.foldlM_cons, bind_eq_error_iff]
    constructor
    · rintro (hx | ⟨c, hc, hrest⟩)
      · exact ⟨[], x, xs, b, rfl, rfl, hx⟩
      · obtain ⟨front, y, back, d, rfl, hfront, hy⟩ := ih.1 hrest
        refine ⟨x :: front, y, back, d, rfl, ?_, hy⟩
        rw [List.foldlM_cons, hc, ok_bind, hfront]
    · rintro ⟨front, y, back, c, hxs, hfront, hy⟩
      cases front with
      | nil =>
        obtain ⟨rfl, rfl⟩ := List.cons.inj hxs
        obtain rfl := Except.ok.inj hfront
        exact .inl hy
      | cons z front =>
        obtain ⟨rfl, rfl⟩ := List.cons.inj hxs
        rw [List.foldlM_cons, bind_eq_ok_iff] at hfront
        obtain ⟨d, hd, hfront⟩ := hfront
        exact .inr ⟨d, hd, ih.2 ⟨front, y, back, c, rfl, hfront, hy⟩⟩

end Except

/-
FlashSeal.Work — work on a state, which may fail and always leaves a state behind.

A map takes areas in, an image is sealed, a command goes its course: each is work on a state, step by
step.  A step that fails ends the work, and what is left is what the steps before it and the step
itself left.  So what a failure changes is a fact about the work, never a rule of its own.
-/

namespace FlashSeal

/-- Work on a state, which may fail and always leaves a state. -/
abbrev Work (σ ε : Type) := ExceptT ε (StateM σ)

namespace Work

variable {σ ε α β : Type}

/-- The outcome of work on a state, and the state it leaves. -/
def on (work : Work σ ε α) (s : σ) : Except ε α × σ := StateT.run (ExceptT.run work) s

/-- Work that only looks at its arguments. -/
def ofExcept : Except ε α → Work σ ε α
  | .ok a => pure a
  | .error e => throw e

/-! ## Running the steps -/

/-- A failure ends the work and leaves the state of the step that failed. -/
theorem on_bind (work : Work σ ε α) (next : α → Work σ ε β) (s : σ) :
    (work >>= next).on s =
      match work.on s with
      | (.ok a, left) => (next a).on left
      | (.error e, left) => (.error e, left) := by
  simp only [on, ExceptT.run_bind, StateT.run_bind]
  rcases StateT.run (ExceptT.run work) s with ⟨a | e, left⟩ <;> rfl

theorem on_pure (a : α) (s : σ) : (pure a : Work σ ε α).on s = (.ok a, s) := rfl

theorem on_throw (e : ε) (s : σ) : (throw e : Work σ ε α).on s = (.error e, s) := rfl

theorem on_get (s : σ) : (get : Work σ ε σ).on s = (.ok s, s) := rfl

theorem on_set (new s : σ) : (set new : Work σ ε PUnit).on s = (.ok ⟨⟩, new) := rfl

theorem on_modify (f : σ → σ) (s : σ) : (modify f : Work σ ε PUnit).on s = (.ok ⟨⟩, f s) := rfl

/-- Work that only looks at its arguments leaves the state alone. -/
theorem on_ofExcept (x : Except ε α) (s : σ) : (ofExcept x).on s = (x, s) := by
  cases x <;> rfl

end Work

end FlashSeal

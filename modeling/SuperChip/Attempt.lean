/-!
# Attempts

An attempt is an operation on a thing that can change, and it may fail on its way. What it changed
until then stays changed: a failure gives nothing back, so that nothing is taken back either.

- `Attempt`: an operation that reads and changes a thing and may fail.
- `Attempt.on`: what comes of it, the answer or the failure together with the thing as it is left.
- `Attempt.bind_of_ok`, `bind_of_error`: two attempts in a row; `on_pure` and the others beside it
  say what the single steps do.
-/

namespace SuperChip

/-- An operation on a thing of `σ` that answers with an `α` or fails with an `ε`. -/
abbrev Attempt (ε σ α : Type) := ExceptT ε (StateM σ) α

namespace Attempt

variable {ε σ α β : Type} {x : Attempt ε σ α} {f : α → Attempt ε σ β} {s t : σ} {a : α} {e : ε}

/-- The answer or the failure, and the thing as it is left. -/
def on (x : Attempt ε σ α) (s : σ) : Except ε α × σ := StateT.run (ExceptT.run x) s

/-- An attempt that has its result already. -/
def ofExcept (r : Except ε α) : Attempt ε σ α :=
  match r with
  | .ok a => pure a
  | .error e => throw e

/-- An attempt whose failure is an answer like any other. -/
def caught (x : Attempt ε σ α) : Attempt ε σ (Except ε α) :=
  ExceptT.mk do
    let r ← ExceptT.run x
    pure (.ok r)

/-- An answer of its own leaves the state alone. -/
@[simp] theorem on_pure (a : α) (s : σ) : (pure a : Attempt ε σ α).on s = (.ok a, s) := rfl

/-- So does a failure of its own. -/
@[simp] theorem on_throw (e : ε) (s : σ) : (throw e : Attempt ε σ α).on s = (.error e, s) := rfl

@[simp] theorem on_get (s : σ) : (get : Attempt ε σ σ).on s = (.ok s, s) := rfl

@[simp] theorem on_set (s t : σ) : (set t : Attempt ε σ PUnit).on s = (.ok ⟨⟩, t) := rfl

/-- A change of the state always goes well. -/
@[simp] theorem on_modify (g : σ → σ) (s : σ) :
    (modify g : Attempt ε σ PUnit).on s = (.ok ⟨⟩, g s) := rfl

@[simp] theorem on_ofExcept (r : Except ε α) (s : σ) : (ofExcept r).on s = (r, s) := by
  cases r <;> rfl

/-- The next attempt begins with what the first one leaves. -/
theorem on_bind (x : Attempt ε σ α) (f : α → Attempt ε σ β) (s : σ) :
    (x >>= f).on s =
      match x.on s with
      | (.ok a, t) => (f a).on t
      | (.error e, t) => (.error e, t) := by
  show ExceptT.bindCont f (x.on s).1 (x.on s).2 = _
  rcases x.on s with ⟨_ | _, t⟩ <;> rfl

/-- After an operation that goes well the next one finds what it left behind. -/
theorem bind_of_ok (h : x.on s = (.ok a, t)) : (x >>= f).on s = (f a).on t := by
  rw [on_bind, h]

/-- After a failure nothing else is done. -/
theorem bind_of_error (h : x.on s = (.error e, t)) : (x >>= f).on s = (.error e, t) := by
  rw [on_bind, h]

/-- An operation whose failure is caught leaves behind what it left behind with the failure. -/
@[simp] theorem on_caught (x : Attempt ε σ α) (s : σ) :
    (caught x).on s = (.ok (x.on s).1, (x.on s).2) := rfl

end Attempt

end SuperChip

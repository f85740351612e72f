import Remedy.Failure

/-!
# Actions

An action works on a state and may fail. What it did to the state before it failed is kept, because
files that were written and lines that were printed stay when a command ends early.
-/

namespace Remedy

/-- An action on a state that gives a result or fails, and always leaves a state. -/
abbrev Action (σ α : Type) := ExceptT Failure (StateM σ) α

namespace Action

/-- Runs an action from a state. -/
def exec {σ α : Type} (a : Action σ α) (s : σ) : Outcome α × σ :=
  (ExceptT.run a).run s

/-- The action with a given meaning. -/
def ofExec {σ α : Type} (f : σ → Outcome α × σ) : Action σ α :=
  ExceptT.mk (StateT.mk fun s => pure (f s))

/-- A result or failure that is known already. -/
def ofOutcome {σ α : Type} (o : Outcome α) : Action σ α :=
  ofExec fun s => (o, s)

/-- Runs an action and gives what came of it; this never fails. -/
def attempt {σ α : Type} (a : Action σ α) : Action σ (Outcome α) :=
  ofExec fun s =>
    let (o, s') := a.exec s
    (.ok o, s')

/-- Runs an action on a part of the state. -/
def onPart {σ τ α : Type} (part : σ → τ) (put : σ → τ → σ) (a : Action τ α) : Action σ α :=
  ofExec fun s =>
    let (o, t) := a.exec (part s)
    (o, put s t)

/-- Runs the first action, then the last one whatever came of the first. -/
def andAlways {σ α : Type} (a : Action σ α) (last : Action σ Unit) : Action σ α := do
  let o ← a.attempt
  last
  ofOutcome o

@[simp]
theorem exec_ofExec {σ α : Type} (f : σ → Outcome α × σ) (s : σ) : (ofExec f).exec s = f s := rfl

theorem exec_pure {σ α : Type} (x : α) (s : σ) : (pure x : Action σ α).exec s = (.ok x, s) := rfl

theorem exec_throw {σ α : Type} (e : Failure) (s : σ) :
    (throw e : Action σ α).exec s = (.error e, s) := rfl

end Action
end Remedy

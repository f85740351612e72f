import Remedy.Action

/-!
# Asking a model

A model answers a prompt with a text or fails. What it says to the n-th prompt may depend on n and on
the prompt; a dialogue keeps the prompts that it was asked.
-/

namespace Remedy

/-- A model that is asked, and the prompts it was asked so far, in order. -/
structure Dialogue where
  /-- What the model says to the prompt with this number, counted from zero. -/
  reply : Nat → String → Outcome String
  prompts : List String := []

/-- One reply of a model that replays a list of replies. -/
inductive Reply where
  | text (s : String)
  | failure (s : String)
deriving DecidableEq, Repr

/-- What a reply amounts to. -/
def Reply.outcome : Reply → Outcome String
  | .text s => .ok s
  | .failure s => .error (.told s)

namespace Dialogue

/-- Asks the model. The prompt counts as asked also if the model fails. -/
def ask (prompt : String) : Action Dialogue String :=
  Action.ofExec fun d =>
    (d.reply d.prompts.length prompt, { d with prompts := d.prompts ++ [prompt] })

/-- A model that gives the replies of a list in turn, and starts again after the last. -/
def replaying (replies : List Reply) : Dialogue where
  reply := fun n _ =>
    match replies[n % replies.length]? with
    | some reply => reply.outcome
    | none => .error .outOfRange

/-- A model that is never asked. -/
def silent : Dialogue where
  reply := fun _ _ => .error .notOffered

end Dialogue
end Remedy

import Remedy.Json.Decode

/-!
# Choices of a configuration

The ways in which solutions can be found, made and shown, and the databases that can hold them, with
the words that choose them.
-/

namespace Remedy

/-- Databases for incidents (`KaiConfigIncidentStoreProvider`). -/
inductive StoreProvider where
  | postgresql
  | sqlite
deriving DecidableEq, Repr

/-- How solved incidents are told from those that are still there (`SolutionDetectorKind`). -/
inductive DetectorKind where
  | naive
  | lineMatch
deriving DecidableEq, Repr

/-- How solutions are made (`SolutionProducerKind`). -/
inductive ProducerKind where
  | textOnly
  | llmLazy
deriving DecidableEq, Repr

/-- How solutions are shown (`SolutionConsumerKind`). -/
inductive ConsumerKind where
  | diffOnly
  | beforeAndAfter
  | llmSummary
deriving DecidableEq, Repr

/-- The choice that a word stands for. -/
def chosenBy {α : Type} (all : List α) (word : α → String) : Json → Outcome α
  | .str s =>
    match all.find? fun x => word x == s with
    | some x => .ok x
    | none => Decode.invalid
  | _ => Decode.invalid

namespace StoreProvider

/-- The word for a database. -/
def word : StoreProvider → String
  | .postgresql => "postgresql"
  | .sqlite => "sqlite"

/-- All databases. -/
def all : List StoreProvider := [.postgresql, .sqlite]

/-- Reads a word. -/
def decode : Json → Outcome StoreProvider := chosenBy all word

end StoreProvider

namespace DetectorKind

/-- The word for a detector. -/
def word : DetectorKind → String
  | .naive => "naive"
  | .lineMatch => "line_match"

/-- All detectors. -/
def all : List DetectorKind := [.naive, .lineMatch]

/-- Reads a word. -/
def decode : Json → Outcome DetectorKind := chosenBy all word

end DetectorKind

namespace ProducerKind

/-- The word for a producer. -/
def word : ProducerKind → String
  | .textOnly => "text_only"
  | .llmLazy => "llm_lazy"

/-- All producers. -/
def all : List ProducerKind := [.textOnly, .llmLazy]

/-- Reads a word. -/
def decode : Json → Outcome ProducerKind := chosenBy all word

end ProducerKind

namespace ConsumerKind

/-- The word for a consumer. -/
def word : ConsumerKind → String
  | .diffOnly => "diff_only"
  | .beforeAndAfter => "before_and_after"
  | .llmSummary => "llm_summary"

/-- All consumers. -/
def all : List ConsumerKind := [.diffOnly, .beforeAndAfter, .llmSummary]

/-- Reads a word. -/
def decode : Json → Outcome ConsumerKind := chosenBy all word

end ConsumerKind
end Remedy

import Remedy.Report.Basic
import Remedy.Json.Decode
import Remedy.Text.Search

/-!
# Batches of incidents

The incidents of a file are given to a model in batches. A mode says what the incidents of a batch
have in common; batches are ordered by it, and incidents keep their order inside a batch.
-/

namespace Remedy

/-- What the incidents of a batch have in common. -/
inductive BatchMode where
  /-- Every incident is a batch. -/
  | none
  /-- All incidents are one batch. -/
  | singleGroup
  /-- The rule set. -/
  | ruleset
  /-- The rule set and the violation. -/
  | violation
deriving DecidableEq, Repr

namespace BatchMode

/-- The word for a mode. -/
def word : BatchMode → String
  | .none => "none"
  | .singleGroup => "single_group"
  | .ruleset => "ruleset"
  | .violation => "violation"

/-- All modes. -/
def all : List BatchMode := [.none, .singleGroup, .ruleset, .violation]

/-- The mode of a word; there are no batches in a mode that is not known. -/
def ofWord (word : String) : Outcome BatchMode :=
  match all.find? fun m => m.word == word with
  | some mode => .ok mode
  | Option.none => .error .unset

/-- Reads a mode. -/
def decode : Json → Outcome BatchMode
  | .str s => (ofWord s).mapError fun _ => .invalidData Option.none
  | _ => Decode.invalid

/-- What is common to the batch of an incident, if batches are formed by it. -/
def key (mode : BatchMode) (i : ExtendedIncident) : List String :=
  match mode with
  | .none => []
  | .singleGroup => []
  | .ruleset => [i.ruleset]
  | .violation => [i.ruleset, i.violation]

/-- What is common to a batch, as an object. -/
def common (mode : BatchMode) (i : ExtendedIncident) : Fields :=
  match mode with
  | .none => []
  | .singleGroup => []
  | .ruleset => [("ruleset_name", .str i.ruleset)]
  | .violation => [("ruleset_name", .str i.ruleset), ("violation_name", .str i.violation)]

end BatchMode

namespace Batch

/-- Keys are ordered by their first texts that differ. -/
def keyPrecedes : List String → List String → Bool
  | [], _ => true
  | _ :: _, [] => false
  | a :: as, b :: bs => if a = b then keyPrecedes as bs else Text.precedes a b

/-- Items in batches, each item standing for an incident. -/
def group {α : Type} (mode : BatchMode) (incident : α → ExtendedIncident) (items : List α) :
    List (List α) :=
  let key := fun x => mode.key (incident x)
  match mode with
  | .none => items.map fun x => [x]
  | _ => (items.mergeSort fun a b => keyPrecedes (key a) (key b)).splitBy fun a b => key a == key b

/-- What is common to the items of a batch, as an object. -/
def commonOf {α : Type} (mode : BatchMode) (incident : α → ExtendedIncident) (batch : List α) :
    Fields :=
  (batch.head?.map fun x => mode.common (incident x)).getD []

/-- Items in batches, each batch with what is common to its items. -/
def described {α : Type} (mode : BatchMode) (incident : α → ExtendedIncident) (items : List α) :
    List (Fields × List α) :=
  (group mode incident items).map fun batch => (commonOf mode incident batch, batch)

/-- An order in which incidents come that are told apart by nothing but their identities (`id`). -/
structure Order where
  arrange : List ExtendedIncident → List ExtendedIncident
  perm : ∀ incidents, (arrange incidents).Perm incidents

/-- The order in which incidents are given. -/
def Order.given : Order where
  arrange := id
  perm := List.Perm.refl

/-- Incidents in batches (`batch_incidents`). Where every incident is a batch, the batches come in the
order of identities. -/
def ofIncidents (order : Order) (mode : BatchMode) (incidents : List ExtendedIncident) :
    List (List ExtendedIncident) :=
  group mode id (if mode = .none then order.arrange incidents else incidents)

end Batch
end Remedy

import Remedy.Failure
import Remedy.Json.Basic

/-!
# Entries by name

The data of a hub can also be looked into by name. Names that are not part of the data can be set too;
they are found again but do not belong to it.
-/

namespace Remedy.Hub

/-- Data that is looked into by name (`KaiBaseModel`). -/
structure Entries where
  fields : Fields
  /-- What was set under other names. -/
  others : Fields := []

namespace Entries

/-- The value under a name. -/
def get? (e : Entries) (name : String) : Option Json :=
  match e.fields.get? name with
  | some v => some v
  | none => e.others.get? name

/-- Whether there is a value under a key (`__contains__`); only texts are names. -/
def has (e : Entries) : Json → Outcome Bool
  | .str name => .ok (e.get? name).isSome
  | _ => .error .wrongKind

/-- The value under a key, which must be there (`__getitem__`). -/
def item (e : Entries) : Json → Outcome Json
  | .str name =>
    match e.get? name with
    | some v => .ok v
    | none => .error (.missingKey (some ("Key '" ++ name ++ "' not found")))
  | _ => .error .wrongKind

/-- The value under a key, or another (`get`). -/
def itemOr (e : Entries) (key default : Json) : Outcome Json := do
  if ← e.has key then e.item key else return default

/-- Sets the value under a key (`__setitem__`). -/
def set (e : Entries) (key v : Json) : Outcome Entries :=
  match key with
  | .str name =>
    if e.fields.has name then .ok { e with fields := e.fields.set name v }
    else .ok { e with others := e.others.set name v }
  | _ => .error (.badValue "Key must be a string")

end Entries
end Remedy.Hub

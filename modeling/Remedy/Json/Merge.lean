import Remedy.Json.Basic

/-!
# Merging objects

A value laid over another one. Objects are merged entry by entry, at any depth; everywhere else the
value on top stands.
-/

namespace Remedy

mutual

/-- A value under another one. -/
def Json.merge : Json → Json → Json
  | .obj below, .obj above => .obj (Fields.merge below above)
  | _, above => above

/-- Entries under other entries. -/
def Fields.merge (below : List (String × Json)) : List (String × Json) → List (String × Json)
  | [] => below
  | (key, value) :: rest =>
    match Fields.get? below key with
    | some old => Fields.merge (Fields.set below key (Json.merge old value)) rest
    | none => Fields.merge (Fields.set below key value) rest

end

end Remedy

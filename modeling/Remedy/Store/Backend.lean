import Remedy.Config.Basic
import Remedy.Json.Display

/-!
# Reaching a database

The address under which a database is opened, and how it is asked for incidents whose variables are
exactly given ones.
-/

namespace Remedy

/-- How a database is opened (`IncidentStoreBackend`). -/
structure Backend where
  provider : StoreProvider
  url : String
  options : Fields
deriving DecidableEq

/-- A condition on stored variables. -/
structure Condition where
  column : String
  operator : String
  value : Json
deriving DecidableEq

namespace Backend

/-- A part of an address; a part that is not given is written as a word. -/
def part (s : Option String) : String :=
  s.getD Json.nullWord

/-- The database that arguments describe (`create_engine`): by its address if one is given, otherwise
by its parts. -/
def ofArgs (a : StoreArgs) : Backend :=
  match a.connectionString with
  | some s =>
    if s.isEmpty then byParts a else { provider := a.provider, url := s, options := [] }
  | none => byParts a
where
  /-- The address put together from its parts. -/
  byParts (a : StoreArgs) : Backend :=
    { provider := a.provider
      url := a.provider.word ++ "://" ++ part a.user ++ ":" ++ part a.password ++ "@" ++
        part a.host ++ ":5432/" ++ part a.database
      options := [("client_encoding", .str "utf8")] }

/-- Reads the name of a database (`incident_store_backend_factory`). -/
def providerOf (name : Json) : Outcome StoreProvider :=
  match StoreProvider.all.find? fun p => name = .str p.word with
  | some provider => .ok provider
  | none => .error (.badValue ("Unknown incident store provider: " ++ name.display))

/-- The server database is asked for variables that contain the given ones and are contained in them
(`json_exactly_equal`). -/
def containment (asked : Fields) : List Condition :=
  [⟨"incident_variables", "<@", .obj asked⟩, ⟨"incident_variables", "@>", .obj asked⟩]

end Backend
end Remedy

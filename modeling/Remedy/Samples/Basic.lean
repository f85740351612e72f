import Remedy.Failure
import Remedy.Json.Basic
import Remedy.Number.Decimal

/-!
# Sample applications

Applications that serve as samples: where their repositories are, and the branches before and after
their migration.
-/

namespace Remedy.Samples

/-- The repository of a sample: its address, the branch before and the branch after the migration. It
may lack some of them. -/
structure SampleRepo where
  parts : List Json
deriving DecidableEq

namespace SampleRepo

/-- A part that must be there. -/
def part (r : SampleRepo) (n : Nat) : Outcome Json :=
  match r.parts[n]? with
  | some v => .ok v
  | none => .error .outOfRange

/-- The address. -/
def url (r : SampleRepo) : Outcome Json := r.part 0

/-- The branch before the migration. -/
def initial (r : SampleRepo) : Outcome Json := r.part 1

/-- The branch after the migration. -/
def solved (r : SampleRepo) : Outcome Json := r.part 2

/-- All parts of a repository, of which there must be three. -/
def all (r : SampleRepo) : Outcome (Json × Json × Json) :=
  match r.parts with
  | [url, initial, solved] => .ok (url, initial, solved)
  | parts =>
    if parts.length < 3 then
      .error (.badValue ("not enough values to unpack (expected 3, got " ++
        Decimal.natural parts.length ++ ")"))
    else .error (.badValue "too many values to unpack (expected 3)")

/-- A repository with all its parts. -/
def of (url initial solved : String) : SampleRepo := ⟨[.str url, .str initial, .str solved]⟩

end SampleRepo

/-- Sample applications: their repositories, and the places of their sources. -/
structure Catalog where
  repos : List (String × SampleRepo)
  apps : List (String × String)

/-- The sample applications of an installation. -/
def installed : Catalog where
  repos :=
    [("kitchensink",
        .of "https://github.com/tqvarnst/jboss-eap-quickstarts.git" "7.1" "quarkus-3.2"),
     ("ticket-monster", .of "https://github.com/jmle/monolith.git" "master" "quarkus"),
     ("helloworld-mdb",
        .of "https://github.com/savitharaghunathan/helloworld-mdb.git" "main" "quarkus"),
     ("bmt", .of "https://github.com/konveyor-ecosystem/bmt.git" "main" "quarkus"),
     ("cmt", .of "https://github.com/konveyor-ecosystem/cmt.git" "main" "quarkus"),
     ("tasks-qute", .of "https://github.com/konveyor-ecosystem/tasks-qute.git" "main" "quarkus"),
     ("greeter", .of "https://github.com/konveyor-ecosystem/greeter.git" "main" "quarkus"),
     ("ejb-remote", .of "https://github.com/konveyor-ecosystem/ejb-remote.git" "main" "quarkus"),
     ("ejb-security",
        .of "https://github.com/konveyor-ecosystem/ejb-security.git" "main" "quarkus")]
  apps :=
    ["ticket-monster", "kitchensink", "helloworld-mdb", "bmt", "cmt", "ejb-remote", "ejb-security",
     "tasks-qute", "greeter"].map fun name => (name, "sample_repos/" ++ name)

end Remedy.Samples

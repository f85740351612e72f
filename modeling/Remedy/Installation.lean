import Remedy.Path

/-!
# The places of an installation

Where the parts of an installation are, all below or beside one directory.
-/

namespace Remedy

/-- The directory of an installation. -/
structure Installation where
  home : String
deriving DecidableEq, Repr

namespace Installation

/-- An installation: in the directory of its sources, or in the directory to which a bundle was
unpacked if it runs from one. -/
def located (sources : String) (fromBundle : Bool) (unpacked : Option String) : Installation :=
  match unpacked with
  | some dir => if fromBundle then ⟨dir⟩ else ⟨sources⟩
  | none => ⟨sources⟩

/-- The directory above the installation. -/
def root (i : Installation) : String := Path.join i.home ".."

/-- Data files. -/
def data (i : Installation) : String := Path.join i.home "data"

/-- Benchmarks. -/
def benchmarks (i : Installation) : String := Path.join i.data "benchmarks"

/-- Other data. -/
def misc (i : Installation) : String := Path.join i.data "misc"

/-- Database scripts. -/
def sql (i : Installation) : String := Path.join i.data "sql"

/-- Templates of prompts. -/
def templates (i : Installation) : String := Path.join i.data "templates"

/-- Repositories of the sample applications. -/
def sampleRepositories (i : Installation) : String := Path.join i.root "samples/sample_repos"

/-- Tests. -/
def tests (i : Installation) : String := Path.join i.root "tests"

/-- Data of the tests, as a tidy path. -/
def testData (i : Installation) : String := Path.tidy (Path.join i.root "tests/test_data")

/-- Templates of the benchmarks. -/
def benchmarkTemplates (i : Installation) : String := Path.join i.benchmarks "templates"

/-- The places by their names. -/
def places (i : Installation) : List (String × String) :=
  [("KAI", i.home), ("GIT_ROOT", i.root), ("DATA", i.data), ("BENCHMARKS", i.benchmarks),
   ("MISC", i.misc), ("SQL", i.sql), ("TEMPLATES", i.templates),
   ("LOCAL_REPO", i.sampleRepositories), ("TESTS", i.tests), ("TEST_DATA", i.testData)]

/-- The settings file. -/
def settings (i : Installation) : String := Path.join i.home "config.toml"

end Installation
end Remedy

import Remedy.Installation
import Remedy.Prompt.Library

/-!
# The templates of an installation
-/

namespace Remedy

/-- Where an installation looks for templates: in those of the service or of the benchmarks first, and
by paths in both. -/
def Installation.search (i : Installation) (benchmarks : Bool) (cwd : String) : Prompt.Search :=
  let standard := Prompt.standard i.templates
  let benchmark := Prompt.benchmarks i.benchmarkTemplates
  { library := if benchmarks then benchmark else standard
    everywhere := [standard, benchmark]
    workingDirectory := cwd }

end Remedy

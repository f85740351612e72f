import Remedy.Files.Tree
import Remedy.Installation
import Remedy.Json.Writer

/-!
# The installed example

The example that comes with an installation: a small resource class with one import to replace.
-/

namespace Remedy.Benchmark.Installed

/-- The name of the example. -/
def name : String := "example_a"

/-- The file before its migration. -/
def before : String :=
  Text.join "\n"
    ["import javax.ws.rs.GET;",
     "import javax.ws.rs.Path;",
     "import javax.ws.rs.Produces;",
     "import javax.ws.rs.core.MediaType;",
     "",
     "@Path(\"/hello\")",
     "public class HelloWorldResource \x7b",
     "",
     "    @GET",
     "    @Produces(MediaType.TEXT_PLAIN)",
     "    public String sayHello() \x7b",
     "        return \"Hello, World!\";",
     "    \x7d",
     "\x7d",
     ""]

/-- The file as it should become. -/
def expected : String :=
  Text.join "\n"
    ["import javax.ws.rs.GET;",
     "import javax.ws.rs.Path;",
     "import javax.ws.rs.Produces;",
     "import io.quarkus.runtime.annotations.MediaType;",
     "",
     "@Path(\"/hello\")",
     "public class HelloWorldResource \x7b",
     "",
     "    @GET",
     "    @Produces(MediaType.TEXT_PLAIN)",
     "    public String sayHello() \x7b",
     "        return \"Hello, World!\";",
     "    \x7d",
     "\x7d",
     ""]

/-- What is wrong with the file. -/
def message : String :=
  "`javax.ws.rs.core.MediaType` is not used in Quarkus. " ++
    "Please use `io.quarkus.runtime.annotations.MediaType` instead."

/-- The file of the incident. -/
def uri : String := "file://tmp/hello_world.java"

/-- The rule that the file violates. -/
def rule : String := "javax-rule-0001"

/-- The incidents. -/
def incidents : Json :=
  .arr [.obj
    [("ruleset_name", .str name), ("violation_name", .str rule), ("uri", .str uri),
     ("incident_snip", .str ""), ("incident_variables", .obj []), ("line_number", .int 3),
     ("analysis_message", .str message)]]

/-- The report. -/
def report : Json :=
  .arr [.obj
    [("name", .str name), ("description", .str "Example Benchmark A"), ("skipped", .arr []),
     ("unmatched", .arr []),
     ("violations", .obj [(rule, .obj
       [("description", .str message), ("category", .str "mandatory"),
        ("labels", Json.texts ["konveyor.io/example_a"]),
        ("incidents", .arr [.obj
          [("uri", .str uri), ("message", .str message), ("codeSnip", .str ""),
           ("lineNumber", .int 3), ("variables", .obj [])]])])])]]

/-- The application. -/
def application : Json :=
  .obj
    [("application_name", .str name), ("repo_uri_origin", .str "https://www.example.com/"),
     ("repo_uri_local", .str "data/benchmarks/examples/example_a"),
     ("current_branch", .str "master"),
     ("current_commit", .str "9ad9a359638c9128493315a713ee5d4ce6a8e3dd"),
     ("generated_at", .str "2024-05-09T19:32:00")]

/-- The files of the example. -/
def files : List (String × String) :=
  [("application.yaml", Json.render Json.spaced application), ("expected.java", expected),
   ("incidents.yaml", Json.render Json.spaced incidents), ("original.java", before),
   ("report.yaml", Json.render Json.spaced report)]

/-- The directory of the examples of an installation. -/
def directory (i : Installation) : String := Path.join i.benchmarks "examples"

/-- Puts the example where an installation has it. -/
def install (i : Installation) (t : FileTree) : Outcome FileTree := do
  let dir := Path.join (directory i) name
  files.foldlM (fun t (file, content) => t.write (Path.join dir file) content) (← t.makeDirs dir)

end Remedy.Benchmark.Installed

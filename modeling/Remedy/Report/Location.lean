import Remedy.Url.Basic
import Remedy.Json.Basic

/-!
# Where an incident is

A report names files as seen by the analysis, under one of a few known directories. The path inside
the application is what follows that directory. Some variables of an incident only say again where
it is; they are dropped before incidents are compared.
-/

namespace Remedy.Location

/-- Directories under which an analysis sees the sources; the last stands for any other path from the
root. -/
def knownRoots : List String :=
  ["/opt/input/source/", "/tmp/source-code/", "/addon/source/", "/"]

/-- The path without the first known root that it begins with (`remove_known_prefixes`). -/
def relative (path : String) : String :=
  (knownRoots.findSome? (Text.dropFront? path)).getD path

/-- Variables that say where an incident is. -/
def placeVars : List String := ["file", "package", "name"]

/-- The variables of an incident without those that say where it is (`filter_incident_vars`). -/
def withoutPlace (vars : Fields) : Fields :=
  placeVars.foldl Fields.erase vars

/-- The path inside the application of the file that an address names. -/
def ofUri (uri : String) : Outcome String :=
  (Url.path uri).map relative

/-- The same path, with percent escapes read. -/
def ofEscapedUri (uri : String) : Outcome String :=
  (Url.path uri).map fun path => relative (Url.unescape path)

/-- Files that no incident is reported for: build results and images. -/
def isIgnored (path : String) : Bool :=
  Text.startsWith path "target/" || Text.endsWith path ".svg"

/-- Files of downloaded dependencies. -/
def isDependency (path : String) : Bool :=
  Text.startsWith path "root/.m2/"

end Remedy.Location

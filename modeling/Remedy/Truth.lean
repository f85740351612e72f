import Remedy.Text.LetterCase
import Remedy.Text.Quoted
import Remedy.Failure

/-!
# Truth values in words

Settings that come from the environment are words such as `yes` or `off`.
-/

namespace Remedy.Truth

/-- Words for true. -/
def trueWords : List String := ["y", "yes", "t", "true", "on", "1"]

/-- Words for false. -/
def falseWords : List String := ["n", "no", "f", "false", "off", "0"]

/-- Reads a word in any letter case (`str_to_bool`). -/
def ofWord (word : String) : Outcome Bool :=
  let w := Text.lower word
  if trueWords.contains w then .ok true
  else if falseWords.contains w then .ok false
  else .error (.badValue ("invalid truth value " ++ Text.quoted w))

/-- Reads a setting that may be absent (`get_env_bool`). -/
def ofSetting (setting : Option String) (default : Option Bool) : Outcome (Option Bool) :=
  match setting with
  | none => .ok default
  | some word => (ofWord word).map some

end Remedy.Truth

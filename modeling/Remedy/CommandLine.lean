import Remedy.Failure
import Remedy.Number.Decimal
import Remedy.Text.Search

/-!
# Command lines

The words of a command line are matched with the options and places that a command declares. An
option may be shortened as long as only one option begins that way. A value follows its option, or
stands in the same word after an equals sign or directly after an option of one letter. All words
after a double dash are values. A command line that does not fit ends the command.
-/

namespace Remedy

/-- What an option takes. -/
inductive OptionKind where
  /-- One value, perhaps one of a few. -/
  | value (choices : Option (List String))
  /-- Any number of values. -/
  | values
  /-- Nothing: the option is set. -/
  | flag
  /-- Nothing: the option is set, or unset by names that begin with the word for no. -/
  | toggle
  /-- Nothing: the command explains itself and ends. -/
  | help
deriving DecidableEq, Repr

/-- An option: its names, what its value is kept under, and what it takes. -/
structure OptionSpec where
  names : List String
  key : String
  kind : OptionKind := .value none
deriving DecidableEq, Repr

/-- The options and the places for single values of a command. -/
structure CommandSpec where
  options : List OptionSpec
  places : List String := []
deriving DecidableEq, Repr

/-- What was given for an option or a place. -/
inductive ArgValue where
  | text (s : String)
  | texts (ss : List String)
  | flag (b : Bool)
deriving DecidableEq, Repr

/-- The values of a command line, the last given first, and the words that fit nowhere. -/
structure Arguments where
  values : List (String × ArgValue) := []
  extras : List String := []
deriving DecidableEq, Repr

/-- The names of the levels of logging on a command line. -/
def logLevels : List String := ["debug", "info", "warning", "error", "critical"]

namespace CommandLine

/-- The command line does not fit. -/
def misuse {α : Type} : Outcome α :=
  .error (.exit (.code 2))

/-- Every command explains itself. -/
def helpOption : OptionSpec where
  names := ["-h", "--help"]
  key := "help"
  kind := .help

/-- The names of all options with the options. -/
def namesOf (spec : CommandSpec) : List (String × OptionSpec) :=
  (helpOption :: spec.options).flatMap fun o => o.names.map fun name => (name, o)

/-- An option as it was found in a word: with the value that stands in the same word, and whether an
equals sign stands before that value. -/
structure Found where
  option : OptionSpec
  name : String
  inWord : Option (Bool × String) := none

/-- A word of a command line. -/
inductive Token where
  | word (s : String)
  /-- The double dash. -/
  | dashes
  | option (found : Found)
  /-- A word that looks like an option but is none. -/
  | stray (s : String)

/-- The word as it was written, for one that is passed on. -/
def Token.written : Token → String
  | .word s => s
  | .dashes => "--"
  | .option found => found.name
  | .stray s => s

/-- A word that reads as a number below zero. -/
def isNegativeNumber (s : String) : Bool :=
  match s.toList with
  | '-' :: rest =>
    let whole := rest.takeWhile Char.isDigit
    match rest.dropWhile Char.isDigit with
    | [] => !whole.isEmpty
    | '.' :: decimals => !decimals.isEmpty && decimals.all Char.isDigit
    | _ => false
  | _ => false

/-- Splits a word at its first equals sign. -/
def splitEquals (s : String) : String × Option (Bool × String) :=
  match Text.cutAt? s "=" with
  | some (name, value) => (name, some (true, value))
  | none => (s, none)

/-- The options that a word with two dashes may be short for. -/
def longMatches (spec : CommandSpec) (s : String) : List Found :=
  let (start, inWord) := splitEquals s
  (namesOf spec).filterMap fun (name, option) =>
    if Text.startsWith name start then some { option, name, inWord } else none

/-- The options that a word with one dash may stand for: an option of one letter with its value, or an
option that it is short for. -/
def shortMatches (spec : CommandSpec) (s : String) : List Found :=
  let letter := Text.slice s 0 2
  let rest := Text.slice s 2 s.length
  (namesOf spec).filterMap fun (name, option) =>
    if name == letter then some { option, name, inWord := some (false, rest) }
    else if Text.startsWith name s then some { option, name }
    else none

/-- The options that a word may be short for. -/
def shortenedMatches (spec : CommandSpec) (s : String) : List Found :=
  if Text.startsWith s "--" then longMatches spec s else shortMatches spec s

/-- A word with a dash in front that is no option in full. -/
def unclear (spec : CommandSpec) (s : String) : Outcome Token :=
  match shortenedMatches spec s with
  | [found] => .ok (.option found)
  | _ :: _ :: _ => misuse
  | [] =>
    if isNegativeNumber s || Text.contains s " " then .ok (.word s) else .ok (.stray s)

/-- What a word is. -/
def classify (spec : CommandSpec) (s : String) : Outcome Token :=
  if !Text.startsWith s "-" then .ok (.word s)
  else
    match (namesOf spec).lookup s with
    | some option => .ok (.option { option, name := s })
    | none =>
      if s.length == 1 then .ok (.word s)
      else
        let (name, inWord) := splitEquals s
        match inWord, (namesOf spec).lookup name with
        | some _, some option => .ok (.option { option, name, inWord })
        | _, _ => unclear spec s

/-- What the words of a command line are. -/
def tokens (spec : CommandSpec) : List String → Outcome (List Token)
  | [] => .ok []
  | s :: rest =>
    if s == "--" then .ok (.dashes :: rest.map .word)
    else do
      let first ← classify spec s
      let others ← tokens spec rest
      return first :: others

/-- Sets a value. -/
def put (args : Arguments) (key : String) (v : ArgValue) : Arguments :=
  { args with values := (key, v) :: args.values }

/-- Passes words on. -/
def passOn (args : Arguments) (words : List String) : Arguments :=
  { args with extras := args.extras ++ words }

/-- Takes an option that has no value. -/
def takeFlag (args : Arguments) (found : Found) : Outcome Arguments :=
  match found.option.kind with
  | .help => .error (.exit (.code 0))
  | .toggle => .ok (put args found.option.key (.flag (!Text.startsWith found.name "--no-")))
  | _ => .ok (put args found.option.key (.flag true))

/-- Takes an option with a value. -/
def takeValue (args : Arguments) (option : OptionSpec) (value : String) : Outcome Arguments :=
  match option.kind with
  | .value (some choices) =>
    if choices.contains value then .ok (put args option.key (.text value)) else misuse
  | .values => .ok (put args option.key (.texts [value]))
  | _ => .ok (put args option.key (.text value))

/-- The option takes nothing. -/
def takesNothing : OptionKind → Bool
  | .flag => true
  | .toggle => true
  | .help => true
  | _ => false

/-- The values at the beginning of the rest of a command line. -/
def leadingWords : List Token → List String × List Token
  | .word s :: rest =>
    let (words, left) := leadingWords rest
    (s :: words, left)
  | ts => ([], ts)

/-- Takes an option with what stands in its word, or else with the words after it. Letters after an
option of one letter that takes nothing are options too; the fuel bounds their number. -/
def takeOption (spec : CommandSpec) :
    Nat → Arguments → Found → List Token → Outcome (Arguments × List Token)
  | 0, _, _, _ => misuse
  | fuel + 1, args, found, rest =>
    match found.inWord with
    | some (equals, value) =>
      if takesNothing found.option.kind then
        if Text.startsWith found.name "--" || value.isEmpty || equals || Text.startsWith value "-" then
          misuse
        else do
          let args ← takeFlag args found
          let name := "-" ++ Text.slice value 0 1
          let after := Text.slice value 1 value.length
          match (namesOf spec).lookup name with
          | none => return (passOn args ["-" ++ value], rest)
          | some option =>
            let inWord :=
              if after.isEmpty then none
              else
                match Text.dropFront? after "=" with
                | some v => some (true, v)
                | none => some (false, after)
            takeOption spec fuel args { option, name, inWord } rest
      else do
        return (← takeValue args found.option value, rest)
    | none =>
      if takesNothing found.option.kind then do
        return (← takeFlag args found, rest)
      else
        match found.option.kind, rest with
        | .values, _ =>
          let (words, left) := leadingWords rest
          .ok (put args found.option.key (.texts words), left)
        | _, .word s :: left => do
          return (← takeValue args found.option s, left)
        | _, _ => misuse

/-- Drops double dashes in front. -/
def skipDashes : List Token → List Token
  | .dashes :: rest => skipDashes rest
  | ts => ts

/-- Fills places with the words in front; gives the places that are left. -/
def fillPlaces (args : Arguments) : List String → List Token → Arguments × List String × List Token
  | [], ts => (args, [], ts)
  | place :: places, ts =>
    match skipDashes ts with
    | .word s :: rest => fillPlaces (put args place (.text s)) places (skipDashes rest)
    | _ => (args, place :: places, ts)

/-- A word that is or looks like an option. -/
def isOption : Token → Bool
  | .option _ => true
  | .stray _ => true
  | _ => false

/-- Goes through a command line: places are filled with the words before the next option, then the
option is taken. The fuel bounds the number of steps. -/
def walk (spec : CommandSpec) :
    Nat → Arguments → List String → List Token → Outcome (Arguments × List String)
  | 0, _, _, _ => misuse
  | fuel + 1, args, places, ts =>
    if ts.any isOption then
      match ts with
      | .option found :: rest => do
        let size := (found.inWord.map fun v => v.2.length).getD 0
        let (args, left) ← takeOption spec (size + 2) args found rest
        walk spec fuel args places left
      | .stray s :: rest => walk spec fuel (passOn args [s]) places rest
      | _ =>
        let (filled, left, rest) := fillPlaces args places ts
        if rest.length < ts.length then walk spec fuel filled left rest
        else
          let words := (ts.takeWhile fun t => !isOption t).map Token.written
          walk spec fuel (passOn args words) places (ts.dropWhile fun t => !isOption t)
    else
      let (filled, left, rest) := fillPlaces args places ts
      .ok (passOn filled (rest.map Token.written), left)

/-- Reads a command line; words that fit nowhere are passed on. -/
def parseKnown (spec : CommandSpec) (words : List String) : Outcome Arguments := do
  let ts ← tokens spec words
  let (args, left) ← walk spec (2 * words.length + 2) {} spec.places ts
  if left.isEmpty then return args else misuse

/-- Reads a command line; every word must fit. -/
def parse (spec : CommandSpec) (words : List String) : Outcome Arguments := do
  let args ← parseKnown spec words
  if args.extras.isEmpty then return args else misuse

end CommandLine

namespace Arguments

/-- The text that was given. -/
def text? (args : Arguments) (key : String) : Option String :=
  match args.values.lookup key with
  | some (.text s) => some s
  | _ => none

/-- The texts that were given. -/
def texts? (args : Arguments) (key : String) : Option (List String) :=
  match args.values.lookup key with
  | some (.texts ss) => some ss
  | _ => none

/-- Whether an option is set, if it was given. -/
def flag? (args : Arguments) (key : String) : Option Bool :=
  match args.values.lookup key with
  | some (.flag b) => some b
  | _ => none

end Arguments
end Remedy

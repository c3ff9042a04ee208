import BlockFolding.Settings
import BlockFolding.Text.Numeral

/-
  Command lines

  Arguments are read from left to right into settings. An option takes its value either behind an
  equals sign, and then it is settled at once, or as the next argument; then it waits, and it is
  settled when the next flag or option comes up or the arguments end. So a fault of a waiting
  option is reported in its turn, but an argument that is not known is reported before it. Help
  and version end the reading where they stand.
-/

namespace BlockFolding.CommandLine

/-! ## Names -/

/-- An option without a value. -/
inductive Flag where
  | json
  | showSource
  | verbose
  deriving DecidableEq, Repr

/-- An option with a value. -/
inductive Valued where
  | openPattern
  | closePattern
  | column
  deriving DecidableEq, Repr

/-- What a name behind two hyphens, or a letter behind one, stands for. -/
inductive Switch where
  | flag (f : Flag)
  | valued (v : Valued)
  | help
  | version
  deriving DecidableEq, Repr

def Flag.name : Flag → String
  | json => "json"
  | showSource => "show-source"
  | verbose => "verbose"

def Valued.name : Valued → String
  | openPattern => "open-pattern"
  | closePattern => "close-pattern"
  | column => "column"

def Valued.valueName : Valued → String
  | openPattern | closePattern => "REGEX"
  | column => "LINE_INDEX"

/-- A flag as a message shows it. -/
def Flag.usage (flag : Flag) : String := "--" ++ flag.name

/-- An option with its value as a message shows it. -/
def Valued.usage (option : Valued) : String :=
  "--" ++ option.name ++ " <" ++ option.valueName ++ ">"

def Switch.ofName? (name : String) : Option Switch :=
  match name with
  | "json" => some (.flag .json)
  | "show-source" => some (.flag .showSource)
  | "verbose" => some (.flag .verbose)
  | "open-pattern" => some (.valued .openPattern)
  | "close-pattern" => some (.valued .closePattern)
  | "column" => some (.valued .column)
  | "help" => some .help
  | "version" => some .version
  | _ => none

/-! ## Faults -/

inductive UsageError where
  | unexpectedArgument (argument : String)
  | unexpectedValue (value name : String)
  | missingValue (option : Valued)
  | repeatedFlag (flag : Flag)
  | repeatedOption (option : Valued)
  | invalidValue (value : String) (option : Valued) (reason : Text.NumeralError)
  deriving DecidableEq, Repr

def UsageError.message : UsageError → String
  | unexpectedArgument argument => "error: unexpected argument '" ++ argument ++ "' found"
  | unexpectedValue value name =>
    "error: unexpected value '" ++ value ++ "' for '--" ++ name ++
      "' found; no more were expected"
  | missingValue option =>
    "error: a value is required for '" ++ option.usage ++ "' but none was supplied"
  | repeatedFlag flag =>
    "error: the argument '" ++ flag.usage ++ "' cannot be used multiple times"
  | repeatedOption option =>
    "error: the argument '" ++ option.usage ++ "' cannot be used multiple times"
  | invalidValue value option reason =>
    "error: invalid value '" ++ value ++ "' for '" ++ option.usage ++ "': " ++ reason.message

/-- Why the reading of arguments ends before them. -/
inductive Stop where
  | help
  | version
  | usage (error : UsageError)
  deriving DecidableEq, Repr

/-! ## Settling options -/

/-- Turns a flag on, unless it is on. -/
def setFlag (flag : Flag) (settings : Settings) : Except Stop Settings :=
  match flag with
  | .json =>
    if settings.format = .json then .error (.usage (.repeatedFlag flag))
    else .ok { settings with format := .json }
  | .showSource =>
    if settings.showSource then .error (.usage (.repeatedFlag flag))
    else .ok { settings with showSource := true }
  | .verbose =>
    if settings.verbose then .error (.usage (.repeatedFlag flag))
    else .ok { settings with verbose := true }

/-- Gives an option its value, unless it has one. -/
def setValue (option : Valued) (value : String) (settings : Settings) : Except Stop Settings :=
  match option with
  | .openPattern =>
    if settings.openPattern.isSome then .error (.usage (.repeatedOption option))
    else .ok { settings with openPattern := some value }
  | .closePattern =>
    if settings.closePattern.isSome then .error (.usage (.repeatedOption option))
    else .ok { settings with closePattern := some value }
  | .column =>
    if settings.columnOf.isSome then .error (.usage (.repeatedOption option))
    else match Text.readInt64 value.toList with
      | .ok n => .ok { settings with columnOf := some (.ofInt n) }
      | .error reason => .error (.usage (.invalidValue value option reason))

/-- An option that waits to be settled, with the value read for it. -/
structure Waiting where
  option : Valued
  value : Option String
  deriving DecidableEq, Repr

def settle (waiting : Option Waiting) (settings : Settings) : Except Stop Settings :=
  match waiting with
  | none => .ok settings
  | some { option, value := some value } => setValue option value settings
  | some { option, value := none } => .error (.usage (.missingValue option))

/-! ## Arguments by their look -/

inductive Form where
  /-- Two hyphens: what follows is no option. -/
  | separator
  /-- Two hyphens and a name, with the text behind an equals sign if there is one. -/
  | long (name : String) (value : Option String)
  /-- One hyphen and letters. -/
  | short (letters : List Char)
  /-- Anything else. -/
  | word
  deriving DecidableEq, Repr

/-- The part of a long option's text before the first equals sign, and the part after it. -/
def cutName : List Char → List Char × Option (List Char)
  | [] => ([], none)
  | '=' :: value => ([], some value)
  | c :: rest =>
    let (name, value) := cutName rest
    (c :: name, value)

def Form.ofArgument (argument : String) : Form :=
  match argument.toList with
  | ['-', '-'] => .separator
  | '-' :: '-' :: rest =>
    let (name, value) := cutName rest
    .long (String.ofList name) (value.map String.ofList)
  | '-' :: c :: rest => .short (c :: rest)
  | _ => .word

/-- Whether the text behind a hyphen reads as a number: digits with at most one point and at most
one exponent mark, neither of them first, the point before the mark and the mark not last. -/
def isNumberFrom (first pointSeen markSeen : Bool) : List Char → Bool
  | [] => true
  | c :: rest =>
    if c.isDigit then isNumberFrom false pointSeen markSeen rest
    else if c = '.' ∧ !pointSeen ∧ !markSeen ∧ !first then
      isNumberFrom false true markSeen rest
    else if (c = 'e' ∨ c = 'E') ∧ !markSeen ∧ !first then
      !rest.isEmpty && isNumberFrom false pointSeen true rest
    else false

/-- Whether an option takes letters behind a hyphen as its value: the column takes a negative
number. -/
def Valued.takes (option : Valued) (letters : List Char) : Bool :=
  option = .column && isNumberFrom true false false letters

/-! ## Reading -/

/-- What was read of the arguments. -/
structure Progress where
  settings : Settings := {}
  waiting : Option Waiting := none
  deriving DecidableEq

/-- The option that still wants the next argument as its value. -/
def Progress.wanting (progress : Progress) : Option Valued :=
  match progress.waiting with
  | some { option, value := none } => some option
  | _ => none

/-- Settles the option that waits, and nothing waits any more. -/
def Progress.settled (progress : Progress) : Except Stop Progress :=
  return { settings := ← settle progress.waiting progress.settings, waiting := none }

/-- The argument is none that is known here. -/
def unexpected {α : Type} (argument : String) : Except Stop α :=
  .error (.usage (.unexpectedArgument argument))

def readLong (name : String) (value : Option String) (progress : Progress) :
    Except Stop Progress :=
  match Switch.ofName? name, value with
  | none, _ => unexpected ("--" ++ name)
  | some (.flag _), some value | some .help, some value | some .version, some value =>
    .error (.usage (.unexpectedValue value name))
  | some (.flag flag), none => do
    let progress ← progress.settled
    return { progress with settings := ← setFlag flag progress.settings }
  | some (.valued option), some value => do
    let progress ← progress.settled
    return { progress with settings := ← setValue option value progress.settings }
  | some (.valued option), none => do
    let progress ← progress.settled
    return { progress with waiting := some { option, value := none } }
  | some .help, none => do
    let _ ← progress.settled
    .error .help
  | some .version, none => do
    let _ ← progress.settled
    .error .version

/-- Reads letters behind a hyphen; only the first of them is ever reached. -/
def readShort (letters : List Char) (progress : Progress) : Except Stop Progress :=
  match letters with
  | 'h' :: _ => do
    let _ ← progress.settled
    .error .help
  | 'V' :: _ => do
    let _ ← progress.settled
    .error .version
  | c :: _ => unexpected (String.ofList ['-', c])
  | [] => .ok progress

def readArgument (argument : String) (progress : Progress) : Except Stop Progress :=
  let asValue (option : Valued) : Except Stop Progress :=
    .ok { progress with waiting := some { option, value := some argument } }
  match Form.ofArgument argument, progress.wanting with
  | .long name value, _ => readLong name value progress
  | .short letters, some option =>
    if option.takes letters then asValue option else readShort letters progress
  | .short letters, none => readShort letters progress
  | _, some option => asValue option
  | _, none => unexpected argument

/-- Reads arguments. Nothing may follow a separator, and an option before it waits in vain. -/
def readFrom : Progress → List String → Except Stop Settings
  | progress, [] => settle progress.waiting progress.settings
  | progress, argument :: rest =>
    if Form.ofArgument argument = .separator then
      match rest with
      | [] => settle progress.waiting progress.settings
      | next :: _ => unexpected next
    else do readFrom (← readArgument argument progress) rest

/-- The settings that arguments ask for. -/
def read (arguments : List String) : Except Stop Settings := readFrom {} arguments

end BlockFolding.CommandLine

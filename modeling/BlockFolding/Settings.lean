import BlockFolding.Text
import BlockFolding.Text.Quoted

/-
  Settings of a run

  A run is settled by a handful of values. The environment can switch two of them on, the JSON
  format and the detailed log, and never switches anything off: a variable counts as on unless it
  is missing or, apart from blanks around it, empty, `0` or `false`.
-/

namespace BlockFolding

inductive OutputFormat where
  | text
  | json
  deriving DecidableEq, Repr

structure Settings where
  /-- How the plan is printed. -/
  format : OutputFormat := .text
  /-- Whether the numbered text is printed before the plan. -/
  showSource : Bool := false
  /-- The pattern for lines that open a block, in place of the brace. -/
  openPattern : Option String := none
  /-- The pattern for lines that close a block, in place of the brace. -/
  closePattern : Option String := none
  /-- The index of the one line whose end column is printed in place of a plan. -/
  columnOf : Option Int64 := none
  /-- Whether the log shows its details. -/
  verbose : Bool := false
  deriving DecidableEq

/-- The values of the variables of an environment. -/
abbrev Environment := String → Option String

/-- The variable that switches the detailed log on. -/
def verboseVariable : String := "DICT_FOLD_VERBOSE"

/-- The variable that switches the JSON format on. -/
def jsonVariable : String := "DICT_FOLD_JSON"

/-- Whether a value of a variable switches something on. -/
def isOnValue (value : String) : Bool := !(["", "0", "false"].contains (Text.trim value))

def Environment.isOn (env : Environment) (name : String) : Bool := (env name).any isOnValue

namespace Settings

/-- The settings with what the environment switches on. -/
def withEnvironment (settings : Settings) (env : Environment) : Settings :=
  { settings with
    verbose := settings.verbose || env.isOn verboseVariable
    format := if env.isOn jsonVariable then .json else settings.format }

/-- Whether a pattern takes the place of a brace. -/
def usesPatterns (settings : Settings) : Bool :=
  settings.openPattern.isSome || settings.closePattern.isSome

/-! ## Settings in words -/

def optionText {α : Type} (text : α → String) : Option α → String
  | none => "None"
  | some value => "Some(" ++ text value ++ ")"

def patternText (pattern : Option String) : String := optionText Text.quote pattern

def intText (n : Int64) : String := toString n.toInt

def describe (settings : Settings) : String :=
  "AppConfig \x7b format: " ++ (match settings.format with | .text => "Text" | .json => "Json") ++
  ", show_source: " ++ toString settings.showSource ++
  ", open_pattern: " ++ patternText settings.openPattern ++
  ", close_pattern: " ++ patternText settings.closePattern ++
  ", column_of: " ++ optionText intText settings.columnOf ++
  ", verbose: " ++ toString settings.verbose ++ " \x7d"

end Settings

end BlockFolding

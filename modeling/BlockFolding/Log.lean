import BlockFolding.Text

/-
  Log records and which of them are shown

  A record has a level, the part of the program it comes from, and a message. Which records are
  shown is a list of rules: a rule holds for the parts whose name starts with its name, and of
  the rules that hold for a part the one with the longest name decides.
-/

namespace BlockFolding.Log

/-- How important a record is. -/
inductive Level where
  | error
  | warn
  | info
  | debug
  | trace
  deriving DecidableEq, Repr

/-- The levels in order, the most important first. -/
def Level.rank : Level → Nat
  | error => 1
  | warn => 2
  | info => 3
  | debug => 4
  | trace => 5

def Level.name : Level → String
  | error => "ERROR"
  | warn => "WARN"
  | info => "INFO"
  | debug => "DEBUG"
  | trace => "TRACE"

structure Record where
  level : Level
  target : String
  message : String
  deriving DecidableEq, Repr

/-- The text of a record; the lines of its message after the first are indented. -/
def Record.text (record : Record) : String :=
  "[" ++ Text.padRight 5 record.level.name ++ " " ++ record.target ++ "] " ++
    "\n    ".intercalate ((record.message.toList.splitOn '\n').map String.ofList) ++ "\n"

/-! ## Rules -/

/-- The least important level that is shown; `none` shows nothing. -/
abbrev Limit := Option Level

/-- A rule for the parts whose name starts with `name`, or for all parts. -/
structure Rule where
  name : Option String
  limit : Limit
  deriving DecidableEq, Repr

def Rule.holds (rule : Rule) (target : String) : Bool :=
  match rule.name with
  | none => true
  | some name => name.toList.isPrefixOf target.toList

/-- How specific the rule is. -/
def Rule.weight (rule : Rule) : Nat :=
  match rule.name with
  | none => 0
  | some name => name.length

/-- The rules with one more, which takes the place of an earlier one of its name. -/
def addRule (rule : Rule) : List Rule → List Rule
  | [] => [rule]
  | other :: rest => if other.name = rule.name then rule :: rest else other :: addRule rule rest

/-- The rule that decides for a part: of those that hold the most specific, of equals the last. -/
def deciding (target : String) (rules : List Rule) : Option Rule :=
  rules.foldl (fun best rule =>
    if !rule.holds target then best
    else match best with
      | none => some rule
      | some other => if other.weight ≤ rule.weight then some rule else some other) none

def isShown (rules : List Rule) (record : Record) : Bool :=
  match deciding record.target rules with
  | some { limit := some level, .. } => record.level.rank ≤ level.rank
  | _ => false

/-! ## Rules in words -/

/-- The limit that a word names, in any case. -/
def limitOfName? (name : String) : Option Limit :=
  match String.ofList (name.toList.map Char.toUpper) with
  | "OFF" => some none
  | "ERROR" => some (some .error)
  | "WARN" => some (some .warn)
  | "INFO" => some (some .info)
  | "DEBUG" => some (some .debug)
  | "TRACE" => some (some .trace)
  | _ => none

/-- The rule that an item of a list writes: a limit for all parts, a part that is shown in full,
or a part with its limit. Any other item writes none. -/
def Rule.ofItem? (item : String) : Option Rule :=
  match (item.toList.splitOn '=').map String.ofList with
  | [word] =>
    match limitOfName? word with
    | some limit => some ⟨none, limit⟩
    | none => some ⟨some word, some .trace⟩
  | [name, limit] =>
    let limit := Text.trim limit
    if limit.isEmpty then some ⟨some name, some .trace⟩
    else (limitOfName? limit).map (⟨some name, ·⟩)
  | _ => none

/-- The items of a list separated by commas, without the blanks around them. -/
def items (text : String) : List String :=
  ((text.toList.splitOn ',').map fun item => Text.trim (String.ofList item)).filter (! ·.isEmpty)

/-- The rules with those that a list of items writes, from the first item to the last. -/
def readRules (rules : List Rule) (text : String) : List Rule :=
  ((items text).filterMap Rule.ofItem?).foldl (fun before rule => addRule rule before) rules

def shown (rules : List Rule) (records : List Record) : String :=
  String.join ((records.filter (isShown rules)).map Record.text)

end BlockFolding.Log

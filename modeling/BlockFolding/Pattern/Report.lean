import BlockFolding.Pattern.Fault

/-
  The report of a fault

  A report shows the pattern with the places of the fault marked below it, and says what is
  wrong. A pattern of one line is indented; one that holds a line feed is shown with numbered
  lines between two rules, and a place that spans lines is then given in words.
-/

namespace BlockFolding.Pattern

/-- A line without the carriage return at its end. -/
def withoutReturn (line : List Char) : List Char :=
  if line.getLast? = some '\r' then line.dropLast else line

/-- The lines of a pattern as they are shown: without their ends, and without an empty last
line. -/
def shownLines : List (List Char) → List (List Char)
  | [] => []
  | [last] => if last.isEmpty then [] else [last]
  | line :: rest => withoutReturn line :: shownLines rest

/-- A pattern as a report shows it. -/
structure Sheet where
  pattern : List Char
  lines : List (List Char)
  numberWidth : Nat

/-- The sheet of a pattern. Lines are numbered where there are at least two places for one,
counting the place after a last line feed. -/
def Sheet.ofPattern (pattern : List Char) : Sheet :=
  let lines := shownLines (pattern.splitOn '\n')
  let places := if pattern.getLast? = some '\n' then lines.length + 1 else lines.length
  { pattern, lines, numberWidth := if places ≤ 1 then 0 else (toString places).length }

namespace Sheet

def margin (sheet : Sheet) (index : Nat) : List Char :=
  if sheet.numberWidth = 0 then List.replicate 4 ' '
  else
    let number := (toString (index + 1)).toList
    List.replicate (sheet.numberWidth - number.length) ' ' ++ number ++ [':', ' ']

/-- How far a mark is indented so that it stands below its line. -/
def indent (sheet : Sheet) : Nat := if sheet.numberWidth = 0 then 4 else sheet.numberWidth + 2

/-- Whether the span ends on the line it starts on. -/
def isOnOneLine (sheet : Sheet) (span : Span) : Bool :=
  lineOf sheet.pattern span.start == lineOf sheet.pattern span.stop

/-- The marks of the spans below a line, after what is marked already. An empty span has a mark
as well. -/
def marks (sheet : Sheet) (written : List Char) : List Span → List Char
  | [] => written
  | span :: rest =>
    let start := columnOf sheet.pattern span.start
    let stop := columnOf sheet.pattern span.stop
    let blank := List.replicate (start - written.length) ' '
    marks sheet (written ++ blank ++ List.replicate (max 1 (stop - start)) '^') rest

def showLine (sheet : Sheet) (spans : List Span) (index : Nat) (line : List Char) : List Char :=
  let here := spans.filter fun span =>
    sheet.isOnOneLine span && lineOf sheet.pattern span.start == index
  let marked :=
    if here.isEmpty then []
    else List.replicate sheet.indent ' ' ++ sheet.marks [] here ++ ['\n']
  sheet.margin index ++ line ++ ['\n'] ++ marked

def body (sheet : Sheet) (spans : List Span) : List Char :=
  (sheet.lines.mapIdx (sheet.showLine spans)).flatten

/-- A span over several lines in words. Lines and columns count from 1, and the last column is
the one before the end. -/
def inWords (sheet : Sheet) (span : Span) : String :=
  "on line " ++ toString (lineOf sheet.pattern span.start + 1) ++
  " (column " ++ toString (columnOf sheet.pattern span.start + 1) ++
  ") through line " ++ toString (lineOf sheet.pattern span.stop + 1) ++
  " (column " ++ toString (columnOf sheet.pattern span.stop) ++ ")\n"

def rule : String := String.ofList (List.replicate 79 '~') ++ "\n"

end Sheet

/-- The places a fault points at, in their order in the pattern. -/
def Fault.spans (fault : Fault) : List Span :=
  match fault.earlier with
  | none => [fault.span]
  | some earlier =>
    if earlier.le fault.span then [earlier, fault.span] else [fault.span, earlier]

def Fault.report (pattern : String) (fault : Fault) : String :=
  let sheet := Sheet.ofPattern pattern.toList
  let body := String.ofList (sheet.body fault.spans)
  let shown :=
    if pattern.toList.contains '\n' then
      let long := fault.spans.filter (! sheet.isOnOneLine ·)
      Sheet.rule ++ body ++ Sheet.rule ++ String.join (long.map sheet.inWords)
    else body
  "regex parse error:\n" ++ shown ++ "error: " ++ fault.cause.message

end BlockFolding.Pattern

import BlockFolding.LineRange
import BlockFolding.LineTest
import BlockFolding.Text

/-
  Scanning a text for large blocks

  A scan goes down the lines of a text and is either searching for a line that opens a block or
  waiting for one that closes the block open. It puts exactly one question about each line, the
  one its state asks, so a line that both opens and closes counts as an opening line if no block
  is open and as a closing line otherwise. A closed block is reported if its last line is more
  than the threshold below its first one, and either way the search goes on from the next line; a
  block that is never closed is dropped.

  The scan keeps what it went through, a visit for each line. The ranges it reports, the
  questions it put and the messages it logs are all read off its visits, and depend on the text
  through the answers alone.
-/

namespace BlockFolding

/-- A block is large if it ends more than this many lines below its first line. -/
def largeThreshold : Word := 5

inductive Question where
  | opens
  | closes
  deriving DecidableEq, Repr

def LineTest.answer (test : LineTest) : Question → String → Bool
  | .opens => test.opens
  | .closes => test.closes

/-- Where a scan stands between two lines. -/
inductive ScanState where
  /-- No block is open. -/
  | searching
  /-- The line at this index, counted from 0, opened a block that is not closed yet. -/
  | spanOpen (openIndex : Word)
  deriving DecidableEq, Repr

namespace ScanState

/-- The question that the state asks about the next line. -/
def question : ScanState → Question
  | searching => .opens
  | spanOpen _ => .closes

/-- The range of a block from one index to another, if it is large enough to be reported. -/
def report (threshold openIndex index : Word) : Checked (Option LineRange) := do
  let distance ← Word.minus index openIndex
  if threshold < distance then
    let first ← Word.plus openIndex 1
    let last ← Word.plus index 1
    return some { first, last }
  else return none

/-- The state after a line with the answer about it, and the range that the line completes. -/
def advance (threshold index : Word) (answer : Bool) :
    ScanState → Checked (ScanState × Option LineRange)
  | searching => .ok (if answer then spanOpen index else searching, none)
  | spanOpen openIndex =>
    if answer then do return (searching, ← report threshold openIndex index)
    else .ok (spanOpen openIndex, none)

/-- The state after the line at an index, and the range that the line completes. -/
def step (state : ScanState) (index : Word) (line : String) (test : LineTest) (threshold : Word) :
    Checked (ScanState × Option LineRange) :=
  state.advance threshold index (test.answer state.question line)

end ScanState

/-- What happened at a line: the state before it, the answer to that state's question, and the
range it completed. -/
structure Visit where
  state : ScanState
  answer : Bool
  emitted : Option LineRange
  deriving DecidableEq, Repr

/-- A finished scan: the visits to the lines in order, and the state after them. -/
structure Scan where
  visits : List Visit
  final : ScanState
  deriving DecidableEq, Repr

namespace Scan

/-- Scans lines from a state on, the first of them at the index. -/
def run (test : LineTest) (threshold : Word) :
    ScanState → (index : Word) → List String → Checked Scan
  | state, _, [] => .ok { visits := [], final := state }
  | state, index, line :: rest => do
    let answer := test.answer state.question line
    let (next, emitted) ← state.advance threshold index answer
    let later ← run test threshold next (← Word.plus index 1) rest
    return { later with visits := ⟨state, answer, emitted⟩ :: later.visits }

def ofText (source : String) (test : LineTest) (threshold : Word) : Checked Scan :=
  run test threshold .searching 0 (Text.lines source)

def ranges (scan : Scan) : List LineRange := scan.visits.filterMap (·.emitted)

def asked (scan : Scan) : List (Question × Bool) :=
  scan.visits.map fun visit => (visit.state.question, visit.answer)

/-- The messages of the scan: one for each range reported, and one if a block was left open. -/
def messages (scan : Scan) : List String :=
  scan.ranges.map (fun range =>
    "large block at lines " ++ toString range.first.toNat ++ "-" ++ toString range.last.toNat) ++
  match scan.final with
  | .searching => []
  | .spanOpen openIndex =>
    ["block opened at line " ++ toString (openIndex.toNat + 1) ++ " never closed; dropped"]

end Scan

/-- The blocks of a text above a threshold, under a test. -/
def findBlocks (source : String) (test : LineTest) (threshold : Word) :
    Checked (List LineRange) :=
  return (← Scan.ofText source test threshold).ranges

/-- The large blocks of a text between braces. -/
def findLargeBlocks (source : String) : Checked (List LineRange) :=
  findBlocks source .braces largeThreshold

end BlockFolding

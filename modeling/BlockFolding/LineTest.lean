import BlockFolding.Pattern

/-
  Tests on lines

  A block begins at a line that opens one and ends at a line that closes one. Both tests look at
  a single line and see nothing around it. The plain test looks for braces; the other takes a
  pattern for each side and falls back to a brace where none is given. Every compiler has
  room for the pattern of a brace.
-/

namespace BlockFolding

/-- Whether a line opens a block and whether it closes one. -/
structure LineTest where
  opens : String → Bool
  closes : String → Bool

def blockOpen : Char := '\x7b'

def blockClose : Char := '\x7d'

def LineTest.braces : LineTest where
  opens line := line.toList.contains blockOpen
  closes line := line.toList.contains blockClose

/-- A pattern for the lines that open a block and one for those that close it. -/
structure PatternPair where
  opening : Pattern
  closing : Pattern

namespace PatternPair

/-- The texts of the patterns used where none is given. -/
def defaultOpening : String := "\\\x7b"

def defaultClosing : String := "\\\x7d"

/-- The pair that two texts write. The opening one is refused first. -/
def compile (opening closing : String) (compiler : Pattern.Compiler := .direct) :
    Except PatternError PatternPair := do
  let opening ← Pattern.compile opening compiler
  let closing ← Pattern.compile closing compiler
  return { opening, closing }

/-- The patterns that these write. -/
def openingBrace : Pattern := { text := defaultOpening, expr := .chars (.single blockOpen) }

def closingBrace : Pattern := { text := defaultClosing, expr := .chars (.single blockClose) }

/-- The pattern that the text of a side writes, or the one used where there is none. -/
def compileSide (missing : Pattern) (side : Option String) (compiler : Pattern.Compiler) :
    Except PatternError Pattern :=
  match side with
  | some text => Pattern.compile text compiler
  | none => .ok missing

/-- The pair in which a missing side is a brace. The opening side is refused first. -/
def withDefaults (opening closing : Option String) (compiler : Pattern.Compiler := .direct) :
    Except PatternError PatternPair := do
  let opening ← compileSide openingBrace opening compiler
  let closing ← compileSide closingBrace closing compiler
  return { opening, closing }

def lineTest (pair : PatternPair) : LineTest where
  opens := pair.opening.matches
  closes := pair.closing.matches

end PatternPair

end BlockFolding

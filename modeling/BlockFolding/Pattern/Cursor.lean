import BlockFolding.Pattern.Tree
import BlockFolding.Unicode.CharSet

/-
  Moving through a pattern

  A cursor stands at an offset of the pattern and holds what is left of it. In loose mode blanks
  and comments between the parts of a pattern do not count; `skipBlank` passes over them, and
  readers call it wherever a blank may stand. Nothing here moves back or past the end, so what
  is left never grows.
-/

namespace BlockFolding.Pattern

/-- A place in a pattern with what is left, the mode, and the group names given so far. -/
structure Cursor where
  rest : List Char
  offset : Nat
  loose : Bool
  names : List (String × Span)
  deriving Repr

/-- How many characters stand before the next that counts in loose mode: blanks, and comments
from `#` to the end of the line. -/
def blankLength (inComment : Bool) : List Char → Nat
  | [] => 0
  | c :: rest =>
    if inComment then blankLength (c != '\n') rest + 1
    else if Unicode.isWhiteSpace c then blankLength false rest + 1
    else if c = '#' then blankLength true rest + 1
    else 0

namespace Cursor

def ofPattern (pattern : List Char) : Cursor := ⟨pattern, 0, false, []⟩

def advance (c : Cursor) : Cursor :=
  match c.rest with
  | [] => c
  | _ :: rest => { c with rest, offset := c.offset + 1 }

/-- The cursor before the next character that counts. -/
def skipBlank (c : Cursor) : Cursor :=
  if c.loose then
    let n := blankLength false c.rest
    { c with rest := c.rest.drop n, offset := c.offset + n }
  else c

end Cursor

/-- A reader takes its part off the pattern, or refuses the pattern. -/
abbrev Reader := StateT Cursor (Except Fault)

namespace Reader

def fail {α : Type} (cause : Cause) (span : Span) : Reader α := throw { cause, span }

def rest : Reader (List Char) := return (← get).rest

def next? : Reader (Option Char) := return (← get).rest.head?

def offset : Reader Nat := return (← get).offset

def spanFrom (start : Nat) : Reader Span := return ⟨start, ← offset⟩

def advance : Reader Unit := modify Cursor.advance

/-- Passes what does not count in loose mode. -/
def skipBlank : Reader Unit := modify Cursor.skipBlank

/-- Passes the next character and what does not count after it. -/
def advanceSkipping : Reader Unit := do advance; skipBlank

/-- Passes the text if it comes next, and tells whether it does. -/
def take? (text : List Char) : Reader Bool := do
  if text.isPrefixOf (← rest) then
    modify fun c => { c with rest := c.rest.drop text.length, offset := c.offset + text.length }
    return true
  else return false

/-- Gathers characters as long as they satisfy the test, at most `room` of them. -/
def gatherUpTo (test : Char → Bool) : (room : Nat) → List Char → Reader (List Char)
  | 0, gathered => return gathered.reverse
  | room + 1, gathered => do
    match ← next? with
    | some c =>
      if test c then
        advanceSkipping
        gatherUpTo test room (c :: gathered)
      else return gathered.reverse
    | none => return gathered.reverse

/-- The characters that come next and satisfy the test, without what does not count between
them. -/
def gather (test : Char → Bool) : Reader (List Char) := do
  gatherUpTo test (← rest).length []

end Reader

end BlockFolding.Pattern

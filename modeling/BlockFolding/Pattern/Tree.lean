import BlockFolding.Pattern.Fault

/-
  The form of a pattern

  A pattern is read into a tree that keeps what was written and where: the places are needed when
  a limit or the meaning of a part is found wrong later. What a part means depends on the flags
  in force where it stands, so flags stay in the tree as they were written.
-/

namespace BlockFolding.Pattern

/-- A switch that a pattern may set for the rest of the group it stands in. -/
inductive Flag where
  | caseless
  | multiLine
  | dotAll
  | swapGreed
  | unicode
  | crlf
  | loose
  deriving DecidableEq, Repr

def Flag.ofLetter? : Char → Option Flag
  | 'i' => some .caseless
  | 'm' => some .multiLine
  | 's' => some .dotAll
  | 'U' => some .swapGreed
  | 'u' => some .unicode
  | 'R' => some .crlf
  | 'x' => some .loose
  | _ => none

structure FlagChange where
  flag : Flag
  on : Bool
  deriving DecidableEq, Repr

/-- A character that stands for itself. `asByte` marks one written with two hexadecimal digits,
which names a byte where Unicode is off. -/
structure Literal where
  char : Char
  asByte : Bool
  span : Span
  deriving DecidableEq, Repr

/-- The classes with a letter of their own. -/
inductive Shorthand where
  | digit
  | space
  | word
  deriving DecidableEq, Repr

inductive AsciiClass where
  | alnum
  | alpha
  | ascii
  | blank
  | cntrl
  | digit
  | graph
  | lower
  | print
  | punct
  | space
  | upper
  | word
  | xdigit
  deriving DecidableEq, Repr

def AsciiClass.ofName? : String → Option AsciiClass
  | "alnum" => some .alnum
  | "alpha" => some .alpha
  | "ascii" => some .ascii
  | "blank" => some .blank
  | "cntrl" => some .cntrl
  | "digit" => some .digit
  | "graph" => some .graph
  | "lower" => some .lower
  | "print" => some .print
  | "punct" => some .punct
  | "space" => some .space
  | "upper" => some .upper
  | "word" => some .word
  | "xdigit" => some .xdigit
  | _ => none

/-- A property of characters, by a name alone or by a name and a value. -/
inductive PropertyQuery where
  | name (name : String)
  | value (property value : String)
  deriving DecidableEq, Repr

/-- Where a place stands relative to a word. The half edges look at one side only. -/
inductive WordEdge where
  | boundary
  | noBoundary
  | start
  | stop
  | startHalf
  | stopHalf
  deriving DecidableEq, Repr

/-- A condition on a place between two characters. -/
inductive Anchor where
  | lineStart
  | lineEnd
  | textStart
  | textEnd
  | word (edge : WordEdge)
  deriving DecidableEq, Repr

/-- A part of a pattern that is not put together from others. -/
inductive Atom where
  | literal (l : Literal)
  | anyChar (span : Span)
  | anchor (a : Anchor) (span : Span)
  | shorthand (s : Shorthand) (negated : Bool) (span : Span)
  | property (q : PropertyQuery) (negated : Bool) (span : Span)
  deriving DecidableEq, Repr

def Atom.span : Atom → Span
  | literal l => l.span
  | anyChar span | anchor _ span | shorthand _ _ span | property _ _ span => span

/-- The operations between the sets of a class. -/
inductive ClassOp where
  | inter
  | diff
  | symmDiff
  deriving DecidableEq, Repr

/-- What stands between the brackets of a class. -/
inductive ClassTree where
  | empty (span : Span)
  | literal (l : Literal)
  | range (first last : Literal)
  | shorthand (s : Shorthand) (negated : Bool) (span : Span)
  | property (q : PropertyQuery) (negated : Bool) (span : Span)
  | ascii (cls : AsciiClass) (negated : Bool) (span : Span)
  | nested (negated : Bool) (inner : ClassTree) (span : Span)
  | union (items : List ClassTree) (span : Span)
  | op (kind : ClassOp) (left right : ClassTree) (span : Span)
  deriving Repr

def ClassTree.span : ClassTree → Span
  | literal l => l.span
  | range first last => ⟨first.span.start, last.span.stop⟩
  | empty span | shorthand _ _ span | property _ _ span | ascii _ _ span | nested _ _ span
  | union _ span | op _ _ _ span => span

/-- The atom as an item of a class; anchors are none. -/
def Atom.toClass? : Atom → Option ClassTree
  | literal l => some (.literal l)
  | shorthand s negated span => some (.shorthand s negated span)
  | property q negated span => some (.property q negated span)
  | anyChar _ | anchor _ _ => none

/-- A pattern as it was written. -/
inductive Tree where
  | empty (span : Span)
  | flags (changes : List FlagChange) (span : Span)
  | atom (a : Atom)
  | bracketed (negated : Bool) (inner : ClassTree) (span : Span)
  | times (inner : Tree) (least : Nat) (most : Option Nat) (span : Span)
  | group (changes : List FlagChange) (inner : Tree) (span : Span)
  | branches (trees : List Tree) (span : Span)
  | seq (trees : List Tree) (span : Span)
  deriving Repr

def Tree.span : Tree → Span
  | atom a => a.span
  | empty span | flags _ span | bracketed _ _ span | times _ _ _ span | group _ _ span
  | branches _ span | seq _ span => span

end BlockFolding.Pattern

/-
  What can be wrong with a pattern

  A fault is a cause and the place it was found at. Two causes, a flag or a name given twice and
  a second negation, also point at the earlier place. The wording of each cause stands in
  `Cause.message` and nowhere else. Places are spans of characters, counted from the start of the
  pattern. Messages name lines and columns instead; both are derived from the pattern and the
  offset, so no reader has to carry them along.
-/

namespace BlockFolding.Pattern

/-! ## Places -/

/-- The characters of a pattern from offset `start` up to and without offset `stop`. -/
structure Span where
  start : Nat
  stop : Nat
  deriving DecidableEq, Repr

namespace Span

def point (offset : Nat) : Span := ⟨offset, offset⟩

def character (offset : Nat) : Span := ⟨offset, offset + 1⟩

/-- The order of spans in a message: by start, then by end. -/
def le (a b : Span) : Bool := a.start < b.start || (a.start == b.start && a.stop ≤ b.stop)

end Span

/-- The line of an offset, counted from 0: the line ends before it. -/
def lineOf (pattern : List Char) (offset : Nat) : Nat := (pattern.take offset).count '\n'

/-- The column of an offset, counted from 0: the characters since the last line end. -/
def columnOf (pattern : List Char) (offset : Nat) : Nat :=
  ((pattern.take offset).reverse.takeWhile (· ≠ '\n')).length

/-! ## Causes -/

def nestingLimit : Nat := 250

/-- Why a pattern is refused. -/
inductive Cause where
  | groupUnclosed
  | groupUnopened
  | groupNameEmpty
  | groupNameInvalid
  | groupNameUnclosed
  | groupNameDuplicate
  | flagUnrecognized
  | flagDuplicate
  | flagMissing
  | negationRepeated
  | negationDangling
  | lookAround
  | backreference
  | repetitionMissing
  | countUnclosed
  | countEmpty
  | countTooLarge
  | countReversed
  | escapeUnfinished
  | escapeUnrecognized
  | hexEmpty
  | hexDigitInvalid
  | hexNotScalar
  | propertyInvalid
  | wordEdgeUnknown
  | wordEdgeUnclosed
  | braceUnclosed
  | classUnclosed
  | classEscapeInvalid
  | classRangeNotLiteral
  | classRangeReversed
  | nestingTooDeep
  | unicodeNotAllowed
  | invalidUtf8
  | propertyNotFound
  | propertyValueNotFound
  deriving DecidableEq, Repr

def Cause.message : Cause → String
  | groupUnclosed => "unclosed group"
  | groupUnopened => "unopened group"
  | groupNameEmpty => "empty capture group name"
  | groupNameInvalid => "invalid capture group character"
  | groupNameUnclosed => "unclosed capture group name"
  | groupNameDuplicate => "duplicate capture group name"
  | flagUnrecognized => "unrecognized flag"
  | flagDuplicate => "duplicate flag"
  | flagMissing => "expected flag but got end of regex"
  | negationRepeated => "flag negation operator repeated"
  | negationDangling => "dangling flag negation operator"
  | lookAround => "look-around, including look-ahead and look-behind, is not supported"
  | backreference => "backreferences are not supported"
  | repetitionMissing => "repetition operator missing expression"
  | countUnclosed => "unclosed counted repetition"
  | countEmpty => "repetition quantifier expects a valid decimal"
  | countTooLarge => "decimal literal invalid"
  | countReversed => "invalid repetition count range, the start must be <= the end"
  | escapeUnfinished => "incomplete escape sequence, reached end of pattern prematurely"
  | escapeUnrecognized => "unrecognized escape sequence"
  | hexEmpty => "hexadecimal literal empty"
  | hexDigitInvalid => "invalid hexadecimal digit"
  | hexNotScalar => "hexadecimal literal is not a Unicode scalar value"
  | propertyInvalid => "invalid Unicode character class"
  | wordEdgeUnknown =>
    "unrecognized special word boundary assertion, valid choices are: start, end, start-half " ++
      "or end-half"
  | wordEdgeUnclosed =>
    "special word boundary assertion is either unclosed or contains an invalid character"
  | braceUnclosed =>
    "found either the beginning of a special word boundary or a bounded repetition on a \\b " ++
      "with an opening brace, but no closing brace"
  | classUnclosed => "unclosed character class"
  | classEscapeInvalid => "invalid escape sequence found in character class"
  | classRangeNotLiteral => "invalid range boundary, must be a literal"
  | classRangeReversed => "invalid character class range, the start must be <= the end"
  | nestingTooDeep =>
    "exceed the maximum number of nested parentheses/brackets (" ++ toString nestingLimit ++ ")"
  | unicodeNotAllowed => "Unicode not allowed here"
  | invalidUtf8 => "pattern can match invalid UTF-8"
  | propertyNotFound => "Unicode property not found"
  | propertyValueNotFound => "Unicode property value not found"

/-- A cause with the place it was found at and, for what is given twice, the earlier place. -/
structure Fault where
  cause : Cause
  span : Span
  earlier : Option Span := none
  deriving DecidableEq, Repr

end BlockFolding.Pattern

import BlockFolding.Pattern.Cursor
import BlockFolding.Text.Numeral

/-
  Escapes

  A backslash starts an escape: a character written by its number, a class of characters, a
  property, a place between characters, or a sign taken as itself. The same escapes stand inside
  the brackets of a class, where those for places are refused later.
-/

namespace BlockFolding.Pattern

open Reader

/-- Whether a backslash before the sign only takes it as itself: all of ASCII but letters, digits
and the two angle brackets. -/
def isPlainEscape (c : Char) : Bool :=
  c ≤ '\x7f' && !(c.isAlphanum || c == '<' || c == '>')

/-- The control characters with a letter of their own. -/
def controlOfLetter? : Char → Option Char
  | 'a' => some '\x07'
  | 'f' => some '\x0c'
  | 't' => some '\t'
  | 'n' => some '\n'
  | 'r' => some '\r'
  | 'v' => some '\x0b'
  | _ => none

/-- The classes with a letter of their own; the upper-case letter negates the class. -/
def shorthandOfLetter? : Char → Option (Shorthand × Bool)
  | 'd' => some (.digit, false)
  | 's' => some (.space, false)
  | 'w' => some (.word, false)
  | 'D' => some (.digit, true)
  | 'S' => some (.space, true)
  | 'W' => some (.word, true)
  | _ => none

/-- The places with a letter or sign of their own. -/
def anchorOfLetter? : Char → Option Anchor
  | 'A' => some .textStart
  | 'z' => some .textEnd
  | 'b' => some (.word .boundary)
  | 'B' => some (.word .noBoundary)
  | '<' => some (.word .start)
  | '>' => some (.word .stop)
  | _ => none

/-- How many digits a character number without braces has. -/
def hexWidth? : Char → Option Nat
  | 'x' => some 2
  | 'u' => some 4
  | 'U' => some 8
  | _ => none

/-- The character with the number, where the number is a Unicode scalar value. -/
def scalar? (n : Nat) : Option Char := if n.isValidChar then some (Char.ofNat n) else none

/-- Reads exactly so many hexadecimal digits. -/
def readHexDigits : Nat → List Char → Reader (List Char)
  | 0, digits => return digits.reverse
  | n + 1, digits => do
    match ← next? with
    | none => fail .escapeUnfinished (.point (← offset))
    | some c =>
      if Text.isHexDigit c then
        advanceSkipping
        readHexDigits n (c :: digits)
      else fail .hexDigitInvalid (.character (← offset))

/-- Reads the number of a character after its letter. `start` is the place of the backslash. -/
def readHex (start width : Nat) : Reader Atom := do
  advanceSkipping
  match ← next? with
  | none => fail .escapeUnfinished (.point (← offset))
  | some '\x7b' =>
    let brace ← offset
    advanceSkipping
    let digits ← gather Text.isHexDigit
    match ← next? with
    | none => fail .escapeUnfinished (← spanFrom brace)
    | some '\x7d' =>
      let stop ← offset
      advanceSkipping
      if digits.isEmpty then fail .hexEmpty (← spanFrom brace)
      else match scalar? (Text.hexValue digits) with
        | none => fail .hexNotScalar ⟨brace + 1, stop⟩
        | some char => return .literal { char, asByte := false, span := ← spanFrom start }
    | some _ => fail .hexDigitInvalid (.character (← offset))
  | some _ =>
    let first ← offset
    let digits ← readHexDigits width []
    match scalar? (Text.hexValue digits) with
    | none => fail .hexNotScalar (← spanFrom first)
    | some char => return .literal { char, asByte := width == 2, span := ← spanFrom start }

/-- Cuts a text at the first place where the mark stands. -/
def cutAt? (mark : List Char) : List Char → Option (List Char × List Char)
  | [] => none
  | c :: rest =>
    if mark.isPrefixOf (c :: rest) then some ([], (c :: rest).drop mark.length)
    else (cutAt? mark rest).map fun (before, after) => (c :: before, after)

/-- The property that the text between braces asks for: a name, or a name and a value with `!=`,
`:` or `=` between them. -/
def propertyQuery (text : List Char) : PropertyQuery :=
  match (cutAt? ['!', '='] text).or ((cutAt? [':'] text).or (cutAt? ['='] text)) with
  | some (property, value) => .value (String.ofList property) (String.ofList value)
  | none => .name (String.ofList text)

def readProperty (start : Nat) (negated : Bool) : Reader Atom := do
  advanceSkipping
  match ← next? with
  | none => fail .escapeUnfinished (.point (← offset))
  | some '\x7b' =>
    advanceSkipping
    let text ← gather (· ≠ '\x7d')
    if (← next?).isNone then fail .escapeUnfinished (.point (← offset))
    advance
    return .property (propertyQuery text) negated (← spanFrom start)
  | some '\\' => fail .propertyInvalid (.character (← offset))
  | some c =>
    advanceSkipping
    return .property (.name (String.singleton c)) negated (← spanFrom start)

def wordEdgeOfName? (name : List Char) : Option WordEdge :=
  if name = "start".toList then some .start
  else if name = "end".toList then some .stop
  else if name = "start-half".toList then some .startHalf
  else if name = "end-half".toList then some .stopHalf
  else none

def isEdgeNameChar (c : Char) : Bool := c.isAlpha || c == '-'

/-- Reads the name in braces that may follow `\b`. A brace before anything but a name is left
for a counted repetition. -/
def readWordEdge? (start : Nat) : Reader (Option WordEdge) := do
  let before ← get
  let brace := before.offset
  advanceSkipping
  match ← next? with
  | none => fail .braceUnclosed (← spanFrom start)
  | some c =>
    if isEdgeNameChar c then
      let first ← offset
      let name ← gather isEdgeNameChar
      if (← next?) = some '\x7d' then
        let stop ← offset
        advance
        match wordEdgeOfName? name with
        | some edge => return some edge
        | none => fail .wordEdgeUnknown ⟨first, stop⟩
      else fail .wordEdgeUnclosed (← spanFrom brace)
    else
      set before
      return none

/-- Reads an escape; the cursor stands at its backslash. -/
def readEscape : Reader Atom := do
  let start ← offset
  advance
  match ← next? with
  | none => fail .escapeUnfinished (← spanFrom start)
  | some c =>
    if c.isDigit then fail .backreference ⟨start, (← offset) + 1⟩
    else if let some width := hexWidth? c then readHex start width
    else if c = 'p' ∨ c = 'P' then readProperty start (c == 'P')
    else if let some (shorthand, negated) := shorthandOfLetter? c then
      advance
      return .shorthand shorthand negated (← spanFrom start)
    else
      advance
      if isPlainEscape c then
        return .literal { char := c, asByte := false, span := ← spanFrom start }
      else if let some char := controlOfLetter? c then
        return .literal { char, asByte := false, span := ← spanFrom start }
      else match anchorOfLetter? c with
        | none => fail .escapeUnrecognized (← spanFrom start)
        | some anchor =>
          if c = 'b' ∧ (← next?) = some '\x7b' then
            match ← readWordEdge? start with
            | some edge => return .anchor (.word edge) (← spanFrom start)
            | none => return .anchor anchor (← spanFrom start)
          else return .anchor anchor (← spanFrom start)

end BlockFolding.Pattern

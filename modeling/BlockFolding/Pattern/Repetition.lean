import BlockFolding.Pattern.Cursor
import BlockFolding.Text.Numeral

/-
  Repetitions

  A repetition follows the part it repeats and says how often: a sign, or numbers in braces. A
  question mark behind it changes which match is preferred and not whether there is one.
-/

namespace BlockFolding.Pattern

open Reader

/-- How often a part is repeated. -/
structure Count where
  least : Nat
  most : Option Nat

def Count.isValid (count : Count) : Bool := count.most.all (count.least ≤ ·)

/-- The part a repetition applies to and the parts before it, latest first. Flags are no part
that can be repeated. -/
def operand : List Tree → Reader (Tree × List Tree)
  | [] | .flags _ _ :: _ | .empty _ :: _ => do fail .repetitionMissing (.point (← offset))
  | part :: before => return (part, before)

def greatestCount : Nat := 0xFFFFFFFF

/-- Reads a decimal number with blanks around it. Its fault is kept until the number is needed,
because a count that is not closed is reported first. -/
def readDecimal : Reader (Except Fault Nat) := do
  let _ ← gather Unicode.isWhiteSpace
  let start ← offset
  let digits ← gather Char.isDigit
  let span ← spanFrom start
  let _ ← gather Unicode.isWhiteSpace
  if digits.isEmpty then return .error { cause := .countEmpty, span }
  let value := Text.decimalValue digits
  if value ≤ greatestCount then return .ok value
  return .error { cause := .countTooLarge, span }

/-- Reads what may follow the first number of a count in braces, up to the closing brace. `start`
is the place of the opening brace. -/
def readCountFrom (start : Nat) (first : Except Fault Nat) : Reader Count := do
  match ← next? with
  | none => fail .countUnclosed (← spanFrom start)
  | some ',' =>
    advanceSkipping
    match ← next? with
    | none => fail .countUnclosed (← spanFrom start)
    | some '\x7d' => return ⟨← liftM first, none⟩
    | some _ =>
      let least ← liftM first
      let most ← liftM (← readDecimal)
      return ⟨least, some most⟩
  | some _ =>
    let number ← liftM first
    return ⟨number, some number⟩

/-- Reads a count in braces and the question mark that may follow; the cursor stands at the
opening brace. -/
def readCount : Reader Count := do
  let start ← offset
  advanceSkipping
  if (← rest).isEmpty then fail .countUnclosed (← spanFrom start)
  let count ← readCountFrom start (← readDecimal)
  if (← next?) ≠ some '\x7d' then fail .countUnclosed (← spanFrom start)
  advanceSkipping
  if (← next?) = some '?' then advance
  if count.isValid then return count
  fail .countReversed (← spanFrom start)

/-- Reads a repetition sign and the question mark that may follow. -/
def readSign (count : Count) : Reader Count := do
  advance
  if (← next?) = some '?' then advance
  return count

def countReader? : Char → Option (Reader Count)
  | '?' => some (readSign ⟨0, some 1⟩)
  | '*' => some (readSign ⟨0, none⟩)
  | '+' => some (readSign ⟨1, none⟩)
  | '\x7b' => some readCount
  | _ => none

end BlockFolding.Pattern

import BlockFolding.Pattern.FlagList
import BlockFolding.Unicode.Binary

/-
  Starts of groups

  A parenthesis opens a group, which may have a name or set flags for what it holds, or it holds
  flags alone, which are in force for the rest of the group around them. Groups that would look at
  what stands around a place are not supported.
-/

namespace BlockFolding.Pattern

open Reader

/-! ## Names -/

/-- Whether a name may hold the character, or start with it. -/
def isNameChar (first : Bool) (c : Char) : Bool :=
  c == '_' || Unicode.Binary.alphabetic.contains c ||
    (!first && (c == '.' || c == '[' || c == ']' || Unicode.Binary.numeric.contains c))

/-- How many characters a name has that starts here. -/
def nameLength (first : Bool) : List Char → Nat
  | [] => 0
  | c :: rest => if isNameChar first c then nameLength false rest + 1 else 0

/-- Reads the name of a group and the sign after it, and keeps the name. -/
def readName : Reader Unit := do
  let start ← offset
  let left ← rest
  let name := left.take (nameLength true left)
  let _ ← take? name
  let span ← spanFrom start
  match ← next? with
  | none => fail .groupNameUnclosed (.point span.stop)
  | some '>' =>
    advance
    if name.isEmpty then fail .groupNameEmpty (.point start)
    let name := String.ofList name
    match (← get).names.find? (·.1 == name) with
    | some (_, earlier) =>
      throw { cause := .groupNameDuplicate, span, earlier := some earlier }
    | none => modify fun c => { c with names := (name, span) :: c.names }
  | some _ => fail .groupNameInvalid (.character span.stop)

/-! ## Heads -/

/-- What a parenthesis opens: flags in force from here, or a group with flags of its own. -/
inductive Head where
  | flags (changes : List FlagChange)
  | group (changes : List FlagChange)

/-- The signs behind a parenthesis that would look at what stands around a place. -/
def lookAroundSigns : List (List Char) :=
  [['?', '='], ['?', '!'], ['?', '<', '='], ['?', '<', '!']]

/-- Reads the start of a group; the cursor stands at its parenthesis. -/
def readHead : Reader Head := do
  let opened ← offset
  advanceSkipping
  let inner ← offset
  let left ← rest
  if let some signs := lookAroundSigns.find? (·.isPrefixOf left) then
    fail .lookAround ⟨opened, inner + signs.length⟩
  if ← take? ['?', 'P', '<'] then
    readName
    return .group []
  else if ← take? ['?', '<'] then
    readName
    return .group []
  else if ← take? ['?'] then
    if (← rest).isEmpty then fail .groupUnclosed (.character opened)
    let changes ← readFlags
    if (← next?) = some ')' then
      -- Parentheses without a flag read as a question mark with nothing to repeat.
      if changes.isEmpty then fail .repetitionMissing (.point inner)
      advance
      return .flags changes
    else
      advance
      return .group changes
  else return .group []

def looseAfter (changes : List FlagChange) (loose : Bool) : Bool :=
  ((changes.find? (·.flag == .loose)).map (·.on)).getD loose

end BlockFolding.Pattern

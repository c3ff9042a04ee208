import BlockFolding.Pattern.Cursor

/-
  Lists of flags

  A list of flags sets the flags before its minus sign and clears those after it. Each flag and
  the minus sign may stand in it once, and a flag must follow the minus sign; a second one is
  reported together with the first.
-/

namespace BlockFolding.Pattern

open Reader

/-- The part of a list of flags that was read: the changes with their places, latest first, the
place of the minus sign, and whether that sign came last. -/
structure FlagList where
  changes : List (FlagChange × Span)
  minus : Option Span
  dangling : Bool

namespace FlagList

def empty : FlagList := ⟨[], none, false⟩

def addMinus (list : FlagList) (span : Span) : Except Fault FlagList :=
  match list.minus with
  | none => .ok { list with minus := some span, dangling := true }
  | earlier => .error { cause := .negationRepeated, span, earlier }

def addFlag (list : FlagList) (flag : Flag) (span : Span) : Except Fault FlagList :=
  match list.changes.find? (·.1.flag == flag) with
  | none =>
    let change := ⟨flag, list.minus.isNone⟩
    .ok { list with changes := (change, span) :: list.changes, dangling := false }
  | some (_, earlier) => .error { cause := .flagDuplicate, span, earlier := some earlier }

/-- The list with the flag or the minus sign that a character writes. -/
def add (list : FlagList) (c : Char) (span : Span) : Except Fault FlagList :=
  if c = '-' then list.addMinus span
  else match Flag.ofLetter? c with
    | some flag => list.addFlag flag span
    | none => .error { cause := .flagUnrecognized, span }

/-- The changes of a finished list, in order. -/
def close (list : FlagList) : Except Fault (List FlagChange) :=
  match list.dangling, list.minus with
  | true, some span => .error { cause := .negationDangling, span }
  | _, _ => .ok (list.changes.reverse.map (·.1))

end FlagList

/-- Reads the rest of a list of flags, up to the sign that ends it, which stays unread. Each step
takes a character, so `room` for what is left of the pattern is enough. -/
def readFlagsFrom : (room : Nat) → FlagList → Reader (List FlagChange)
  | 0, _ => do fail .flagMissing (.point (← offset))
  | room + 1, list => do
    let here ← offset
    match ← next? with
    | none => fail .flagMissing (.point here)
    | some c =>
      if c = ':' ∨ c = ')' then liftM list.close
      else
        let list ← liftM (list.add c (.character here))
        advance
        readFlagsFrom room list

def readFlags : Reader (List FlagChange) := do
  readFlagsFrom ((← rest).length + 1) .empty

end BlockFolding.Pattern

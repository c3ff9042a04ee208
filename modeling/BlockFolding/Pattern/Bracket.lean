import BlockFolding.Pattern.Escape

/-
  Classes in brackets

  A class in brackets is a list of characters, ranges, escapes, named classes of ASCII and further
  classes in brackets, and `&&`, `--` and `~~` between such lists combine what stands before them
  with the list after them. A class that is not closed is reported at the innermost bracket that
  is still open.
-/

namespace BlockFolding.Pattern

open Reader

/-- The items read since the last operator, latest first, and where they began. -/
structure Items where
  start : Nat
  latest : List ClassTree

def Items.tree (items : Items) : ClassTree :=
  match items.latest with
  | [] => .empty (.point items.start)
  | [item] => item
  | last :: _ =>
    let inOrder := items.latest.reverse
    .union inOrder ⟨(inOrder.head?.map (·.span.start)).getD items.start, last.span.stop⟩

/-- What stands before an operator, with the operator. -/
structure Pending where
  left : ClassTree
  op : ClassOp

/-- The items combined with what stands before them. -/
def Pending.close (pending : Option Pending) (items : Items) : ClassTree :=
  match pending with
  | none => items.tree
  | some { left, op } => .op op left items.tree ⟨left.span.start, items.tree.span.stop⟩

def ClassOp.ofSigns? : List Char → Option ClassOp
  | '&' :: '&' :: _ => some .inter
  | '-' :: '-' :: _ => some .diff
  | '~' :: '~' :: _ => some .symmDiff
  | _ => none

/-- The next sign after blanks and hash signs, with a sign inside a comment counted as if it
stood outside. -/
def signAfterBlank (inComment : Bool) : List Char → Option Char
  | [] => none
  | c :: rest =>
    if Unicode.isWhiteSpace c then signAfterBlank inComment rest
    else if c = '#' ∧ !inComment then signAfterBlank true rest
    else some c

def signAfterNext (c : Cursor) : Option Char :=
  if c.loose then signAfterBlank false c.rest.tail else c.rest.tail.head?

/-- Reads a named class of ASCII such as `[:alpha:]`, or nothing. -/
def readAsciiClass? : Reader (Option ClassTree) := do
  let before ← get
  let start := before.offset
  if ← take? "[:".toList then
    let negated ← take? ['^']
    let name := (← rest).takeWhile (· ≠ ':')
    if ← take? (name ++ ":]".toList) then
      if let some cls := AsciiClass.ofName? (String.ofList name) then
        return some (.ascii cls negated (← spanFrom start))
  set before
  return none

/-- Reads a character or an escape. -/
def readClassAtom : Reader Atom := do
  match ← next? with
  | some '\\' => readEscape
  | some char =>
    let span := Span.character (← offset)
    advance
    return .literal { char, asByte := false, span }
  | none => fail .classUnclosed (.point (← offset))

/-- The atom as the end of a range. -/
def rangeEnd : Atom → Reader Literal
  | .literal l => return l
  | other => fail .classRangeNotLiteral other.span

/-- Reads an item or a range. `opened` is where an unclosed class is reported. -/
def readItem (opened : Span) : Reader ClassTree := do
  let first ← readClassAtom
  skipBlank
  if (← rest).isEmpty then fail .classUnclosed opened
  let after := signAfterNext (← get)
  if (← next?) ≠ some '-' ∨ after = some ']' ∨ after = some '-' then
    match first.toClass? with
    | some item => return item
    | none => fail .classEscapeInvalid first.span
  else
    advanceSkipping
    if (← rest).isEmpty then fail .classUnclosed opened
    let last ← readClassAtom
    let first ← rangeEnd first
    let last ← rangeEnd last
    if first.char ≤ last.char then return .range first last
    else fail .classRangeReversed ⟨first.span.start, last.span.stop⟩

/-- Reads hyphens at the start of a class, where they stand for themselves. -/
def readHyphens (start : Nat) : (room : Nat) → List ClassTree → Reader (List ClassTree)
  | 0, items => return items
  | room + 1, items => do
    if (← next?) = some '-' then
      let item := ClassTree.literal ⟨'-', false, .character (← offset)⟩
      advanceSkipping
      if (← rest).isEmpty then fail .classUnclosed (.point start)
      readHyphens start room (item :: items)
    else return items

/-- The start of a class: whether it is negated, the items that can only stand there, and where
it is reported if it is not closed. -/
structure Opening where
  negated : Bool
  items : Items
  opened : Span

/-- Reads the start of a class; the cursor stands at its bracket. -/
def readOpening : Reader Opening := do
  let start ← offset
  advanceSkipping
  if (← rest).isEmpty then fail .classUnclosed (← spanFrom start)
  let negated := (← next?) == some '^'
  if negated then
    advanceSkipping
    if (← rest).isEmpty then fail .classUnclosed (← spanFrom start)
  let itemsStart ← offset
  let hyphens ← readHyphens start (← rest).length []
  if hyphens.isEmpty ∧ (← next?) = some ']' then
    let item := ClassTree.literal ⟨']', false, .character itemsStart⟩
    advanceSkipping
    if (← rest).isEmpty then fail .classUnclosed (← spanFrom start)
    return { negated, items := ⟨itemsStart, [item]⟩, opened := ← spanFrom start }
  return { negated, items := ⟨itemsStart, hyphens⟩, opened := ← spanFrom start }

/-- Reads the rest of a class up to its closing bracket, and passes that. Each step takes a
character at least, so `room` for what is left of the pattern is enough. -/
def readClassRest (opened : Span) :
    (room : Nat) → Option Pending → Items → Reader ClassTree
  | 0, _, _ => fail .classUnclosed opened
  | room + 1, pending, items => do
    skipBlank
    let left ← rest
    match left with
    | [] => fail .classUnclosed opened
    | ']' :: _ =>
      advance
      return Pending.close pending items
    | '[' :: _ =>
      match ← readAsciiClass? with
      | some item => readClassRest opened room pending { items with latest := item :: items.latest }
      | none =>
        let start ← offset
        let opening ← readOpening
        let inner ← readClassRest opening.opened room none opening.items
        let item := ClassTree.nested opening.negated inner (← spanFrom start)
        readClassRest opened room pending { items with latest := item :: items.latest }
    | _ =>
      match ClassOp.ofSigns? left with
      | some op =>
        advance
        advance
        readClassRest opened room (some ⟨Pending.close pending items, op⟩) ⟨← offset, []⟩
      | none =>
        let item ← readItem opened
        readClassRest opened room pending { items with latest := item :: items.latest }

/-- Reads a class in brackets; the cursor stands at its bracket. -/
def readClass : Reader Tree := do
  let start ← offset
  let opening ← readOpening
  let inner ← readClassRest opening.opened ((← rest).length + 1) none opening.items
  return .bracketed opening.negated inner (← spanFrom start)

end BlockFolding.Pattern

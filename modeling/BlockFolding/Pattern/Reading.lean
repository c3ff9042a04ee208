import BlockFolding.Pattern.Bracket
import BlockFolding.Pattern.Group
import BlockFolding.Pattern.Repetition

/-
  Reading a pattern

  A pattern is a list of alternatives, each a sequence of parts; a group holds a list of
  alternatives again. `Tree.ofPattern` reads the whole of a pattern or refuses it with the first
  fault met from left to right. The limit on nesting is checked on the finished tree, so a
  pattern too deeply nested and also faulty is refused for the fault.
-/

namespace BlockFolding.Pattern

open Reader

/-! ## Sequences and alternatives -/

/-- What was read of a list of alternatives: where it began, the finished ones, where the current
one began, and its parts, the lists latest first. -/
structure Body where
  start : Nat
  finished : List Tree
  branchStart : Nat
  parts : List Tree

def Body.at (start : Nat) : Body := ⟨start, [], start, []⟩

def Body.branch (body : Body) (stop : Nat) : Tree :=
  match body.parts with
  | [] => .empty ⟨body.branchStart, stop⟩
  | [part] => part
  | parts => .seq parts.reverse ⟨body.branchStart, stop⟩

def Body.tree (body : Body) (stop : Nat) : Tree :=
  match body.finished with
  | [] => body.branch stop
  | finished => .branches (body.branch stop :: finished).reverse ⟨body.start, stop⟩

def Body.push (body : Body) (part : Tree) : Body := { body with parts := part :: body.parts }

/-- Reads the part that is no group, class or repetition. -/
def readPlain (c : Char) : Reader Atom := do
  let span := Span.character (← offset)
  match c with
  | '\\' => readEscape
  | '.' => do advance; return .anyChar span
  | '^' => do advance; return .anchor .lineStart span
  | '$' => do advance; return .anchor .lineEnd span
  | char => do advance; return .literal { char, asByte := false, span }

/-- Reads alternatives up to a closing parenthesis or the end, which stay unread. Each step takes
a character at least, so `room` for what is left of the pattern is enough. -/
def readBody : (room : Nat) → Body → Reader Tree
  | 0, body => return body.tree (← offset)
  | room + 1, body => do
    skipBlank
    let here ← offset
    match ← next? with
    | none | some ')' => return body.tree here
    | some '|' =>
      advance
      let start ← offset
      readBody room { body with
        finished := body.branch here :: body.finished, branchStart := start, parts := [] }
    | some '(' =>
      let loose := (← get).loose
      match ← readHead with
      | .flags changes =>
        modify fun c => { c with loose := looseAfter changes loose }
        readBody room (body.push (.flags changes (← spanFrom here)))
      | .group changes =>
        modify fun c => { c with loose := looseAfter changes loose }
        let inner ← readBody room (.at (← offset))
        if (← next?).isNone then fail .groupUnclosed (.character here)
        advance
        modify fun c => { c with loose }
        readBody room (body.push (.group changes inner (← spanFrom here)))
    | some '[' => readBody room (body.push (← readClass))
    | some c =>
      match countReader? c with
      | some reader =>
        let (part, before) ← operand body.parts
        let count ← reader
        let span ← spanFrom part.span.start
        readBody room { body with parts := .times part count.least count.most span :: before }
      | none => readBody room (body.push (.atom (← readPlain c)))

/-! ## The limit on nesting -/

/-- Refuses the part at the span if as many parts are around it as may be. -/
def enter (depth : Nat) (span : Span) : Except Fault Unit :=
  if depth < nestingLimit then .ok () else .error { cause := .nestingTooDeep, span }

mutual

/-- Refuses a part of a class that is nested too deeply, `depth` parts being around it. -/
def ClassTree.checkNesting (depth : Nat) : ClassTree → Except Fault Unit
  | .empty _ | .literal _ | .range _ _ | .shorthand _ _ _ | .property _ _ _ | .ascii _ _ _ =>
    return ()
  | .nested _ inner span => do
    enter depth span
    inner.checkNesting (depth + 1)
  | .union items span => do
    enter depth span
    ClassTree.checkNestingAll (depth + 1) items
  | .op _ left right span => do
    enter depth span
    left.checkNesting (depth + 1)
    right.checkNesting (depth + 1)

def ClassTree.checkNestingAll (depth : Nat) : List ClassTree → Except Fault Unit
  | [] => return ()
  | item :: rest => do
    item.checkNesting depth
    ClassTree.checkNestingAll depth rest

end

mutual

/-- Refuses a part of a pattern that is nested too deeply, `depth` parts being around it. -/
def Tree.checkNesting (depth : Nat) : Tree → Except Fault Unit
  | .empty _ | .flags _ _ | .atom _ => return ()
  | .bracketed _ inner span => do
    enter depth span
    inner.checkNesting (depth + 1)
  | .times inner _ _ span | .group _ inner span => do
    enter depth span
    inner.checkNesting (depth + 1)
  | .branches trees span | .seq trees span => do
    enter depth span
    Tree.checkNestingAll (depth + 1) trees

def Tree.checkNestingAll (depth : Nat) : List Tree → Except Fault Unit
  | [] => return ()
  | tree :: rest => do
    tree.checkNesting depth
    Tree.checkNestingAll depth rest

end

/-! ## Whole patterns -/

def readWhole : Reader Tree := do
  let tree ← readBody ((← rest).length + 1) (.at 0)
  if (← rest).isEmpty then return tree
  fail .groupUnopened (.character (← offset))

/-- The tree of a pattern, or the fault for which it is refused. -/
def Tree.ofPattern (pattern : List Char) : Except Fault Tree := do
  let (tree, _) ← readWhole.run (.ofPattern pattern)
  tree.checkNesting 0
  return tree

end BlockFolding.Pattern

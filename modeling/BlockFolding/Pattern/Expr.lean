import BlockFolding.Pattern.Tree
import BlockFolding.Unicode.Binary

/-
  Expressions and where they lead

  An expression is what a pattern means once flags, classes and escapes are resolved: sets of
  characters and conditions on places, put together by sequence, choice and repetition.

  A text of n characters has n + 1 places. An expression takes a set of places to the set of
  places that its matches from there end at; both are kept as the bits of one number, so a step
  of every match at once is a shift and a mask. An expression matches somewhere in the text if it
  leads from all places to at least one.
-/

namespace BlockFolding.Pattern

open Unicode (CharSet)

/-! ## Conditions on places -/

/-- Which characters count as those of words. -/
inductive WordKind where
  | unicode
  | ascii
  deriving DecidableEq, Repr

def asciiWord : CharSet := .range '0' '9' ∪ .range 'A' 'Z' ∪ .single '_' ∪ .range 'a' 'z'

def WordKind.chars : WordKind → CharSet
  | unicode => Unicode.Binary.word
  | ascii => asciiWord

/-- A condition on a place, decided by the characters on its two sides. -/
inductive Look where
  | textStart
  | textEnd
  | lineStart
  | lineEnd
  | crlfStart
  | crlfEnd
  | word (edge : WordEdge) (kind : WordKind)
  deriving DecidableEq, Repr

/-- Whether a place is the edge of a word, from whether word characters stand before and after
it. -/
def WordEdge.holds (before after : Bool) : WordEdge → Bool
  | boundary => before != after
  | noBoundary => before == after
  | start => !before && after
  | stop => before && !after
  | startHalf => !before
  | stopHalf => !after

/-- Whether the condition holds between two characters; `none` stands for an end of the text.
Where lines end in two characters, the place between the two is no end and no start. -/
def Look.holds (before after : Option Char) : Look → Bool
  | textStart => before.isNone
  | textEnd => after.isNone
  | lineStart => before.isNone || before == some '\n'
  | lineEnd => after.isNone || after == some '\n'
  | crlfStart =>
    before.isNone || before == some '\n' || (before == some '\r' && after != some '\n')
  | crlfEnd =>
    after.isNone || after == some '\r' || (after == some '\n' && before != some '\r')
  | word edge kind => edge.holds (before.any kind.chars.contains) (after.any kind.chars.contains)

/-! ## Expressions -/

/-- The meaning of a pattern. -/
inductive Expr where
  | empty
  | chars (set : CharSet)
  | look (l : Look)
  | seq (first second : Expr)
  | either (first second : Expr)
  | times (inner : Expr) (least : Nat) (most : Option Nat)
  deriving Repr

/-- A set of places of a text, the place after `n` characters being bit `n`. -/
abbrev Places := Nat

/-- The places before the characters that satisfy the test. -/
def placesBefore (test : Char → Bool) : List Char → Places
  | [] => 0
  | c :: rest => (test c).toNat + 2 * placesBefore test rest

/-- The places where the condition holds, given the character before the text. -/
def placesWhere (l : Look) (before : Option Char) : List Char → Places
  | [] => (l.holds before none).toNat
  | c :: rest => (l.holds before (some c)).toNat + 2 * placesWhere l (some c) rest

/-- An expression with its tests replaced by the places of one text that satisfy them. -/
inductive Route where
  | stay
  | advance (before : Places)
  | check (within : Places)
  | seq (first second : Route)
  | either (first second : Route)
  | times (inner : Route) (least : Nat) (most : Nat)
  deriving Repr

/-- The routes of an expression through a text. A repetition without a limit need not go further
than the text has places. -/
def Expr.route (text : List Char) : Expr → Route
  | empty => .stay
  | chars set => .advance (placesBefore set.contains text)
  | look l => .check (placesWhere l none text)
  | seq first second => .seq (first.route text) (second.route text)
  | either first second => .either (first.route text) (second.route text)
  | times inner least most =>
    .times (inner.route text) least ((most.map (· - least)).getD (text.length + 1))

/-- Applies a step a number of times, and stops where it changes nothing any more. -/
def iterate (step : Places → Places) : Nat → Places → Places
  | 0, places => places
  | n + 1, places =>
    let next := step places
    if next = places then places else iterate step n next

/-- Adds what a step leads to, a number of times, and stops where it adds nothing any more. -/
def spread (step : Places → Places) : Nat → Places → Places
  | 0, places => places
  | n + 1, places =>
    let next := places ||| step places
    if next = places then places else spread step n next

/-- The places that the routes lead to. -/
def Route.follow : Route → Places → Places
  | stay, places => places
  | advance before, places => (places &&& before) <<< 1
  | check within, places => places &&& within
  | seq first second, places => second.follow (first.follow places)
  | either first second, places => first.follow places ||| second.follow places
  | times inner least most, places =>
    spread inner.follow most (iterate inner.follow least places)

def allPlaces (text : List Char) : Places := (1 <<< (text.length + 1)) - 1

/-- Whether the expression matches somewhere in the text. -/
def Expr.isMatch (e : Expr) (text : List Char) : Bool :=
  (e.route text).follow (allPlaces text) != 0

end BlockFolding.Pattern

import BlockFolding.Text.Numeral

/-
  Stretches of code points, and the text of a table of them

  The code points with a property mostly come in long stretches, or in stretches of every second
  one where the two cases of a letter alternate. A table of them is one text: stretches in
  hexadecimal with blanks or line ends between them, `41-5A` for all code points between two,
  `AA` for a single one, and `100-12E/2` for every second one. A table may also relate code
  points to others at a fixed distance; `41-5A+20` relates each of them to the one 20 above.
  `Stretch.ofText` reads such a text; it is total, so a table is plain data.
-/

namespace BlockFolding.Unicode

/-- Every `stride`-th code point from `first` up to `last`, each related to the one `shift` above
it where a table relates code points. -/
structure Stretch where
  first : Nat
  last : Nat
  stride : Nat
  shift : Nat
  deriving DecidableEq, Repr

namespace Stretch

def contains (s : Stretch) (n : Nat) : Bool :=
  s.first ≤ n && n ≤ s.last && (n - s.first) % s.stride == 0

/-- The number that follows `mark` in a stretch's text, or `absent` where the mark is missing. -/
def field (mark : Char) (absent : Nat) (word : List Char) : Nat :=
  match word.dropWhile (· ≠ mark) with
  | [] => absent
  | _ :: digits => Text.hexValue (digits.takeWhile Text.isHexDigit)

/-- The stretch that one word of a table writes. -/
def ofWord (word : List Char) : Stretch :=
  let first := Text.hexValue (word.takeWhile Text.isHexDigit)
  { first, last := field '-' first word, stride := field '/' 1 word, shift := field '+' 0 word }

def words (text : String) : List (List Char) :=
  (text.toList.splitOnP fun c => c == ' ' || c == '\n').filter (! ·.isEmpty)

/-- The stretches that a table's text writes; the empty text writes none. -/
def ofText (text : String) : List Stretch := (words text).map ofWord

example : ofText "41-5A AA 100-12E/2 61-7A+20" =
    [⟨0x41, 0x5A, 1, 0⟩, ⟨0xAA, 0xAA, 1, 0⟩, ⟨0x100, 0x12E, 2, 0⟩, ⟨0x61, 0x7A, 1, 0x20⟩] := by
  decide

end Stretch

end BlockFolding.Unicode

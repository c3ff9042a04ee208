import BlockFolding.Text
import BlockFolding.Word

/-
  End columns

  The end column of a line is the place just after its last character, counted from 1 in UTF-16
  units. A line that a text does not have ends in column 0. The lines of a text below 2^63 bytes
  are short enough for the column to be a word.
-/

namespace BlockFolding

/-- The end column of the line at an index, counted from 0, among lines. -/
def endColumnAmong (lines : List String) (index : Word) : Word :=
  match lines[index.toNat]? with
  | some line => .ofNat ((Text.utf16 line).length + 1)
  | none => 0

def endColumn (source : String) (index : Word) : Word := endColumnAmong (Text.lines source) index

/-- The end column for an index that may be negative; no line has a negative index. -/
def endColumnSigned (source : String) (index : Int64) : Word :=
  if index < 0 then 0 else endColumn source index.toUInt64

end BlockFolding

import BlockFolding.Text.Numeral
import BlockFolding.Unicode.Binary

/-
  Quoted texts

  A quoted text shows each character as itself if a reader can see it and as an escape if not:
  the quote, the backslash and the common controls by a letter, and by their number all controls,
  unassigned characters and blanks other than the space, and the marks that would merge with the
  character before.
-/

namespace BlockFolding.Text

/-- The characters that print nothing of their own. -/
def invisible : Unicode.CharSet :=
  (Unicode.Category.other ∪ Unicode.Category.separator) \ .single ' '

/-- A character as a quoted text shows it. -/
def quoteChar (c : Char) : List Char :=
  match c with
  | '\x00' => ['\\', '0']
  | '\t' => ['\\', 't']
  | '\n' => ['\\', 'n']
  | '\r' => ['\\', 'r']
  | '"' => ['\\', '"']
  | '\\' => ['\\', '\\']
  | c =>
    if Unicode.Binary.graphemeExtend.contains c || invisible.contains c then
      ['\\', 'u', '\x7b'] ++ hexDigits c.toNat ++ ['\x7d']
    else [c]

def quote (text : String) : String :=
  String.ofList ('"' :: text.toList.flatMap quoteChar ++ ['"'])

end BlockFolding.Text

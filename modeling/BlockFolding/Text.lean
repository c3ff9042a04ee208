import BlockFolding.Unicode.CharSet

/-
  Texts

  What the program does with texts of any kind. It splits them at line feeds alone, so a carriage
  return stays on its line and a text that ends in a line feed has an empty last line: every text
  has a line, and joining the lines gives the text back. It counts the UTF-16 units that an editor
  counts, one for a character of the basic plane and two for any other. It widens texts to a number
  of characters with spaces, and it cuts off the blanks at their ends, those outside ASCII too.
-/

namespace BlockFolding.Text

/-! ## Lines -/

def lines (text : String) : List String := (text.toList.splitOn '\n').map String.ofList

def lineCount (text : String) : Nat := (lines text).length

example : lines "a\r\nb\n" = ["a\r", "b", ""] := by decide
example : lines "" = [""] := by decide

/-! ## UTF-16 -/

/-- The UTF-16 units of a character: itself, or a pair that splits its 20 bits above the basic
plane. -/
def charUnits (c : Char) : List UInt16 :=
  let n := c.toNat
  if n < 0x10000 then [.ofNat n]
  else [.ofNat (0xD800 + (n - 0x10000) / 0x400), .ofNat (0xDC00 + (n - 0x10000) % 0x400)]

def utf16 (text : String) : List UInt16 := text.toList.flatMap charUnits

/-! ## Fields and blanks -/

/-- The text moved to the right end of a field. -/
def padLeft (width : Nat) (text : String) : String :=
  String.ofList (List.replicate (width - text.length) ' ') ++ text

/-- The text at the left end of a field. -/
def padRight (width : Nat) (text : String) : String :=
  text ++ String.ofList (List.replicate (width - text.length) ' ')

def trimEndChars (cs : List Char) : List Char :=
  (cs.reverse.dropWhile Unicode.isWhiteSpace).reverse

def trimEnd (text : String) : String := String.ofList (trimEndChars text.toList)

/-- A text without the blanks at both ends. -/
def trim (text : String) : String :=
  String.ofList (trimEndChars (text.toList.dropWhile Unicode.isWhiteSpace))

end BlockFolding.Text

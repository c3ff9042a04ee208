/-
  JSON texts

  The JSON values that a plan is written as: numbers, strings, lists and objects whose fields
  keep their order. A text of a value is laid out over lines, each level two spaces deeper than
  the one around it; an empty list or object is written without a line of its own.
-/

namespace BlockFolding

inductive Json where
  | number (n : Nat)
  | string (s : String)
  | list (items : List Json)
  | object (fields : List (String × Json))

namespace Json

def hexDigit (n : Nat) : Char := Nat.digitChar n

def stringChar (c : Char) : List Char :=
  match c with
  | '"' => ['\\', '"']
  | '\\' => ['\\', '\\']
  | '\x08' => ['\\', 'b']
  | '\x0c' => ['\\', 'f']
  | '\n' => ['\\', 'n']
  | '\r' => ['\\', 'r']
  | '\t' => ['\\', 't']
  | c =>
    if c < ' ' then ['\\', 'u', '0', '0', hexDigit (c.toNat / 16), hexDigit (c.toNat % 16)]
    else [c]

def quote (s : String) : List Char := '"' :: s.toList.flatMap stringChar ++ ['"']

/-- A line end and the blanks of a level. -/
def newLine (level : Nat) : List Char := '\n' :: List.replicate (2 * level) ' '

/-- The text of a list or an object from the texts of its parts. -/
def enclose (opening closing : Char) (level : Nat) : List (List Char) → List Char
  | [] => [opening, closing]
  | parts =>
    [opening] ++ List.intercalate [','] (parts.map (newLine (level + 1) ++ ·)) ++
      newLine level ++ [closing]

mutual

/-- The text of a value at a level. -/
def layout (level : Nat) : Json → List Char
  | number n => (toString n).toList
  | string s => quote s
  | list items => enclose '[' ']' level (layoutItems (level + 1) items)
  | object fields => enclose '\x7b' '\x7d' level (layoutFields (level + 1) fields)

def layoutItems (level : Nat) : List Json → List (List Char)
  | [] => []
  | item :: rest => layout level item :: layoutItems level rest

def layoutFields (level : Nat) : List (String × Json) → List (List Char)
  | [] => []
  | (name, value) :: rest =>
    (quote name ++ [':', ' '] ++ layout level value) :: layoutFields level rest

end

def pretty (value : Json) : String := String.ofList (layout 0 value)

end Json

end BlockFolding

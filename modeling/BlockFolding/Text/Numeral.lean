/-
  Numerals

  Numbers are written in decimal, without leading zeros and with a minus sign where negative. A
  signed numeral is read back digit by digit; what is wrong with a text that is none is told
  apart, because the text of each refusal differs. Hexadecimal digits are read in either case and
  written in lower case.
-/

namespace BlockFolding.Text

/-! ## Decimal numerals -/

/-- The number that decimal digits write. -/
def decimalValue (digits : List Char) : Nat :=
  digits.foldl (fun n d => 10 * n + (d.toNat - '0'.toNat)) 0

/-- Why a text is no 64-bit integer. -/
inductive NumeralError where
  | empty
  | invalidDigit
  | tooLarge
  | tooSmall
  deriving DecidableEq, Repr

def NumeralError.message : NumeralError → String
  | empty => "cannot parse integer from empty string"
  | invalidDigit => "invalid digit found in string"
  | tooLarge => "number too large to fit in target type"
  | tooSmall => "number too small to fit in target type"

/-- Reads digits of a number within the limit, of which `value` was read. From the left, the
first sign that is no digit or digit that takes the number past the limit is what is wrong. -/
def readDigits (overflow : NumeralError) (limit : Nat) : Nat → List Char → Except NumeralError Nat
  | value, [] => .ok value
  | value, d :: rest =>
    if d.isDigit then
      let next := 10 * value + (d.toNat - '0'.toNat)
      if next ≤ limit then readDigits overflow limit next rest else .error overflow
    else .error .invalidDigit

/-- The integer that a numeral writes: an optional sign and at least one digit. -/
def readInt64 : List Char → Except NumeralError Int
  | [] => .error .empty
  | ['-'] | ['+'] => .error .invalidDigit
  | '-' :: digits => (readDigits .tooSmall 0x8000000000000000 0 digits).map fun n => -(n : Int)
  | '+' :: digits => (readDigits .tooLarge 0x7FFFFFFFFFFFFFFF 0 digits).map fun n => (n : Int)
  | digits => (readDigits .tooLarge 0x7FFFFFFFFFFFFFFF 0 digits).map fun n => (n : Int)

/-! ## Hexadecimal numerals -/

def isHexDigit (c : Char) : Bool :=
  ('0' ≤ c && c ≤ '9') || ('a' ≤ c && c ≤ 'f') || ('A' ≤ c && c ≤ 'F')

def hexDigitValue (c : Char) : Nat :=
  if c ≤ '9' then c.toNat - '0'.toNat
  else if c ≤ 'F' then c.toNat - 'A'.toNat + 10
  else c.toNat - 'a'.toNat + 10

def hexValue (digits : List Char) : Nat :=
  digits.foldl (fun n d => 16 * n + hexDigitValue d) 0

def hexDigits (n : Nat) : List Char := Nat.toDigits 16 n

example : hexDigits 0x2028 = ['2', '0', '2', '8'] ∧ hexValue ['f', 'E'] = 254 := by decide

end BlockFolding.Text

import BlockFolding.Unicode.CaseFolding

/-
  Sets of characters

  A set is kept as the expression it was built by: stretches of a table, and the operations of a
  class of a pattern over them. Membership is decided by following the expression, so every
  operation means what it says by definition (`contains_union` and the lemmas beside it), and
  no operation has to keep stretches sorted or merged.
-/

namespace BlockFolding.Unicode

/-- A set of characters, as the expression it was built by. -/
inductive CharSet where
  | stretches (list : List Stretch)
  | union (a b : CharSet)
  | inter (a b : CharSet)
  | diff (a b : CharSet)
  | symmDiff (a b : CharSet)
  | compl (a : CharSet)
  | caseless (a : CharSet)
  | asciiCaseless (a : CharSet)
  deriving DecidableEq, Repr

namespace CharSet

/-- Whether the set holds the character. A caseless set holds a character if it holds one that
differs from it in case alone. -/
def contains : CharSet → Char → Bool
  | stretches list, c => list.any (·.contains c.toNat)
  | union a b, c => a.contains c || b.contains c
  | inter a b, c => a.contains c && b.contains c
  | diff a b, c => a.contains c && !b.contains c
  | symmDiff a b, c => a.contains c != b.contains c
  | compl a, c => !a.contains c
  | caseless a, c => a.contains c || (caseVariants c).any a.contains
  | asciiCaseless a, c => a.contains c || a.contains c.toLower || a.contains c.toUpper

/-- The set that a table's text writes. -/
def ofText (text : String) : CharSet := stretches (Stretch.ofText text)

def empty : CharSet := stretches []

def all : CharSet := compl empty

/-- The characters from `first` to `last`. -/
def range (first last : Char) : CharSet := stretches [⟨first.toNat, last.toNat, 1, 0⟩]

def single (c : Char) : CharSet := range c c

/-- The set of the characters listed. -/
def ofList (cs : List Char) : CharSet := stretches (cs.map fun c => ⟨c.toNat, c.toNat, 1, 0⟩)

instance : Union CharSet := ⟨union⟩
instance : Inter CharSet := ⟨inter⟩
instance : SDiff CharSet := ⟨diff⟩

@[simp] theorem contains_union (a b : CharSet) (c : Char) :
    (a ∪ b).contains c = (a.contains c || b.contains c) := rfl

@[simp] theorem contains_inter (a b : CharSet) (c : Char) :
    (a ∩ b).contains c = (a.contains c && b.contains c) := rfl

@[simp] theorem contains_diff (a b : CharSet) (c : Char) :
    (a \ b).contains c = (a.contains c && !b.contains c) := rfl

@[simp] theorem contains_compl (a : CharSet) (c : Char) : (compl a).contains c = !a.contains c := rfl

@[simp] theorem contains_empty (c : Char) : empty.contains c = false := rfl

@[simp] theorem contains_all (c : Char) : all.contains c = true := rfl

@[simp] theorem contains_range (first last c : Char) :
    (range first last).contains c = (first ≤ c && c ≤ last : Bool) := by
  simp [range, contains, Stretch.contains, Nat.mod_one, Char.le_def, UInt32.le_iff_toNat_le]

@[simp] theorem contains_single (a c : Char) : (single a).contains c = (c == a) := by
  rw [single, contains_range, Bool.eq_iff_iff]
  simp only [Bool.and_eq_true, decide_eq_true_eq, beq_iff_eq]
  exact ⟨fun h => Char.le_antisymm h.2 h.1, fun h => h ▸ ⟨Char.le_refl _, Char.le_refl _⟩⟩

end CharSet

/-- A set with the names it answers to, each in lower case without spaces, `_` and `-`. -/
structure Named where
  names : List String
  chars : CharSet
  deriving Repr

def Named.find? (name : String) (table : List Named) : Option CharSet :=
  (table.find? (·.names.contains name)).map (·.chars)

/-! ## White space -/

/-- The blanks and line ends of ASCII, and those outside it. They are written out, and not as a
table's text, so that a fact about one character is settled by `decide`. -/
def whiteSpace : CharSet := .stretches [
  ⟨0x9, 0xD, 1, 0⟩, ⟨0x20, 0x20, 1, 0⟩, ⟨0x85, 0x85, 1, 0⟩, ⟨0xA0, 0xA0, 1, 0⟩,
  ⟨0x1680, 0x1680, 1, 0⟩, ⟨0x2000, 0x200A, 1, 0⟩, ⟨0x2028, 0x2029, 1, 0⟩,
  ⟨0x202F, 0x202F, 1, 0⟩, ⟨0x205F, 0x205F, 1, 0⟩, ⟨0x3000, 0x3000, 1, 0⟩]

def isWhiteSpace (c : Char) : Bool := whiteSpace.contains c

example : isWhiteSpace '\n' = true := by decide
example : isWhiteSpace '-' = false := by decide

end BlockFolding.Unicode

import BlockFolding.Plan
import BlockFolding.Text

/-
  Numbered listings

  A listing shows a text with its line numbers and a mark on every line that a region covers: one
  sign on the first line of the region and another on the lines after it. Where regions overlap
  the first of them in the plan decides.
-/

namespace BlockFolding

def FoldingRegion.covers (region : FoldingRegion) (number : Nat) : Bool :=
  region.first.toNat ≤ number && number ≤ region.last.toNat

def FoldingRegion.mark (region : FoldingRegion) (number : Nat) : Char :=
  if region.first.toNat = number then '>' else '|'

namespace FoldPlan

/-- The mark of the line with the number; a blank where no region covers it. -/
def mark (plan : FoldPlan) (number : Nat) : Char :=
  match plan.regions.find? (·.covers number) with
  | some region => region.mark number
  | none => ' '

/-- A row of a listing: the number in a field of four, the mark, and the line. -/
def row (plan : FoldPlan) (number : Nat) (line : String) : String :=
  Text.padLeft 4 (toString number) ++ " " ++ String.singleton (plan.mark number) ++ " " ++ line ++
    "\n"

def rows (plan : FoldPlan) (number : Nat) : List String → List String
  | [] => []
  | line :: rest => plan.row number line :: rows plan (number + 1) rest

def listing (plan : FoldPlan) (source : String) : String :=
  String.join (plan.rows 1 (Text.lines source))

end FoldPlan

end BlockFolding

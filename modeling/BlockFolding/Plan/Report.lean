import BlockFolding.Plan

/-
  Reports of a plan

  A report says in words how many regions a plan has and describes each with its zone and its
  widget, between rules. The three lists of a plan need not be equally long: the entries end with
  the shortest, while the head counts the regions.
-/

namespace BlockFolding.FoldPlan

def rule : String := "--------------------------------------------------\n"

/-- The entry of a report for a region with its zone and widget. Entries count from 1, the index
from 0. -/
def entry (index : Nat) (region : FoldingRegion) (zone : CommentZone) (widget : InspectWidget) :
    Checked String := do
  let count ← Word.plus (← Word.minus region.last region.first) 1
  return "Block " ++ toString (index + 1) ++ ": lines " ++ toString region.first.toNat ++ "-" ++
    toString region.last.toNat ++ " (" ++ toString count.toNat ++ " lines)\n" ++
    "  zone:   after line " ++ toString zone.afterLine.toNat ++ ": " ++ zone.text ++ "\n" ++
    "  widget: " ++ widget.id ++ " at " ++ toString widget.line.toNat ++ ":" ++
    toString widget.column.toNat ++ "\n" ++ rule

def entries (index : Nat) :
    List FoldingRegion → List CommentZone → List InspectWidget → Checked (List String)
  | region :: regions, zone :: zones, widget :: widgets => do
    let first ← entry index region zone widget
    return first :: (← entries (index + 1) regions zones widgets)
  | _, _, _ => .ok []

def head (plan : FoldPlan) : String :=
  rule ++ "Large blocks found: " ++ toString plan.size ++ "\n" ++ rule

def report (plan : FoldPlan) : Checked String := do
  return plan.head ++ String.join (← entries 0 plan.regions plan.zones plan.widgets)

end BlockFolding.FoldPlan

import BlockFolding.Column
import BlockFolding.LineRange

/-
  Fold plans

  A plan says how an editor shows blocks folded: a region that can be folded, a zone with a note
  above the block, and a widget just after the end of its first line. It is plain data in three
  lists; a plan built from ranges has an entry in each list for every range, in the order of the
  ranges.
-/

namespace BlockFolding

inductive FoldingKind where
  | region
  deriving DecidableEq, Repr

/-- Lines that an editor can fold. -/
structure FoldingRegion where
  first : Word
  last : Word
  kind : FoldingKind := .region
  deriving DecidableEq, Repr

/-- A note shown below a line; below line 0 is above the whole text. -/
structure CommentZone where
  afterLine : Word
  text : String
  deriving DecidableEq, Repr

structure InspectWidget where
  id : String
  line : Word
  column : Word
  deriving DecidableEq, Repr

/-- The regions, zones and widgets that an editor is to show. -/
structure FoldPlan where
  regions : List FoldingRegion := []
  zones : List CommentZone := []
  widgets : List InspectWidget := []
  deriving DecidableEq, Repr

def foldedBlockNote : String := "# Whoa! This is a big object and we made it folded."

/-- What the id of every widget starts with. -/
def widgetIdStem : String := "inspect.button."

namespace FoldPlan

def size (plan : FoldPlan) : Nat := plan.regions.length

def isEmpty (plan : FoldPlan) : Bool := plan.regions.isEmpty

/-- The plan with one more region, zone and widget in front. -/
def cons (region : FoldingRegion) (zone : CommentZone) (widget : InspectWidget)
    (plan : FoldPlan) : FoldPlan :=
  { regions := region :: plan.regions
    zones := zone :: plan.zones
    widgets := widget :: plan.widgets }

/-- The plan for ranges of lines, the first range at the index among all of them. No line is above
the text, so a range that starts at line 0 is an overflow. -/
def buildFrom (lines : List String) (index : Nat) : List LineRange → Checked FoldPlan
  | [] => .ok {}
  | range :: rest => do
    let above ← Word.minus range.first 1
    let plan ← buildFrom lines (index + 1) rest
    return plan.cons
      { first := range.first, last := range.last }
      { afterLine := above, text := foldedBlockNote }
      { id := widgetIdStem ++ toString index, line := range.first,
        column := endColumnAmong lines above }

def build (source : String) (ranges : List LineRange) : Checked FoldPlan :=
  buildFrom (Text.lines source) 0 ranges

end FoldPlan

end BlockFolding

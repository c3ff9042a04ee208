import BlockFolding.Json
import BlockFolding.Plan

/-
  Plans in JSON

  A plan is written as an object of its three lists, and every field of their entries under a
  name of its own.
-/

namespace BlockFolding

def FoldingRegion.toJson (region : FoldingRegion) : Json :=
  .object [("start", .number region.first.toNat), ("end", .number region.last.toNat),
    ("kind", match region.kind with | .region => .string "region")]

def CommentZone.toJson (zone : CommentZone) : Json :=
  .object [("after_line_number", .number zone.afterLine.toNat), ("text", .string zone.text)]

def InspectWidget.toJson (widget : InspectWidget) : Json :=
  .object [("id", .string widget.id), ("line_number", .number widget.line.toNat),
    ("column", .number widget.column.toNat)]

def FoldPlan.toJson (plan : FoldPlan) : Json :=
  .object [("regions", .list (plan.regions.map (·.toJson))),
    ("zones", .list (plan.zones.map (·.toJson))),
    ("widgets", .list (plan.widgets.map (·.toJson)))]

end BlockFolding

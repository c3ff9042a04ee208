import BlockFolding.Plan
import BlockFolding.Proofs.StackedRanges

/-
  The entries of a plan

  A plan built from ranges has one region, one zone and one widget for each, and they depend on
  that range and its place among the ranges alone. Where no range starts at line 0 this is the
  whole story of building a plan (`buildFrom_eq`): it meets no overflow, and its entries are those
  of the ranges, one by one.
-/

namespace BlockFolding

theorem LineRange.toNat_first_sub_one {range : LineRange} (hfirst : 1 ≤ range.first.toNat) :
    (range.first - 1).toNat = range.first.toNat - 1 :=
  UInt64.toNat_sub_of_le _ _ (UInt64.le_iff_toNat_le.2 hfirst)

theorem LineRange.minus_first_one {range : LineRange} (hfirst : 1 ≤ range.first.toNat) :
    Word.minus range.first 1 = .ok (range.first - 1) := by
  have hone : (1 : Word) ≤ range.first := UInt64.le_iff_toNat_le.2 hfirst
  rw [Word.minus, if_pos hone]

namespace FoldPlan

/-- The region for a range. -/
def regionOf (range : LineRange) : FoldingRegion := { first := range.first, last := range.last }

/-- The zone for a range. -/
def zoneOf (range : LineRange) : CommentZone :=
  { afterLine := range.first - 1, text := foldedBlockNote }

/-- The widget for a range at a place among the ranges. -/
def widgetOf (lines : List String) (range : LineRange) (index : Nat) : InspectWidget :=
  { id := widgetIdStem ++ toString index, line := range.first,
    column := endColumnAmong lines (range.first - 1) }

theorem column_widgetOf (source : String) (range : LineRange) (index : Nat) :
    (widgetOf (Text.lines source) range index).column = endColumn source (range.first - 1) :=
  rfl

/-- The plan whose entries are those of the ranges, the first of them at the index. -/
def ofRanges (lines : List String) (index : Nat) (ranges : List LineRange) : FoldPlan :=
  { regions := ranges.map regionOf
    zones := ranges.map zoneOf
    widgets := (ranges.zipIdx index).map fun (range, place) => widgetOf lines range place }

/-- The plan for ranges below line 0 is built, and its entries are those of the ranges. -/
theorem buildFrom_eq (lines : List String) (ranges : List LineRange) (index : Nat)
    (hfirst : ∀ range ∈ ranges, 1 ≤ range.first.toNat) :
    buildFrom lines index ranges = .ok (ofRanges lines index ranges) := by
  induction ranges generalizing index with
  | nil => rfl
  | cons range rest ih =>
    have hrest := ih (index + 1) fun other hother => hfirst other (List.mem_cons_of_mem range hother)
    have habove := LineRange.minus_first_one (hfirst range List.mem_cons_self)
    simp only [buildFrom, habove, hrest, ok_bind]
    rfl

theorem ofRanges_at (lines : List String) {ranges : List LineRange} {place : Nat}
    {range : LineRange} (h : ranges[place]? = some range) :
    (ofRanges lines 0 ranges).regions[place]? = some (regionOf range) ∧
      (ofRanges lines 0 ranges).zones[place]? = some (zoneOf range) ∧
      (ofRanges lines 0 ranges).widgets[place]? = some (widgetOf lines range place) := by
  simp only [ofRanges, List.getElem?_map, List.getElem?_zipIdx, Nat.zero_add, h, Option.map_some,
    and_self]

theorem ofRanges_entries {lines : List String} {ranges : List LineRange} {index : Nat}
    {region : FoldingRegion} {zone : CommentZone} {widget : InspectWidget}
    (hregion : (ofRanges lines 0 ranges).regions[index]? = some region)
    (hzone : (ofRanges lines 0 ranges).zones[index]? = some zone)
    (hwidget : (ofRanges lines 0 ranges).widgets[index]? = some widget) :
    ∃ range, ranges[index]? = some range ∧ region = regionOf range ∧ zone = zoneOf range ∧
      widget = widgetOf lines range index := by
  cases hrange : ranges[index]? with
  | none => simp [ofRanges, hrange] at hregion
  | some range =>
    obtain ⟨hregion', hzone', hwidget'⟩ := ofRanges_at lines hrange
    rw [hregion', Option.some.injEq] at hregion
    rw [hzone', Option.some.injEq] at hzone
    rw [hwidget', Option.some.injEq] at hwidget
    exact ⟨range, rfl, hregion.symm, hzone.symm, hwidget.symm⟩

end FoldPlan

/-- The plan for stacked ranges is built: the first of them starts below line 0, and so do the
others. -/
theorem Stacked.build_eq {threshold : Word} {count : Nat} {ranges : List LineRange}
    (h : Stacked threshold count 0 ranges) (source : String) :
    FoldPlan.build source ranges = .ok (FoldPlan.ofRanges (Text.lines source) 0 ranges) :=
  FoldPlan.buildFrom_eq (Text.lines source) ranges 0 fun range hrange => (h.bounds range hrange).1

end BlockFolding

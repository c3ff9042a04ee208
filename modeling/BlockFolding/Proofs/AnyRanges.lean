import BlockFolding.Proofs.Numerals
import BlockFolding.Proofs.PlanEntries
import BlockFolding.Proofs.Utf16Columns

/-
  Plans for any ranges

  A plan can be asked for with ranges that no scan has reported: in any order, overlapping, the
  wrong way round, past the end of the text. There is one thing about a range that matters to
  whether the plan is built, its first line. A range that starts at line 0 has no line above it,
  wherever it stands among the others, and is an overflow; without one the plan is built
  (`build_entriesFor`). It has an entry in each list for every range, and a widget on a line that
  the text does not have is in column 0. Ids are told apart by the place of their range, because
  decimal numerals are.
-/

namespace BlockFolding

/-- The entries of a plan for a range of lines of a text, at its place among the ranges. -/
structure EntriesFor (source : String) (place : Nat) (range : LineRange) (region : FoldingRegion)
    (zone : CommentZone) (widget : InspectWidget) : Prop where
  region_eq : region = { first := range.first, last := range.last }
  /-- The note is shown after the line above the first one. -/
  zone_line : zone.afterLine.toNat + 1 = range.first.toNat
  zone_text : zone.text = foldedBlockNote
  widget_id : widget.id = widgetIdStem ++ toString place
  widget_line : widget.line = range.first
  /-- The widget is behind the last unit of its line, counted from 1. A word holds the column of
  every line of a text that fits in memory. -/
  column_line : range.first.toNat ≤ (Text.lines source).length →
    ∃ line, (Text.lines source)[range.first.toNat - 1]? = some line ∧
      widget.column = .ofNat ((Text.utf16 line).length + 1) ∧
      (source.utf8ByteSize < 2 ^ 63 → widget.column.toNat = (Text.utf16 line).length + 1)
  column_missing : (Text.lines source).length < range.first.toNat → widget.column = 0

theorem LineRange.one_le_first {range : LineRange} (h : range.first ≠ 0) :
    1 ≤ range.first.toNat := by
  apply Nat.pos_of_ne_zero
  intro hzero
  exact h (UInt64.toNat_inj.1 (hzero.trans UInt64.toNat_zero.symm))

namespace FoldPlan

/-! ## Overflow -/

theorem buildFrom_overflow (lines : List String) {ranges : List LineRange} (index : Nat)
    (hzero : ∃ range ∈ ranges, range.first = 0) :
    buildFrom lines index ranges = .error .sub := by
  induction ranges generalizing index with
  | nil =>
    obtain ⟨range, hrange, -⟩ := hzero
    contradiction
  | cons range rest ih =>
    by_cases hfirst : range.first = 0
    · simp only [buildFrom, hfirst]
      rfl
    · -- This range goes well, and the overflow is met further on.
      have hrest : ∃ other ∈ rest, other.first = 0 := by
        obtain ⟨other, hother, hzero⟩ := hzero
        rcases List.mem_cons.1 hother with rfl | hother
        · exact absurd hzero hfirst
        · exact ⟨other, hother, hzero⟩
      simp only [buildFrom, LineRange.minus_first_one (LineRange.one_le_first hfirst),
        ih (index + 1) hrest]
      rfl

theorem build_eq_ofRanges (source : String) {ranges : List LineRange}
    (h : ∀ range ∈ ranges, range.first ≠ 0) :
    build source ranges = .ok (ofRanges (Text.lines source) 0 ranges) :=
  buildFrom_eq (Text.lines source) ranges 0 fun range hrange =>
    LineRange.one_le_first (h range hrange)

/-- Building a plan meets an overflow just where a range starts at line 0. -/
theorem build_eq_error {source : String} {ranges : List LineRange} {overflow : Overflow} :
    build source ranges = .error overflow ↔
      overflow = .sub ∧ ∃ range ∈ ranges, range.first = 0 := by
  by_cases hzero : ∃ range ∈ ranges, range.first = 0
  · rw [build, buildFrom_overflow _ 0 hzero, Except.error.injEq, eq_comm]
    exact (and_iff_left hzero).symm
  · have hfirst : ∀ range ∈ ranges, range.first ≠ 0 := by simpa using hzero
    rw [build_eq_ofRanges source hfirst]
    exact iff_of_false nofun fun h => hzero h.2

/-- Any plan that is built is the one whose entries are those of the ranges. -/
theorem eq_ofRanges_of_build {source : String} {ranges : List LineRange} {plan : FoldPlan}
    (h : build source ranges = .ok plan) : plan = ofRanges (Text.lines source) 0 ranges := by
  by_cases hzero : ∃ range ∈ ranges, range.first = 0
  · rw [build_eq_error.2 ⟨rfl, hzero⟩] at h
    contradiction
  · rw [build_eq_ofRanges source (by simpa using hzero), Except.ok.injEq] at h
    exact h.symm

/-! ## Entries -/

theorem entriesFor_ofRange (source : String) (place : Nat) {range : LineRange}
    (h : range.first ≠ 0) :
    EntriesFor source place range (regionOf range) (zoneOf range)
      (widgetOf (Text.lines source) range place) := by
  have hfirst := LineRange.one_le_first h
  have hindex := LineRange.toNat_first_sub_one hfirst
  refine {
    region_eq := rfl
    zone_line := ?_
    zone_text := rfl
    widget_id := rfl
    widget_line := rfl
    column_line := ?_
    column_missing := ?_ }
  · show (range.first - 1).toNat + 1 = range.first.toNat
    omega
  · intro hle
    have hlt : range.first.toNat - 1 < (Text.lines source).length := by omega
    have hline := List.getElem?_eq_getElem hlt
    refine ⟨_, hline, ?_, ?_⟩
    · simp only [widgetOf, endColumnAmong, hindex, hline]
    · intro hsize
      rw [column_widgetOf]
      exact toNat_endColumn hsize (hindex.symm ▸ hline)
  · intro hgt
    rw [column_widgetOf]
    apply endColumn_missing
    omega

theorem ids_ofRanges (lines : List String) (ranges : List LineRange) :
    (ofRanges lines 0 ranges).widgets.map (·.id) =
      (List.range ranges.length).map fun place => widgetIdStem ++ toString place := by
  have hplaces := List.zipIdx_map_snd 0 ranges
  rw [← List.range_eq_range'] at hplaces
  rw [ofRanges, ← hplaces, List.map_map, List.map_map]
  rfl

theorem widgetId_injective {place other : Nat}
    (h : widgetIdStem ++ toString place = widgetIdStem ++ toString other) : place = other := by
  have hchars := congrArg String.toList h
  rw [String.toList_append, String.toList_append] at hchars
  exact toString_injective (List.append_cancel_left hchars)

theorem nodup_ids_ofRanges (lines : List String) (ranges : List LineRange) :
    ((ofRanges lines 0 ranges).widgets.map (·.id)).Nodup := by
  rw [ids_ofRanges]
  exact List.nodup_range.map fun _ _ => widgetId_injective

/-- Whatever the ranges, building a plan meets an overflow just where one of them starts at line 0.
Otherwise the plan has an entry in each list for every range, at the place of the range, and no two
widgets have one id. -/
theorem build_entriesFor (source : String) (ranges : List LineRange) :
    (∀ overflow, build source ranges = .error overflow ↔
      overflow = .sub ∧ ∃ range ∈ ranges, range.first = 0) ∧
    ((∀ range ∈ ranges, range.first ≠ 0) → ∃ plan, build source ranges = .ok plan ∧
      plan.regions.length = ranges.length ∧ plan.zones.length = ranges.length ∧
      plan.widgets.length = ranges.length ∧
      (∀ place range, ranges[place]? = some range → ∃ region zone widget,
        plan.regions[place]? = some region ∧ plan.zones[place]? = some zone ∧
        plan.widgets[place]? = some widget ∧
        EntriesFor source place range region zone widget) ∧
      (plan.widgets.map (·.id)).Nodup) := by
  refine ⟨fun _ => build_eq_error, ?_⟩
  intro hfirst
  refine ⟨_, build_eq_ofRanges source hfirst, ?_, ?_, ?_, ?_, nodup_ids_ofRanges _ ranges⟩
  · exact List.length_map _
  · exact List.length_map _
  · simp only [ofRanges, List.length_map, List.length_zipIdx]
  · intro place range hrange
    obtain ⟨hregion, hzone, hwidget⟩ := ofRanges_at (Text.lines source) hrange
    exact ⟨_, _, _, hregion, hzone, hwidget,
      entriesFor_ofRange source place (hfirst range (List.mem_of_getElem? hrange))⟩

/-- Ranges in no order, of which one is the wrong way round, two overlap, and one is past the end of
any text. -/
def unruly : List LineRange :=
  [{ first := 6, last := 2 }, { first := 1, last := 9 }, { first := 3, last := 6 },
    { first := 0xFFFFFFFFFFFFFFFF, last := 0 }]

theorem build_entriesFor_unruly :
    (∀ range ∈ unruly, range.first ≠ 0) ∧
    (∀ overflow, build Text.tangled unruly = .error overflow ↔
      overflow = .sub ∧ ∃ range ∈ unruly, range.first = 0) ∧
    ∃ plan, build Text.tangled unruly = .ok plan ∧
      plan.regions.length = unruly.length ∧ plan.zones.length = unruly.length ∧
      plan.widgets.length = unruly.length ∧
      (∀ place range, unruly[place]? = some range → ∃ region zone widget,
        plan.regions[place]? = some region ∧ plan.zones[place]? = some zone ∧
        plan.widgets[place]? = some widget ∧
        EntriesFor Text.tangled place range region zone widget) ∧
      (plan.widgets.map (·.id)).Nodup :=
  have hfirst : ∀ range ∈ unruly, range.first ≠ 0 := by decide
  ⟨hfirst, (build_entriesFor Text.tangled unruly).1,
    (build_entriesFor Text.tangled unruly).2 hfirst⟩

example : (build Text.tangled unruly).map (·.widgets.map (·.column)) = .ok [4, 4, 2, 0] := by decide

end FoldPlan

end BlockFolding

import BlockFolding.Proofs.RunTotal
import BlockFolding.Proofs.Utf16Columns

/-
  Anchors of a plan

  The line numbers of a plan count from 1, where 0 stands for the place above the text, and the
  lines of a text are found by indices from 0. A plan made from the blocks of a text crosses from
  the one to the other without going wrong (`build_anchored`): every widget stands on a line of the
  text, the one that opens its block, behind the last character of it, and every note is shown
  between the block before and its own. That the column is never the 0 of a missing line is what
  would fail if the two ways of counting were mixed up.
-/

namespace BlockFolding

/-! ## The first lines of blocks -/

/-- The ranges found in a text are stacked, and the first line of each opens a block. -/
theorem findBlocks_eq_opening {source : String} (test : LineTest) (threshold : Word)
    (h : source.utf8ByteSize < 2 ^ 63) :
    ∃ ranges, findBlocks source test threshold = .ok ranges ∧
      Stacked threshold (Text.lines source).length 0 ranges ∧
      ∀ range ∈ ranges, passesAt test.opens (Text.lines source) (range.first.toNat - 1) = true := by
  obtain ⟨blocks, hblocks, hfound⟩ := findBlocks_eq_greedy test threshold h
  have hlines := Text.length_lines_lt h
  refine ⟨_, hfound, hblocks.stacked threshold hlines (Nat.zero_le _), ?_⟩
  intro range hrange
  obtain ⟨b, hb, rfl⟩ := List.mem_map.1 hrange
  have hmem : b ∈ blocks := List.mem_of_mem_filter hb
  have hnumbers := hblocks.lineNumbers_range hlines hmem
  simp only [LineRange.lineNumbers, Block.lineNumbers, Prod.mk.injEq] at hnumbers
  rw [hnumbers.1, Nat.add_sub_cancel]
  exact (hblocks.passes b hmem).1

/-! ## Places of entries -/

/-- Where the entries of a plan for one block stand in a text, if the block before ends at the
line `above`. -/
structure Anchored (source : String) (test : LineTest) (above : Nat) (region : FoldingRegion)
    (zone : CommentZone) (widget : InspectWidget) : Prop where
  /-- The widget stands on the first line of the region. -/
  widget_line : widget.line = region.first
  /-- That line is one of the text, counted from 1, and opens a block. -/
  line_opens : 1 ≤ widget.line.toNat ∧
    ∃ line, (Text.lines source)[widget.line.toNat - 1]? = some line ∧ test.opens line = true
  column_pos : 1 ≤ widget.column.toNat
  /-- A line that holds a brace has a character before the widget. -/
  column_brace : test = .braces → 2 ≤ widget.column.toNat
  /-- The note is not shown above the end of the block before. -/
  above_le : above ≤ zone.afterLine.toNat
  /-- The note is shown above the region. -/
  zone_above : zone.afterLine.toNat < region.first.toNat
  /-- The line the note is shown after has, as an index, the end column of the widget. -/
  column_printed : ∃ index : Int64, index.toInt = zone.afterLine.toNat ∧
    ∀ (settings : Settings) (compiler : Pattern.Compiler), settings.columnOf = some index →
      ∃ outcome, runOn source settings compiler = .ok outcome ∧
        outcome.result = .ok (toString widget.column.toNat)

section
variable {source : String}

theorem length_charUnits_pos (c : Char) : 1 ≤ (Text.charUnits c).length := by
  rw [Text.charUnits]
  split
  · exact Nat.le_refl 1
  · exact Nat.le_succ 1

theorem length_utf16_pos {line : String} (h : LineTest.braces.opens line = true) :
    1 ≤ (Text.utf16 line).length := by
  have hmem : blockOpen ∈ line.toList := List.contains_iff_mem.1 h
  obtain ⟨before, after, hsplit⟩ := List.append_of_mem hmem
  have hunits := length_charUnits_pos blockOpen
  simp only [Text.utf16, hsplit, List.flatMap_append, List.flatMap_cons, List.length_append]
  omega

theorem anchored_entries {test : LineTest} {range : LineRange} {above : Nat}
    (h : source.utf8ByteSize < 2 ^ 63) (habove : above < range.first.toNat)
    (hopens : passesAt test.opens (Text.lines source) (range.first.toNat - 1) = true)
    (index : Nat) :
    Anchored source test above (FoldPlan.regionOf range) (FoldPlan.zoneOf range)
      (FoldPlan.widgetOf (Text.lines source) range index) := by
  have hfirst : 1 ≤ range.first.toNat := by omega
  have hindex := LineRange.toNat_first_sub_one hfirst
  obtain ⟨line, hline, hpasses⟩ := (Option.any_eq_true _ _).1 hopens
  have hcolumn : (endColumn source (range.first - 1)).toNat = (Text.utf16 line).length + 1 :=
    toNat_endColumn h (hindex.symm ▸ hline)
  -- A text below 2^63 bytes has no index of a line that a signed word does not hold.
  have hlt : range.first.toNat - 1 < 2 ^ 63 := by
    have hlength := lt_length_of_passesAt hopens
    have hbytes := Text.newlines_le_byteSize source
    rw [Text.length_lines] at hlength
    omega
  refine {
    widget_line := rfl
    line_opens := ⟨hfirst, line, hline, hpasses⟩
    column_pos := ?_
    column_brace := ?_
    above_le := ?_
    zone_above := ?_
    column_printed := ?_ }
  · show 1 ≤ (endColumn source (range.first - 1)).toNat
    omega
  · rintro rfl
    have := length_utf16_pos hpasses
    show 2 ≤ (endColumn source (range.first - 1)).toNat
    omega
  · show above ≤ (range.first - 1).toNat
    omega
  · show (range.first - 1).toNat < range.first.toNat
    omega
  · have hsigned : (Int64.ofNat (range.first - 1).toNat).toInt = (range.first - 1).toNat :=
      Int64.toInt_ofNat_of_lt (by omega)
    refine ⟨_, hsigned, ?_⟩
    intro settings compiler hsettings
    obtain ⟨outcome, hrun, hresult⟩ := runOn_column source hsettings
    refine ⟨outcome, hrun, ?_⟩
    rw [hresult, endColumnSigned_eq hsigned.symm]
    rfl

end

/-! ## Plans of blocks -/

/-- The last line of the region before a place in a plan, or 0 at the first place. -/
def FoldPlan.endAbove (plan : FoldPlan) : Nat → Nat
  | 0 => 0
  | place + 1 => (plan.regions[place]?.map (·.last.toNat)).getD 0

namespace Stacked
variable {threshold : Word} {count : Nat} {ranges : List LineRange}

theorem endAbove_lt (h : Stacked threshold count 0 ranges) (lines : List String) {place : Nat}
    {range : LineRange} (hrange : ranges[place]? = some range) :
    (FoldPlan.ofRanges lines 0 ranges).endAbove place < range.first.toNat := by
  cases place with
  | zero => exact (h.bounds range (List.mem_of_getElem? hrange)).1
  | succ place =>
    obtain ⟨hlt, rfl⟩ := List.getElem?_eq_some_iff.1 hrange
    have hbelow := List.pairwise_iff_getElem.1 h.pairwise place (place + 1) (by omega) hlt (by omega)
    simp only [FoldPlan.endAbove, FoldPlan.ofRanges, List.getElem?_map,
      List.getElem?_eq_getElem (Nat.lt_of_succ_lt hlt), Option.map_some, Option.getD_some]
    exact UInt64.lt_iff_toNat_lt.1 hbelow

/-- The line above the first one of a stacked range is not one of another range but its last. -/
theorem outside (h : Stacked threshold count 0 ranges) : ∀ a ∈ ranges, ∀ b ∈ ranges,
    ¬ (b.first.toNat ≤ (a.first - 1).toNat ∧ (a.first - 1).toNat < b.last.toNat) := by
  intro a ha b hb
  have hfirst := (h.bounds a ha).1
  rw [LineRange.toNat_first_sub_one hfirst]
  have hlong := (h.bounds a ha).2.1
  rcases h.eq_or_apart ha hb with rfl | hapart | hapart
  · omega
  · omega
  · omega

end Stacked

/-- The plan for the blocks of a text is built without overflow. Its widgets stand on the lines
that open the blocks, behind their last characters, its notes are shown between the blocks and
inside of none, and the column of each widget is the one printed for the line of its note. -/
theorem build_anchored (source : String) (test : LineTest) (threshold : Word)
    (h : source.utf8ByteSize < 2 ^ 63) :
    ∃ ranges plan, findBlocks source test threshold = .ok ranges ∧
      FoldPlan.build source ranges = .ok plan ∧
      plan.regions = ranges.map FoldPlan.regionOf ∧
      plan.zones.length = ranges.length ∧ plan.widgets.length = ranges.length ∧
      (∀ place region zone widget, plan.regions[place]? = some region →
        plan.zones[place]? = some zone → plan.widgets[place]? = some widget →
        Anchored source test (plan.endAbove place) region zone widget) ∧
      (∀ zone ∈ plan.zones, ∀ region ∈ plan.regions,
        ¬ (region.first.toNat ≤ zone.afterLine.toNat ∧
          zone.afterLine.toNat < region.last.toNat)) := by
  obtain ⟨ranges, hfound, hstacked, hopens⟩ := findBlocks_eq_opening test threshold h
  refine ⟨ranges, _, hfound, hstacked.build_eq source, rfl, ?_, ?_, ?_, ?_⟩
  · exact List.length_map _
  · simp only [FoldPlan.ofRanges, List.length_map, List.length_zipIdx]
  · intro place region zone widget hregion hzone hwidget
    obtain ⟨range, hrange, rfl, rfl, rfl⟩ := FoldPlan.ofRanges_entries hregion hzone hwidget
    have habove := hstacked.endAbove_lt (Text.lines source) hrange
    exact anchored_entries h habove (hopens range (List.mem_of_getElem? hrange)) place
  · intro zone hzone region hregion
    obtain ⟨a, ha, rfl⟩ := List.mem_map.1 hzone
    obtain ⟨b, hb, rfl⟩ := List.mem_map.1 hregion
    exact hstacked.outside a ha b hb

theorem build_anchored_tangled :
    Text.tangled.utf8ByteSize < 2 ^ 63 ∧
    ∃ ranges plan, findBlocks Text.tangled .braces 1 = .ok ranges ∧
      FoldPlan.build Text.tangled ranges = .ok plan ∧
      plan.regions = ranges.map FoldPlan.regionOf ∧
      plan.zones.length = ranges.length ∧ plan.widgets.length = ranges.length ∧
      (∀ place region zone widget, plan.regions[place]? = some region →
        plan.zones[place]? = some zone → plan.widgets[place]? = some widget →
        Anchored Text.tangled .braces (plan.endAbove place) region zone widget) ∧
      (∀ zone ∈ plan.zones, ∀ region ∈ plan.regions,
        ¬ (region.first.toNat ≤ zone.afterLine.toNat ∧
          zone.afterLine.toNat < region.last.toNat)) :=
  ⟨Text.tangled_byteSize, build_anchored Text.tangled .braces 1 Text.tangled_byteSize⟩

example : FoldPlan.build Text.tangled [{ first := 3, last := 6 }] = .ok {
    regions := [{ first := 3, last := 6 }]
    zones := [{ afterLine := 2, text := foldedBlockNote }]
    widgets := [{ id := "inspect.button.0", line := 3, column := 2 }] } := by decide

end BlockFolding

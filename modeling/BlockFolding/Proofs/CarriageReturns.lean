import BlockFolding.Proofs.PlanEntries
import BlockFolding.Proofs.ScanTrace
import BlockFolding.Proofs.Utf16Columns

/-
  Carriage returns

  A text whose lines end in a carriage return and a line feed is folded as the text with line feeds
  alone (`fold_withCarriageReturns`). Every line but the last is longer by one character, whatever
  carriage returns it had before. The test for braces does not see that character, so a scan gets
  the same answers and goes the same way; the end columns do, and move on by one unit. A widget
  moves with its line, which is never the last one: below it there is one that closes the block.
-/

namespace BlockFolding

namespace Text

/-- Characters with a carriage return in front of every line feed. -/
def charsWithReturns (cs : List Char) : List Char :=
  cs.flatMap fun c => if c = '\n' then ['\r', '\n'] else [c]

/-- The text with a carriage return in front of every line feed. -/
def withCarriageReturns (text : String) : String := String.ofList (charsWithReturns text.toList)

theorem splitOn_charsWithReturns (cs : List Char) : ∃ above last,
    cs.splitOn '\n' = above ++ [last] ∧
      (charsWithReturns cs).splitOn '\n' = above.map (· ++ ['\r']) ++ [last] := by
  induction cs with
  | nil => exact ⟨[], [], List.splitOn_nil '\n', List.splitOn_nil '\n'⟩
  | cons c rest ih =>
    obtain ⟨above, last, hrest, hreturns⟩ := ih
    rw [List.splitOn_cons_eq_if_modifyHead, hrest]
    by_cases hc : c = '\n'
    · subst hc
      have hcons : charsWithReturns ('\n' :: rest) = '\r' :: '\n' :: charsWithReturns rest := rfl
      refine ⟨[] :: above, last, rfl, ?_⟩
      rw [hcons, List.splitOn_cons_eq_if_modifyHead, List.splitOn_cons_eq_if_modifyHead, hreturns]
      rfl
    · have hcons : charsWithReturns (c :: rest) = c :: charsWithReturns rest := by
        simp [charsWithReturns, hc]
      rw [hcons, List.splitOn_cons_eq_if_modifyHead, hreturns]
      simp only [beq_iff_eq, hc, if_false]
      -- The character goes in front of the first piece, which is the last one if there is no other.
      cases above with
      | nil => exact ⟨[], c :: last, rfl, rfl⟩
      | cons piece above => exact ⟨(c :: piece) :: above, last, rfl, rfl⟩

/-- A line of the text with carriage returns is the line of the text, with one more at its end
unless it is the last. -/
theorem getElem?_lines_withCarriageReturns (text : String) (index : Nat) :
    (lines (withCarriageReturns text))[index]? =
      (lines text)[index]?.map fun line =>
        if index < newlines text then line ++ "\r" else line := by
  obtain ⟨above, last, htext, hreturns⟩ := splitOn_charsWithReturns text.toList
  have hlength := length_lines text
  rw [lines, htext, List.length_map, List.length_append, List.length_singleton,
    Nat.add_right_cancel_iff] at hlength
  rw [lines, lines, withCarriageReturns, String.toList_ofList, htext, hreturns, ← hlength]
  rcases Nat.lt_trichotomy index above.length with hlt | rfl | hgt
  · simp [hlt, List.getElem?_append_left, String.ofList_append]
  · simp
  · rw [List.getElem?_eq_none, List.getElem?_eq_none, Option.map_none]
    · simpa using Nat.succ_le_of_lt hgt
    · simpa using Nat.succ_le_of_lt hgt

theorem utf8Len_le_charsWithReturns (cs : List Char) :
    String.utf8Len cs ≤ String.utf8Len (charsWithReturns cs) := by
  induction cs with
  | nil => exact Nat.le_refl 0
  | cons c rest ih =>
    rw [charsWithReturns, List.flatMap_cons, ← charsWithReturns, String.utf8Len_append,
      String.utf8Len_cons]
    split
    · rename_i hc
      simp only [hc, String.utf8Len_cons]
      omega
    · simp only [String.utf8Len_cons]
      omega

theorem byteSize_le_withCarriageReturns (text : String) :
    text.utf8ByteSize ≤ (withCarriageReturns text).utf8ByteSize := by
  rw [← String.utf8Len_toList, ← String.utf8Len_toList, withCarriageReturns, String.toList_ofList]
  exact utf8Len_le_charsWithReturns text.toList

end Text

/-! ## The scan -/

theorem answers_braces_append (line : String) :
    LineTest.braces.answers (line ++ "\r") = LineTest.braces.answers line := by
  simp [LineTest.answers, LineTest.braces, blockOpen, blockClose]

theorem answers_withCarriageReturns (text : String) :
    (Text.lines (Text.withCarriageReturns text)).map LineTest.braces.answers =
      (Text.lines text).map LineTest.braces.answers := by
  apply List.ext_getElem?
  intro index
  have hline (line : String) : LineTest.braces.answers
      (if index < Text.newlines text then line ++ "\r" else line) =
        LineTest.braces.answers line := by
    split
    · exact answers_braces_append line
    · rfl
  simp only [List.getElem?_map, Text.getElem?_lines_withCarriageReturns, Option.map_map,
    Function.comp_def, hline]

section
variable {source : String} (h : (Text.withCarriageReturns source).utf8ByteSize < 2 ^ 63)
include h

theorem findLargeBlocks_withCarriageReturns :
    findLargeBlocks (Text.withCarriageReturns source) = findLargeBlocks source := by
  have hsource := Nat.lt_of_le_of_lt (Text.byteSize_le_withCarriageReturns source) h
  rw [findLargeBlocks, findLargeBlocks, findBlocks_eq_unchecked .braces largeThreshold h,
    findBlocks_eq_unchecked .braces largeThreshold hsource,
    Scan.unchecked_eq_of_answers (answers_withCarriageReturns source)]

/-! ## The end columns -/

theorem toNat_endColumn_withCarriageReturns {index : Word}
    (hindex : index.toNat < Text.newlines source) :
    (endColumn (Text.withCarriageReturns source) index).toNat =
      (endColumn source index).toNat + 1 := by
  have hsource := Nat.lt_of_le_of_lt (Text.byteSize_le_withCarriageReturns source) h
  obtain ⟨line, hline⟩ := Text.exists_line (Nat.le_of_lt hindex)
  have hreturns : (Text.lines (Text.withCarriageReturns source))[index.toNat]? =
      some (line ++ "\r") := by
    rw [Text.getElem?_lines_withCarriageReturns, hline, Option.map_some, if_pos hindex]
  have hunit : (Text.utf16 (line ++ "\r")).length = (Text.utf16 line).length + 1 := by
    rw [Text.utf16, String.toList_append, List.flatMap_append, List.length_append]
    rfl
  rw [toNat_endColumn h hreturns, toNat_endColumn hsource hline, hunit]

omit h in
theorem endColumn_withCarriageReturns {index : Word} (hindex : Text.newlines source ≤ index.toNat) :
    endColumn (Text.withCarriageReturns source) index = endColumn source index := by
  have hsame : (fun line => if index.toNat < Text.newlines source then line ++ "\r" else line) =
      id := by
    funext line
    rw [if_neg (Nat.not_lt_of_le hindex), id_eq]
  rw [endColumn, endColumn, endColumnAmong, endColumnAmong,
    Text.getElem?_lines_withCarriageReturns, hsame, Option.map_id_fun, id_eq]

end

/-! ## The plan -/

/-- The widget stands on the line of the other and one column further. -/
structure InspectWidget.MovedOn (widget other : InspectWidget) : Prop where
  id_eq : other.id = widget.id
  line_eq : other.line = widget.line
  column_eq : other.column.toNat = widget.column.toNat + 1

theorem movedOn_widgetOf {source : String} {range : LineRange}
    (h : (Text.withCarriageReturns source).utf8ByteSize < 2 ^ 63) (hfirst : 1 ≤ range.first.toNat)
    (hline : range.first.toNat ≤ Text.newlines source) (place : Nat) :
    InspectWidget.MovedOn (FoldPlan.widgetOf (Text.lines source) range place)
      (FoldPlan.widgetOf (Text.lines (Text.withCarriageReturns source)) range place) := by
  have hindex : (range.first - 1).toNat < Text.newlines source := by
    rw [LineRange.toNat_first_sub_one hfirst]
    omega
  refine { id_eq := ?_, line_eq := ?_, column_eq := ?_ }
  · simp only [FoldPlan.widgetOf]
  · simp only [FoldPlan.widgetOf]
  · rw [FoldPlan.column_widgetOf, FoldPlan.column_widgetOf,
      toNat_endColumn_withCarriageReturns h hindex]

/-- A text with carriage returns is folded as the text without them: its blocks are the same and so
are their regions and zones, while the widgets, none of which stands on the last line, move on by
one column. -/
theorem fold_withCarriageReturns (source : String)
    (h : (Text.withCarriageReturns source).utf8ByteSize < 2 ^ 63) :
    ∃ ranges plan plan',
      findLargeBlocks source = .ok ranges ∧
      findLargeBlocks (Text.withCarriageReturns source) = .ok ranges ∧
      FoldPlan.build source ranges = .ok plan ∧
      FoldPlan.build (Text.withCarriageReturns source) ranges = .ok plan' ∧
      plan'.regions = plan.regions ∧ plan'.zones = plan.zones ∧
      List.Forall₂ InspectWidget.MovedOn plan.widgets plan'.widgets ∧
      (∀ widget ∈ plan.widgets, widget.line.toNat < (Text.lines source).length) ∧
      ∀ index : Word,
        (index.toNat < Text.newlines source →
          (endColumn (Text.withCarriageReturns source) index).toNat =
            (endColumn source index).toNat + 1) ∧
        (index.toNat = Text.newlines source →
          endColumn (Text.withCarriageReturns source) index = endColumn source index) ∧
        (Text.newlines source < index.toNat →
          endColumn (Text.withCarriageReturns source) index = 0) := by
  have hsource := Nat.lt_of_le_of_lt (Text.byteSize_le_withCarriageReturns source) h
  obtain ⟨ranges, hfound, hstacked⟩ := findBlocks_eq_stacked .braces largeThreshold hsource
  have hsame := findLargeBlocks_withCarriageReturns h
  -- A block ends below its first line, so the line of its widget is not the last one.
  have hbounds : ∀ range ∈ ranges,
      1 ≤ range.first.toNat ∧ range.first.toNat < (Text.lines source).length := by
    intro range hrange
    obtain ⟨hfirst, hlong, hlast⟩ := hstacked.bounds range hrange
    omega
  refine ⟨ranges, _, _, hfound, hsame.trans hfound, hstacked.build_eq source,
    hstacked.build_eq (Text.withCarriageReturns source), ?_, ?_, ?_, ?_, ?_⟩
  · simp only [FoldPlan.ofRanges]
  · simp only [FoldPlan.ofRanges]
  · rw [FoldPlan.ofRanges, FoldPlan.ofRanges, List.forall₂_map_left_iff,
      List.forall₂_map_right_iff, List.forall₂_same]
    rintro ⟨range, place⟩ hrange
    obtain ⟨hfirst, hline⟩ := hbounds range (List.fst_mem_of_mem_zipIdx hrange)
    rw [Text.length_lines, Nat.lt_succ_iff] at hline
    exact movedOn_widgetOf h hfirst hline place
  · intro widget hwidget
    obtain ⟨⟨range, place⟩, hrange, rfl⟩ := List.mem_map.1 hwidget
    exact (hbounds range (List.fst_mem_of_mem_zipIdx hrange)).2
  · intro index
    refine ⟨toNat_endColumn_withCarriageReturns h, ?_, ?_⟩
    · intro hlast
      exact endColumn_withCarriageReturns (Nat.le_of_eq hlast.symm)
    · intro hbehind
      rw [endColumn_withCarriageReturns (Nat.le_of_lt hbehind)]
      apply endColumn_missing
      rw [Text.length_lines]
      exact hbehind

theorem fold_withCarriageReturns_rambling :
    (Text.withCarriageReturns Text.rambling).utf8ByteSize < 2 ^ 63 ∧
    ∃ ranges plan plan',
      findLargeBlocks Text.rambling = .ok ranges ∧
      findLargeBlocks (Text.withCarriageReturns Text.rambling) = .ok ranges ∧
      FoldPlan.build Text.rambling ranges = .ok plan ∧
      FoldPlan.build (Text.withCarriageReturns Text.rambling) ranges = .ok plan' ∧
      plan'.regions = plan.regions ∧ plan'.zones = plan.zones ∧
      List.Forall₂ InspectWidget.MovedOn plan.widgets plan'.widgets ∧
      (∀ widget ∈ plan.widgets, widget.line.toNat < (Text.lines Text.rambling).length) ∧
      ∀ index : Word,
        (index.toNat < Text.newlines Text.rambling →
          (endColumn (Text.withCarriageReturns Text.rambling) index).toNat =
            (endColumn Text.rambling index).toNat + 1) ∧
        (index.toNat = Text.newlines Text.rambling →
          endColumn (Text.withCarriageReturns Text.rambling) index =
            endColumn Text.rambling index) ∧
        (Text.newlines Text.rambling < index.toNat →
          endColumn (Text.withCarriageReturns Text.rambling) index = 0) :=
  have hsize : (Text.withCarriageReturns Text.rambling).utf8ByteSize < 2 ^ 63 := by decide
  ⟨hsize, fold_withCarriageReturns Text.rambling hsize⟩

example : findLargeBlocks (Text.withCarriageReturns Text.rambling) = .ok [⟨2, 8⟩] := by decide

end BlockFolding

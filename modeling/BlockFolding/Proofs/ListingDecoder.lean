import BlockFolding.Proofs.Numerals
import BlockFolding.Proofs.RegionMarks

/-
  Reading a listing

  A listing loses nothing: from its text alone `Listing.read` tells the text it shows and the ranges
  it marks (`listing_read`). No line holds a line feed, so the lines of a listing are its records,
  one for each line of the text. In a record the number ends before the first character that is no
  digit, however wide it is and whatever stands on the line, so the mark and the line behind it are
  found, and the marks are read as a picture of the ranges.
-/

namespace BlockFolding

namespace FoldPlan

/-- A row of a listing without its end. -/
def record (plan : FoldPlan) (number : Nat) (line : String) : String :=
  Text.padLeft 4 (toString number) ++ " " ++ String.singleton (plan.mark number) ++ " " ++ line

/-- The records of a listing from a number on. -/
def records (plan : FoldPlan) (number : Nat) (lines : List String) : List String :=
  (lines.zipIdx number).map fun (line, place) => plan.record place line

theorem rows_eq (plan : FoldPlan) (lines : List String) (number : Nat) :
    plan.rows number lines = (plan.records number lines).map (· ++ "\n") := by
  induction lines generalizing number with
  | nil => rfl
  | cons line rest ih =>
    rw [rows, ih (number + 1)]
    rfl

end FoldPlan

/-! ## Records -/

theorem toList_record (plan : FoldPlan) (number : Nat) (line : String) :
    (plan.record number line).toList =
      List.replicate (4 - (toString number).length) ' ' ++ ((toString number).toList ++
        ' ' :: plan.mark number :: ' ' :: line.toList) := by
  simp [FoldPlan.record, Text.padLeft]

theorem mark_ne_newline (plan : FoldPlan) (number : Nat) : plan.mark number ≠ '\n' := by
  rw [FoldPlan.mark]
  split
  · rw [FoldingRegion.mark]
    split <;> decide
  · decide

theorem newline_not_mem_record (plan : FoldPlan) (number : Nat) {line : String}
    (h : '\n' ∉ line.toList) : '\n' ∉ (plan.record number line).toList := by
  rw [toList_record]
  intro hmem
  rcases List.mem_append.1 hmem with hblank | hmem
  · exact absurd (List.eq_of_mem_replicate hblank) (by decide)
  · rcases List.mem_append.1 hmem with hdigit | hmem
    · exact absurd (isDigit_of_mem_toString hdigit) (by decide)
    · simp [h, (mark_ne_newline plan number).symm] at hmem

/-- The lines of a listing are its records, and an empty one behind the last line feed. -/
theorem lines_listing (plan : FoldPlan) (source : String) :
    Text.lines (plan.listing source) = plan.records 1 (Text.lines source) ++ [""] := by
  rw [FoldPlan.listing, FoldPlan.rows_eq]
  apply Text.lines_terminated
  intro record hrecord
  obtain ⟨⟨line, place⟩, hline, rfl⟩ := List.mem_map.1 hrecord
  exact newline_not_mem_record plan place
    (Text.newline_not_mem_line (List.fst_mem_of_mem_zipIdx hline))

/-! ## Reading -/

namespace Listing

/-- What stands behind the number of a record: a blank, the mark, a blank and the line. -/
def behindNumber (record : List Char) : List Char :=
  (record.dropWhile (· == ' ')).dropWhile Char.isDigit

/-- The mark of a record. -/
def readMark (record : List Char) : Char := (behindNumber record).getD 1 ' '

/-- The line of a record. -/
def readLine (record : List Char) : List Char := (behindNumber record).drop 3

/-- The text that a listing shows and the ranges that it marks. -/
def read (listing : String) : String × List LineRange :=
  let records := (Text.lines listing).dropLast.map String.toList
  (String.ofList (['\n'].intercalate (records.map readLine)),
    readRanges 1 (records.map readMark))

theorem behindNumber_record (plan : FoldPlan) (number : Nat) (line : String) :
    behindNumber (plan.record number line).toList =
      ' ' :: plan.mark number :: ' ' :: line.toList := by
  rw [toList_record, behindNumber, List.dropWhile_append_of_pos (by simp)]
  -- The blanks end at the first digit, and the digits at the blank in front of the mark.
  obtain ⟨digit, digits, hdigits⟩ := List.exists_cons_of_ne_nil (toString_ne_nil number)
  have hmem : digit ∈ (toString number).toList := hdigits ▸ List.mem_cons_self
  have hdigit : digit ≠ ' ' := by
    rintro rfl
    exact absurd (isDigit_of_mem_toString hmem) (by decide)
  have hkept : ((toString number).toList ++ ' ' :: plan.mark number :: ' ' :: line.toList).dropWhile
      (· == ' ') = (toString number).toList ++ ' ' :: plan.mark number :: ' ' :: line.toList := by
    rw [hdigits, List.cons_append, List.dropWhile_cons_of_neg (by simp [hdigit])]
  rw [hkept, List.dropWhile_append_of_pos fun c hc => isDigit_of_mem_toString hc]
  rfl

theorem readLine_record (plan : FoldPlan) (number : Nat) (line : String) :
    readLine (plan.record number line).toList = line.toList := by
  rw [readLine, behindNumber_record, List.drop_succ_cons, List.drop_succ_cons,
    List.drop_succ_cons, List.drop_zero]

theorem readMark_record (plan : FoldPlan) (number : Nat) (line : String) :
    readMark (plan.record number line).toList = plan.mark number := by
  rw [readMark, behindNumber_record, List.getD_cons_succ, List.getD_cons_zero]

theorem map_readLine_records (plan : FoldPlan) (number : Nat) (lines : List String) :
    ((plan.records number lines).map String.toList).map readLine = lines.map String.toList := by
  simp only [FoldPlan.records, List.map_map, Function.comp_def, readLine_record]
  rw [← Function.comp_def String.toList Prod.fst, ← List.map_map, List.zipIdx_map_fst]

theorem map_readMark_records (plan : FoldPlan) (number : Nat) (lines : List String) :
    ((plan.records number lines).map String.toList).map readMark =
      (List.range' number lines.length).map plan.mark := by
  simp only [FoldPlan.records, List.map_map, Function.comp_def, readMark_record]
  rw [← Function.comp_def plan.mark Prod.snd, ← List.map_map, List.zipIdx_map_snd]

/-- The listing of a text under the plan for stacked ranges is read back. -/
theorem read_listing {threshold : Word} {ranges : List LineRange} (source : String)
    (h : Stacked threshold (Text.lines source).length 0 ranges) :
    read ((FoldPlan.ofRanges (Text.lines source) 0 ranges).listing source) = (source, ranges) := by
  have hpaint := map_mark_eq_paint ranges 0 h (h.marks (Text.lines source))
  rw [Nat.sub_zero, Nat.zero_add] at hpaint
  have hranges := readRanges_paint ranges 0 h
  rw [Nat.zero_add] at hranges
  simp only [read, lines_listing, List.dropLast_concat, map_readLine_records,
    map_readMark_records, Text.intercalate_lines, String.ofList_toList, hpaint, hranges]

end Listing

/-- A listing of a text under the plan for its blocks tells the text and the blocks. It has one
record for each line of the text, with the number of the line, the mark and the line itself, and
the mark tells the first lines of the blocks, their other lines and the lines outside apart. -/
theorem listing_read (source : String) (test : LineTest) (threshold : Word)
    (h : source.utf8ByteSize < 2 ^ 63) :
    ∃ ranges plan, findBlocks source test threshold = .ok ranges ∧
      FoldPlan.build source ranges = .ok plan ∧
      Listing.read (plan.listing source) = (source, ranges) ∧
      ∃ records, Text.lines (plan.listing source) = records ++ [""] ∧
        records.length = Text.newlines source + 1 ∧
        ∀ index record, records[index]? = some record →
          ∃ line mark, (Text.lines source)[index]? = some line ∧
            record = Text.padLeft 4 (toString (index + 1)) ++ " " ++ String.singleton mark ++
              " " ++ line ∧
            (mark = '>' ↔ ∃ range ∈ ranges, range.first.toNat = index + 1) ∧
            (mark = '|' ↔ ∃ range ∈ ranges,
              range.first.toNat < index + 1 ∧ index + 1 ≤ range.last.toNat) ∧
            (mark = ' ' ↔ ∀ range ∈ ranges, ¬ range.Covers (index + 1)) := by
  obtain ⟨ranges, hfound, hstacked⟩ := findBlocks_eq_stacked test threshold h
  refine ⟨ranges, _, hfound, hstacked.build_eq source, Listing.read_listing source hstacked, _,
    lines_listing _ source, ?_, ?_⟩
  · rw [FoldPlan.records, List.length_map, List.length_zipIdx, Text.length_lines]
  · intro index record hrecord
    rw [FoldPlan.records, List.getElem?_map, List.getElem?_zipIdx, Option.map_map,
      Option.map_eq_some_iff] at hrecord
    obtain ⟨line, hline, rfl⟩ := hrecord
    have hmarks := (hstacked.marks (Text.lines source)).mark_iff (Nat.succ_pos index)
    refine ⟨line, _, hline, ?_, hmarks⟩
    rw [Function.comp_apply, Nat.add_comm 1 index]
    rfl

theorem listing_read_tangled :
    Text.tangled.utf8ByteSize < 2 ^ 63 ∧
    ∃ ranges plan, findBlocks Text.tangled .braces 1 = .ok ranges ∧
      FoldPlan.build Text.tangled ranges = .ok plan ∧
      Listing.read (plan.listing Text.tangled) = (Text.tangled, ranges) ∧
      ∃ records, Text.lines (plan.listing Text.tangled) = records ++ [""] ∧
        records.length = Text.newlines Text.tangled + 1 ∧
        ∀ index record, records[index]? = some record →
          ∃ line mark, (Text.lines Text.tangled)[index]? = some line ∧
            record = Text.padLeft 4 (toString (index + 1)) ++ " " ++ String.singleton mark ++
              " " ++ line ∧
            (mark = '>' ↔ ∃ range ∈ ranges, range.first.toNat = index + 1) ∧
            (mark = '|' ↔ ∃ range ∈ ranges,
              range.first.toNat < index + 1 ∧ index + 1 ≤ range.last.toNat) ∧
            (mark = ' ' ↔ ∀ range ∈ ranges, ¬ range.Covers (index + 1)) :=
  ⟨Text.tangled_byteSize, listing_read Text.tangled .braces 1 Text.tangled_byteSize⟩

-- Two ranges that touch, and a line that looks like a record itself.
example : Listing.read "   1 > \x7b\n   2 | \x7d\n   3 >    4 > \x7b\n   4 | \x7d\n" =
    ("\x7b\n\x7d\n   4 > \x7b\n\x7d", [⟨1, 2⟩, ⟨3, 4⟩]) := by decide

end BlockFolding

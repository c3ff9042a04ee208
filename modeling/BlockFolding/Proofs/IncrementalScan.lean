import BlockFolding.Proofs.StackedRanges

/-
  Scanning a text as it grows

  A scan carries one state from line to line, so it can stop after a text and go on when more lines
  come (`unchecked_append`): what it reported stays, and what it reports from then on depends on the
  state it stopped in and on the new lines. Line numbers appear in the state and in the ranges, but
  a scan looks at their distances alone, so a scan that starts further down reports the same ranges
  further down (`unchecked_shift`).

  A cut in the middle of a line is another matter, because the line that is seen in part may look
  different as a whole. Under a test that takes no closing line back when the line goes on, such as
  the one for braces, the ranges reported at any cut stay as well (`ranges_prefix_of_cut`).
-/

namespace BlockFolding

namespace ScanState

/-- Steps over lines one after another, the first of them at the index: the state after them and
the ranges they complete. -/
def steps (test : LineTest) (threshold : Word) :
    ScanState → (index : Nat) → List String → Checked (ScanState × List LineRange)
  | state, _, [] => .ok (state, [])
  | state, index, line :: rest => do
    let (next, emitted) ← state.step (.ofNat index) line test threshold
    let (final, later) ← steps test threshold next (index + 1) rest
    return (final, emitted.toList ++ later)

theorem steps_eq_unchecked (test : LineTest) (threshold : Word) :
    ∀ (lines : List String) (state : ScanState) (index : Nat), state.Before (.ofNat index) →
      index + lines.length < 2 ^ 64 →
      state.steps test threshold index lines =
        .ok ((Scan.unchecked test threshold state (.ofNat index) lines).final,
          (Scan.unchecked test threshold state (.ofNat index) lines).ranges)
  | [], _, _, _, _ => rfl
  | line :: rest, state, index, hstate, hbound => by
    rw [List.length_cons] at hbound
    have htoNat : (.ofNat index : Word).toNat = index :=
      UInt64.toNat_ofNat_of_lt' (show index < 2 ^ 64 by omega)
    have hindex : (.ofNat index : Word).toNat + 1 < 2 ^ 64 := by omega
    have hnext : (.ofNat (index + 1) : Word) = .ofNat index + 1 := UInt64.ofNat_add index 1
    have hlater := steps_eq_unchecked test threshold rest
      (state.next (.ofNat index) (test.answer state.question line)) (index + 1)
      (hnext ▸ hstate.next _ hindex) (by omega)
    rw [hnext] at hlater
    simp only [steps, step, advance_eq _ hstate hindex, ok_bind, hlater,
      Scan.ranges_unchecked_cons]
    rfl

/-- The state with the block that is open moved down. -/
def shift (distance : Word) : ScanState → ScanState
  | searching => searching
  | spanOpen openIndex => spanOpen (openIndex + distance)

end ScanState

/-- The range moved down. -/
def LineRange.shift (distance : Word) (range : LineRange) : LineRange :=
  { first := range.first + distance, last := range.last + distance }

namespace Scan

section
variable (test : LineTest) (threshold : Word)

/-! ## Cutting between lines -/

/-- A scan of lines and more lines is a scan of the lines, and one of the others that goes on from
the state it ends in. -/
theorem unchecked_append (more : List String) : ∀ (lines : List String) (state : ScanState)
    (index : Word),
    (unchecked test threshold state index (lines ++ more)).ranges =
      (unchecked test threshold state index lines).ranges ++
        (unchecked test threshold (unchecked test threshold state index lines).final
          (index + .ofNat lines.length) more).ranges
  | [], state, index => by
    have hindex : index + .ofNat ([] : List String).length = index := UInt64.add_zero index
    rw [hindex]
    rfl
  | line :: rest, state, index => by
    rw [List.cons_append, ranges_unchecked_cons, ranges_unchecked_cons, final_unchecked_cons,
      unchecked_append more rest, List.append_assoc, index_add_length_cons]

/-! ## Starting further down -/

theorem found_shift (distance index : Word) (answer : Bool) (state : ScanState) :
    (state.shift distance).found threshold (index + distance) answer =
      (state.found threshold index answer).map (LineRange.shift distance) := by
  cases state with
  | searching => rfl
  | spanOpen openIndex =>
    -- Words wrap around, so this holds also where a sum does not fit.
    have hdistance : index + distance - (openIndex + distance) = index - openIndex := by grind
    have hcomm (a : Word) : a + distance + 1 = a + 1 + distance := by grind
    simp only [ScanState.shift, ScanState.found, hdistance, hcomm]
    split <;> rfl

theorem next_shift (distance index : Word) (answer : Bool) (state : ScanState) :
    (state.shift distance).next (index + distance) answer =
      (state.next index answer).shift distance := by
  cases state with
  | searching => cases answer <;> rfl
  | spanOpen openIndex => cases answer <;> rfl

theorem unchecked_shift (distance : Word) : ∀ (lines : List String) (state : ScanState)
    (index : Word),
    (unchecked test threshold (state.shift distance) (index + distance) lines).ranges =
      (unchecked test threshold state index lines).ranges.map (LineRange.shift distance)
  | [], _, _ => rfl
  | line :: rest, state, index => by
    have hquestion : (state.shift distance).question = state.question := by cases state <;> rfl
    have hindex : index + distance + 1 = index + 1 + distance := by grind
    rw [ranges_unchecked_cons, ranges_unchecked_cons, hquestion, found_shift, next_shift, hindex,
      unchecked_shift distance rest, List.map_append, Option.toList_map]

/-! ## Cutting inside of a line -/

variable {test}

/-- A line that goes on completes what it completes as far as it is seen. -/
theorem found_goes_on (hclosing : ∀ line more, test.closes line = true →
      test.closes (line ++ more) = true) (state : ScanState) (index : Word) (line more : String) :
    (state.found threshold index (test.answer state.question line)).toList <+:
      (state.found threshold index (test.answer state.question (line ++ more))).toList := by
  cases state with
  | searching => exact List.nil_prefix
  | spanOpen openIndex =>
    simp only [ScanState.question, LineTest.answer]
    cases hline : test.closes line with
    | false => exact List.nil_prefix
    | true =>
      have hmore := hclosing line more hline
      simp only [hmore, List.prefix_rfl]

/-- The ranges reported at a cut inside of a line stay when the line goes on and more lines come. -/
theorem ranges_prefix_of_cut (hclosing : ∀ line more, test.closes line = true →
      test.closes (line ++ more) = true) (above below : List String) (last rest : String) :
    (unchecked test threshold .searching 0 (above ++ [last])).ranges <+:
      (unchecked test threshold .searching 0 (above ++ (last ++ rest) :: below)).ranges := by
  have hempty (state : ScanState) (index : Word) :
      (unchecked test threshold state index []).ranges = [] := rfl
  -- Both scans reach the line in one state, and only what they make of the line differs.
  rw [unchecked_append, unchecked_append, List.prefix_append_right_inj, ranges_unchecked_cons,
    ranges_unchecked_cons, hempty, List.append_nil]
  exact (found_goes_on threshold hclosing _ _ last rest).trans (List.prefix_append _ _)

end

end Scan

/-! ## Texts that grow -/

theorem braces_closes_append (line more : String) (h : LineTest.braces.closes line = true) :
    LineTest.braces.closes (line ++ more) = true := by
  have hmem : blockClose ∈ line.toList := List.contains_iff_mem.1 h
  apply List.contains_iff_mem.2
  rw [String.toList_append]
  exact List.mem_append_left _ hmem

theorem length_lines_add_lt {a b : String} (h : a.utf8ByteSize + b.utf8ByteSize < 2 ^ 63) :
    (Text.lines a).length + (Text.lines b).length < 2 ^ 64 := by
  have := Text.newlines_le_byteSize a
  have := Text.newlines_le_byteSize b
  rw [Text.length_lines, Text.length_lines]
  omega

/-- Stacked ranges that are moved down by as many lines as still fit a word have line numbers that
are greater by that many. -/
theorem Stacked.lineNumbers_shift {threshold : Word} {count distance : Nat}
    {ranges : List LineRange} (h : Stacked threshold count 0 ranges)
    (hdistance : distance + count < 2 ^ 64) :
    (ranges.map (LineRange.shift (.ofNat distance))).map LineRange.lineNumbers =
      ranges.map fun range => (range.first.toNat + distance, range.last.toNat + distance) := by
  have htoNat : (.ofNat distance : Word).toNat = distance :=
    UInt64.toNat_ofNat_of_lt' (show distance < 2 ^ 64 by omega)
  rw [List.map_map]
  apply List.map_congr_left
  intro range hrange
  obtain ⟨-, hlong, hlast⟩ := h.bounds range hrange
  have hfirst : range.first.toNat + distance < 2 ^ 64 := by omega
  have hend : range.last.toNat + distance < 2 ^ 64 := by omega
  simp only [Function.comp_apply, LineRange.shift, LineRange.lineNumbers, UInt64.toNat_add, htoNat,
    Nat.mod_eq_of_lt hfirst, Nat.mod_eq_of_lt hend]

theorem findBlocks_further_down {source : String} (test : LineTest) (threshold : Word)
    (h : source.utf8ByteSize < 2 ^ 63) {distance : Nat}
    (hdistance : distance + (Text.lines source).length < 2 ^ 64) :
    ∃ own, findBlocks source test threshold = .ok own ∧
      (Scan.unchecked test threshold .searching (.ofNat distance)
        (Text.lines source)).ranges.map LineRange.lineNumbers =
          own.map fun range => (range.first.toNat + distance, range.last.toNat + distance) := by
  obtain ⟨own, hown, hstacked⟩ := findBlocks_eq_stacked test threshold h
  have hranges := hown
  rw [findBlocks_eq_unchecked test threshold h, Except.ok.injEq] at hranges
  have hshift := Scan.unchecked_shift test threshold (.ofNat distance) (Text.lines source)
    .searching 0
  rw [UInt64.zero_add, hranges] at hshift
  refine ⟨own, hown, ?_⟩
  calc (Scan.unchecked test threshold .searching (.ofNat distance)
        (Text.lines source)).ranges.map LineRange.lineNumbers
      = (own.map (LineRange.shift (.ofNat distance))).map LineRange.lineNumbers :=
        congrArg _ hshift
    _ = own.map fun range => (range.first.toNat + distance, range.last.toNat + distance) :=
        hstacked.lineNumbers_shift hdistance

/-- A scan can be cut. When lines are added to a text, the ranges reported for it stay, and those
reported for the lines that come are the ones of further steps from the state the scan of the text
ends in; if no block is open there, they are the ranges of the added text, moved down. The ranges
of large blocks between braces stay also if the text is cut in the middle of a line. -/
theorem findBlocks_incremental (a b : String) (h : a.utf8ByteSize + b.utf8ByteSize < 2 ^ 63) :
    (∀ (test : LineTest) (threshold : Word), ∃ state before final after,
      ScanState.searching.steps test threshold 0 (Text.lines a) = .ok (state, before) ∧
      state.steps test threshold (Text.lines a).length (Text.lines b) = .ok (final, after) ∧
      findBlocks a test threshold = .ok before ∧
      findBlocks (a ++ "\n" ++ b) test threshold = .ok (before ++ after) ∧
      (state = .searching → ∃ own, findBlocks b test threshold = .ok own ∧
        after.map LineRange.lineNumbers = own.map fun range =>
          (range.first.toNat + (Text.lines a).length,
            range.last.toNat + (Text.lines a).length))) ∧
    (∃ ranges more, findLargeBlocks a = .ok ranges ∧
      findLargeBlocks (a ++ b) = .ok (ranges ++ more)) := by
  have hlines := length_lines_add_lt h
  constructor
  · intro test threshold
    have hjoined : (Text.lines (a ++ "\n" ++ b)).length < 2 ^ 64 := by
      rw [Text.lines_append_newline, List.length_append]
      exact hlines
    have hlength : (0 : Word) + .ofNat (Text.lines a).length = .ofNat (Text.lines a).length :=
      UInt64.zero_add _
    -- The state that the scan of the first text ends in is one to go on from.
    have hbefore := Scan.before_final_unchecked test threshold (Text.lines a) .searching 0 trivial
      (by rw [UInt64.toNat_zero]; omega)
    rw [hlength] at hbefore
    refine ⟨_, _, _, _,
      ScanState.steps_eq_unchecked test threshold (Text.lines a) .searching 0 trivial (by omega),
      ScanState.steps_eq_unchecked test threshold (Text.lines b) _ _ hbefore hlines,
      findBlocks_eq_unchecked test threshold (by omega), ?_, ?_⟩
    · rw [findBlocks_eq_unchecked_of_length test threshold hjoined, Text.lines_append_newline,
        Scan.unchecked_append, hlength]
      rfl
    · intro hsearching
      rw [hsearching]
      exact findBlocks_further_down test threshold (by omega) hlines
  · obtain ⟨above, last, rest, below, ha, hjoined⟩ := Text.lines_append a b
    have hsize : (a ++ b).utf8ByteSize < 2 ^ 63 := by
      rw [String.utf8ByteSize_append]
      exact h
    obtain ⟨more, hmore⟩ := Scan.ranges_prefix_of_cut largeThreshold braces_closes_append
      above below last rest
    refine ⟨_, more, findBlocks_eq_unchecked .braces largeThreshold (by omega), ?_⟩
    rw [ha, hmore, ← hjoined]
    exact findBlocks_eq_unchecked .braces largeThreshold hsize

theorem findBlocks_incremental_tangled :
    Text.tangled.utf8ByteSize + Text.tangled.utf8ByteSize < 2 ^ 63 ∧
    (∀ (test : LineTest) (threshold : Word), ∃ state before final after,
      ScanState.searching.steps test threshold 0 (Text.lines Text.tangled) =
        .ok (state, before) ∧
      state.steps test threshold (Text.lines Text.tangled).length (Text.lines Text.tangled) =
        .ok (final, after) ∧
      findBlocks Text.tangled test threshold = .ok before ∧
      findBlocks (Text.tangled ++ "\n" ++ Text.tangled) test threshold = .ok (before ++ after) ∧
      (state = .searching → ∃ own, findBlocks Text.tangled test threshold = .ok own ∧
        after.map LineRange.lineNumbers = own.map fun range =>
          (range.first.toNat + (Text.lines Text.tangled).length,
            range.last.toNat + (Text.lines Text.tangled).length))) ∧
    (∃ ranges more, findLargeBlocks Text.tangled = .ok ranges ∧
      findLargeBlocks (Text.tangled ++ Text.tangled) = .ok (ranges ++ more)) :=
  have hsize : Text.tangled.utf8ByteSize + Text.tangled.utf8ByteSize < 2 ^ 63 := by decide
  ⟨hsize, findBlocks_incremental Text.tangled Text.tangled hsize⟩

end BlockFolding

import BlockFolding.Proofs.GreedyBlocks

/-
  Raising the threshold

  The threshold of a scan decides which of the blocks that close are reported, and nothing else: a
  block that is too short is over all the same, and the search goes on behind it as behind one that
  is reported. So the scans of a text at two thresholds go side by side, visit for visit, through
  the same states, questions and answers, and the one at the higher threshold is the other with the
  ranges left out that do not exceed it (`Scan.unchecked_raised`).

  A scan that kept a short block open, or looked at its last line again, would agree with this on
  texts without short blocks only.
-/

namespace BlockFolding

/-- Whether the range ends more than the threshold below its first line. -/
def LineRange.exceeds (threshold : Word) (range : LineRange) : Bool :=
  threshold.toNat < range.last.toNat - range.first.toNat

theorem Block.exceeds_range (block : Block) (threshold : Word)
    (hopening : block.opening + 1 < 2 ^ 64) (hclosing : block.closing + 1 < 2 ^ 64) :
    block.range.exceeds threshold = block.exceeds threshold := by
  obtain ⟨hfirst, hlast⟩ := Prod.mk.inj (block.lineNumbers_range hopening hclosing)
  simp only [LineRange.exceeds, Block.exceeds, hfirst, hlast, Nat.add_sub_add_right]

/-! ## One step at two thresholds -/

theorem Block.exceeds_mono {block : Block} {low high : Word} (hle : low ≤ high)
    (h : block.exceeds high = true) : block.exceeds low = true := by
  have := UInt64.le_iff_toNat_le.1 hle
  simp only [Block.exceeds, decide_eq_true_eq] at h ⊢
  omega

theorem ScanState.found_raised {state : ScanState} {low high index : Word} (hle : low ≤ high)
    (answer : Bool) (hstate : state.Before index) (hindex : index.toNat + 1 < 2 ^ 64) :
    state.found high index answer = (state.found low index answer).filter (·.exceeds high) := by
  cases state with
  | searching => rfl
  | spanOpen openIndex =>
    cases answer with
    | false => rfl
    | true =>
      have hopen := UInt64.lt_iff_toNat_lt.1 hstate
      have hrange := Block.exceeds_range ⟨openIndex.toNat, index.toNat⟩ high
        (show openIndex.toNat + 1 < _ by omega) hindex
      rw [found_spanOpen hopen, found_spanOpen hopen]
      by_cases hhigh : (Block.mk openIndex.toNat index.toNat).exceeds high = true
      · rw [if_pos hhigh, if_pos (Block.exceeds_mono hle hhigh), Option.filter_some, hrange,
          if_pos hhigh]
      · rw [if_neg hhigh]
        split
        · rw [Option.filter_some, hrange, if_neg hhigh]
        · rfl

/-! ## Whole scans at two thresholds -/

/-- The visit without the range it completed, if that does not exceed the threshold. -/
def Visit.raised (threshold : Word) (visit : Visit) : Visit :=
  { visit with emitted := visit.emitted.filter (·.exceeds threshold) }

namespace Scan

/-- The scan without the ranges that do not exceed the threshold. -/
def raised (threshold : Word) (scan : Scan) : Scan :=
  { scan with visits := scan.visits.map (Visit.raised threshold) }

/-- The states that the scan goes through, from the one before the first line to the one behind
the last. -/
def states (scan : Scan) : List ScanState := scan.visits.map (·.state) ++ [scan.final]

section
variable (threshold : Word) (scan : Scan)

theorem ranges_raised :
    (scan.raised threshold).ranges = scan.ranges.filter (·.exceeds threshold) := by
  simp only [ranges, raised, List.filterMap_map, List.filter_filterMap]
  rfl

theorem states_raised : (scan.raised threshold).states = scan.states := by
  simp only [states, raised, List.map_map]
  rfl

theorem asked_raised : (scan.raised threshold).asked = scan.asked := by
  simp only [asked, raised, List.map_map]
  rfl

end

/-- The scan at the higher of two thresholds is the one at the lower with its short ranges left
out. -/
theorem unchecked_raised (test : LineTest) {low high : Word} (hle : low ≤ high) :
    ∀ (lines : List String) (state : ScanState) (index : Word), state.Before index →
      index.toNat + lines.length < 2 ^ 64 →
      unchecked test high state index lines = (unchecked test low state index lines).raised high
  | [], _, _, _, _ => rfl
  | line :: rest, state, index, hstate, hbound => by
    rw [List.length_cons] at hbound
    have hindex : index.toNat + 1 < 2 ^ 64 := by omega
    have hlater := unchecked_raised test hle rest
      (state.next index (test.answer state.question line)) (index + 1)
      (hstate.next _ hindex) (by rw [Word.toNat_add_one hindex]; omega)
    -- The next state does not depend on the threshold, so the two scans stay side by side.
    simp only [unchecked, hlater, ScanState.found_raised hle _ hstate hindex]
    rfl

end Scan

/-- The threshold is only a filter. At the higher of two thresholds those of the ranges are found
that exceed it, in their order, and the scans at both go through the same states and put the same
questions with the same answers. -/
theorem findBlocks_raised (source : String) (test : LineTest) (low high : Word)
    (h : source.utf8ByteSize < 2 ^ 63) (hle : low ≤ high) :
    ∃ scan other : Scan, Scan.ofText source test low = .ok scan ∧
      Scan.ofText source test high = .ok other ∧
      findBlocks source test low = .ok scan.ranges ∧
      findBlocks source test high = .ok other.ranges ∧
      other.ranges = scan.ranges.filter (·.exceeds high) ∧
      other.states = scan.states ∧
      other.asked = scan.asked := by
  have hraised := Scan.unchecked_raised test hle (Text.lines source) .searching 0 trivial
    (by simpa using Text.length_lines_lt h)
  refine ⟨_, _, Scan.ofText_eq_unchecked test low h, Scan.ofText_eq_unchecked test high h,
    findBlocks_eq_unchecked test low h, findBlocks_eq_unchecked test high h, ?_, ?_, ?_⟩
  · rw [hraised, Scan.ranges_raised]
  · rw [hraised, Scan.states_raised]
  · rw [hraised, Scan.asked_raised]

theorem findBlocks_raised_tangled :
    Text.tangled.utf8ByteSize < 2 ^ 63 ∧ (0 : Word) ≤ 1 ∧
    ∃ scan other : Scan, Scan.ofText Text.tangled .braces 0 = .ok scan ∧
      Scan.ofText Text.tangled .braces 1 = .ok other ∧
      findBlocks Text.tangled .braces 0 = .ok scan.ranges ∧
      findBlocks Text.tangled .braces 1 = .ok other.ranges ∧
      other.ranges = scan.ranges.filter (·.exceeds 1) ∧
      other.states = scan.states ∧
      other.asked = scan.asked :=
  have hle : (0 : Word) ≤ 1 := by decide
  ⟨Text.tangled_byteSize, hle,
    findBlocks_raised Text.tangled .braces 0 1 Text.tangled_byteSize hle⟩

example : findBlocks Text.tangled .braces 0 =
    .ok [{ first := 1, last := 2 }, { first := 3, last := 6 }] := by decide

end BlockFolding

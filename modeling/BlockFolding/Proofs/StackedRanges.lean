import Mathlib.Algebra.GroupWithZero.Nat
import BlockFolding.Proofs.GreedyBlocks

/-
  Stacked ranges

  The ranges that a scan reports lie one below the other: none begins before the text, none ends
  past it, each is longer than the threshold, and each begins below the end of the one before
  (`Stacked`). Everything about their number and size follows from that by going down the list:
  every range is counted without overflow, the counts add up to no more than the lines of the
  text, and as a range covers the threshold and two lines more, so many ranges at most find room.
-/

namespace BlockFolding

/-- Whether the range covers the line with the number. -/
def LineRange.Covers (range : LineRange) (line : Nat) : Prop :=
  range.first.toNat ≤ line ∧ line ≤ range.last.toNat

/-- A range that begins at a line and not after its end is counted: line 0 alone could make the
count too great for a word. -/
theorem LineRange.lineCount_total (range : LineRange) (hfirst : 1 ≤ range.first.toNat)
    (hle : range.first.toNat ≤ range.last.toNat) :
    ∃ count, range.lineCount = .ok count ∧
      count.toNat = range.last.toNat - range.first.toNat + 1 := by
  have hlast := range.last.toNat_lt
  have hcount : (.ofNat (range.last.toNat - range.first.toNat + 1) : Word).toNat =
      range.last.toNat - range.first.toNat + 1 :=
    UInt64.toNat_ofNat_of_lt' (show _ < 2 ^ 64 by omega)
  exact ⟨_, lineCount_eq_ok.2 ⟨hle, hcount⟩, hcount⟩

/-- Ranges below the line `above` that follow one another, each ending more than the threshold
below its first line, and none below the line `count`. -/
def Stacked (threshold : Word) (count : Nat) : (above : Nat) → List LineRange → Prop
  | above, [] => above ≤ count
  | above, range :: rest => above < range.first.toNat ∧
      range.first.toNat + threshold.toNat < range.last.toNat ∧
      Stacked threshold count range.last.toNat rest

namespace Stacked
variable {threshold : Word} {count : Nat} {ranges : List LineRange}

theorem above_le {above : Nat} (h : Stacked threshold count above ranges) : above ≤ count := by
  induction ranges generalizing above with
  | nil => exact h
  | cons range rest ih =>
    obtain ⟨habove, hlong, hrest⟩ := h
    have := ih hrest
    omega

theorem mono {above higher : Nat} (hle : higher ≤ above)
    (h : Stacked threshold count above ranges) : Stacked threshold count higher ranges := by
  cases ranges with
  | nil => exact Nat.le_trans hle h
  | cons range rest => exact ⟨Nat.lt_of_le_of_lt hle h.1, h.2⟩

theorem bounds {above : Nat} (h : Stacked threshold count above ranges) : ∀ range ∈ ranges,
    above < range.first.toNat ∧ range.first.toNat + threshold.toNat < range.last.toNat ∧
      range.last.toNat ≤ count := by
  induction ranges generalizing above with
  | nil => simp
  | cons range rest ih =>
    obtain ⟨habove, hlong, hrest⟩ := h
    intro other hother
    rcases List.mem_cons.1 hother with rfl | hother
    · exact ⟨habove, hlong, hrest.above_le⟩
    · obtain ⟨hbelow, hothers⟩ := ih hrest other hother
      exact ⟨by omega, hothers⟩

theorem pairwise {above : Nat} (h : Stacked threshold count above ranges) :
    ranges.Pairwise fun a b => a.last < b.first := by
  induction ranges generalizing above with
  | nil => exact .nil
  | cons range rest ih =>
    obtain ⟨_, _, hrest⟩ := h
    refine List.pairwise_cons.2 ⟨?_, ih hrest⟩
    intro other hother
    exact UInt64.lt_iff_toNat_lt.2 (hrest.bounds other hother).1

theorem eq_or_apart {above : Nat} (h : Stacked threshold count above ranges) {a b : LineRange}
    (ha : a ∈ ranges) (hb : b ∈ ranges) :
    a = b ∨ a.last.toNat < b.first.toNat ∨ b.last.toNat < a.first.toNat := by
  obtain ⟨i, hi, rfl⟩ := List.getElem_of_mem ha
  obtain ⟨j, hj, rfl⟩ := List.getElem_of_mem hb
  have hbelow := List.pairwise_iff_getElem.1 h.pairwise
  rcases Nat.lt_trichotomy i j with hij | rfl | hij
  · exact .inr (.inl (UInt64.lt_iff_toNat_lt.1 (hbelow i j hi hj hij)))
  · exact .inl rfl
  · exact .inr (.inr (UInt64.lt_iff_toNat_lt.1 (hbelow j i hj hi hij)))

theorem counted {above : Nat} (h : Stacked threshold count above ranges) :
    ∃ counts, ranges.mapM LineRange.lineCount = .ok counts ∧
      above + (counts.map (·.toNat)).sum ≤ count := by
  induction ranges generalizing above with
  | nil => exact ⟨[], rfl, h⟩
  | cons range rest ih =>
    obtain ⟨habove, hlong, hrest⟩ := h
    obtain ⟨counts, hcounts, hsum⟩ := ih hrest
    obtain ⟨own, hown, hcount⟩ := range.lineCount_total (by omega) (by omega)
    refine ⟨own :: counts, ?_, ?_⟩
    · rw [List.mapM_cons, hown, ok_bind, hcounts]
      rfl
    · rw [List.map_cons, List.sum_cons, hcount]
      omega

/-- Each of the stacked ranges takes up the threshold and two lines more. -/
theorem capacity {above : Nat} (h : Stacked threshold count above ranges) :
    above + ranges.length * (threshold.toNat + 2) ≤ count := by
  induction ranges generalizing above with
  | nil => simpa [Stacked] using h
  | cons range rest ih =>
    obtain ⟨habove, hlong, hrest⟩ := h
    have := ih hrest
    rw [List.length_cons, Nat.succ_mul]
    omega

end Stacked

/-- The ranges of the greedy blocks that exceed a threshold are stacked. -/
theorem GreedyBlocks.stacked {test : LineTest} {lines : List String} {start : Nat}
    {blocks : List Block} (threshold : Word) (hlines : lines.length < 2 ^ 64)
    (hstart : start ≤ lines.length) (h : GreedyBlocks test lines start blocks) :
    Stacked threshold lines.length start
      ((blocks.filter (·.exceeds threshold)).map Block.range) := by
  induction h with
  | unopened => exact hstart
  | unclosed => exact hstart
  | @block start opening closing later least_opening least_closing later_blocks ih =>
    have hopening := least_opening.start_le
    have hclosing := least_closing.start_le
    have hlast := lt_length_of_passesAt least_closing.passes
    have hlater := ih hlast
    rw [List.filter_cons]
    split
    · rename_i hexceeds
      simp only [Block.exceeds, decide_eq_true_eq] at hexceeds
      have hnumbers := Block.lineNumbers_range ⟨opening, closing⟩
        (show opening + 1 < _ by omega) (show closing + 1 < _ by omega)
      simp only [LineRange.lineNumbers, Block.lineNumbers, Prod.mk.injEq] at hnumbers
      obtain ⟨hfirst, hlast⟩ := hnumbers
      simp only [List.map_cons, Stacked, hfirst, hlast]
      exact ⟨by omega, by omega, hlater⟩
    · exact hlater.mono (by omega)

theorem findBlocks_eq_stacked {source : String} (test : LineTest) (threshold : Word)
    (h : source.utf8ByteSize < 2 ^ 63) :
    ∃ ranges, findBlocks source test threshold = .ok ranges ∧
      Stacked threshold (Text.lines source).length 0 ranges := by
  obtain ⟨blocks, hblocks, hfound⟩ := findBlocks_eq_greedy test threshold h
  exact ⟨_, hfound, hblocks.stacked threshold (Text.length_lines_lt h) (Nat.zero_le _)⟩

/-- What every result of a scan looks like: ranges within the text, longer than the threshold,
one below the other, whose counts add up to no more than the lines of the text. -/
theorem findBlocks_stacked (source : String) (test : LineTest) (threshold : Word)
    (h : source.utf8ByteSize < 2 ^ 63) :
    ∃ ranges, findBlocks source test threshold = .ok ranges ∧
      (∀ range ∈ ranges, 1 ≤ range.first.toNat ∧
        range.last.toNat ≤ Text.newlines source + 1 ∧
        threshold.toNat < range.last.toNat - range.first.toNat) ∧
      ranges.IsChain (fun a b => a.last < b.first) ∧
      ranges.Pairwise (fun a b => a.last < b.first ∧
        ∀ line, ¬ (a.Covers line ∧ b.Covers line)) ∧
      (∃ counts, ranges.mapM LineRange.lineCount = .ok counts ∧
        (counts.map (·.toNat)).sum ≤ Text.newlines source + 1) ∧
      ranges.length * (threshold.toNat + 2) ≤ Text.newlines source + 1 := by
  obtain ⟨ranges, hfound, hstacked⟩ := findBlocks_eq_stacked test threshold h
  rw [Text.length_lines] at hstacked
  refine ⟨ranges, hfound, ?_, hstacked.pairwise.isChain, ?_, ?_, ?_⟩
  · intro range hrange
    obtain ⟨hfirst, hlong, hlast⟩ := hstacked.bounds range hrange
    exact ⟨hfirst, hlast, by omega⟩
  · refine hstacked.pairwise.imp ?_
    rintro a b hab
    refine ⟨hab, ?_⟩
    rintro line ⟨⟨_, hle⟩, ⟨hge, _⟩⟩
    have := UInt64.lt_iff_toNat_lt.1 hab
    omega
  · obtain ⟨counts, hcounts, hsum⟩ := hstacked.counted
    exact ⟨counts, hcounts, by omega⟩
  · have := hstacked.capacity
    omega

theorem findBlocks_stacked_tangled :
    Text.tangled.utf8ByteSize < 2 ^ 63 ∧
    ∃ ranges, findBlocks Text.tangled .braces 1 = .ok ranges ∧
      (∀ range ∈ ranges, 1 ≤ range.first.toNat ∧
        range.last.toNat ≤ Text.newlines Text.tangled + 1 ∧
        (1 : Word).toNat < range.last.toNat - range.first.toNat) ∧
      ranges.IsChain (fun a b => a.last < b.first) ∧
      ranges.Pairwise (fun a b => a.last < b.first ∧
        ∀ line, ¬ (a.Covers line ∧ b.Covers line)) ∧
      (∃ counts, ranges.mapM LineRange.lineCount = .ok counts ∧
        (counts.map (·.toNat)).sum ≤ Text.newlines Text.tangled + 1) ∧
      ranges.length * ((1 : Word).toNat + 2) ≤ Text.newlines Text.tangled + 1 :=
  ⟨Text.tangled_byteSize, findBlocks_stacked Text.tangled .braces 1 Text.tangled_byteSize⟩

end BlockFolding

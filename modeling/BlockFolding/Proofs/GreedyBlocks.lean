import Mathlib.Data.List.Nodup
import Mathlib.Order.Bounds.Basic
import BlockFolding.Proofs.UncheckedScan

/-
  Greedy blocks

  What the blocks of a text are, said without a scan: the first block opens at the least index
  whose line opens, and closes at the least later index whose line closes; the next block opens
  at the least index after that, and so on until no line opens or no line closes. There is
  exactly one such list of blocks (`GreedyBlocks.unique`).

  A scan reports the blocks of this list that are longer than the threshold, in order, each once
  and nothing else (`findBlocks_greedy`). What carries the proof is what the state of a scan
  knows at every index (`ScanState.Tracks`): since which index no line has opened or, while a
  block is open, that its first line is the least that opens and that no line has closed since.
  So a block that is never closed was opened by the least line below the others that opens.
-/

namespace BlockFolding

/-- Whether there is a line at the index and it passes the test. -/
def passesAt (test : String → Bool) (lines : List String) (index : Nat) : Bool :=
  lines[index]?.any test

/-- The index is the least from `start` on whose line passes the test. -/
structure IsLeastFrom (test : String → Bool) (lines : List String) (start index : Nat) : Prop where
  start_le : start ≤ index
  passes : passesAt test lines index = true
  fails_before : ∀ i, start ≤ i → i < index → passesAt test lines i = false

/-- A block, by the indices of the line that opens it and the line that closes it, from 0. -/
structure Block where
  opening : Nat
  closing : Nat
  deriving DecidableEq, Repr

/-- Whether the block ends more than the threshold below its first line. -/
def Block.exceeds (threshold : Word) (block : Block) : Bool :=
  threshold.toNat < block.closing - block.opening

/-- The numbers, from 1, of the first and the last line of the block. -/
def Block.lineNumbers (block : Block) : Nat × Nat := (block.opening + 1, block.closing + 1)

/-- The numbers of the first and the last line of the range. -/
def LineRange.lineNumbers (range : LineRange) : Nat × Nat :=
  (range.first.toNat, range.last.toNat)

/-- The blocks of lines from an index on: least opening line, least closing line after it, and so
on until there is none. A block that nothing closes is no block. -/
inductive GreedyBlocks (test : LineTest) (lines : List String) : Nat → List Block → Prop
  | unopened {start : Nat}
      (no_opening : ∀ i, start ≤ i → passesAt test.opens lines i = false) :
      GreedyBlocks test lines start []
  | unclosed {start opening : Nat}
      (least_opening : IsLeastFrom test.opens lines start opening)
      (no_closing : ∀ i, opening + 1 ≤ i → passesAt test.closes lines i = false) :
      GreedyBlocks test lines start []
  | block {start opening closing : Nat} {later : List Block}
      (least_opening : IsLeastFrom test.opens lines start opening)
      (least_closing : IsLeastFrom test.closes lines (opening + 1) closing)
      (later_blocks : GreedyBlocks test lines (closing + 1) later) :
      GreedyBlocks test lines start (⟨opening, closing⟩ :: later)

/-! ## The greedy blocks are unique and in order -/

section
variable {test : LineTest} {lines : List String}

theorem IsLeastFrom.unique {passing : String → Bool} {start i j : Nat}
    (hi : IsLeastFrom passing lines start i) (hj : IsLeastFrom passing lines start j) : i = j := by
  rcases Nat.lt_trichotomy i j with h | h | h
  · have := hj.fails_before i hi.start_le h
    rw [hi.passes] at this
    contradiction
  · exact h
  · have := hi.fails_before j hj.start_le h
    rw [hj.passes] at this
    contradiction

theorem IsLeastFrom.absurd {passing : String → Bool} {start i : Nat} {P : Prop}
    (hi : IsLeastFrom passing lines start i)
    (hnone : ∀ j, start ≤ j → passesAt passing lines j = false) : P := by
  have := hnone i hi.start_le
  rw [hi.passes] at this
  contradiction

theorem lt_length_of_passesAt {passing : String → Bool} {i : Nat}
    (h : passesAt passing lines i = true) : i < lines.length := by
  by_contra hge
  rw [passesAt, List.getElem?_eq_none (Nat.le_of_not_lt hge)] at h
  contradiction

/-- Lines have one list of greedy blocks at most. -/
theorem GreedyBlocks.unique {start : Nat} {blocks others : List Block}
    (h : GreedyBlocks test lines start blocks) (h' : GreedyBlocks test lines start others) :
    blocks = others := by
  induction h generalizing others with
  | unopened no_opening =>
    cases h' with
    | unopened => rfl
    | unclosed => rfl
    | block least_opening => exact least_opening.absurd no_opening
  | unclosed least_opening no_closing =>
    cases h' with
    | unopened => rfl
    | unclosed => rfl
    | block least_opening' least_closing =>
      cases least_opening.unique least_opening'
      exact least_closing.absurd no_closing
  | block least_opening least_closing _ ih =>
    cases h' with
    | unopened no_opening => exact least_opening.absurd no_opening
    | unclosed least_opening' no_closing =>
      cases least_opening.unique least_opening'
      exact least_closing.absurd no_closing
    | block least_opening' least_closing' later_blocks' =>
      cases least_opening.unique least_opening'
      cases least_closing.unique least_closing'
      rw [ih later_blocks']

theorem GreedyBlocks.within {start : Nat} {blocks : List Block}
    (h : GreedyBlocks test lines start blocks) : ∀ b ∈ blocks,
      start ≤ b.opening ∧ b.opening < b.closing ∧ b.closing < lines.length := by
  induction h with
  | unopened => simp
  | unclosed => simp
  | @block start opening closing later least_opening least_closing _ ih =>
    have hstart := least_opening.start_le
    have hopening := least_closing.start_le
    have hclosing := lt_length_of_passesAt least_closing.passes
    intro b hb
    rcases List.mem_cons.1 hb with rfl | hb
    · exact ⟨hstart, hopening, hclosing⟩
    · obtain ⟨hlater, hrest⟩ := ih b hb
      exact ⟨by omega, hrest⟩

theorem GreedyBlocks.passes {start : Nat} {blocks : List Block}
    (h : GreedyBlocks test lines start blocks) : ∀ b ∈ blocks,
      passesAt test.opens lines b.opening = true ∧
        passesAt test.closes lines b.closing = true := by
  induction h with
  | unopened => simp
  | unclosed => simp
  | block least_opening least_closing _ ih =>
    intro b hb
    rcases List.mem_cons.1 hb with rfl | hb
    · exact ⟨least_opening.passes, least_closing.passes⟩
    · exact ih b hb

theorem GreedyBlocks.pairwise {start : Nat} {blocks : List Block}
    (h : GreedyBlocks test lines start blocks) :
    blocks.Pairwise fun a b => a.closing < b.opening := by
  induction h with
  | unopened => exact .nil
  | unclosed => exact .nil
  | block _ _ later_blocks ih =>
    refine List.pairwise_cons.2 ⟨?_, ih⟩
    intro b hb
    exact (later_blocks.within b hb).1

theorem GreedyBlocks.nodup {start : Nat} {blocks : List Block}
    (h : GreedyBlocks test lines start blocks) : blocks.Nodup := by
  refine h.pairwise.imp_of_mem ?_
  intro a b ha _ hab heq
  have := (h.within a ha).2.1
  rw [heq] at this hab
  omega

end

/-! ## What is below the blocks -/

/-- The indices from `start` on, below all of the blocks, of the lines that open. -/
def openingsBelow (test : LineTest) (lines : List String) (start : Nat) (blocks : List Block) :
    Set Nat :=
  {i | start ≤ i ∧ (∀ block ∈ blocks, block.closing < i) ∧ passesAt test.opens lines i = true}

section
variable {test : LineTest} {lines : List String}

theorem isLeast_openingsBelow_nil {start opening : Nat} :
    IsLeast (openingsBelow test lines start []) opening ↔
      IsLeastFrom test.opens lines start opening := by
  constructor
  · rintro ⟨⟨hstart, -, hpasses⟩, hleast⟩
    refine ⟨hstart, hpasses, ?_⟩
    intro i hi hlt
    by_contra hne
    have := hleast ⟨hi, nofun, Bool.eq_true_of_not_eq_false hne⟩
    omega
  · intro h
    refine ⟨⟨h.start_le, nofun, h.passes⟩, ?_⟩
    rintro i ⟨hi, -, hpasses⟩
    by_contra hlt
    have := h.fails_before i hi (Nat.lt_of_not_le hlt)
    rw [hpasses] at this
    contradiction

theorem openingsBelow_cons {start : Nat} {block : Block} {later : List Block}
    (hstart : start ≤ block.closing) :
    openingsBelow test lines start (block :: later) =
      openingsBelow test lines (block.closing + 1) later := by
  ext i
  simp only [openingsBelow, Set.mem_ofPred_eq, List.forall_mem_cons]
  constructor
  · rintro ⟨-, ⟨hblock, hlater⟩, hpasses⟩
    exact ⟨hblock, hlater, hpasses⟩
  · rintro ⟨hblock, hlater, hpasses⟩
    exact ⟨by omega, ⟨hblock, hlater⟩, hpasses⟩

end

/-! ## What the state of a scan knows -/

/-- The index of the line that opened the block that is open. -/
def ScanState.leftOpen : ScanState → Option Nat
  | .searching => none
  | .spanOpen openIndex => some openIndex.toNat

/-- What the state before the line at an index knows, if the search began at `start`: no line has
opened since, or the line at the open index is the least that opens and none has closed since. -/
def ScanState.Tracks (test : LineTest) (lines : List String) (start index : Nat) :
    ScanState → Prop
  | .searching => start ≤ index ∧
      ∀ i, start ≤ i → i < index → passesAt test.opens lines i = false
  | .spanOpen openIndex => IsLeastFrom test.opens lines start openIndex.toNat ∧
      openIndex.toNat < index ∧
      ∀ i, openIndex.toNat + 1 ≤ i → i < index → passesAt test.closes lines i = false

section
variable {test : LineTest} {lines : List String}

theorem fails_up_to_succ {passing : String → Bool} {start index : Nat}
    (hbelow : ∀ i, start ≤ i → i < index → passesAt passing lines i = false)
    (hat : passesAt passing lines index = false) :
    ∀ i, start ≤ i → i < index + 1 → passesAt passing lines i = false := by
  intro i hi hlt
  rcases Nat.lt_succ_iff_lt_or_eq.1 hlt with hlt | rfl
  · exact hbelow i hi hlt
  · exact hat

/-- The range that a scan reports for a block. -/
def Block.range (block : Block) : LineRange :=
  { first := .ofNat block.opening + 1, last := .ofNat block.closing + 1 }

theorem found_spanOpen {threshold openIndex index : Word} (hopen : openIndex.toNat < index.toNat) :
    (ScanState.spanOpen openIndex).found threshold index true =
      if (Block.mk openIndex.toNat index.toNat).exceeds threshold then
        some (Block.mk openIndex.toNat index.toNat).range
      else none := by
  have hdistance : (index - openIndex).toNat = index.toNat - openIndex.toNat :=
    UInt64.toNat_sub_of_le _ _ (UInt64.le_iff_toNat_le.2 (Nat.le_of_lt hopen))
  simp only [ScanState.found, true_and, UInt64.lt_iff_toNat_lt, hdistance, Block.exceeds,
    Block.range, UInt64.ofNat_toNat, decide_eq_true_eq]

/-! One step of a scan keeps what its state knows, one lemma for each state and answer. -/

theorem ScanState.Tracks.unopened {start index : Nat}
    (h : ScanState.searching.Tracks test lines start index)
    (hline : passesAt test.opens lines index = false) :
    ScanState.searching.Tracks test lines start (index + 1) :=
  ⟨Nat.le_succ_of_le h.1, fails_up_to_succ h.2 hline⟩

theorem ScanState.Tracks.opened {start : Nat} {index : Word}
    (h : ScanState.searching.Tracks test lines start index.toNat)
    (hline : passesAt test.opens lines index.toNat = true) :
    (ScanState.spanOpen index).Tracks test lines start (index.toNat + 1) := by
  refine ⟨⟨h.1, hline, h.2⟩, Nat.lt_succ_self _, ?_⟩
  intro i hi hlt
  omega

theorem ScanState.Tracks.unclosed {start index : Nat} {openIndex : Word}
    (h : (ScanState.spanOpen openIndex).Tracks test lines start index)
    (hline : passesAt test.closes lines index = false) :
    (ScanState.spanOpen openIndex).Tracks test lines start (index + 1) :=
  ⟨h.1, Nat.lt_succ_of_lt h.2.1, fails_up_to_succ h.2.2 hline⟩

theorem ScanState.Tracks.closed {start index : Nat} {openIndex : Word}
    (h : (ScanState.spanOpen openIndex).Tracks test lines start index)
    (hline : passesAt test.closes lines index = true) :
    IsLeastFrom test.closes lines (openIndex.toNat + 1) index ∧
      ScanState.searching.Tracks test lines (index + 1) (index + 1) := by
  refine ⟨⟨h.2.1, hline, h.2.2⟩, Nat.le_refl _, ?_⟩
  intro i hi hlt
  omega

theorem ScanState.Tracks.no_blocks {state : ScanState} {start index : Nat}
    (h : state.Tracks test lines start index) (hend : lines.length ≤ index) :
    GreedyBlocks test lines start [] := by
  have hpast (passing : String → Bool) (i : Nat) (hi : index ≤ i) :
      passesAt passing lines i = false := by
    rw [passesAt, List.getElem?_eq_none (Nat.le_trans hend hi)]
    rfl
  cases state with
  | searching =>
    apply GreedyBlocks.unopened
    intro i hi
    rcases Nat.lt_or_ge i index with hlt | hge
    · exact h.2 i hi hlt
    · exact hpast _ i hge
  | spanOpen openIndex =>
    apply GreedyBlocks.unclosed h.1
    intro i hi
    rcases Nat.lt_or_ge i index with hlt | hge
    · exact h.2.2 i hi hlt
    · exact hpast _ i hge

theorem ScanState.Tracks.leftOpen_eq_some {state : ScanState} {start index opening : Nat}
    (h : state.Tracks test lines start index) (hend : lines.length ≤ index) :
    state.leftOpen = some opening ↔ IsLeast (openingsBelow test lines start []) opening := by
  rw [isLeast_openingsBelow_nil]
  cases state with
  | searching =>
    simp only [leftOpen, reduceCtorEq, false_iff]
    intro hleast
    have hlt := lt_length_of_passesAt hleast.passes
    exact absurd (h.2 opening hleast.start_le (Nat.lt_of_lt_of_le hlt hend))
      (by simp [hleast.passes])
  | spanOpen openIndex =>
    simp only [leftOpen, Option.some.injEq]
    constructor
    · rintro rfl
      exact h.1
    · exact h.1.unique

/-- From what its state knows, a scan reports those of the greedy blocks that exceed the
threshold, and the block that it leaves open is the one that the least line below them opens. -/
theorem unchecked_greedy (threshold : Word) (hlines : lines.length < 2 ^ 64) :
    ∀ (rest : List String) (state : ScanState) (start : Nat) (index : Word),
      lines.drop index.toNat = rest → state.Tracks test lines start index.toNat →
      ∃ blocks, GreedyBlocks test lines start blocks ∧
        (Scan.unchecked test threshold state index rest).ranges =
          (blocks.filter (·.exceeds threshold)).map Block.range ∧
        ∀ opening, (Scan.unchecked test threshold state index rest).final.leftOpen = some opening ↔
          IsLeast (openingsBelow test lines start blocks) opening
  | [], _, _, _, hrest, htracks =>
    have hend := List.drop_eq_nil_iff.1 hrest
    ⟨[], htracks.no_blocks hend, rfl, fun _ => htracks.leftOpen_eq_some hend⟩
  | line :: rest, state, start, index, hrest, htracks => by
    have hlt : index.toNat < lines.length := by
      by_contra hge
      rw [List.drop_eq_nil_of_le (Nat.le_of_not_lt hge)] at hrest
      contradiction
    have hindex : index.toNat + 1 < 2 ^ 64 := by omega
    have hnext : (index + 1).toNat = index.toNat + 1 := Word.toNat_add_one hindex
    have hline (passing : String → Bool) : passesAt passing lines index.toNat = passing line := by
      rw [passesAt, ← List.head?_drop, hrest]
      rfl
    have hdrop : lines.drop (index + 1).toNat = rest := by
      rw [hnext, ← List.tail_drop, hrest]
      rfl
    have ih := fun state start =>
      unchecked_greedy threshold hlines rest state start (index + 1) hdrop
    rw [Scan.ranges_unchecked_cons, Scan.final_unchecked_cons]
    rw [hnext] at ih
    -- One case for each state and answer. Only a line that closes adds a block, and the search
    -- for the next one begins behind it.
    cases state with
    | searching =>
      simp only [ScanState.question, LineTest.answer]
      cases hanswer : test.opens line with
      | false => exact ih _ start (htracks.unopened ((hline _).trans hanswer))
      | true => exact ih _ start (htracks.opened ((hline _).trans hanswer))
    | spanOpen openIndex =>
      simp only [ScanState.question, LineTest.answer]
      cases hanswer : test.closes line with
      | false => exact ih _ start (htracks.unclosed ((hline _).trans hanswer))
      | true =>
        obtain ⟨hclosing, hsearching⟩ := htracks.closed ((hline _).trans hanswer)
        obtain ⟨later, hlater, hranges, hleft⟩ := ih _ _ hsearching
        refine ⟨⟨openIndex.toNat, index.toNat⟩ :: later, .block htracks.1 hclosing hlater, ?_, ?_⟩
        · rw [found_spanOpen htracks.2.1, List.filter_cons]
          simp only [ScanState.next, if_true, hranges]
          split <;> rfl
        · rw [openingsBelow_cons (Nat.le_trans htracks.1.start_le (Nat.le_of_lt htracks.2.1))]
          exact hleft

end

/-! ## What a scan reports -/

/-- The number of a line of a text fits a word, so a range has the numbers of its block. -/
theorem Block.lineNumbers_range (block : Block) (hopening : block.opening + 1 < 2 ^ 64)
    (hclosing : block.closing + 1 < 2 ^ 64) : block.range.lineNumbers = block.lineNumbers := by
  have toNat_succ {n : Nat} (h : n + 1 < 2 ^ 64) : (.ofNat n + 1 : Word).toNat = n + 1 := by
    have hn : (.ofNat n : Word).toNat = n := UInt64.toNat_ofNat_of_lt' (Nat.lt_of_succ_lt h)
    rw [← hn] at h
    rw [Word.toNat_add_one h, hn]
  simp only [Block.range, LineRange.lineNumbers, Block.lineNumbers, toNat_succ hopening,
    toNat_succ hclosing]

theorem unchecked_lines_greedy (test : LineTest) (threshold : Word) {lines : List String}
    (hlines : lines.length < 2 ^ 64) :
    ∃ blocks, GreedyBlocks test lines 0 blocks ∧
      (Scan.unchecked test threshold .searching 0 lines).ranges =
        (blocks.filter (·.exceeds threshold)).map Block.range ∧
      ∀ opening, (Scan.unchecked test threshold .searching 0 lines).final.leftOpen = some opening ↔
        IsLeast (openingsBelow test lines 0 blocks) opening := by
  have hsearching : ScanState.searching.Tracks test lines 0 0 :=
    ⟨Nat.le_refl 0, fun i _ hi => absurd hi (Nat.not_lt_zero i)⟩
  exact unchecked_greedy threshold hlines lines .searching 0 0 rfl hsearching

theorem findBlocks_eq_greedy_of_length {source : String} (test : LineTest) (threshold : Word)
    (h : (Text.lines source).length < 2 ^ 64) :
    ∃ blocks, GreedyBlocks test (Text.lines source) 0 blocks ∧
      findBlocks source test threshold =
        .ok ((blocks.filter (·.exceeds threshold)).map Block.range) := by
  obtain ⟨blocks, hblocks, hranges, -⟩ := unchecked_lines_greedy test threshold h
  exact ⟨blocks, hblocks, by rw [findBlocks_eq_unchecked_of_length test threshold h, hranges]⟩

/-- The blocks found in a text are its greedy blocks that exceed the threshold. -/
theorem findBlocks_eq_greedy {source : String} (test : LineTest) (threshold : Word)
    (h : source.utf8ByteSize < 2 ^ 63) :
    ∃ blocks, GreedyBlocks test (Text.lines source) 0 blocks ∧
      findBlocks source test threshold =
        .ok ((blocks.filter (·.exceeds threshold)).map Block.range) :=
  findBlocks_eq_greedy_of_length test threshold (Text.length_lines_lt h)

theorem GreedyBlocks.lineNumbers_range {test : LineTest} {lines : List String} {start : Nat}
    {blocks : List Block} (h : GreedyBlocks test lines start blocks)
    (hlines : lines.length < 2 ^ 64) {b : Block} (hb : b ∈ blocks) :
    b.range.lineNumbers = b.lineNumbers := by
  obtain ⟨_, hopening, hclosing⟩ := h.within b hb
  exact b.lineNumbers_range (by omega) (by omega)

/-- A scan reports exactly the greedy blocks of a text that exceed the threshold, in their order
and each once. -/
theorem findBlocks_greedy (source : String) (test : LineTest) (threshold : Word)
    (h : source.utf8ByteSize < 2 ^ 63) :
    ∃ blocks ranges,
      GreedyBlocks test (Text.lines source) 0 blocks ∧
      (∀ others, GreedyBlocks test (Text.lines source) 0 others → others = blocks) ∧
      findBlocks source test threshold = .ok ranges ∧
      ranges.map LineRange.lineNumbers =
        (blocks.filter (·.exceeds threshold)).map Block.lineNumbers ∧
      ranges.Nodup := by
  obtain ⟨blocks, hblocks, hfound⟩ := findBlocks_eq_greedy test threshold h
  have hnumbers : ((blocks.filter (·.exceeds threshold)).map Block.range).map
      LineRange.lineNumbers = (blocks.filter (·.exceeds threshold)).map Block.lineNumbers := by
    rw [List.map_map]
    apply List.map_congr_left
    intro b hb
    exact hblocks.lineNumbers_range (Text.length_lines_lt h) (List.mem_of_mem_filter hb)
  refine ⟨blocks, _, hblocks, fun _ hothers => hothers.unique hblocks, hfound, hnumbers, ?_⟩
  -- Different blocks have different line numbers, so no range can come twice.
  apply List.Nodup.of_map LineRange.lineNumbers
  rw [hnumbers]
  apply List.Nodup.map
  · rintro ⟨a, b⟩ ⟨c, d⟩ heq
    simp only [Block.lineNumbers, Prod.mk.injEq, Nat.add_right_cancel_iff] at heq
    rw [heq.1, heq.2]
  · exact hblocks.nodup.filter _

theorem findBlocks_greedy_tangled :
    Text.tangled.utf8ByteSize < 2 ^ 63 ∧
    ∃ blocks ranges,
      GreedyBlocks .braces (Text.lines Text.tangled) 0 blocks ∧
      (∀ others, GreedyBlocks .braces (Text.lines Text.tangled) 0 others → others = blocks) ∧
      findBlocks Text.tangled .braces 1 = .ok ranges ∧
      ranges.map LineRange.lineNumbers =
        (blocks.filter (·.exceeds 1)).map Block.lineNumbers ∧
      ranges.Nodup :=
  ⟨Text.tangled_byteSize, findBlocks_greedy Text.tangled .braces 1 Text.tangled_byteSize⟩

example : findBlocks Text.tangled .braces 1 = .ok [{ first := 3, last := 6 }] := by decide

end BlockFolding

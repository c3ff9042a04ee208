import Mathlib.Computability.Language
import BlockFolding.Proofs.GreedyBlocks

/-
  The trace of a scan

  A scan learns about a text from the answers to its questions and from nothing else, so the
  questions with their answers, its trace, decide everything it reports. What is proved:

  1. the trace has one question about each line (`Scan.gives_asked`), and it is a word of a regular
     language (`Scan.asked_mem_traces`): lines that do not open, one that does, lines that do not
     close, one that does, and so on, where the last block may be left open;
  2. the ranges reported are read off the trace (`Scan.ranges_eq_traced`): from each line found to
     open a block to the next line found to close one;
  3. a test that gives the answers of the trace to its questions is scanned in the same way
     (`Scan.unchecked_eq_of_gives`), whatever it would answer to a question that was not put.

  A scan that asked both questions about a line would have a longer trace than there are lines, and
  one that took an answer into account without asking would break the third.
-/

open scoped Computability

namespace BlockFolding

/-- A question that was put, with the answer to it. -/
abbrev Asked := Question × Bool

/-- The test gives the answers of a trace, each to its question about the line at its place. -/
def LineTest.Gives (test : LineTest) : List Asked → List String → Prop :=
  List.Forall₂ fun asked line => test.answer asked.1 line = asked.2

/-- Both answers of a test about a line. -/
def LineTest.answers (test : LineTest) (line : String) : Bool × Bool :=
  (test.opens line, test.closes line)

theorem LineTest.answer_congr {test : LineTest} {line other : String}
    (h : test.answers line = test.answers other) (question : Question) :
    test.answer question line = test.answer question other := by
  obtain ⟨hopens, hcloses⟩ := Prod.mk.inj h
  cases question with
  | opens => exact hopens
  | closes => exact hcloses

theorem LineTest.Gives.of_answers {test : LineTest} {asked : List Asked}
    {lines others : List String} (h : test.Gives asked lines)
    (hanswers : others.map test.answers = lines.map test.answers) : test.Gives asked others := by
  induction h generalizing others with
  | nil =>
    rw [List.map_nil, List.map_eq_nil_iff] at hanswers
    rw [hanswers]
    exact .nil
  | @cons entry line asked lines hanswer _ ih =>
    obtain ⟨other, later, rfl, hline, hlater⟩ := List.map_eq_cons_iff.1 hanswers
    exact .cons ((answer_congr hline entry.1).trans hanswer) (ih hlater)

/-! ## The language of traces -/

/-- The word that is one question with its answer. -/
def said (question : Question) (answer : Bool) : Language Asked := {[(question, answer)]}

/-- The traces of scans: blocks that are opened and closed, and behind them lines that do not open,
of which one may be followed by a block that is left open. -/
def traces : Language Asked :=
  ((said .opens false)∗ * said .opens true * (said .closes false)∗ * said .closes true)∗ *
    ((said .opens false)∗ + (said .opens false)∗ * said .opens true * (said .closes false)∗)

/-- The traces of scans that go on from a block that is open. -/
def openTraces : Language Asked := (said .closes false)∗ * (1 + said .closes true * traces)

/-- The traces of scans that go on from a state. -/
def ScanState.traces : ScanState → Language Asked
  | searching => BlockFolding.traces
  | spanOpen _ => openTraces

/-- A trace is over behind the lines that do not open, or goes on from a block that is open. -/
theorem traces_eq : traces = (said .opens false)∗ * (1 + said .opens true * openTraces) := by
  have hstar (block behind : Language Asked) :
      block∗ * behind = behind + block * (block∗ * behind) := by
    calc block∗ * behind = (1 + block * block∗) * behind := by rw [one_add_mul_kstar]
      _ = behind + block * (block∗ * behind) := by rw [add_mul, one_mul, mul_assoc]
  rw [traces, hstar, ← traces, openTraces]
  simp only [mul_add, mul_one, mul_assoc, add_assoc]

section
variable {repeated behind : Language Asked} {rest : List Asked}

theorem cons_mem_said_mul {question : Question} {answer : Bool} (h : rest ∈ behind) :
    (question, answer) :: rest ∈ said question answer * behind :=
  Language.append_mem_mul (Set.mem_singleton [(question, answer)]) h

theorem mem_kstar_mul (h : rest ∈ behind) : rest ∈ repeated∗ * behind := by
  have := Language.append_mem_mul (Language.nil_mem_kstar repeated) h
  rwa [List.nil_append] at this

theorem cons_mem_kstar_mul {asked : Asked} (hasked : [asked] ∈ repeated)
    (hrest : rest ∈ repeated∗ * behind) : asked :: rest ∈ repeated∗ * behind := by
  have hle : repeated * (repeated∗ * behind) ≤ repeated∗ * behind := by
    rw [← mul_assoc]
    exact mul_le_mul_left mul_kstar_le_kstar behind
  exact hle (Language.append_mem_mul hasked hrest)

end

namespace ScanState

theorem nil_mem_traces (state : ScanState) : [] ∈ state.traces := by
  cases state with
  | searching =>
    rw [traces, traces_eq]
    exact mem_kstar_mul (.inl rfl)
  | spanOpen openIndex => exact mem_kstar_mul (.inl rfl)

/-- One step puts the question of its state, and the rest of the trace is one of the next state. -/
theorem cons_mem_traces (state : ScanState) (index : Word) (answer : Bool) {rest : List Asked}
    (hrest : rest ∈ (state.next index answer).traces) :
    (state.question, answer) :: rest ∈ state.traces := by
  cases state with
  | searching =>
    cases answer with
    | false =>
      simp only [next, traces, Bool.false_eq_true, if_false] at hrest ⊢
      rw [traces_eq] at hrest ⊢
      exact cons_mem_kstar_mul rfl hrest
    | true =>
      simp only [next, traces, if_true] at hrest ⊢
      rw [traces_eq]
      exact mem_kstar_mul (.inr (cons_mem_said_mul hrest))
  | spanOpen openIndex =>
    cases answer with
    | false => exact cons_mem_kstar_mul rfl hrest
    | true => exact mem_kstar_mul (.inr (cons_mem_said_mul hrest))

end ScanState

/-! ## Blocks in a trace -/

/-- The trace shows a block: at its first index an opening line was found, and at its last one the
next closing line. -/
structure Traced (asked : List Asked) (block : Block) : Prop where
  opened : asked[block.opening]? = some (.opens, true)
  closing_below : block.opening < block.closing
  closed : asked[block.closing]? = some (.closes, true)
  next : ∀ i, block.opening < i → i < block.closing → asked[i]? ≠ some (.closes, true)

/-- The block that an opening line begins, by its index, if a trace from the index below shows a
closing line. -/
def blockFrom (opening : Nat) (below : Nat) (asked : List Asked) : Option Block :=
  (asked.idxOf? (.closes, true)).map fun distance => ⟨opening, below + distance⟩

theorem blockFrom_closed (opening below : Nat) (rest : List Asked) :
    blockFrom opening below ((.closes, true) :: rest) = some ⟨opening, below⟩ := by
  simp [blockFrom, List.idxOf?_cons]

theorem blockFrom_unclosed (opening below : Nat) (rest : List Asked) :
    blockFrom opening below ((.closes, false) :: rest) = blockFrom opening (below + 1) rest := by
  simp [blockFrom, List.idxOf?_cons, Function.comp_def, Nat.add_assoc, Nat.add_comm 1]

/-- The blocks that a trace shows, its first entry at the index: one for each opening line that a
closing line follows. -/
def tracedBlocks (index : Nat) : List Asked → List Block
  | [] => []
  | entry :: rest =>
    if entry = (.opens, true) then
      (blockFrom index (index + 1) rest).toList ++ tracedBlocks (index + 1) rest
    else tracedBlocks (index + 1) rest

theorem idxOf?_drop_eq_some {α : Type} [BEq α] [LawfulBEq α] {list : List α} {a : α}
    {start distance : Nat} : (list.drop start).idxOf? a = some distance ↔
      list[start + distance]? = some a ∧
        ∀ i, start ≤ i → i < start + distance → list[i]? ≠ some a := by
  simp only [List.idxOf?_eq_some_iff, List.getElem_drop, List.length_drop]
  constructor
  · rintro ⟨hlt, hat, hbefore⟩
    refine ⟨List.getElem?_eq_some_iff.2 ⟨by omega, hat⟩, ?_⟩
    intro i hge hi hfound
    obtain ⟨_, hfound⟩ := List.getElem?_eq_some_iff.1 hfound
    have hne := hbefore (i - start) (by omega)
    simp only [Nat.add_sub_cancel' hge] at hne
    exact hne hfound
  · rintro ⟨hat, hbefore⟩
    obtain ⟨hlt, hat⟩ := List.getElem?_eq_some_iff.1 hat
    refine ⟨by omega, hat, ?_⟩
    intro i hi hfound
    exact hbefore (start + i) (by omega) (by omega) (List.getElem?_eq_some_iff.2 ⟨by omega, hfound⟩)

theorem mem_tracedBlocks_from {asked : List Asked} {index : Nat} {block : Block} :
    block ∈ tracedBlocks index asked ↔
      ∃ i, asked[i]? = some (.opens, true) ∧
        blockFrom (index + i) (index + i + 1) (asked.drop (i + 1)) = some block := by
  induction asked generalizing index with
  | nil => simp [tracedBlocks]
  | cons entry rest ih =>
    have hlater := @ih (index + 1)
    simp only [Nat.add_assoc, Nat.add_comm 1] at hlater
    rw [← Nat.or_exists_add_one]
    simp only [List.getElem?_cons_succ, List.drop_succ_cons, Nat.add_assoc, ← hlater, tracedBlocks]
    by_cases hopened : entry = (.opens, true)
    · simp [hopened]
    · simp [hopened]

/-- The blocks of a trace are those it shows. -/
theorem mem_tracedBlocks {asked : List Asked} {block : Block} :
    block ∈ tracedBlocks 0 asked ↔ Traced asked block := by
  simp only [mem_tracedBlocks_from, blockFrom, Option.map_eq_some_iff, idxOf?_drop_eq_some,
    Nat.zero_add]
  constructor
  · rintro ⟨opening, hopened, distance, ⟨hclosed, hnext⟩, rfl⟩
    refine ⟨hopened, ?_, hclosed, hnext⟩
    show opening < opening + 1 + distance
    omega
  · rintro ⟨hopened, hbelow, hclosed, hnext⟩
    have hclosing : block.opening + 1 + (block.closing - (block.opening + 1)) = block.closing := by
      omega
    refine ⟨block.opening, hopened, block.closing - (block.opening + 1), ?_, ?_⟩
    · rw [hclosing]
      exact ⟨hclosed, hnext⟩
    · rw [hclosing]

theorem index_le_opening {asked : List Asked} {index : Nat} {block : Block}
    (h : block ∈ tracedBlocks index asked) : index ≤ block.opening := by
  obtain ⟨i, -, hblock⟩ := mem_tracedBlocks_from.1 h
  obtain ⟨distance, -, rfl⟩ := Option.map_eq_some_iff.1 hblock
  exact Nat.le_add_right index i

theorem tracedBlocks_pairwise (asked : List Asked) (index : Nat) :
    (tracedBlocks index asked).Pairwise fun a b => a.opening < b.opening := by
  induction asked generalizing index with
  | nil => exact .nil
  | cons entry rest ih =>
    rw [tracedBlocks]
    split
    · refine List.pairwise_append.2 ⟨?_, ih (index + 1), ?_⟩
      · cases blockFrom index (index + 1) rest <;> simp
      · intro a ha b hb
        obtain ⟨distance, -, rfl⟩ := Option.map_eq_some_iff.1 (Option.mem_toList.1 ha)
        exact index_le_opening hb
    · exact ih (index + 1)

/-! ## The trace of a scan -/

namespace Scan

section
variable {test other : LineTest} {threshold : Word}

theorem asked_unchecked_cons (test : LineTest) (threshold : Word) (state : ScanState)
    (index : Word) (line : String) (rest : List String) :
    (unchecked test threshold state index (line :: rest)).asked =
      (state.question, test.answer state.question line) ::
        (unchecked test threshold (state.next index (test.answer state.question line))
          (index + 1) rest).asked :=
  rfl

variable (test threshold) in
theorem gives_asked (lines : List String) (state : ScanState) (index : Word) :
    test.Gives (unchecked test threshold state index lines).asked lines := by
  induction lines generalizing state index with
  | nil => exact .nil
  | cons line rest ih => exact .cons rfl (ih _ _)

theorem asked_mem_traces (lines : List String) (state : ScanState) (index : Word) :
    (unchecked test threshold state index lines).asked ∈ state.traces := by
  induction lines generalizing state index with
  | nil => exact state.nil_mem_traces
  | cons line rest ih => exact state.cons_mem_traces index _ (ih _ _)

/-- A scan of other lines under another test goes the same way if the test gives the same answers
to the questions that were put. -/
theorem unchecked_eq_of_gives {lines others : List String} {state : ScanState} {index : Word}
    (h : other.Gives (unchecked test threshold state index lines).asked others) :
    unchecked other threshold state index others = unchecked test threshold state index lines := by
  induction lines generalizing others state index with
  | nil =>
    cases h
    rfl
  | cons line rest ih =>
    rw [asked_unchecked_cons] at h
    cases h with
    | cons hanswer hrest =>
      simp only [unchecked, hanswer, ih hrest]

theorem unchecked_eq_of_answers {lines others : List String} {state : ScanState} {index : Word}
    (h : others.map test.answers = lines.map test.answers) :
    unchecked test threshold state index others = unchecked test threshold state index lines :=
  unchecked_eq_of_gives ((gives_asked test threshold lines state index).of_answers h)

/-- The block that is open in a state, if the trace from the index on shows its end. -/
def openBlock (index : Nat) (asked : List Asked) : ScanState → Option Block
  | .searching => none
  | .spanOpen openIndex => blockFrom openIndex.toNat index asked

variable (test threshold) in
/-- The ranges that a scan reports are read off its trace: those of the block that was open before
it and of the blocks that the trace shows. -/
theorem ranges_eq_traced : ∀ (lines : List String) (state : ScanState) (index : Word),
    state.Before index → index.toNat + lines.length < 2 ^ 64 →
    (unchecked test threshold state index lines).ranges =
      (((openBlock index.toNat (unchecked test threshold state index lines).asked state).toList ++
        tracedBlocks index.toNat (unchecked test threshold state index lines).asked).filter
          (·.exceeds threshold)).map Block.range
  | [], state, _, _, _ => by cases state <;> rfl
  | line :: rest, state, index, hstate, hbound => by
    rw [List.length_cons] at hbound
    have hindex : index.toNat + 1 < 2 ^ 64 := by omega
    have hnext : (index + 1).toNat = index.toNat + 1 := Word.toNat_add_one hindex
    have ih := ranges_eq_traced rest (state.next index (test.answer state.question line))
      (index + 1) (hstate.next _ hindex) (by omega)
    rw [ranges_unchecked_cons, asked_unchecked_cons, ih, hnext]
    -- A line that opens begins a block of the trace, and a line that closes ends the open one.
    generalize test.answer state.question line = answer
    generalize (unchecked test threshold (state.next index answer) (index + 1) rest).asked = later
    cases state with
    | searching =>
      cases answer with
      | false => rfl
      | true => rfl
    | spanOpen openIndex =>
      cases answer with
      | false =>
        simp only [openBlock, ScanState.question, blockFrom_unclosed]
        rfl
      | true =>
        simp only [openBlock, ScanState.question, blockFrom_closed]
        simp only [found_spanOpen (UInt64.lt_iff_toNat_lt.1 hstate), ScanState.next, tracedBlocks,
          if_true, Option.toList_some, Option.toList_none, List.nil_append, List.cons_append,
          List.filter_cons]
        split <;> simp

end

end Scan

theorem Traced.lineNumbers_range {asked : List Asked} {block : Block} (h : Traced asked block)
    (hlength : asked.length < 2 ^ 64) : block.range.lineNumbers = block.lineNumbers := by
  obtain ⟨hclosing, -⟩ := List.getElem?_eq_some_iff.1 h.closed
  have hbelow := h.closing_below
  exact block.lineNumbers_range (by omega) (by omega)

/-- The scan of a text puts one question about each line, in a trace of the language, and reports
the blocks of the trace that exceed the threshold. Under a test that gives the same answers to the
questions put, whatever it answers to others, it is the same scan. -/
theorem scan_decided_by_trace (source : String) (test : LineTest) (threshold : Word)
    (h : source.utf8ByteSize < 2 ^ 63) :
    ∃ (scan : Scan) (blocks : List Block), Scan.ofText source test threshold = .ok scan ∧
      findBlocks source test threshold = .ok scan.ranges ∧
      scan.asked.length = Text.newlines source + 1 ∧
      (∀ line ∈ Text.lines source, '\n' ∉ line.toList) ∧
      test.Gives scan.asked (Text.lines source) ∧
      scan.asked ∈ traces ∧
      (∀ block, block ∈ blocks ↔ Traced scan.asked block) ∧
      blocks.Pairwise (fun a b => a.opening < b.opening) ∧
      scan.ranges.map LineRange.lineNumbers =
        (blocks.filter (·.exceeds threshold)).map Block.lineNumbers ∧
      ∀ other : LineTest, other.Gives scan.asked (Text.lines source) →
        Scan.ofText source other threshold = .ok scan ∧
        findBlocks source other threshold = .ok scan.ranges := by
  have hlines := Text.length_lines_lt h
  have hgives := Scan.gives_asked test threshold (Text.lines source) .searching 0
  have hlength := hgives.length_eq
  have hranges := Scan.ranges_eq_traced test threshold (Text.lines source) .searching 0 trivial
    (by simpa using hlines)
  refine ⟨_, tracedBlocks 0 _, Scan.ofText_eq_unchecked test threshold h,
    findBlocks_eq_unchecked test threshold h, ?_, ?_, hgives,
    Scan.asked_mem_traces (Text.lines source) .searching 0,
    fun _ => mem_tracedBlocks, tracedBlocks_pairwise _ 0, ?_, ?_⟩
  · rw [hlength, Text.length_lines]
  · intro line hline
    exact Text.newline_not_mem_line hline
  · rw [hranges, List.map_map]
    apply List.map_congr_left
    intro block hblock
    apply Traced.lineNumbers_range (mem_tracedBlocks.1 (List.mem_of_mem_filter hblock))
    rw [hlength]
    exact hlines
  · intro other hother
    have hsame := Scan.unchecked_eq_of_gives hother
    rw [Scan.ofText_eq_unchecked other threshold h, findBlocks_eq_unchecked other threshold h,
      hsame]
    exact ⟨rfl, rfl⟩

/-- A test that answers each question about a line of `Text.tangled` otherwise than the one for
braces, if the scan of that text does not put it. -/
def LineTest.contrary : LineTest where
  opens line := ["\x7b\x7d\r", "\x7b", ""].contains line
  closes line := ["\x7d\x7b😀", "é\x7b\x7d"].contains line

theorem scan_decided_by_trace_tangled :
    Text.tangled.utf8ByteSize < 2 ^ 63 ∧
    ∃ (scan : Scan) (blocks : List Block), Scan.ofText Text.tangled .braces 1 = .ok scan ∧
      findBlocks Text.tangled .braces 1 = .ok scan.ranges ∧
      scan.asked.length = Text.newlines Text.tangled + 1 ∧
      (∀ line ∈ Text.lines Text.tangled, '\n' ∉ line.toList) ∧
      LineTest.braces.Gives scan.asked (Text.lines Text.tangled) ∧
      scan.asked ∈ traces ∧
      (∀ block, block ∈ blocks ↔ Traced scan.asked block) ∧
      blocks.Pairwise (fun a b => a.opening < b.opening) ∧
      scan.ranges.map LineRange.lineNumbers =
        (blocks.filter (·.exceeds 1)).map Block.lineNumbers ∧
      LineTest.contrary.Gives scan.asked (Text.lines Text.tangled) ∧
      Scan.ofText Text.tangled .contrary 1 = .ok scan ∧
      findBlocks Text.tangled .contrary 1 = .ok scan.ranges := by
  obtain ⟨scan, blocks, hscan, hfound, hlength, hlines, hgives, htraces, hblocks, hordered, hranges,
    hothers⟩ := scan_decided_by_trace Text.tangled .braces 1 Text.tangled_byteSize
  have hcontrary : LineTest.contrary.Gives scan.asked (Text.lines Text.tangled) := by
    have hasked : (Scan.ofText Text.tangled .braces 1).map Scan.asked = .ok [(.opens, true),
        (.closes, true), (.opens, true), (.closes, false), (.closes, false), (.closes, true),
        (.opens, true), (.closes, false)] := by decide
    rw [hscan] at hasked
    rw [LineTest.Gives, Except.ok.inj hasked]
    decide
  exact ⟨Text.tangled_byteSize, scan, blocks, hscan, hfound, hlength, hlines, hgives, htraces,
    hblocks, hordered, hranges, hcontrary, hothers _ hcontrary⟩

end BlockFolding

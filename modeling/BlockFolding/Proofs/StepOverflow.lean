import BlockFolding.Proofs.StackedRanges
import BlockFolding.Proofs.ThresholdFilter

/-
  Where a step overflows

  A step can be asked for in any state and at any index, also where no scan ever stands. Closing a
  block then has four ends (`ScanState.Closing`), and two of them are overflows: the index lies
  above the line that opened the block, or it is the last word, which no line number follows, and
  the block is long enough to be reported.

  No scan comes near them. A block that is open before a line was opened above it, by a line that
  opens, and no line closed since (`ScanState.Tracks`). One step keeps this
  (`ScanState.Tracks.next`), so every state of a scan of fewer than 2^64 lines has it
  (`Scan.tracks_states`), and from each the step over the next line leads on
  (`Scan.steps_states`).
-/

namespace BlockFolding

namespace ScanState

/-! ## Closing a block at any index -/

section
variable {threshold openIndex index : Word}

theorem report_above (habove : index < openIndex) :
    report threshold openIndex index = .error .sub := by
  have hminus : Word.minus index openIndex = .error .sub :=
    Word.minus_eq_error.2 ⟨rfl, UInt64.lt_iff_toNat_lt.1 habove⟩
  unfold report
  rw [hminus]
  rfl

theorem report_short (hopen : openIndex ≤ index)
    (hshort : index.toNat - openIndex.toNat ≤ threshold.toNat) :
    report threshold openIndex index = .ok none := by
  have hminus : Word.minus index openIndex = .ok (index - openIndex) := if_pos hopen
  have hdistance : ¬ threshold < index - openIndex := by
    rw [UInt64.lt_iff_toNat_lt, UInt64.toNat_sub_of_le _ _ hopen]
    omega
  unfold report
  rw [hminus, ok_bind, if_neg hdistance]
  rfl

theorem report_long (hlong : threshold.toNat < index.toNat - openIndex.toNat) :
    report threshold openIndex index =
      (Word.plus index 1).map fun last => some { first := openIndex + 1, last } := by
  have hopen : openIndex ≤ index := UInt64.le_iff_toNat_le.2 (by omega)
  have hminus : Word.minus index openIndex = .ok (index - openIndex) := if_pos hopen
  have hdistance : threshold < index - openIndex := by
    rw [UInt64.lt_iff_toNat_lt, UInt64.toNat_sub_of_le _ _ hopen]
    exact hlong
  -- The opening line is above the other, so it has a number even where the other has none.
  have hfirst : Word.plus openIndex 1 = .ok (openIndex + 1) := by
    apply Word.plus_one
    have := index.toNat_lt_size
    omega
  unfold report
  rw [hminus, ok_bind, if_pos hdistance, hfirst, ok_bind]
  cases Word.plus index 1 <;> rfl

theorem report_lastWord (hlong : threshold.toNat < index.toNat - openIndex.toNat)
    (hindex : index.toNat = 2 ^ 64 - 1) : report threshold openIndex index = .error .add := by
  have hlast : Word.plus index 1 = .error .add := by
    rw [Word.plus_eq_error, UInt64.toNat_one, hindex]
    exact ⟨rfl, Nat.le_refl _⟩
  rw [report_long hlong, hlast]
  rfl

theorem report_numbered (hlong : threshold.toNat < index.toNat - openIndex.toNat)
    (hindex : index.toNat + 1 < 2 ^ 64) :
    report threshold openIndex index =
      .ok (some { first := openIndex + 1, last := index + 1 }) := by
  rw [report_long hlong, Word.plus_one hindex]
  rfl

end

/-- What comes of closing, at an index, the block that the line at the open index opened. -/
inductive Closing (threshold openIndex index : Word) : Checked (Option LineRange) → Prop
  /-- The index is above the line that opened the block. -/
  | above (habove : index < openIndex) : Closing threshold openIndex index (.error .sub)
  /-- The block is not long enough to be reported. -/
  | short (hopen : openIndex ≤ index)
      (hshort : index.toNat - openIndex.toNat ≤ threshold.toNat) :
      Closing threshold openIndex index (.ok none)
  /-- The block is to be reported, and no word is the number of its last line. -/
  | lastWord (hlong : threshold.toNat < index.toNat - openIndex.toNat)
      (hindex : index.toNat = 2 ^ 64 - 1) : Closing threshold openIndex index (.error .add)
  /-- The block is reported. -/
  | numbered (hlong : threshold.toNat < index.toNat - openIndex.toNat)
      (hindex : index.toNat + 1 < 2 ^ 64) :
      Closing threshold openIndex index (.ok (some { first := openIndex + 1, last := index + 1 }))

theorem report_closing (threshold openIndex index : Word) :
    Closing threshold openIndex index (report threshold openIndex index) := by
  by_cases habove : index < openIndex
  · rw [report_above habove]
    exact .above habove
  · have hopen := UInt64.not_lt.1 habove
    by_cases hlong : threshold.toNat < index.toNat - openIndex.toNat
    · by_cases hindex : index.toNat + 1 < 2 ^ 64
      · rw [report_numbered hlong hindex]
        exact .numbered hlong hindex
      · have hlast : index.toNat = 2 ^ 64 - 1 := by
          have := index.toNat_lt
          omega
        rw [report_lastWord hlong hlast]
        exact .lastWord hlong hlast
    · have hshort := Nat.le_of_not_lt hlong
      rw [report_short hopen hshort]
      exact .short hopen hshort

/-! ## One step from any state -/

section
variable {state : ScanState} {index threshold : Word} {line : String} {test : LineTest}

theorem step_of_closes {openIndex : Word} (hcloses : test.closes line = true) :
    (spanOpen openIndex).step index line test threshold =
      (report threshold openIndex index).map fun emitted => (searching, emitted) := by
  unfold step
  simp only [question, LineTest.answer, hcloses, advance, if_true]
  cases report threshold openIndex index <;> rfl

/-- A step completes nothing, or it closes a block. -/
theorem step_cases (state : ScanState) (index : Word) (line : String) (test : LineTest)
    (threshold : Word) :
    (∃ next, state.step index line test threshold = .ok (next, none)) ∨
      ∃ openIndex result, state = spanOpen openIndex ∧ test.closes line = true ∧
        Closing threshold openIndex index result ∧
        state.step index line test threshold = result.map fun emitted => (searching, emitted) := by
  cases state with
  | searching => exact .inl ⟨_, rfl⟩
  | spanOpen openIndex =>
    cases hcloses : test.closes line with
    | false =>
      unfold step
      simp only [question, LineTest.answer, hcloses]
      exact .inl ⟨_, rfl⟩
    | true =>
      exact .inr ⟨openIndex, _, rfl, rfl, report_closing threshold openIndex index,
        step_of_closes hcloses⟩

/-- A step overflows just where it closes a block above the line that opened it, or one that is to
be reported and ends at the last word. -/
theorem step_eq_error {overflow : Overflow} :
    state.step index line test threshold = .error overflow ↔
      ∃ openIndex, state = spanOpen openIndex ∧ test.closes line = true ∧
        (overflow = .sub ∧ index < openIndex ∨
          overflow = .add ∧ index.toNat = 2 ^ 64 - 1 ∧
            threshold.toNat < index.toNat - openIndex.toNat) := by
  constructor
  · intro h
    rcases step_cases state index line test threshold with
      ⟨next, hnext⟩ | ⟨openIndex, result, hstate, hcloses, hclosing, hstep⟩
    · rw [hnext] at h
      contradiction
    · refine ⟨openIndex, hstate, hcloses, ?_⟩
      rw [hstep] at h
      cases hclosing with
      | above habove =>
        cases h
        exact .inl ⟨rfl, habove⟩
      | short => contradiction
      | lastWord hlong hindex =>
        cases h
        exact .inr ⟨rfl, hindex, hlong⟩
      | numbered => contradiction
  · intro ⟨openIndex, hstate, hcloses, hoverflow⟩
    rw [hstate, step_of_closes hcloses]
    rcases hoverflow with ⟨rfl, habove⟩ | ⟨rfl, hindex, hlong⟩
    · rw [report_above habove]
      rfl
    · rw [report_lastWord hlong hindex]
      rfl

theorem range_of_step {next : ScanState} {range : LineRange}
    (h : state.step index line test threshold = .ok (next, some range)) :
    ∃ openIndex, state = spanOpen openIndex ∧
      threshold.toNat < index.toNat - openIndex.toNat ∧
      range.first.toNat = openIndex.toNat + 1 ∧ range.last.toNat = index.toNat + 1 := by
  rcases step_cases state index line test threshold with
    ⟨other, hother⟩ | ⟨openIndex, result, hstate, -, hclosing, hstep⟩
  · rw [hother] at h
    cases h
  · refine ⟨openIndex, hstate, ?_⟩
    rw [hstep] at h
    cases hclosing with
    | above => contradiction
    | short => cases h
    | lastWord => contradiction
    | numbered hlong hindex =>
      cases h
      have hopenIndex : openIndex.toNat + 1 < 2 ^ 64 := by omega
      exact ⟨hlong, Word.toNat_add_one hopenIndex, Word.toNat_add_one hindex⟩

end

theorem Tracks.next {test : LineTest} {lines : List String} {state : ScanState} {start : Nat}
    {index : Word} {line : String} (h : state.Tracks test lines start index.toNat)
    (hline : lines[index.toNat]? = some line) :
    ∃ later, (state.next index (test.answer state.question line)).Tracks test lines later
      (index.toNat + 1) := by
  have hpasses (passing : String → Bool) : passesAt passing lines index.toNat = passing line := by
    rw [passesAt, hline, Option.any_some]
  cases state with
  | searching =>
    simp only [question, LineTest.answer]
    cases hanswer : test.opens line with
    | false => exact ⟨start, h.unopened ((hpasses _).trans hanswer)⟩
    | true => exact ⟨start, h.opened ((hpasses _).trans hanswer)⟩
  | spanOpen openIndex =>
    simp only [question, LineTest.answer]
    cases hanswer : test.closes line with
    | false => exact ⟨start, h.unclosed ((hpasses _).trans hanswer)⟩
    | true => exact ⟨index.toNat + 1, (h.closed ((hpasses _).trans hanswer)).2⟩

theorem Tracks.before {test : LineTest} {lines : List String} {state : ScanState} {start : Nat}
    {index : Word} (h : state.Tracks test lines start index.toNat) : state.Before index := by
  cases state with
  | searching => trivial
  | spanOpen openIndex => exact UInt64.lt_iff_toNat_lt.2 h.2.1

end ScanState

/-! ## The states of a scan -/

namespace Scan

section
variable (test : LineTest) (threshold : Word)

theorem states_unchecked_cons (state : ScanState) (index : Word) (line : String)
    (rest : List String) :
    (unchecked test threshold state index (line :: rest)).states =
      state :: (unchecked test threshold
        (state.next index (test.answer state.question line)) (index + 1) rest).states :=
  rfl

theorem getElem?_states_zero (state : ScanState) (index : Word) (lines : List String) :
    (unchecked test threshold state index lines).states[0]? = some state := by
  cases lines <;> rfl

theorem length_states : ∀ (lines : List String) (state : ScanState) (index : Word),
    (unchecked test threshold state index lines).states.length = lines.length + 1
  | [], _, _ => rfl
  | line :: rest, state, index => by
    rw [states_unchecked_cons, List.length_cons, length_states rest, List.length_cons]

theorem getElem?_states_succ : ∀ (lines : List String) (state : ScanState) (index : Word)
    (place : Nat) {line : String} {before : ScanState}, lines[place]? = some line →
      (unchecked test threshold state index lines).states[place]? = some before →
      (unchecked test threshold state index lines).states[place + 1]? =
        some (before.next (index + .ofNat place) (test.answer before.question line))
  | [], _, _, _, _, _, hline, _ => by contradiction
  | first :: rest, state, index, 0, line, before, hline, hbefore => by
    rw [states_unchecked_cons, List.getElem?_cons_zero, Option.some.injEq] at hbefore
    rw [List.getElem?_cons_zero, Option.some.injEq] at hline
    rw [states_unchecked_cons, List.getElem?_cons_succ, getElem?_states_zero, hbefore, hline]
    exact congrArg some (congrArg (before.next · _) (UInt64.add_zero index).symm)
  | first :: rest, state, index, place + 1, line, before, hline, hbefore => by
    rw [states_unchecked_cons, List.getElem?_cons_succ] at hbefore
    have ih := getElem?_states_succ rest _ _ place hline hbefore
    have hindex : index + 1 + .ofNat place = index + .ofNat (place + 1) := by
      rw [UInt64.ofNat_add, UInt64.add_comm (.ofNat place), ← UInt64.add_assoc]
      rfl
    rw [states_unchecked_cons, List.getElem?_cons_succ, ih, hindex]

theorem exists_state {lines : List String} {place : Nat} (h : place ≤ lines.length) :
    ∃ state, (unchecked test threshold .searching 0 lines).states[place]? = some state := by
  have hbound : place < (unchecked test threshold .searching 0 lines).states.length := by
    rw [length_states]
    exact Nat.lt_succ_of_le h
  exact ⟨_, List.getElem?_eq_getElem hbound⟩

end

theorem toNat_place {lines : List String} {place : Nat} (hlines : lines.length < 2 ^ 64)
    (hplace : place < lines.length) : (.ofNat place : Word).toNat = place :=
  UInt64.toNat_ofNat_of_lt' (Nat.lt_trans hplace hlines)

section
variable {test : LineTest} {threshold : Word} {lines : List String} (hlines : lines.length < 2 ^ 64)
include hlines

/-- Every state of a scan knows what happened since the block that is open began, or since the last
one closed. -/
theorem tracks_states (place : Nat) {reached : ScanState}
    (hreached : (unchecked test threshold .searching 0 lines).states[place]? = some reached) :
    ∃ start, reached.Tracks test lines start place := by
  induction place generalizing reached with
  | zero =>
    rw [getElem?_states_zero, Option.some.injEq] at hreached
    rw [← hreached]
    refine ⟨0, Nat.le_refl 0, ?_⟩
    intro i _ hi
    exact absurd hi (Nat.not_lt_zero i)
  | succ place ih =>
    obtain ⟨hlast, -⟩ := List.getElem?_eq_some_iff.1 hreached
    rw [length_states] at hlast
    have hplace : place < lines.length := Nat.lt_of_succ_lt_succ hlast
    obtain ⟨before, hbefore⟩ := exists_state test threshold (Nat.le_of_lt hplace)
    have hline := List.getElem?_eq_getElem hplace
    rw [getElem?_states_succ test threshold lines _ _ place hline hbefore, UInt64.zero_add,
      Option.some.injEq] at hreached
    obtain ⟨start, htracks⟩ := ih hbefore
    -- The step over the line keeps what the state before it knows.
    have htoNat := toNat_place hlines hplace
    rw [← htoNat] at htracks
    obtain ⟨later, hlater⟩ := htracks.next (by rwa [htoNat])
    rw [htoNat, hreached] at hlater
    exact ⟨later, hlater⟩

theorem steps_states {place : Nat} {line : String} (hline : lines[place]? = some line) :
    ∃ before after emitted,
      (unchecked test threshold .searching 0 lines).states[place]? = some before ∧
      (unchecked test threshold .searching 0 lines).states[place + 1]? = some after ∧
      before.step (.ofNat place) line test threshold = .ok (after, emitted) := by
  obtain ⟨hplace, -⟩ := List.getElem?_eq_some_iff.1 hline
  obtain ⟨before, hbefore⟩ := exists_state test threshold (Nat.le_of_lt hplace)
  obtain ⟨start, htracks⟩ := tracks_states hlines place hbefore
  have htoNat := toNat_place hlines hplace
  rw [← htoNat] at htracks
  have hafter := getElem?_states_succ test threshold lines _ _ place hline hbefore
  rw [UInt64.zero_add] at hafter
  have hindex : (.ofNat place : Word).toNat + 1 < 2 ^ 64 := by omega
  exact ⟨before, _, _, hbefore, hafter, ScanState.advance_eq _ htracks.before hindex⟩

end

end Scan

/-- A step overflows just where it closes a block above the line that opened it, or one that is long
enough and ends at the last word. A range that it emits is that of a long block, and is counted. In
a scan of fewer than 2^64 lines every block that is open before a line was opened above it, by a
line that opens, and no line between them closes; and each step leads from one state of the scan to
the next, so that neither overflow is met. -/
theorem step_overflow_unreachable (test : LineTest) (threshold : Word) :
    (∀ (state : ScanState) (index : Word) (line : String) (overflow : Overflow),
      state.step index line test threshold = .error overflow ↔
        ∃ openIndex, state = .spanOpen openIndex ∧ test.closes line = true ∧
          (overflow = .sub ∧ index < openIndex ∨
            overflow = .add ∧ index.toNat = 2 ^ 64 - 1 ∧
              threshold.toNat < index.toNat - openIndex.toNat)) ∧
    (∀ (state : ScanState) (index : Word) (line : String) (next : ScanState) (range : LineRange),
      state.step index line test threshold = .ok (next, some range) →
        1 ≤ range.first.toNat ∧ range.first < range.last ∧
          threshold.toNat < range.last.toNat - range.first.toNat ∧
          ∃ openIndex count, state = .spanOpen openIndex ∧ range.lineCount = .ok count ∧
            count.toNat = index.toNat - openIndex.toNat + 1) ∧
    (∀ source : String, (Text.lines source).length < 2 ^ 64 →
      ∃ scan, Scan.ofText source test threshold = .ok scan ∧
        scan.states.length = (Text.lines source).length + 1 ∧
        scan.states[0]? = some .searching ∧
        (∀ place openIndex, scan.states[place]? = some (.spanOpen openIndex) →
          openIndex.toNat < place ∧
          passesAt test.opens (Text.lines source) openIndex.toNat = true ∧
          ∀ i, openIndex.toNat < i → i < place →
            passesAt test.closes (Text.lines source) i = false) ∧
        ∀ place line, (Text.lines source)[place]? = some line →
          ∃ before after emitted, scan.states[place]? = some before ∧
            scan.states[place + 1]? = some after ∧
            before.step (.ofNat place) line test threshold = .ok (after, emitted)) := by
  refine ⟨fun _ _ _ _ => ScanState.step_eq_error, ?_, ?_⟩
  · intro state index line next range h
    obtain ⟨openIndex, hstate, hlong, hfirst, hlast⟩ := ScanState.range_of_step h
    obtain ⟨count, hcount, hlines⟩ := range.lineCount_total (by omega) (by omega)
    exact ⟨by omega, UInt64.lt_iff_toNat_lt.2 (by omega), by omega,
      openIndex, count, hstate, hcount, by omega⟩
  · intro source hlines
    refine ⟨_, Scan.ofText_eq_unchecked_of_length test threshold hlines,
      Scan.length_states test threshold _ _ _, Scan.getElem?_states_zero test threshold _ _ _,
      ?_, fun _ _ => Scan.steps_states hlines⟩
    intro place openIndex hopen
    obtain ⟨start, hleast, hlt, hclosed⟩ := Scan.tracks_states hlines place hopen
    exact ⟨hlt, hleast.passes, hclosed⟩

theorem step_overflow_unreachable_tangled :
    (ScanState.spanOpen 2).step 8 "\x7d" .braces 5 =
      .ok (.searching, some { first := 3, last := 9 }) ∧
    (∃ openIndex count, ScanState.spanOpen 2 = .spanOpen openIndex ∧
      LineRange.lineCount { first := 3, last := 9 } = .ok count ∧
      count.toNat = (8 : Word).toNat - openIndex.toNat + 1) ∧
    (∀ overflow, (ScanState.spanOpen 2).step 0xFFFFFFFFFFFFFFFF "\x7d" .braces 5 = .error overflow ↔
      ∃ openIndex, ScanState.spanOpen 2 = .spanOpen openIndex ∧
        LineTest.braces.closes "\x7d" = true ∧
        (overflow = .sub ∧ (0xFFFFFFFFFFFFFFFF : Word) < openIndex ∨
          overflow = .add ∧ (0xFFFFFFFFFFFFFFFF : Word).toNat = 2 ^ 64 - 1 ∧
            (5 : Word).toNat < (0xFFFFFFFFFFFFFFFF : Word).toNat - openIndex.toNat)) ∧
    (Text.lines Text.tangled).length < 2 ^ 64 ∧
    ∃ scan, Scan.ofText Text.tangled .braces 5 = .ok scan ∧
      scan.states.length = (Text.lines Text.tangled).length + 1 ∧
      scan.states[0]? = some .searching ∧
      (∀ place openIndex, scan.states[place]? = some (.spanOpen openIndex) →
        openIndex.toNat < place ∧
        passesAt LineTest.braces.opens (Text.lines Text.tangled) openIndex.toNat = true ∧
        ∀ i, openIndex.toNat < i → i < place →
          passesAt LineTest.braces.closes (Text.lines Text.tangled) i = false) ∧
      ∀ place line, (Text.lines Text.tangled)[place]? = some line →
        ∃ before after emitted, scan.states[place]? = some before ∧
          scan.states[place + 1]? = some after ∧
          before.step (.ofNat place) line .braces 5 = .ok (after, emitted) :=
  have hstep : (ScanState.spanOpen 2).step 8 "\x7d" .braces 5 =
      .ok (.searching, some { first := 3, last := 9 }) := by decide
  have hlines := Text.length_lines_lt Text.tangled_byteSize
  have hoverflow := step_overflow_unreachable .braces 5
  ⟨hstep, (hoverflow.2.1 _ _ _ _ _ hstep).2.2.2, hoverflow.1 _ _ _, hlines,
    hoverflow.2.2 Text.tangled hlines⟩

example : (ScanState.spanOpen 7).step 3 "\x7d" .braces 0 = .error .sub := by decide
example : (ScanState.spanOpen 0xFFFFFFFFFFFFFFFF).step 0xFFFFFFFFFFFFFFFF "\x7d" .braces 0 =
    .ok (.searching, none) := by decide

end BlockFolding

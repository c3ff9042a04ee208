import BlockFolding.Proofs.Lines
import BlockFolding.Scan

/-
  Scans without overflow

  A scan checks every sum and difference it takes. Here is the same scan with none of them
  checked, in words that wrap around, and the proof that on a text below 2^63 bytes the two are
  one: the block that is open began before the line at hand (`ScanState.Before`), so the distance
  is a word, and no line number comes near the last word.

  So whatever holds of the unchecked scan, a plain recursion over the lines, holds of the scan,
  and a scan of such a text always ends in a result.
-/

namespace BlockFolding

namespace ScanState

/-- The state after a line with the answer about it. -/
def next (index : Word) (answer : Bool) : ScanState → ScanState
  | searching => if answer then spanOpen index else searching
  | spanOpen openIndex => if answer then searching else spanOpen openIndex

/-- The range that a line with the answer about it completes. -/
def found (threshold index : Word) (answer : Bool) : ScanState → Option LineRange
  | searching => none
  | spanOpen openIndex =>
    if answer ∧ threshold < index - openIndex then
      some { first := openIndex + 1, last := index + 1 }
    else none

/-- A block that is open began before the index. -/
def Before (index : Word) : ScanState → Prop
  | searching => True
  | spanOpen openIndex => openIndex < index

theorem report_eq {threshold openIndex index : Word} (hopen : openIndex < index)
    (hindex : index.toNat + 1 < 2 ^ 64) :
    report threshold openIndex index = .ok (found threshold index true (spanOpen openIndex)) := by
  have hlt := UInt64.lt_iff_toNat_lt.1 hopen
  have hdistance : Word.minus index openIndex = .ok (index - openIndex) := by
    rw [Word.minus_eq_ok, UInt64.toNat_sub_of_le _ _ (UInt64.le_of_lt hopen)]
    omega
  have hopenIndex : openIndex.toNat + 1 < 2 ^ 64 := by omega
  have hfirst : Word.plus openIndex 1 = .ok (openIndex + 1) := Word.plus_one hopenIndex
  have hlast : Word.plus index 1 = .ok (index + 1) := Word.plus_one hindex
  simp only [report, found, hdistance, hfirst, hlast, ok_bind, true_and]
  split <;> rfl

theorem advance_eq {state : ScanState} {threshold index : Word} (answer : Bool)
    (hstate : state.Before index) (hindex : index.toNat + 1 < 2 ^ 64) :
    state.advance threshold index answer =
      .ok (state.next index answer, state.found threshold index answer) := by
  cases state with
  | searching => rfl
  | spanOpen openIndex =>
    cases answer with
    | false => rfl
    | true =>
      simp only [advance, if_true, report_eq hstate hindex, ok_bind]
      rfl

/-- The index that a step leads to is past the block that is open then. -/
theorem Before.next {state : ScanState} {index : Word} (answer : Bool)
    (hstate : state.Before index) (hindex : index.toNat + 1 < 2 ^ 64) :
    (state.next index answer).Before (index + 1) := by
  have hstep : index < index + 1 := by
    rw [UInt64.lt_iff_toNat_lt, Word.toNat_add_one hindex]
    exact Nat.lt_succ_self _
  cases state with
  | searching =>
    cases answer with
    | false => trivial
    | true => exact hstep
  | spanOpen openIndex =>
    cases answer with
    | false => exact UInt64.lt_trans hstate hstep
    | true => trivial

end ScanState

namespace Scan

/-- Scans lines as `run` does, in words that wrap around. -/
def unchecked (test : LineTest) (threshold : Word) :
    ScanState → (index : Word) → List String → Scan
  | state, _, [] => { visits := [], final := state }
  | state, index, line :: rest =>
    let answer := test.answer state.question line
    let later := unchecked test threshold (state.next index answer) (index + 1) rest
    { later with visits := ⟨state, answer, state.found threshold index answer⟩ :: later.visits }

/-- Where the last index fits a word, the scan is the unchecked one. -/
theorem run_eq_unchecked (test : LineTest) (threshold : Word) :
    ∀ (lines : List String) (state : ScanState) (index : Word), state.Before index →
      index.toNat + lines.length < 2 ^ 64 →
      run test threshold state index lines = .ok (unchecked test threshold state index lines)
  | [], _, _, _, _ => rfl
  | line :: rest, state, index, hstate, hbound => by
    rw [List.length_cons] at hbound
    have hindex : index.toNat + 1 < 2 ^ 64 := by omega
    have hlater := run_eq_unchecked test threshold rest
      (state.next index (test.answer state.question line)) (index + 1)
      (hstate.next _ hindex) (by rw [Word.toNat_add_one hindex]; omega)
    simp only [run, ScanState.advance_eq _ hstate hindex, Word.plus_one hindex, hlater,
      ok_bind, unchecked]
    rfl

theorem ofText_eq_unchecked_of_length {source : String} (test : LineTest) (threshold : Word)
    (h : (Text.lines source).length < 2 ^ 64) :
    ofText source test threshold =
      .ok (unchecked test threshold .searching 0 (Text.lines source)) := by
  apply run_eq_unchecked
  · trivial
  · simp only [UInt64.toNat_zero, Nat.zero_add]
    exact h

/-- A scan of a text that fits in memory is the unchecked one. -/
theorem ofText_eq_unchecked {source : String} (test : LineTest) (threshold : Word)
    (h : source.utf8ByteSize < 2 ^ 63) :
    ofText source test threshold =
      .ok (unchecked test threshold .searching 0 (Text.lines source)) :=
  ofText_eq_unchecked_of_length test threshold (Text.length_lines_lt h)

theorem ranges_unchecked_cons (test : LineTest) (threshold : Word) (state : ScanState)
    (index : Word) (line : String) (rest : List String) :
    (unchecked test threshold state index (line :: rest)).ranges =
      (state.found threshold index (test.answer state.question line)).toList ++
        (unchecked test threshold (state.next index (test.answer state.question line))
          (index + 1) rest).ranges := by
  simp only [unchecked, ranges, List.filterMap_cons]
  cases state.found threshold index (test.answer state.question line) <;> rfl

theorem final_unchecked_cons (test : LineTest) (threshold : Word) (state : ScanState)
    (index : Word) (line : String) (rest : List String) :
    (unchecked test threshold state index (line :: rest)).final =
      (unchecked test threshold (state.next index (test.answer state.question line))
        (index + 1) rest).final :=
  rfl

theorem index_add_length_cons (index : Word) (line : String) (rest : List String) :
    index + .ofNat (line :: rest).length = index + 1 + .ofNat rest.length := by
  rw [List.length_cons, UInt64.ofNat_add, UInt64.add_comm (.ofNat rest.length), UInt64.add_assoc]
  rfl

theorem before_final_unchecked (test : LineTest) (threshold : Word) :
    ∀ (lines : List String) (state : ScanState) (index : Word), state.Before index →
      index.toNat + lines.length < 2 ^ 64 →
      (unchecked test threshold state index lines).final.Before (index + .ofNat lines.length)
  | [], _, index, hstate, _ => by
    rw [List.length_nil, show (.ofNat 0 : Word) = 0 from rfl, UInt64.add_zero]
    exact hstate
  | line :: rest, state, index, hstate, hbound => by
    rw [List.length_cons] at hbound
    have hindex : index.toNat + 1 < 2 ^ 64 := by omega
    rw [index_add_length_cons, final_unchecked_cons]
    exact before_final_unchecked test threshold rest _ _ (hstate.next _ hindex)
      (by rw [Word.toNat_add_one hindex]; omega)

end Scan

theorem findBlocks_eq_unchecked_of_length {source : String} (test : LineTest) (threshold : Word)
    (h : (Text.lines source).length < 2 ^ 64) :
    findBlocks source test threshold =
      .ok (Scan.unchecked test threshold .searching 0 (Text.lines source)).ranges := by
  rw [findBlocks, Scan.ofText_eq_unchecked_of_length test threshold h, ok_bind]
  rfl

theorem findBlocks_eq_unchecked {source : String} (test : LineTest) (threshold : Word)
    (h : source.utf8ByteSize < 2 ^ 63) :
    findBlocks source test threshold =
      .ok (Scan.unchecked test threshold .searching 0 (Text.lines source)).ranges :=
  findBlocks_eq_unchecked_of_length test threshold (Text.length_lines_lt h)

end BlockFolding

import BlockFolding.Proofs.GreedyBlocks

/-
  Inserted lines

  Lines that neither open nor close a block may be inserted anywhere in a text. The blocks move with
  their lines: one below the lines inserted moves down as a whole, one around them grows, one above
  them stays (`findBlocks_insertLines`). No threshold may stand in the way, because a block that
  grows can come to exceed one.

  The argument is about the blocks and not about a scan. Every index among the more lines is one of
  an old line that moved or one of an inserted line, and no test passes at the latter
  (`passesAt_inserted_or_moved`). So the least index from some place on at which a test passes moves
  as its line does, and block for block the greedy blocks move too.
-/

namespace BlockFolding

/-- The lines with others inserted below the first of them, as many as `above`. -/
def insertAt (above : Nat) (inserted lines : List String) : List String :=
  lines.take above ++ inserted ++ lines.drop above

/-- The text with lines inserted below its first lines, as many as `above`. -/
def Text.insertLines (source : String) (above : Nat) (inserted : List String) : String :=
  "\n".intercalate (insertAt above inserted (lines source))

/-- The index of a line once `count` lines were inserted below the first ones. -/
def movedIndex (above count index : Nat) : Nat := if index < above then index else index + count

/-- The number of a line once `count` lines were inserted below the first ones. -/
def movedNumber (above count number : Nat) : Nat :=
  if above < number then number + count else number

/-- The block with its lines where they are once `count` lines were inserted. -/
def Block.moved (above count : Nat) (block : Block) : Block :=
  ⟨movedIndex above count block.opening, movedIndex above count block.closing⟩

/-! ## Where lines move to -/

section
variable {above count : Nat}

theorem movedNumber_succ (index : Nat) :
    movedNumber above count (index + 1) = movedIndex above count index + 1 := by
  unfold movedNumber movedIndex
  split <;> split <;> omega

theorem movedIndex_lt_iff {i j : Nat} :
    movedIndex above count i < movedIndex above count j ↔ i < j := by
  unfold movedIndex
  split <;> split <;> omega

theorem Block.lineNumbers_moved (block : Block) :
    (block.moved above count).lineNumbers =
      (movedNumber above count block.lineNumbers.1,
        movedNumber above count block.lineNumbers.2) := by
  simp only [lineNumbers, moved, movedNumber_succ]

end

/-! ## Blocks move with their lines -/

section
variable {lines inserted : List String} {above : Nat} {passing : String → Bool}

theorem passesAt_moved (habove : above ≤ lines.length) (i : Nat) :
    passesAt passing (insertAt above inserted lines)
      (movedIndex above inserted.length i) = passesAt passing lines i := by
  have htake : (lines.take above).length = above := List.length_take_of_le habove
  simp only [passesAt, insertAt, movedIndex]
  split
  · rename_i hlt
    rw [List.append_assoc, List.getElem?_append_left (by omega), List.getElem?_take, if_pos hlt]
  · rename_i hge
    rw [List.getElem?_append_right (by rw [List.length_append]; omega), List.getElem?_drop,
      List.length_append, htake]
    congr 2
    omega

/-- An index among the more lines is one at which a test that the inserted lines fail fails, or the
index of an old line that moved there. -/
theorem passesAt_inserted_or_moved (habove : above ≤ lines.length)
    (hfails : ∀ line ∈ inserted, passing line = false) (j : Nat) :
    passesAt passing (insertAt above inserted lines) j = false ∨
      ∃ i, j = movedIndex above inserted.length i := by
  have htake : (lines.take above).length = above := List.length_take_of_le habove
  by_cases hbelow : j < above
  · exact .inr ⟨j, by rw [movedIndex, if_pos hbelow]⟩
  by_cases hbehind : above + inserted.length ≤ j
  · refine .inr ⟨j - inserted.length, ?_⟩
    rw [movedIndex, if_neg (by omega)]
    omega
  · left
    have hinserted : j - above < inserted.length := by omega
    rw [passesAt, insertAt, List.append_assoc, List.getElem?_append_right (by omega), htake,
      List.getElem?_append_left hinserted, List.getElem?_eq_getElem hinserted]
    exact hfails _ (List.getElem_mem hinserted)

/-- A place among the more lines is where a place has moved to: the same old lines are from there
on. -/
def StartsAt (above count start start' : Nat) : Prop :=
  ∀ i, start' ≤ movedIndex above count i ↔ start ≤ i

theorem startsAt_zero (count : Nat) : StartsAt above count 0 0 :=
  fun _ => iff_of_true (Nat.zero_le _) (Nat.zero_le _)

theorem startsAt_behind (count index : Nat) :
    StartsAt above count (index + 1) (movedIndex above count index + 1) :=
  fun _ => movedIndex_lt_iff

section
variable (habove : above ≤ lines.length) (hfails : ∀ line ∈ inserted, passing line = false)
include habove hfails

theorem fails_inserted {start start' : Nat}
    (hstart : StartsAt above inserted.length start start')
    (hnone : ∀ i, start ≤ i → passesAt passing lines i = false) (j : Nat) (hj : start' ≤ j) :
    passesAt passing (insertAt above inserted lines) j = false := by
  rcases passesAt_inserted_or_moved habove hfails j with hgap | ⟨i, rfl⟩
  · exact hgap
  · rw [passesAt_moved habove]
    exact hnone i ((hstart i).1 hj)

theorem IsLeastFrom.moved {start start' index : Nat}
    (hstart : StartsAt above inserted.length start start')
    (h : IsLeastFrom passing lines start index) :
    IsLeastFrom passing (insertAt above inserted lines) start'
      (movedIndex above inserted.length index) := by
  refine ⟨(hstart index).2 h.start_le, ?_, ?_⟩
  · rw [passesAt_moved habove]
    exact h.passes
  · intro j hj hlt
    rcases passesAt_inserted_or_moved habove hfails j with hgap | ⟨i, rfl⟩
    · exact hgap
    · rw [passesAt_moved habove]
      exact h.fails_before i ((hstart i).1 hj) (movedIndex_lt_iff.1 hlt)

end

/-- The greedy blocks of more lines are the greedy blocks of the lines, each where its lines have
moved to. -/
theorem GreedyBlocks.moved {test : LineTest} (habove : above ≤ lines.length)
    (hopens : ∀ line ∈ inserted, test.opens line = false)
    (hcloses : ∀ line ∈ inserted, test.closes line = false) {start : Nat} {blocks : List Block}
    (h : GreedyBlocks test lines start blocks) :
    ∀ {start' : Nat}, StartsAt above inserted.length start start' →
      GreedyBlocks test (insertAt above inserted lines) start'
        (blocks.map (Block.moved above inserted.length)) := by
  induction h with
  | unopened no_opening =>
    intro start' hstart
    exact .unopened (fails_inserted habove hopens hstart no_opening)
  | unclosed least_opening no_closing =>
    intro start' hstart
    exact .unclosed (least_opening.moved habove hopens hstart)
      (fails_inserted habove hcloses (startsAt_behind _ _) no_closing)
  | block least_opening least_closing _ ih =>
    intro start' hstart
    exact .block (least_opening.moved habove hopens hstart)
      (least_closing.moved habove hcloses (startsAt_behind _ _)) (ih (startsAt_behind _ _))

end

/-! ## Texts with more lines -/

theorem findBlocks_zero {source : String} (test : LineTest)
    (h : (Text.lines source).length < 2 ^ 64) :
    ∃ blocks ranges, GreedyBlocks test (Text.lines source) 0 blocks ∧
      findBlocks source test 0 = .ok ranges ∧
      ranges.map LineRange.lineNumbers = blocks.map Block.lineNumbers := by
  obtain ⟨blocks, hblocks, hfound⟩ := findBlocks_eq_greedy_of_length test 0 h
  have hall : blocks.filter (·.exceeds 0) = blocks := by
    rw [List.filter_eq_self]
    intro block hblock
    have hbelow := (hblocks.within block hblock).2.1
    simp only [Block.exceeds, UInt64.toNat_zero, decide_eq_true_eq]
    omega
  rw [hall] at hfound
  refine ⟨blocks, _, hblocks, hfound, ?_⟩
  rw [List.map_map]
  apply List.map_congr_left
  intro block hblock
  exact hblocks.lineNumbers_range h hblock

theorem Text.lines_insertLines (source : String) (above : Nat) {inserted : List String}
    (hinserted : ∀ line ∈ inserted, '\n' ∉ line.toList) :
    lines (insertLines source above inserted) = insertAt above inserted (lines source) := by
  apply lines_intercalate
  · -- A text has a line, and it is still there.
    intro hnil
    simp only [insertAt, List.append_eq_nil_iff] at hnil
    apply lines_ne_nil source
    rw [← List.take_append_drop above (lines source), hnil.1.1, hnil.2, List.append_nil]
  · intro line hline
    rw [insertAt, List.mem_append, List.mem_append] at hline
    rcases hline with (habove | hinside) | hbelow
    · exact newline_not_mem_line (List.mem_of_mem_take habove)
    · exact hinserted line hinside
    · exact newline_not_mem_line (List.mem_of_mem_drop hbelow)

/-- Lines inserted that neither open nor close a block move and widen the blocks and do nothing
else: without a threshold the blocks found are those found before, all of the greedy ones, and the
first and the last line of each have the numbers they have moved to. -/
theorem findBlocks_insertLines (source : String) (test : LineTest) (above : Nat)
    (inserted : List String) (habove : above ≤ (Text.lines source).length)
    (hinserted : ∀ line ∈ inserted,
      '\n' ∉ line.toList ∧ test.opens line = false ∧ test.closes line = false)
    (h : (Text.insertLines source above inserted).utf8ByteSize < 2 ^ 63) :
    ∃ blocks ranges ranges', GreedyBlocks test (Text.lines source) 0 blocks ∧
      findBlocks source test 0 = .ok ranges ∧
      ranges.map LineRange.lineNumbers = blocks.map Block.lineNumbers ∧
      findBlocks (Text.insertLines source above inserted) test 0 = .ok ranges' ∧
      ranges'.map LineRange.lineNumbers = ranges.map fun range =>
        (movedNumber above inserted.length range.first.toNat,
          movedNumber above inserted.length range.last.toNat) := by
  have hlines := Text.lines_insertLines source above fun line hline =>
    (hinserted line hline).1
  have hlength := Text.length_lines_lt h
  have hsource : (Text.lines source).length < 2 ^ 64 := by
    rw [hlines] at hlength
    simp only [insertAt, List.length_append, List.length_take, List.length_drop] at hlength
    omega
  obtain ⟨blocks, ranges, hblocks, hfound, hranges⟩ := findBlocks_zero test hsource
  obtain ⟨blocks', ranges', hblocks', hfound', hranges'⟩ := findBlocks_zero test hlength
  -- There is one list of greedy blocks, so that of the longer text is the one of moved blocks.
  have hmoved := hblocks.moved habove (fun line hline => (hinserted line hline).2.1)
    (fun line hline => (hinserted line hline).2.2) (startsAt_zero inserted.length)
  rw [hlines] at hblocks'
  refine ⟨blocks, ranges, ranges', hblocks, hfound, hranges, hfound', ?_⟩
  calc ranges'.map LineRange.lineNumbers
      = (blocks.map (Block.moved above inserted.length)).map Block.lineNumbers := by
        rw [hranges', hblocks'.unique hmoved]
    _ = (blocks.map Block.lineNumbers).map fun numbers =>
          (movedNumber above inserted.length numbers.1,
            movedNumber above inserted.length numbers.2) := by
        simp only [List.map_map, Function.comp_def, Block.lineNumbers_moved]
    _ = _ := by
        rw [← hranges, List.map_map]
        rfl

theorem findBlocks_insertLines_tangled :
    3 ≤ (Text.lines Text.tangled).length ∧
    (∀ line ∈ ["", "a\r"], '\n' ∉ line.toList ∧ LineTest.braces.opens line = false ∧
      LineTest.braces.closes line = false) ∧
    (Text.insertLines Text.tangled 3 ["", "a\r"]).utf8ByteSize < 2 ^ 63 ∧
    ∃ blocks ranges ranges', GreedyBlocks .braces (Text.lines Text.tangled) 0 blocks ∧
      findBlocks Text.tangled .braces 0 = .ok ranges ∧
      ranges.map LineRange.lineNumbers = blocks.map Block.lineNumbers ∧
      findBlocks (Text.insertLines Text.tangled 3 ["", "a\r"]) .braces 0 = .ok ranges' ∧
      ranges'.map LineRange.lineNumbers = ranges.map fun range =>
        (movedNumber 3 ["", "a\r"].length range.first.toNat,
          movedNumber 3 ["", "a\r"].length range.last.toNat) :=
  have habove : 3 ≤ (Text.lines Text.tangled).length := by decide
  have hinserted : ∀ line ∈ ["", "a\r"], '\n' ∉ line.toList ∧
      LineTest.braces.opens line = false ∧ LineTest.braces.closes line = false := by decide
  have hsize : (Text.insertLines Text.tangled 3 ["", "a\r"]).utf8ByteSize < 2 ^ 63 := by decide
  ⟨habove, hinserted, hsize,
    findBlocks_insertLines Text.tangled .braces 3 ["", "a\r"] habove hinserted hsize⟩

example : findBlocks (Text.insertLines Text.tangled 3 ["", "a\r"]) .braces 0 =
    .ok [{ first := 1, last := 2 }, { first := 3, last := 8 }] := by decide

end BlockFolding

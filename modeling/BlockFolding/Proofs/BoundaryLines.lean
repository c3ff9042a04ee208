import BlockFolding.Proofs.GreedyBlocks

/-
  Boundary lines

  What is found in a text depends on the lines at which the ranges found begin and end, and on no
  other (`findBlocks_keepBoundaries`). All other lines may be replaced at once by one that neither
  opens nor closes a block: those inside the blocks, those between them, the lines of blocks too
  short to be reported and a block at the end that nothing closes.

  A scan of the text that is left goes through other states than a scan of the text did. The
  argument is about blocks: on lines of which only the first and the last ones of some blocks pass a
  test, those blocks are the greedy ones (`GreedyBlocks.of_ends`).
-/

namespace BlockFolding

/-- Whether one of the ranges begins or ends at the line with the number. -/
def isBoundary (ranges : List LineRange) (number : Nat) : Bool :=
  ranges.any fun range => range.first.toNat = number || range.last.toNat = number

/-- The lines with a filler in place of each that is no boundary of the ranges. -/
def keepBoundaries (ranges : List LineRange) (filler : String) (lines : List String) :
    List String :=
  lines.mapIdx fun index line => if isBoundary ranges (index + 1) then line else filler

/-- The text with a filler in place of each line that is no boundary of the ranges. -/
def Text.keepBoundaries (source : String) (ranges : List LineRange) (filler : String) : String :=
  "\n".intercalate (BlockFolding.keepBoundaries ranges filler (lines source))

/-! ## Lines that pass no test but at the ends of blocks -/

section
variable {test : LineTest} {lines : List String}

/-- Blocks in order are the greedy ones, if their first lines open, their last lines close, and no
other line does either. -/
theorem GreedyBlocks.of_ends {start : Nat} {blocks : List Block}
    (hwithin : ∀ b ∈ blocks, start ≤ b.opening ∧ b.opening < b.closing)
    (hpairwise : blocks.Pairwise fun a b => a.closing < b.opening)
    (hpasses : ∀ b ∈ blocks, passesAt test.opens lines b.opening = true ∧
      passesAt test.closes lines b.closing = true)
    (hfails : ∀ i, start ≤ i → (∀ b ∈ blocks, b.opening ≠ i ∧ b.closing ≠ i) →
      passesAt test.opens lines i = false ∧ passesAt test.closes lines i = false) :
    GreedyBlocks test lines start blocks := by
  induction blocks generalizing start with
  | nil => exact .unopened fun i hi => (hfails i hi nofun).1
  | cons block later ih =>
    obtain ⟨⟨hstart, hbelow⟩, hwithin⟩ := List.forall_mem_cons.1 hwithin
    obtain ⟨hnext, hpairwise⟩ := List.pairwise_cons.1 hpairwise
    obtain ⟨⟨hopens, hcloses⟩, hpasses⟩ := List.forall_mem_cons.1 hpasses
    -- The later blocks are below the block, so nothing above its end is an end of theirs.
    have hfails_above (i : Nat) (hi : start ≤ i) (hlt : i < block.closing)
        (hne : block.opening ≠ i) :
        passesAt test.opens lines i = false ∧ passesAt test.closes lines i = false := by
      apply hfails i hi
      refine List.forall_mem_cons.2 ⟨⟨hne, by omega⟩, ?_⟩
      intro b hb
      have hbelow_block := hnext b hb
      have hlast := (hwithin b hb).2
      exact ⟨by omega, by omega⟩
    have hopening : IsLeastFrom test.opens lines start block.opening :=
      ⟨hstart, hopens, fun i hi hlt => (hfails_above i hi (by omega) (by omega)).1⟩
    have hclosing : IsLeastFrom test.closes lines (block.opening + 1) block.closing :=
      ⟨hbelow, hcloses, fun i hi hlt => (hfails_above i (by omega) hlt (by omega)).2⟩
    refine .block hopening hclosing (ih ?_ hpairwise hpasses ?_)
    · intro b hb
      exact ⟨hnext b hb, (hwithin b hb).2⟩
    · intro i hi hne
      exact hfails i (by omega) (List.forall_mem_cons.2 ⟨⟨by omega, by omega⟩, hne⟩)

/-! ## Filled lines -/

variable {ranges : List LineRange} {filler : String}

theorem passesAt_keepBoundaries {passing : String → Bool} (hfiller : passing filler = false)
    (i : Nat) : passesAt passing (keepBoundaries ranges filler lines) i =
      (isBoundary ranges (i + 1) && passesAt passing lines i) := by
  rw [passesAt, passesAt, keepBoundaries, List.getElem?_mapIdx, Option.any_map]
  cases lines[i]? with
  | none => exact (Bool.and_false _).symm
  | some line =>
    simp only [Option.any_some]
    split
    · rename_i hboundary
      rw [hboundary, Bool.true_and]
    · rename_i hinside
      rw [hfiller, Bool.eq_false_iff.2 hinside, Bool.false_and]

theorem GreedyBlocks.isBoundary_iff {blocks reported : List Block}
    (h : GreedyBlocks test lines 0 blocks) (hlines : lines.length < 2 ^ 64)
    (hreported : ∀ b ∈ reported, b ∈ blocks) (i : Nat) :
    isBoundary (reported.map Block.range) (i + 1) = true ↔
      ∃ b ∈ reported, b.opening = i ∨ b.closing = i := by
  rw [isBoundary, List.any_map, List.any_eq_true]
  apply exists_congr
  intro b
  apply and_congr_right
  intro hb
  obtain ⟨hfirst, hlast⟩ := Prod.mk.inj (h.lineNumbers_range hlines (hreported b hb))
  simp only [Function.comp_apply, hfirst, hlast, Bool.or_eq_true, decide_eq_true_eq,
    Nat.add_right_cancel_iff]

/-- The greedy blocks of lines filled outside the boundaries of some of their blocks are those. -/
theorem GreedyBlocks.keepBoundaries {blocks reported : List Block}
    (h : GreedyBlocks test lines 0 blocks) (hlines : lines.length < 2 ^ 64)
    (hreported : reported.Sublist blocks) (hopens : test.opens filler = false)
    (hcloses : test.closes filler = false) :
    GreedyBlocks test (keepBoundaries (reported.map Block.range) filler lines) 0 reported := by
  have hboundary := h.isBoundary_iff hlines fun _ hb => hreported.subset hb
  apply GreedyBlocks.of_ends
  · intro b hb
    exact ⟨Nat.zero_le _, (h.within b (hreported.subset hb)).2.1⟩
  · exact h.pairwise.sublist hreported
  · intro b hb
    have hpasses := h.passes b (hreported.subset hb)
    rw [passesAt_keepBoundaries hopens, passesAt_keepBoundaries hcloses,
      (hboundary b.opening).2 ⟨b, hb, .inl rfl⟩, (hboundary b.closing).2 ⟨b, hb, .inr rfl⟩]
    exact hpasses
  · intro i _ hne
    have hinside : isBoundary (reported.map Block.range) (i + 1) = false := by
      rw [Bool.eq_false_iff, Ne, hboundary]
      rintro ⟨b, hb, hend⟩
      exact hend.elim (hne b hb).1 (hne b hb).2
    rw [passesAt_keepBoundaries hopens, passesAt_keepBoundaries hcloses, hinside]
    exact ⟨rfl, rfl⟩

end

/-! ## Filled texts -/

theorem length_keepBoundaries (ranges : List LineRange) (filler : String) (lines : List String) :
    (keepBoundaries ranges filler lines).length = lines.length :=
  List.length_mapIdx

theorem Text.lines_keepBoundaries (source : String) (ranges : List LineRange) {filler : String}
    (hfiller : '\n' ∉ filler.toList) :
    lines (keepBoundaries source ranges filler) =
      BlockFolding.keepBoundaries ranges filler (lines source) := by
  apply lines_intercalate
  · apply List.ne_nil_of_length_pos
    rw [length_keepBoundaries]
    exact List.length_pos_of_ne_nil (lines_ne_nil source)
  · intro line hline
    obtain ⟨index, hindex, rfl⟩ := List.mem_mapIdx.1 hline
    split
    · exact newline_not_mem_line (List.getElem_mem hindex)
    · exact hfiller

/-- What is found in a text depends on the boundary lines of the ranges found alone. With a line
that neither opens nor closes a block in place of every other line, the same ranges are found. -/
theorem findBlocks_keepBoundaries (source : String) (test : LineTest) (threshold : Word)
    (filler : String) (h : source.utf8ByteSize < 2 ^ 63) (hnewline : '\n' ∉ filler.toList)
    (hopens : test.opens filler = false) (hcloses : test.closes filler = false) :
    ∃ ranges, findBlocks source test threshold = .ok ranges ∧
      (∀ index, (Text.lines (Text.keepBoundaries source ranges filler))[index]? =
        (Text.lines source)[index]?.map fun line =>
          if ∃ range ∈ ranges, range.first.toNat = index + 1 ∨ range.last.toNat = index + 1 then
            line
          else filler) ∧
      findBlocks (Text.keepBoundaries source ranges filler) test threshold = .ok ranges := by
  obtain ⟨blocks, hblocks, hfound⟩ := findBlocks_eq_greedy test threshold h
  have hlines := Text.length_lines_lt h
  have hkept := hblocks.keepBoundaries hlines
    (List.filter_sublist (p := (·.exceeds threshold))) hopens hcloses
  have hfilled := Text.lines_keepBoundaries source
    ((blocks.filter (·.exceeds threshold)).map Block.range) hnewline
  refine ⟨_, hfound, ?_, ?_⟩
  · intro index
    rw [hfilled, keepBoundaries, List.getElem?_mapIdx]
    simp only [isBoundary, List.any_eq_true, Bool.or_eq_true, decide_eq_true_eq]
  · have hlength := length_keepBoundaries
      ((blocks.filter (·.exceeds threshold)).map Block.range) filler (Text.lines source)
    rw [← hfilled] at hlength hkept
    obtain ⟨others, hothers, hfound'⟩ :=
      findBlocks_eq_greedy_of_length test threshold (hlength.symm ▸ hlines)
    -- The blocks that are left exceed the threshold, so all of them are reported.
    rw [hfound', hothers.unique hkept, List.filter_filter]
    simp only [Bool.and_self]

theorem findBlocks_keepBoundaries_tangled :
    Text.tangled.utf8ByteSize < 2 ^ 63 ∧ '\n' ∉ "x😀\r".toList ∧
    LineTest.braces.opens "x😀\r" = false ∧ LineTest.braces.closes "x😀\r" = false ∧
    ∃ ranges, findBlocks Text.tangled .braces 1 = .ok ranges ∧
      (∀ index, (Text.lines (Text.keepBoundaries Text.tangled ranges "x😀\r"))[index]? =
        (Text.lines Text.tangled)[index]?.map fun line =>
          if ∃ range ∈ ranges, range.first.toNat = index + 1 ∨ range.last.toNat = index + 1 then
            line
          else "x😀\r") ∧
      findBlocks (Text.keepBoundaries Text.tangled ranges "x😀\r") .braces 1 = .ok ranges :=
  have hnewline : '\n' ∉ "x😀\r".toList := by decide
  have hopens : LineTest.braces.opens "x😀\r" = false := by decide
  have hcloses : LineTest.braces.closes "x😀\r" = false := by decide
  ⟨Text.tangled_byteSize, hnewline, hopens, hcloses,
    findBlocks_keepBoundaries Text.tangled .braces 1 "x😀\r" Text.tangled_byteSize hnewline hopens
      hcloses⟩

example : Text.keepBoundaries Text.tangled [{ first := 3, last := 6 }] "x" =
    "x\nx\n\x7b\nx\nx\né\x7b\x7d\nx\nx" := by decide

end BlockFolding

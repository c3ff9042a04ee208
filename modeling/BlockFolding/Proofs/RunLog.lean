import Mathlib.Order.WellFounded
import BlockFolding.Proofs.RunFailure

/-
  The log of a run

  A run that finds blocks logs what it prints (`log_mirrors_plan`). Of the part of the program that
  scans there is a record for each region of the plan, in the order of the plan, and at most one
  more: for a block that is never closed. Which block that is the state after the last line knows,
  so it comes with the greedy blocks themselves, also those too short to be reported: it is the one
  that the least line below all of them opens. The count of blocks and lines comes after these
  records, and the warning about a text that is not printed, if there is one, comes last.
-/

namespace BlockFolding

namespace Run

/-- What a scan logs for a block that is a region of the plan. -/
def foundMessage (region : FoldingRegion) : String :=
  "large block at lines " ++ toString region.first.toNat ++ "-" ++ toString region.last.toNat

/-- What a scan logs for a block that the line with the number opened and none closed. -/
def droppedMessage (number : Nat) : String :=
  "block opened at line " ++ toString number ++ " never closed; dropped"

theorem messages_scanOf (source : String) (pair : Option PatternPair) :
    (scanOf source pair).messages =
      (planOf source pair).regions.map foundMessage ++
        (scanOf source pair).final.leftOpen.toList.map fun index => droppedMessage (index + 1) := by
  simp only [Scan.messages, planOf, FoldPlan.ofRanges, List.map_map]
  congr 1
  cases (scanOf source pair).final with
  | searching => rfl
  | spanOpen openIndex => rfl

/-- What a run that finds blocks logs before it counts them. -/
def recordsBeforeCount (source : String) (settings : Settings) (pair : Option PatternPair) :
    List Log.Record :=
  ⟨.debug, runTarget, "config: " ++ settings.describe⟩ :: (patternRecords pair ++
    (scanOf source pair).messages.map (⟨.debug, scanTarget, ·⟩))

section
variable {source : String} {settings : Settings} {pair : Option PatternPair}

theorem level_recordsBeforeCount :
    ∀ record ∈ recordsBeforeCount source settings pair, record.level = .debug := by
  intro record hrecord
  simp only [recordsBeforeCount, List.mem_cons, List.mem_append, List.mem_map] at hrecord
  rcases hrecord with rfl | hpattern | ⟨message, -, rfl⟩
  · rfl
  · cases pair with
    | none => contradiction
    | some pair => rw [List.mem_singleton.1 hpattern]
  · rfl

theorem runTarget_ne_scanTarget : runTarget ≠ scanTarget := by decide

theorem filter_recordsBeforeCount :
    (recordsBeforeCount source settings pair).filter (·.target = scanTarget) =
      (scanOf source pair).messages.map (⟨.debug, scanTarget, ·⟩) := by
  have hpatterns : (patternRecords pair).filter (·.target = scanTarget) = [] := by
    cases pair with
    | none => rfl
    | some pair => simp [patternRecords, runTarget_ne_scanTarget]
  simp [recordsBeforeCount, hpatterns, runTarget_ne_scanTarget, List.filter_map, Function.comp_def]

variable (source settings pair) in
/-- What a run that finds blocks logs: what comes before the count, the count, and a warning if the
text was to be printed with the plan as JSON. -/
theorem records_eq_append :
    (⟨.debug, runTarget, "config: " ++ settings.describe⟩ :: recordsOf source settings pair :
      List Log.Record) =
      recordsBeforeCount source settings pair ++
        [⟨.info, runTarget, toString (planOf source pair).regions.length ++
          " large block(s) found in " ++ Sample.language ++ " sample (" ++
          toString (Text.newlines source + 1) ++ " lines)"⟩] ++
        if settings.format = .json ∧ settings.showSource then
          [⟨.warn, runTarget, "--show-source is ignored with JSON output"⟩] else [] := by
  rw [← Text.length_lines]
  rfl

end

/-- The ranges of a scan are those of the greedy blocks that are large, and the block that it leaves
open is the one that the least line below them opens. -/
theorem scanOf_greedy {source : String} (pair : Option PatternPair)
    (h : source.utf8ByteSize < 2 ^ 63) :
    ∃ blocks, GreedyBlocks (lineTest pair) (Text.lines source) 0 blocks ∧
      (scanOf source pair).ranges = (blocks.filter (·.exceeds largeThreshold)).map Block.range ∧
      ∀ opening, (scanOf source pair).final.leftOpen = some opening ↔
        IsLeast (openingsBelow (lineTest pair) (Text.lines source) 0 blocks) opening :=
  unchecked_lines_greedy (lineTest pair) largeThreshold (Text.length_lines_lt h)

end Run

theorem GreedyBlocks.last_range_le {test : LineTest} {lines : List String} {start opening : Nat}
    {blocks : List Block} (h : GreedyBlocks test lines start blocks)
    (hlines : lines.length < 2 ^ 64)
    (hopening : IsLeast (openingsBelow test lines start blocks) opening) {block : Block}
    (hblock : block ∈ blocks) : block.range.last.toNat ≤ opening := by
  have hlast : block.range.last.toNat = block.closing + 1 :=
    congrArg Prod.snd (h.lineNumbers_range hlines hblock)
  rw [hlast]
  exact hopening.1.2.1 block hblock

theorem isSome_iff_nonempty {found : Option Nat} {indices : Set Nat}
    (h : ∀ index, found = some index ↔ IsLeast indices index) :
    found.isSome ↔ indices.Nonempty := by
  rw [Option.isSome_iff_exists]
  constructor
  · rintro ⟨index, hindex⟩
    exact ⟨index, ((h index).1 hindex).1⟩
  · intro hindices
    obtain ⟨least, hmem, hleast⟩ := wellFounded_lt.has_min indices hindices
    exact ⟨least, (h least).2 ⟨hmem, fun index hindex => Nat.le_of_not_lt (hleast index hindex)⟩⟩

/-- What a run that finds blocks logs is what it finds. The records of its scan are one for each
region of the plan and, if a line opens below all blocks, closed and reported or not, one for the
first such line. The number of regions and of lines is logged after them, and last of all a warning
if the text was to be printed with the plan as JSON. -/
theorem log_mirrors_plan (source : String) {settings : Settings} {compiler : Pattern.Compiler}
    (h : source.utf8ByteSize < 2 ^ 63) (hfinds : settings.FindsBlocks compiler) :
    ∃ outcome pair ranges plan blocks dropped before warnings,
      runOn source settings compiler = .ok outcome ∧
      Run.patterns? settings compiler = .ok pair ∧
      findBlocks source (Run.lineTest pair) largeThreshold = .ok ranges ∧
      FoldPlan.build source ranges = .ok plan ∧
      GreedyBlocks (Run.lineTest pair) (Text.lines source) 0 blocks ∧
      outcome.records.filter (·.target = Run.scanTarget) =
        (plan.regions.map Run.foundMessage ++
          dropped.toList.map fun index => Run.droppedMessage (index + 1)).map
            (⟨.debug, Run.scanTarget, ·⟩) ∧
      (dropped.isSome ↔ (openingsBelow (Run.lineTest pair) (Text.lines source) 0 blocks).Nonempty) ∧
      (∀ index, dropped = some index ↔
        IsLeast (openingsBelow (Run.lineTest pair) (Text.lines source) 0 blocks) index) ∧
      (∀ index ∈ dropped, ∀ region ∈ plan.regions, region.last.toNat < index + 1) ∧
      outcome.records = before ++
        [⟨.info, Run.runTarget, toString plan.regions.length ++ " large block(s) found in " ++
          Sample.language ++ " sample (" ++ toString (Text.newlines source + 1) ++ " lines)"⟩] ++
        warnings ∧
      (∀ record ∈ before, record.level = .debug) ∧
      warnings = (if settings.format = .json ∧ settings.showSource then
        [⟨.warn, Run.runTarget, "--show-source is ignored with JSON output"⟩] else []) ∧
      ((∃ record ∈ outcome.records, record.level = .warn) ↔
        settings.format = .json ∧ settings.showSource) := by
  obtain ⟨pair, hpair⟩ := hfinds.patterns_eq
  obtain ⟨text, -, -, hrun⟩ := runOn_eq_printed source h hfinds.no_column hpair
  obtain ⟨blocks, hblocks, hranges, hleft⟩ := Run.scanOf_greedy pair h
  have hrecords := Run.records_eq_append source settings pair
  have hbefore : ∀ record ∈ Run.recordsBeforeCount source settings pair, record.level = .debug :=
    Run.level_recordsBeforeCount
  refine ⟨_, pair, _, _, blocks, (Run.scanOf source pair).final.leftOpen,
    Run.recordsBeforeCount source settings pair, _, hrun, hpair, Run.findBlocks_scanOf pair h,
    Run.build_planOf pair h, hblocks, ?_, isSome_iff_nonempty hleft, hleft, ?_, hrecords, hbefore,
    rfl, ?_⟩
  · rw [hrecords, List.filter_append, List.filter_append, Run.filter_recordsBeforeCount,
      Run.messages_scanOf]
    split <;> simp [Run.runTarget_ne_scanTarget]
  · intro index hindex region hregion
    obtain ⟨range, hrange, rfl⟩ := List.mem_map.1 hregion
    rw [hranges] at hrange
    obtain ⟨block, hblock, rfl⟩ := List.mem_map.1 hrange
    have hle := hblocks.last_range_le (Text.length_lines_lt h) ((hleft index).1 hindex)
      (List.mem_of_mem_filter hblock)
    exact Nat.lt_succ_of_le hle
  · have hnone : ¬ ∃ record ∈ Run.recordsBeforeCount source settings pair,
        record.level = .warn := by
      rintro ⟨record, hrecord, hwarn⟩
      rw [hbefore record hrecord] at hwarn
      contradiction
    rw [hrecords]
    simp only [List.mem_append, or_and_right, exists_or, hnone, false_or]
    split <;> simp [*]

/-- Settings that ask for JSON and for the text along with it, and a pattern for one side. -/
def Settings.overloaded : Settings :=
  { format := .json, showSource := true, openPattern := some "^\\S+$" }

theorem log_mirrors_plan_rambling :
    Text.rambling.utf8ByteSize < 2 ^ 63 ∧ Settings.overloaded.FindsBlocks .direct ∧
    ∃ outcome pair ranges plan blocks dropped before warnings,
      runOn Text.rambling .overloaded .direct = .ok outcome ∧
      Run.patterns? .overloaded .direct = .ok pair ∧
      findBlocks Text.rambling (Run.lineTest pair) largeThreshold = .ok ranges ∧
      FoldPlan.build Text.rambling ranges = .ok plan ∧
      GreedyBlocks (Run.lineTest pair) (Text.lines Text.rambling) 0 blocks ∧
      outcome.records.filter (·.target = Run.scanTarget) =
        (plan.regions.map Run.foundMessage ++
          dropped.toList.map fun index => Run.droppedMessage (index + 1)).map
            (⟨.debug, Run.scanTarget, ·⟩) ∧
      (dropped.isSome ↔
        (openingsBelow (Run.lineTest pair) (Text.lines Text.rambling) 0 blocks).Nonempty) ∧
      (∀ index, dropped = some index ↔
        IsLeast (openingsBelow (Run.lineTest pair) (Text.lines Text.rambling) 0 blocks) index) ∧
      (∀ index ∈ dropped, ∀ region ∈ plan.regions, region.last.toNat < index + 1) ∧
      outcome.records = before ++
        [⟨.info, Run.runTarget, toString plan.regions.length ++ " large block(s) found in " ++
          Sample.language ++ " sample (" ++ toString (Text.newlines Text.rambling + 1) ++
          " lines)"⟩] ++ warnings ∧
      (∀ record ∈ before, record.level = .debug) ∧
      warnings = (if Settings.overloaded.format = .json ∧ Settings.overloaded.showSource then
        [⟨.warn, Run.runTarget, "--show-source is ignored with JSON output"⟩] else []) ∧
      ((∃ record ∈ outcome.records, record.level = .warn) ↔
        Settings.overloaded.format = .json ∧ Settings.overloaded.showSource) :=
  have hfinds : Settings.overloaded.FindsBlocks .direct := ⟨rfl, by decide, rfl⟩
  ⟨Text.rambling_byteSize, hfinds, log_mirrors_plan Text.rambling Text.rambling_byteSize hfinds⟩

end BlockFolding

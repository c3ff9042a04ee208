import BlockFolding.Proofs.ReportEntries
import BlockFolding.Run

/-
  Runs end without overflow

  On a text below 2^63 bytes no run meets an overflow. A scan does not, and the ranges it reports
  are stacked: none begins at line 0, so the plan for them is built, and each is counted, so the
  report of the plan is written. What a run that finds blocks logs and prints is then a matter of
  its scan and its plan alone (`runOn_eq_printed`).
-/

namespace BlockFolding

/-- The lines of the region are counted without overflow. -/
def FoldingRegion.Counted (region : FoldingRegion) : Prop :=
  ∃ count, LineRange.lineCount { first := region.first, last := region.last } = .ok count

namespace FoldPlan

/-- The report of a plan whose regions are counted is written. -/
theorem report_total {plan : FoldPlan} (hcounted : ∀ region ∈ plan.regions, region.Counted) :
    ∃ text, plan.report = .ok text := by
  rw [exists_eq_ok_iff]
  intro overflow hoverflow
  obtain ⟨place, region, hregion, hfails, -⟩ := report_eq_error.1 hoverflow
  obtain ⟨count, hcount⟩ :=
    hcounted region (List.mem_of_mem_take (List.mem_of_getElem? hregion))
  rw [LineRange.lineCount_eq_error.2 hfails] at hcount
  contradiction

end FoldPlan

theorem Stacked.counted_regions {threshold : Word} {count : Nat} {ranges : List LineRange}
    (h : Stacked threshold count 0 ranges) (lines : List String) :
    ∀ region ∈ (FoldPlan.ofRanges lines 0 ranges).regions, region.Counted := by
  intro region hregion
  obtain ⟨range, hrange, rfl⟩ := List.mem_map.1 hregion
  obtain ⟨hfirst, hlong, -⟩ := h.bounds range hrange
  obtain ⟨count, hcount, -⟩ := range.lineCount_total hfirst (by omega)
  exact ⟨count, hcount⟩

namespace Run

theorem print_json (source : String) {settings : Settings} (hformat : settings.format = .json)
    (plan : FoldPlan) : print source settings plan = .ok plan.toJson.pretty := by
  rw [print, hformat]

theorem print_total (source : String) {plan : FoldPlan} (settings : Settings)
    (hcounted : ∀ region ∈ plan.regions, region.Counted) :
    ∃ text, print source settings plan = .ok text := by
  cases hformat : settings.format with
  | json => exact ⟨_, print_json source hformat plan⟩
  | text =>
    obtain ⟨report, hreport⟩ := FoldPlan.report_total hcounted
    simp only [print, hformat, wordsUntrimmed, hreport, ok_bind]
    exact ⟨_, rfl⟩

/-- The scan that a run makes of a text, with no sum or difference checked. -/
def scanOf (source : String) (pair : Option PatternPair) : Scan :=
  Scan.unchecked (lineTest pair) largeThreshold .searching 0 (Text.lines source)

/-- The plan that a run makes for a text. -/
def planOf (source : String) (pair : Option PatternPair) : FoldPlan :=
  FoldPlan.ofRanges (Text.lines source) 0 (scanOf source pair).ranges

/-- What a run that finds blocks logs. -/
def recordsOf (source : String) (settings : Settings) (pair : Option PatternPair) :
    List Log.Record :=
  patternRecords pair ++ (scanOf source pair).messages.map (⟨.debug, scanTarget, ·⟩) ++
    [countRecord source (planOf source pair)] ++
    if settings.format = .json ∧ settings.showSource then [ignoredRecord] else []

section
variable {source : String} (pair : Option PatternPair) (h : source.utf8ByteSize < 2 ^ 63)
include h

theorem findBlocks_scanOf :
    findBlocks source (lineTest pair) largeThreshold = .ok (scanOf source pair).ranges :=
  findBlocks_eq_unchecked (lineTest pair) largeThreshold h

theorem stacked_scanOf :
    Stacked largeThreshold (Text.lines source).length 0 (scanOf source pair).ranges := by
  obtain ⟨ranges, hranges, hstacked⟩ := findBlocks_eq_stacked (lineTest pair) largeThreshold h
  rw [findBlocks_scanOf pair h, Except.ok.injEq] at hranges
  rw [hranges]
  exact hstacked

theorem build_planOf :
    FoldPlan.build source (scanOf source pair).ranges = .ok (planOf source pair) :=
  (stacked_scanOf pair h).build_eq source

theorem report_planOf : ∃ report, (planOf source pair).report = .ok report :=
  FoldPlan.report_total ((stacked_scanOf pair h).counted_regions (Text.lines source))

/-- A run that finds blocks in a text that fits in memory prints a text for the plan of its scan. -/
theorem printBlocks_eq (settings : Settings) :
    ∃ text, print source settings (planOf source pair) = .ok text ∧
      printBlocks source settings pair = .ok (recordsOf source settings pair, text) := by
  obtain ⟨text, htext⟩ :=
    print_total source settings ((stacked_scanOf pair h).counted_regions (Text.lines source))
  have hscan : Scan.ofText source (lineTest pair) largeThreshold = .ok (scanOf source pair) :=
    Scan.ofText_eq_unchecked (lineTest pair) largeThreshold h
  refine ⟨text, htext, ?_⟩
  simp only [printBlocks, hscan, build_planOf pair h, planOf, htext, ok_bind]
  rfl

end

end Run

/-! ## How a run ends -/

section
variable (source : String) {settings : Settings} {compiler : Pattern.Compiler}

theorem runOn_eq_column {index : Int64} (hcolumn : settings.columnOf = some index) :
    runOn source settings compiler = .ok {
      records := [⟨.debug, Run.runTarget, "config: " ++ settings.describe⟩,
        ⟨.debug, Run.runTarget, "end column of line index " ++ Settings.intText index ++ ": " ++
          toString (endColumnSigned source index).toNat⟩]
      result := .ok (toString (endColumnSigned source index).toNat) } := by
  simp only [runOn, hcolumn]

theorem runOn_column {index : Int64} (hcolumn : settings.columnOf = some index) :
    ∃ outcome, runOn source settings compiler = .ok outcome ∧
      outcome.result = .ok (toString (endColumnSigned source index).toNat) :=
  ⟨_, runOn_eq_column source hcolumn, rfl⟩

theorem runOn_eq_refused {failure : Failure} (hcolumn : settings.columnOf = none)
    (hpatterns : Run.patterns? settings compiler = .error failure) :
    runOn source settings compiler = .ok {
      records := [⟨.debug, Run.runTarget, "config: " ++ settings.describe⟩]
      result := .error failure } := by
  simp only [runOn, hcolumn, hpatterns]

theorem runOn_refused {failure : Failure} (hcolumn : settings.columnOf = none)
    (hpatterns : Run.patterns? settings compiler = .error failure) :
    ∃ outcome, runOn source settings compiler = .ok outcome ∧ outcome.result = .error failure :=
  ⟨_, runOn_eq_refused source hcolumn hpatterns, rfl⟩

/-- A run that finds blocks logs the settings and what it finds, and prints the plan. -/
theorem runOn_eq_printed {pair : Option PatternPair} (h : source.utf8ByteSize < 2 ^ 63)
    (hcolumn : settings.columnOf = none) (hpatterns : Run.patterns? settings compiler = .ok pair) :
    ∃ text, Run.print source settings (Run.planOf source pair) = .ok text ∧
      Run.printBlocks source settings pair = .ok (Run.recordsOf source settings pair, text) ∧
      runOn source settings compiler = .ok {
        records := ⟨.debug, Run.runTarget, "config: " ++ settings.describe⟩ ::
          Run.recordsOf source settings pair
        result := .ok text } := by
  obtain ⟨text, htext, hprint⟩ := Run.printBlocks_eq pair h settings
  refine ⟨text, htext, hprint, ?_⟩
  simp only [runOn, hcolumn, hpatterns, hprint, ok_bind]
  rfl

theorem runOn_of_print {pair : Option PatternPair} {text : String}
    (h : source.utf8ByteSize < 2 ^ 63) (hcolumn : settings.columnOf = none)
    (hpatterns : Run.patterns? settings compiler = .ok pair)
    (htext : Run.print source settings (Run.planOf source pair) = .ok text) :
    runOn source settings compiler = .ok {
      records := ⟨.debug, Run.runTarget, "config: " ++ settings.describe⟩ ::
        Run.recordsOf source settings pair
      result := .ok text } := by
  obtain ⟨printed, hprinted, -, hrun⟩ := runOn_eq_printed source h hcolumn hpatterns
  rw [htext, Except.ok.injEq] at hprinted
  rw [hrun, hprinted]

theorem runOn_printed {pair : Option PatternPair} (h : source.utf8ByteSize < 2 ^ 63)
    (hcolumn : settings.columnOf = none) (hpatterns : Run.patterns? settings compiler = .ok pair) :
    ∃ outcome text, runOn source settings compiler = .ok outcome ∧ outcome.result = .ok text ∧
      (Run.printBlocks source settings pair).map Prod.snd = .ok text := by
  obtain ⟨text, -, hprint, hrun⟩ := runOn_eq_printed source h hcolumn hpatterns
  refine ⟨_, text, hrun, rfl, ?_⟩
  rw [hprint]
  rfl

theorem runOn_total (settings : Settings) (h : source.utf8ByteSize < 2 ^ 63) :
    ∃ outcome, runOn source settings compiler = .ok outcome := by
  cases hcolumn : settings.columnOf with
  | some index =>
    obtain ⟨outcome, hrun, -⟩ := runOn_column source hcolumn
    exact ⟨outcome, hrun⟩
  | none =>
    cases hpatterns : Run.patterns? settings compiler with
    | error failure => exact ⟨_, runOn_eq_refused source hcolumn hpatterns⟩
    | ok pair =>
      obtain ⟨_, -, -, hrun⟩ := runOn_eq_printed source h hcolumn hpatterns
      exact ⟨_, hrun⟩

end

end BlockFolding

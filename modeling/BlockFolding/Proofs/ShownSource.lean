import BlockFolding.Proofs.PlanOutputs
import BlockFolding.Proofs.RunLog

/-
  Printing the text along with its plan

  A run may be asked to print the text, as a listing, in front of the report of its plan. What that
  changes is told by comparing two runs that differ in nothing else (`runOn_withSource`). A run that
  prints an end column or is refused a pattern never gets to it. A run that prints JSON says in the
  last record of its log that the text is left out. A run that prints words puts the listing in
  front of what it would print without it. What is cut off at the end does not depend on the text,
  although that may end in blanks of any kind: the report comes behind it and ends in a rule, so the
  blanks cut off are the line end of that rule.
-/

namespace BlockFolding

/-- The settings with the text printed along with the plan, or without it. -/
def Settings.withSource (settings : Settings) (shown : Bool) : Settings :=
  { settings with showSource := shown }

section
variable (settings : Settings) (compiler : Pattern.Compiler) (shown : Bool)

theorem Settings.format_withSource : (settings.withSource shown).format = settings.format := rfl

theorem Settings.columnOf_withSource : (settings.withSource shown).columnOf = settings.columnOf :=
  rfl

theorem Run.patterns?_withSource :
    patterns? (settings.withSource shown) compiler = patterns? settings compiler :=
  rfl

end

namespace Run

/-- The record that a run with the settings begins with. -/
def startRecord (settings : Settings) : Log.Record :=
  ⟨.debug, runTarget, "config: " ++ settings.describe⟩

section
variable {source : String} {settings : Settings} {compiler : Pattern.Compiler}
  {pair : Option PatternPair}

/-- Before the blanks at its end are cut off, what a run prints in words is the report of its plan,
behind the listing if that is asked for: all of it but a last line end. -/
theorem wordsUntrimmed_eq {plan : FoldPlan} {report : String} (hreport : plan.report = .ok report)
    (shown : Bool) :
    wordsUntrimmed source shown plan =
      .ok ((if shown then plan.listing source else "") ++ Text.trimEnd report ++ "\n") := by
  rw [String.append_assoc, FoldPlan.trimEnd_report_alone hreport]
  simp only [wordsUntrimmed, hreport, ok_bind]
  rfl

/-- What a run that finds blocks logs after its settings, if the text is not asked for. -/
def recordsWithoutSource (source : String) (pair : Option PatternPair) : List Log.Record :=
  patternRecords pair ++ (scanOf source pair).messages.map (⟨.debug, scanTarget, ·⟩) ++
    [countRecord source (planOf source pair)]

theorem recordsOf_withSource (shown : Bool) :
    recordsOf source (settings.withSource shown) pair =
      recordsWithoutSource source pair ++
        if settings.format = .json ∧ shown then [ignoredRecord] else [] :=
  rfl

theorem runOn_eq_withSource {shown : Bool} {text : String} (h : source.utf8ByteSize < 2 ^ 63)
    (hcolumn : settings.columnOf = none) (hpatterns : patterns? settings compiler = .ok pair)
    (htext : print source (settings.withSource shown) (planOf source pair) = .ok text) :
    runOn source (settings.withSource shown) compiler = .ok {
      records := startRecord (settings.withSource shown) :: (recordsWithoutSource source pair ++
        if settings.format = .json ∧ shown then [ignoredRecord] else [])
      result := .ok text } := by
  rw [← settings.columnOf_withSource shown] at hcolumn
  rw [← patterns?_withSource settings compiler shown] at hpatterns
  rw [runOn_of_print source h hcolumn hpatterns htext, recordsOf_withSource]
  rfl

end

/-! ## The ways that a run goes -/

section
variable (source : String) {settings : Settings} {compiler : Pattern.Compiler}

/-- A run that does not find blocks gives and logs the same, but for the settings, whether the text
is asked for or not. -/
theorem withSource_unplanned (hfinds : ¬ settings.FindsBlocks compiler) : ∃ log result, ∀ shown,
    runOn source (settings.withSource shown) compiler = .ok {
      records := startRecord (settings.withSource shown) :: log, result } := by
  cases hcolumn : settings.columnOf with
  | some index =>
    exact ⟨_, _, fun shown =>
      runOn_eq_column source ((settings.columnOf_withSource shown).trans hcolumn)⟩
  | none =>
    cases hpatterns : patterns? settings compiler with
    | error failure =>
      exact ⟨[], _, fun shown =>
        runOn_eq_refused source ((settings.columnOf_withSource shown).trans hcolumn)
          ((patterns?_withSource settings compiler shown).trans hpatterns)⟩
    | ok pair =>
      obtain ⟨hopening, hclosing⟩ := Settings.accepted_of_patterns hpatterns
      exact absurd ⟨hcolumn, hopening, hclosing⟩ hfinds

variable {source} (h : source.utf8ByteSize < 2 ^ 63) (hfinds : settings.FindsBlocks compiler)
include h hfinds

theorem withSource_json (hformat : settings.format = .json) : ∃ log text, ∀ shown,
    runOn source (settings.withSource shown) compiler = .ok {
      records := startRecord (settings.withSource shown) ::
        (log ++ if shown then [ignoredRecord] else [])
      result := .ok text } := by
  obtain ⟨pair, hpair⟩ := hfinds.patterns_eq
  refine ⟨recordsWithoutSource source pair, (planOf source pair).toJson.pretty, ?_⟩
  intro shown
  have htext : print source (settings.withSource shown) (planOf source pair) =
      .ok (planOf source pair).toJson.pretty :=
    print_json source ((settings.format_withSource shown).trans hformat) _
  rw [runOn_eq_withSource h hfinds.no_column hpair htext, hformat]
  simp only [true_and]

/-- A run that prints words prints all of them but the last line end, and may print the listing in
front of the rest. -/
theorem withSource_words (hformat : settings.format = .text) :
    ∃ log plan text, Plans source settings compiler plan ∧
      (∀ shown, wordsUntrimmed source shown plan =
        .ok ((if shown then plan.listing source else "") ++ text ++ "\n")) ∧ ∀ shown,
      runOn source (settings.withSource shown) compiler = .ok {
        records := startRecord (settings.withSource shown) :: log
        result := .ok ((if shown then plan.listing source else "") ++ text) } := by
  obtain ⟨pair, hpair⟩ := hfinds.patterns_eq
  obtain ⟨report, hreport⟩ := report_planOf pair h
  refine ⟨recordsWithoutSource source pair, planOf source pair, Text.trimEnd report,
    ⟨pair, _, hpair, findBlocks_scanOf pair h, build_planOf pair h⟩,
    wordsUntrimmed_eq hreport, ?_⟩
  intro shown
  have htext : print source (settings.withSource shown) (planOf source pair) =
      .ok ((if shown then (planOf source pair).listing source else "") ++ Text.trimEnd report) :=
    print_words ((settings.format_withSource shown).trans hformat) hreport
  rw [runOn_eq_withSource h hfinds.no_column hpair htext, hformat]
  simp

end

end Run

theorem Settings.not_findsBlocks {settings : Settings} {compiler : Pattern.Compiler}
    (h : settings.columnOf.isSome ∨ (refusal? settings.openPattern compiler).isSome ∨
      (refusal? settings.closePattern compiler).isSome) : ¬ settings.FindsBlocks compiler := by
  rintro ⟨hcolumn, hopening, hclosing⟩
  rw [hcolumn, hopening, hclosing] at h
  simp at h

/-- Two runs of which one is to print the text and the other is not, and that differ in nothing
else. If an end column is asked for or a pattern is refused, they give and log the same but for the
settings. If not, and the plan is printed as JSON, they print the same, and the first logs a warning
last of all. In words the first prints the listing of the text under the plan and behind it what the
other prints, and of what either of them is to print only a last line end is cut off. -/
theorem runOn_withSource (source : String) (settings : Settings) (compiler : Pattern.Compiler)
    (h : source.utf8ByteSize < 2 ^ 63) :
    ∃ off on log added,
      runOn source (settings.withSource false) compiler = .ok off ∧
      runOn source (settings.withSource true) compiler = .ok on ∧
      off.records = Run.startRecord (settings.withSource false) :: log ∧
      on.records = Run.startRecord (settings.withSource true) :: (log ++ added) ∧
      (settings.columnOf.isSome ∨ (refusal? settings.openPattern compiler).isSome ∨
          (refusal? settings.closePattern compiler).isSome →
        on.result = off.result ∧ added = []) ∧
      (settings.FindsBlocks compiler → settings.format = .json →
        (∃ text, off.result = .ok text ∧ on.result = .ok text) ∧
        added = [⟨.warn, Run.runTarget, "--show-source is ignored with JSON output"⟩]) ∧
      (settings.FindsBlocks compiler → settings.format = .text →
        added = [] ∧ ∃ plan text, Run.Plans source settings compiler plan ∧
          off.result = .ok text ∧ on.result = .ok (plan.listing source ++ text) ∧
          Run.wordsUntrimmed source false plan = .ok (text ++ "\n") ∧
          Run.wordsUntrimmed source true plan = .ok (plan.listing source ++ text ++ "\n")) := by
  by_cases hfinds : settings.FindsBlocks compiler
  · cases hformat : settings.format with
    | json =>
      obtain ⟨log, text, hrun⟩ := Run.withSource_json h hfinds hformat
      exact ⟨_, _, log, [Run.ignoredRecord], hrun false, hrun true, by simp, rfl,
        fun hnone => absurd hfinds (Settings.not_findsBlocks hnone),
        fun _ _ => ⟨⟨text, rfl, rfl⟩, rfl⟩, nofun⟩
    | text =>
      obtain ⟨log, plan, text, hplan, huntrimmed, hrun⟩ := Run.withSource_words h hfinds hformat
      have hoff := hrun false
      have hbare := huntrimmed false
      simp only [Bool.false_eq_true, if_false, String.empty_append] at hoff hbare
      exact ⟨_, _, log, [], hoff, hrun true, rfl, by simp,
        fun hnone => absurd hfinds (Settings.not_findsBlocks hnone), nofun, fun _ _ =>
        ⟨rfl, plan, text, hplan, rfl, rfl, hbare, huntrimmed true⟩⟩
  · obtain ⟨log, result, hrun⟩ := Run.withSource_unplanned source hfinds
    exact ⟨_, _, log, [], hrun false, hrun true, rfl, by simp, fun _ => ⟨rfl, rfl⟩,
      fun hblocks => absurd hblocks hfinds, fun hblocks => absurd hblocks hfinds⟩

/-- A text that closes with lines of blanks only, among them an ideographic space. -/
def Text.trailing : String := "\x7b\n\x7d\n \t\n\u3000\n\n"

theorem runOn_withSource_trailing :
    Text.trailing.utf8ByteSize < 2 ^ 63 ∧
    (∃ off on plan text,
      runOn Text.trailing (Settings.withSource {} false) .direct = .ok off ∧
      runOn Text.trailing (Settings.withSource {} true) .direct = .ok on ∧
      Run.Plans Text.trailing {} .direct plan ∧
      off.result = .ok text ∧ on.result = .ok (plan.listing Text.trailing ++ text) ∧
      Run.wordsUntrimmed Text.trailing false plan = .ok (text ++ "\n") ∧
      Run.wordsUntrimmed Text.trailing true plan =
        .ok (plan.listing Text.trailing ++ text ++ "\n")) ∧
    (∃ off on log text,
      runOn Text.trailing (Settings.overloaded.withSource false) .direct = .ok off ∧
      runOn Text.trailing (Settings.overloaded.withSource true) .direct = .ok on ∧
      off.result = .ok text ∧ on.result = .ok text ∧
      off.records = Run.startRecord (Settings.overloaded.withSource false) :: log ∧
      on.records = Run.startRecord (Settings.overloaded.withSource true) ::
        (log ++ [⟨.warn, Run.runTarget, "--show-source is ignored with JSON output"⟩])) ∧
    (∃ off on,
      runOn Text.trailing (Settings.refusedTwice.withSource false) .direct = .ok off ∧
      runOn Text.trailing (Settings.refusedTwice.withSource true) .direct = .ok on ∧
      on.result = off.result) ∧
    (∃ off on,
      runOn Text.trailing (Settings.overloaded.withSource false) .narrow = .ok off ∧
      runOn Text.trailing (Settings.overloaded.withSource true) .narrow = .ok on ∧
      on.result = off.result) := by
  have hsize : Text.trailing.utf8ByteSize < 2 ^ 63 := by decide
  refine ⟨hsize, ?words, ?json, ?refused, ?tooLarge⟩
  case words =>
    obtain ⟨off, on, _, _, hoff, hon, -, -, -, -, hwords⟩ :=
      runOn_withSource Text.trailing {} .direct hsize
    obtain ⟨-, plan, text, hprinted⟩ := hwords ⟨rfl, rfl, rfl⟩ rfl
    exact ⟨off, on, plan, text, hoff, hon, hprinted⟩
  case json =>
    obtain ⟨off, on, log, added, hoff, hon, hlog, hlonger, -, hjson, -⟩ :=
      runOn_withSource Text.trailing .overloaded .direct hsize
    obtain ⟨⟨text, htext, hsame⟩, rfl⟩ := hjson ⟨rfl, by decide, rfl⟩ rfl
    exact ⟨off, on, log, text, hoff, hon, htext, hsame, hlog, hlonger⟩
  case refused =>
    obtain ⟨off, on, _, _, hoff, hon, -, -, hinert, -, -⟩ :=
      runOn_withSource Text.trailing .refusedTwice .direct hsize
    exact ⟨off, on, hoff, hon, (hinert (.inr (.inl (by decide)))).1⟩
  case tooLarge =>
    obtain ⟨off, on, _, _, hoff, hon, -, -, hinert, -, -⟩ :=
      runOn_withSource Text.trailing .overloaded .narrow hsize
    exact ⟨off, on, hoff, hon, (hinert (.inr (.inl (by decide)))).1⟩

end BlockFolding

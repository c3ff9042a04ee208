import BlockFolding.Proofs.JsonInjective
import BlockFolding.Proofs.ReportInjective
import BlockFolding.Proofs.RunFailure

/-
  The two outputs of a plan

  A run prints its plan as JSON or in words, and either output has all of the plan: runs on any two
  texts, with any two settings, print the same JSON just where they print the same words, and both
  just where their plans are the same (`outputs_tell_plan`). As JSON every field of an entry stands
  under its name. In words the note and the id of an entry are not told apart from what surrounds
  them, but a scan gives all entries one note and numbers their ids, so nothing hangs on that.
-/

namespace BlockFolding

/-- The settings with the plan printed as JSON. -/
def Settings.asJson (settings : Settings) : Settings := { settings with format := .json }

/-- The settings with the plan printed in words, and the plan alone. -/
def Settings.asWords (settings : Settings) : Settings :=
  { settings with format := .text, showSource := false }

namespace Run

section
variable (source : String) (settings : Settings) (compiler : Pattern.Compiler)

/-- A run with the settings ends and prints the text. -/
def Prints (text : String) : Prop :=
  ∃ outcome, runOn source settings compiler = .ok outcome ∧ outcome.result = .ok text

/-- A run with the settings makes the plan of the blocks that it finds. -/
def Plans (plan : FoldPlan) : Prop :=
  ∃ pair ranges, patterns? settings compiler = .ok pair ∧
    findBlocks source (lineTest pair) largeThreshold = .ok ranges ∧
    FoldPlan.build source ranges = .ok plan

end

section
variable {source : String} {settings : Settings} {compiler : Pattern.Compiler}
  {pair : Option PatternPair}

/-- In words what is printed for a plan is its report but for the line end of the last rule, behind
the listing if the text is asked for. -/
theorem print_words {plan : FoldPlan} {report : String} (hformat : settings.format = .text)
    (hreport : plan.report = .ok report) :
    print source settings plan =
      .ok ((if settings.showSource then plan.listing source else "") ++ Text.trimEnd report) := by
  rw [← FoldPlan.trimEnd_append_report hreport]
  simp only [print, hformat, wordsUntrimmed, hreport, ok_bind]
  rfl

variable (hsource : source.utf8ByteSize < 2 ^ 63) (hcolumn : settings.columnOf = none)
  (hpatterns : patterns? settings compiler = .ok pair)
include hsource hcolumn hpatterns

theorem prints_json :
    Prints source settings.asJson compiler (planOf source pair).toJson.pretty :=
  ⟨_, runOn_of_print source hsource hcolumn hpatterns (print_json source rfl _), rfl⟩

theorem prints_words : ∃ report, (planOf source pair).report = .ok report ∧
    Prints source settings.asWords compiler (Text.trimEnd report) := by
  obtain ⟨report, hreport⟩ := report_planOf pair hsource
  have hprint : print source settings.asWords (planOf source pair) = .ok (Text.trimEnd report) := by
    rw [print_words rfl hreport, Settings.asWords, if_neg Bool.false_ne_true, String.empty_append]
  exact ⟨report, hreport, _, runOn_of_print source hsource hcolumn hpatterns hprint, rfl⟩

end

end Run

/-- Runs on two texts print the same JSON just where they print the same words, and both just where
their plans are the same in every field. -/
theorem outputs_tell_plan (source other : String) {settings others : Settings}
    {compiler : Pattern.Compiler}
    (hsource : source.utf8ByteSize < 2 ^ 63) (hother : other.utf8ByteSize < 2 ^ 63)
    (hfinds : settings.FindsBlocks compiler) (hfinds' : others.FindsBlocks compiler) :
    ∃ plan plan' json json' words words',
      Run.Plans source settings compiler plan ∧ Run.Plans other others compiler plan' ∧
      Run.Prints source settings.asJson compiler json ∧
      Run.Prints other others.asJson compiler json' ∧
      Run.Prints source settings.asWords compiler words ∧
      Run.Prints other others.asWords compiler words' ∧
      (json = json' ↔ words = words') ∧
      (json = json' ∧ words = words' ↔ plan = plan') := by
  obtain ⟨pair, hpair⟩ := hfinds.patterns_eq
  obtain ⟨pair', hpair'⟩ := hfinds'.patterns_eq
  obtain ⟨report, hreport, hwords⟩ := Run.prints_words hsource hfinds.no_column hpair
  obtain ⟨report', hreport', hwords'⟩ := Run.prints_words hother hfinds'.no_column hpair'
  have hjsonPlan : (Run.planOf source pair).toJson.pretty = (Run.planOf other pair').toJson.pretty ↔
      Run.planOf source pair = Run.planOf other pair' := FoldPlan.pretty_toJson_inj
  have hwordsPlan : Text.trimEnd report = Text.trimEnd report' ↔
      Run.planOf source pair = Run.planOf other pair' :=
    FoldPlan.trimEnd_report_inj hreport hreport'
  refine ⟨Run.planOf source pair, Run.planOf other pair', _, _, _, _,
    ⟨pair, _, hpair, Run.findBlocks_scanOf pair hsource, Run.build_planOf pair hsource⟩,
    ⟨pair', _, hpair', Run.findBlocks_scanOf pair' hother, Run.build_planOf pair' hother⟩,
    Run.prints_json hsource hfinds.no_column hpair, Run.prints_json hother hfinds'.no_column hpair',
    hwords, hwords', hjsonPlan.trans hwordsPlan.symm, ?_⟩
  rw [hjsonPlan, hwordsPlan, and_self_iff]

/-- Settings with a pattern for each side. -/
def Settings.indented : Settings := { openPattern := some "do$", closePattern := some "^end" }

/-- A text with a block for the settings. -/
def Text.indented : String := "work do\n  a\n  b\n  c\n  d\n  e\nend"

theorem outputs_tell_plan_rambling :
    Text.rambling.utf8ByteSize < 2 ^ 63 ∧ Text.indented.utf8ByteSize < 2 ^ 63 ∧
    Settings.FindsBlocks {} .direct ∧ Settings.indented.FindsBlocks .direct ∧
    ∃ plan plan' json json' words words',
      Run.Plans Text.rambling {} .direct plan ∧ Run.Plans Text.indented .indented .direct plan' ∧
      Run.Prints Text.rambling (Settings.asJson {}) .direct json ∧
      Run.Prints Text.indented Settings.indented.asJson .direct json' ∧
      Run.Prints Text.rambling (Settings.asWords {}) .direct words ∧
      Run.Prints Text.indented Settings.indented.asWords .direct words' ∧
      (json = json' ↔ words = words') ∧
      (json = json' ∧ words = words' ↔ plan = plan') :=
  have hsize : Text.indented.utf8ByteSize < 2 ^ 63 := by decide
  have hbraces : Settings.FindsBlocks {} .direct := ⟨rfl, rfl, rfl⟩
  have hindented : Settings.indented.FindsBlocks .direct := ⟨rfl, by decide, by decide⟩
  ⟨Text.rambling_byteSize, hsize, hbraces, hindented,
    outputs_tell_plan Text.rambling Text.indented Text.rambling_byteSize hsize hbraces hindented⟩

end BlockFolding

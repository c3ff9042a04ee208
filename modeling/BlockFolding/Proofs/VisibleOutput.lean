import BlockFolding.Program
import BlockFolding.Proofs.RunTotal

/-
  What a reader of the output sees

  Whoever reads the output of the program and its code learns nothing of the log. What is printed
  and the code are a function of what the run gives (`Program.visible_runWith`), and a run gives
  the same whether its log shows details or not (`result_runOn_quiet`), although what it logs is
  not the same. So arguments that differ in the detailed log, under environments that differ in
  what they say on it, are told apart by the error output alone (`Program.run_visible`).
-/

namespace BlockFolding

namespace Settings

/-- The settings, with no details in the log. -/
def quiet (settings : Settings) : Settings := { settings with verbose := false }

theorem quiet_withEnvironment {settings other : Settings} {env env' : Environment}
    (h : other.quiet = settings.quiet) (henv : env'.isOn jsonVariable = env.isOn jsonVariable) :
    (other.withEnvironment env').quiet = (settings.withEnvironment env).quiet := by
  obtain ⟨hformat, hsource, hopening, hclosing, hcolumn, -⟩ := Settings.mk.inj h
  simp only [quiet, withEnvironment, henv, hformat, hsource, hopening, hclosing, hcolumn]

end Settings

/-- What a run gives, apart from its log: the end column of a line, a failure, or what is printed
for the blocks. -/
theorem result_runOn (source : String) (settings : Settings) (compiler : Pattern.Compiler) :
    (runOn source settings compiler).map Outcome.result =
      match settings.columnOf with
      | some index => .ok (.ok (toString (endColumnSigned source index).toNat))
      | none =>
        match Run.patterns? settings compiler with
        | .error failure => .ok (.error failure)
        | .ok pair => (Run.printBlocks source settings pair).map fun printed => .ok printed.2 := by
  rw [runOn]
  cases settings.columnOf with
  | some index => rfl
  | none =>
    cases Run.patterns? settings compiler with
    | error failure => rfl
    | ok pair =>
      dsimp only
      cases Run.printBlocks source settings pair <;> rfl

theorem result_runOn_quiet (source : String) (settings : Settings) (compiler : Pattern.Compiler) :
    (runOn source settings.quiet compiler).map Outcome.result =
      (runOn source settings compiler).map Outcome.result := by
  have hcolumn : settings.quiet.columnOf = settings.columnOf := rfl
  have hpatterns : Run.patterns? settings.quiet compiler = Run.patterns? settings compiler := rfl
  have hblocks (pair : Option PatternPair) :
      Run.printBlocks source settings.quiet pair = Run.printBlocks source settings pair := rfl
  simp only [result_runOn, hcolumn, hpatterns, hblocks]

theorem Text.byteSize_intercalate_le (separator : String) : ∀ (texts : List String),
    (separator.intercalate texts).utf8ByteSize ≤
      (texts.map fun text => text.utf8ByteSize + separator.utf8ByteSize).sum
  | [] => by simp
  | [text] => by simp
  | text :: next :: rest => by
    have ih := Text.byteSize_intercalate_le separator (next :: rest)
    rw [String.intercalate_cons_cons, String.utf8ByteSize_append, String.utf8ByteSize_append,
      List.map_cons, List.sum_cons]
    omega

theorem Sample.byteSize : Sample.source.utf8ByteSize < 2 ^ 63 := by
  have hlines : (Sample.lines.map fun line => line.utf8ByteSize + "\n".utf8ByteSize).sum <
      2 ^ 63 := by decide
  exact Nat.lt_of_le_of_lt (Text.byteSize_intercalate_le "\n" Sample.lines) hlines

namespace Program

/-- What a reader of the output sees: the code and the output. -/
def Exit.visible (exit : Exit) : Nat × String := (exit.code, exit.output)

/-- What a reader of the output sees of what a run gives. -/
def visibleOf : Except Failure String → Nat × String
  | .ok text => (0, text ++ "\n")
  | .error _ => (1, "")

theorem visible_ending (log : String) (result : Except Failure String) :
    (ending log result).visible = visibleOf result := by
  cases result <;> rfl

section
variable (compiler : Pattern.Compiler)

/-- The program ends with what a run on the sample text gives, and the log is not seen. -/
theorem visible_runWith (settings : Settings) (env : Environment) :
    ∃ outcome, runSample settings compiler = .ok outcome ∧
      (runWith settings env compiler).visible = visibleOf outcome.result := by
  obtain ⟨outcome, hrun⟩ := runOn_total Sample.source settings Sample.byteSize
  rw [← runSample] at hrun
  refine ⟨outcome, hrun, ?_⟩
  rw [runWith, hrun]
  exact visible_ending _ outcome.result

theorem visible_runWith_congr {settings other : Settings} (h : other.quiet = settings.quiet)
    (env env' : Environment) :
    (runWith other env' compiler).visible = (runWith settings env compiler).visible := by
  obtain ⟨outcome, hrun, hvisible⟩ := visible_runWith compiler settings env
  obtain ⟨outcome', hrun', hvisible'⟩ := visible_runWith compiler other env'
  have hresult : (.ok outcome'.result : Checked _) = .ok outcome.result :=
    calc .ok outcome'.result
        = (runSample other compiler).map Outcome.result := by rw [hrun']; rfl
      _ = (runSample other.quiet compiler).map Outcome.result :=
        (result_runOn_quiet _ other compiler).symm
      _ = (runSample settings.quiet compiler).map Outcome.result := by rw [h]
      _ = (runSample settings compiler).map Outcome.result :=
        result_runOn_quiet _ settings compiler
      _ = .ok outcome.result := by rw [hrun]; rfl
  rw [hvisible, hvisible', Except.ok.inj hresult]

end

/-- The log never gets into the output. Arguments that are accepted end the program with what a
run with their settings gives, a text and a line feed and the code 0 or nothing and the code 1.
Settings that are alike but for the log, in environments that agree on the JSON format, end it with
the same code and the same output. -/
theorem run_visible (arguments : List String) (env : Environment) (compiler : Pattern.Compiler)
    (settings : Settings) (h : CommandLine.read arguments = .ok settings) :
    (∃ outcome, runSample (settings.withEnvironment env) compiler = .ok outcome ∧
      (∀ text, outcome.result = .ok text →
        (run arguments env compiler).code = 0 ∧
          (run arguments env compiler).output = text ++ "\n") ∧
      (∀ failure, outcome.result = .error failure →
        (run arguments env compiler).code = 1 ∧ (run arguments env compiler).output = "")) ∧
    ∀ (others : List String) (env' : Environment) (other : Settings),
      CommandLine.read others = .ok other → other.quiet = settings.quiet →
      env'.isOn jsonVariable = env.isOn jsonVariable →
      (run others env' compiler).code = (run arguments env compiler).code ∧
        (run others env' compiler).output = (run arguments env compiler).output := by
  constructor
  · obtain ⟨outcome, hrun, hvisible⟩ :=
      visible_runWith compiler (settings.withEnvironment env) env
    rw [← run_eq_runWith h] at hvisible
    refine ⟨outcome, hrun, ?_, ?_⟩
    · intro text hresult
      rw [hresult] at hvisible
      exact Prod.mk.inj hvisible
    · intro failure hresult
      rw [hresult] at hvisible
      exact Prod.mk.inj hvisible
  · intro others env' other hother hquiet henv
    have hvisible :=
      visible_runWith_congr compiler (Settings.quiet_withEnvironment hquiet henv) env env'
    rw [← run_eq_runWith h, ← run_eq_runWith hother] at hvisible
    exact Prod.mk.inj hvisible

/-- An environment that asks for JSON and for all of the log. -/
def talkative : Environment := fun name =>
  if name = jsonVariable then some " 1\n" else if name = logVariable then some "trace" else none

/-- An environment that asks for JSON and, in vain, for no details in the log. -/
def taciturn : Environment := fun name =>
  if name = jsonVariable then some "yes" else if name = verboseVariable then some "false" else none

theorem run_visible_refused :
    CommandLine.read ["--verbose", "--open-pattern", "("] =
      .ok { openPattern := some "(", verbose := true } ∧
    CommandLine.read ["--open-pattern=("] = .ok { openPattern := some "(" } ∧
    (∃ outcome, runSample
        (Settings.withEnvironment { openPattern := some "(", verbose := true } talkative) .direct =
          .ok outcome ∧
      (∀ text, outcome.result = .ok text →
        (run ["--verbose", "--open-pattern", "("] talkative .direct).code = 0 ∧
          (run ["--verbose", "--open-pattern", "("] talkative .direct).output = text ++ "\n") ∧
      (∀ failure, outcome.result = .error failure →
        (run ["--verbose", "--open-pattern", "("] talkative .direct).code = 1 ∧
          (run ["--verbose", "--open-pattern", "("] talkative .direct).output = "")) ∧
    (run ["--open-pattern=("] taciturn .direct).code =
        (run ["--verbose", "--open-pattern", "("] talkative .direct).code ∧
      (run ["--open-pattern=("] taciturn .direct).output =
        (run ["--verbose", "--open-pattern", "("] talkative .direct).output :=
  have hread : CommandLine.read ["--verbose", "--open-pattern", "("] =
      .ok { openPattern := some "(", verbose := true } := by decide
  have hother : CommandLine.read ["--open-pattern=("] = .ok { openPattern := some "(" } := by
    decide
  have hvisible := run_visible _ talkative .direct _ hread
  ⟨hread, hother, hvisible.1, hvisible.2 _ taciturn _ hother rfl (by decide)⟩

end Program

end BlockFolding

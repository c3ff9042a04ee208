import BlockFolding.Proofs.RunTotal

/-
  When a run fails

  A run ends without overflow, and it fails for one reason only: it is to find blocks and a pattern
  of its settings is refused (`runOn_fails_iff`). A failure tells what the run was about to do and
  what is wrong with the first pattern refused, the opening one before the closing one, and nothing
  was logged by then but the settings. A run for an end column looks at no pattern and succeeds.
  All this is so for every compiler, whatever it has room for.
-/

namespace BlockFolding

/-- What went wrong, if anything did. -/
def errorOf? {ε α : Type} : Except ε α → Option ε
  | .error error => some error
  | .ok _ => none

theorem errorOf?_eq_some {ε α : Type} {x : Except ε α} {error : ε} :
    errorOf? x = some error ↔ x = .error error := by
  cases x <;> simp [errorOf?]

/-- What is wrong with a pattern, if one is given and refused. -/
def refusal? (pattern : Option String) (compiler : Pattern.Compiler) : Option PatternError :=
  pattern.bind fun text => errorOf? (Pattern.compile text compiler)

section
variable (compiler : Pattern.Compiler)

/-- A pattern is refused for what is wrong with its text or else for the room that it takes. -/
theorem refusal?_eq_some {text : String} {error : PatternError} :
    refusal? (some text) compiler = some error ↔
      (∃ fault, Pattern.Expr.ofPattern text.toList = .error fault ∧
        error = { text, reason := .fault fault }) ∨
      (∃ expr, Pattern.Expr.ofPattern text.toList = .ok expr) ∧
        compiler.limit < compiler.size text ∧
        error = { text, reason := .tooLarge compiler.limit } := by
  rw [refusal?, Option.bind_some, errorOf?_eq_some, Pattern.compile_eq_error]

/-! ## From patterns to settings -/

theorem errorOf?_compileSide (missing : Pattern) (pattern : Option String) :
    errorOf? (PatternPair.compileSide missing pattern compiler) = refusal? pattern compiler := by
  cases pattern with
  | none => rfl
  | some text => rfl

/-- A pair is refused for its opening side, and for its closing side if the opening one is not. -/
theorem errorOf?_withDefaults (opening closing : Option String) :
    errorOf? (PatternPair.withDefaults opening closing compiler) =
      (refusal? opening compiler).or (refusal? closing compiler) := by
  rw [← errorOf?_compileSide compiler PatternPair.openingBrace opening,
    ← errorOf?_compileSide compiler PatternPair.closingBrace closing, PatternPair.withDefaults]
  cases PatternPair.compileSide PatternPair.openingBrace opening compiler with
  | error refused => rfl
  | ok opening => cases PatternPair.compileSide PatternPair.closingBrace closing compiler <;> rfl

end

namespace Settings

/-- What a run with the settings is about to do when it compiles their patterns. -/
def patternContext (settings : Settings) : String :=
  "Invalid block pattern (open: " ++ patternText settings.openPattern ++ ", close: " ++
    patternText settings.closePattern ++ ")"

section
variable (settings : Settings) (compiler : Pattern.Compiler)

/-- Settings are refused if one of their patterns is: without a pattern there is none to refuse. -/
theorem errorOf?_patterns? :
    errorOf? (Run.patterns? settings compiler) =
      ((refusal? settings.openPattern compiler).or (refusal? settings.closePattern compiler)).map
        fun cause => { context := settings.patternContext, cause } := by
  rw [← errorOf?_withDefaults, Run.patterns?]
  cases huses : settings.usesPatterns with
  | false =>
    simp only [usesPatterns, Bool.or_eq_false_iff, Option.isSome_eq_false_iff,
      Option.isNone_iff_eq_none] at huses
    rw [huses.1, huses.2]
    rfl
  | true =>
    rw [if_pos rfl]
    cases PatternPair.withDefaults settings.openPattern settings.closePattern compiler <;> rfl

/-- A run with the settings is to find blocks, and none of their patterns is refused. -/
structure FindsBlocks : Prop where
  no_column : settings.columnOf = none
  opening_accepted : refusal? settings.openPattern compiler = none
  closing_accepted : refusal? settings.closePattern compiler = none

end

section
variable {settings : Settings} {compiler : Pattern.Compiler}

theorem FindsBlocks.patterns_eq (h : settings.FindsBlocks compiler) :
    ∃ pair, Run.patterns? settings compiler = .ok pair := by
  have hrefused := settings.errorOf?_patterns? compiler
  rw [h.opening_accepted, h.closing_accepted] at hrefused
  cases hpatterns : Run.patterns? settings compiler with
  | ok pair => exact ⟨pair, rfl⟩
  | error failure =>
    rw [hpatterns] at hrefused
    contradiction

theorem accepted_of_patterns {pair : Option PatternPair}
    (h : Run.patterns? settings compiler = .ok pair) :
    refusal? settings.openPattern compiler = none ∧
      refusal? settings.closePattern compiler = none := by
  have hrefused := settings.errorOf?_patterns? compiler
  rw [h, errorOf?, eq_comm, Option.map_eq_none_iff, Option.or_eq_none_iff] at hrefused
  exact hrefused

end

end Settings

/-! ## Runs -/

/-- A run ends with a result. It fails just where it is to find blocks and a pattern is refused: for
the opening pattern, or for the closing one if there is nothing wrong with the opening one, before
anything is logged but the settings. With an index of a line it prints the end column. -/
theorem runOn_fails_iff (source : String) (settings : Settings) (compiler : Pattern.Compiler)
    (h : source.utf8ByteSize < 2 ^ 63) :
    ∃ outcome, runOn source settings compiler = .ok outcome ∧
      ((∃ failure, outcome.result = .error failure) ↔
        settings.columnOf = none ∧
          ((refusal? settings.openPattern compiler).isSome ∨
            (refusal? settings.closePattern compiler).isSome)) ∧
      (∀ failure, outcome.result = .error failure →
        ∃ error, (refusal? settings.openPattern compiler).or
            (refusal? settings.closePattern compiler) = some error ∧
          failure.chain = [settings.patternContext, error.message] ∧
          outcome.records = [⟨.debug, Run.runTarget, "config: " ++ settings.describe⟩]) ∧
      (∀ index, settings.columnOf = some index →
        outcome.result = .ok (toString (endColumnSigned source index).toNat)) := by
  have hrefused := settings.errorOf?_patterns? compiler
  cases hcolumn : settings.columnOf with
  | some index =>
    obtain ⟨outcome, hrun, hresult⟩ := runOn_column source hcolumn
    refine ⟨outcome, hrun, ?_, ?_, ?_⟩
    · simp [hresult]
    · simp [hresult]
    · intro other hother
      rw [hresult, Option.some.inj hother]
  | none =>
    cases hpatterns : Run.patterns? settings compiler with
    | error failure =>
      -- The failure is the refusal of the settings, so one of the patterns was refused.
      rw [errorOf?_eq_some.2 hpatterns, eq_comm, Option.map_eq_some_iff] at hrefused
      obtain ⟨error, herror, rfl⟩ := hrefused
      refine ⟨_, runOn_eq_refused source hcolumn hpatterns, ?_, ?_, nofun⟩
      · have hsome : ((refusal? settings.openPattern compiler).or
            (refusal? settings.closePattern compiler)).isSome := by rw [herror]; rfl
        rw [Option.isSome_or, Bool.or_eq_true] at hsome
        exact ⟨fun _ => ⟨rfl, hsome⟩, fun _ => ⟨_, rfl⟩⟩
      · intro failure hfailure
        cases hfailure
        exact ⟨error, herror, rfl, rfl⟩
    | ok pair =>
      obtain ⟨outcome, text, hrun, hresult, -⟩ := runOn_printed source h hcolumn hpatterns
      obtain ⟨hopening, hclosing⟩ := Settings.accepted_of_patterns hpatterns
      refine ⟨outcome, hrun, ?_, ?_, nofun⟩
      · simp [hresult, hopening, hclosing]
      · simp [hresult]

/-- Settings with two patterns that are refused, of which the closing one is not reached. -/
def Settings.refusedTwice : Settings := { openPattern := some "(", closePattern := some "[" }

/-- A compiler that has room for two bytes, of which a form takes as many as its text. -/
def Pattern.Compiler.narrow : Pattern.Compiler where
  limit := 2
  size := String.utf8ByteSize
  opening_fits := by decide
  closing_fits := by decide

/-- Settings with a pattern that the narrow compiler has no room for. -/
def Settings.wide : Settings := { closePattern := some "end" }

theorem runOn_fails_iff_refusedTwice :
    Text.tangled.utf8ByteSize < 2 ^ 63 ∧
    (∃ outcome, runOn Text.tangled .refusedTwice .direct = .ok outcome ∧
      ((∃ failure, outcome.result = .error failure) ↔
        Settings.refusedTwice.columnOf = none ∧
          ((refusal? Settings.refusedTwice.openPattern .direct).isSome ∨
            (refusal? Settings.refusedTwice.closePattern .direct).isSome)) ∧
      (∀ failure, outcome.result = .error failure →
        ∃ error, (refusal? Settings.refusedTwice.openPattern .direct).or
            (refusal? Settings.refusedTwice.closePattern .direct) = some error ∧
          failure.chain = [Settings.refusedTwice.patternContext, error.message] ∧
          outcome.records =
            [⟨.debug, Run.runTarget, "config: " ++ Settings.refusedTwice.describe⟩]) ∧
      (∀ index, Settings.refusedTwice.columnOf = some index →
        outcome.result = .ok (toString (endColumnSigned Text.tangled index).toNat))) ∧
    ∃ outcome failure, runOn Text.tangled .wide .narrow = .ok outcome ∧
      outcome.result = .error failure ∧
      failure.chain = [Settings.wide.patternContext,
        "Compiled regex exceeds size limit of 2 bytes."] := by
  refine ⟨Text.tangled_byteSize,
    runOn_fails_iff Text.tangled .refusedTwice .direct Text.tangled_byteSize, ?_⟩
  have hwide : refusal? (some "end") .narrow =
      some { text := "end", reason := .tooLarge 2 } :=
    (refusal?_eq_some .narrow).2 (.inr ⟨⟨_, rfl⟩, by decide, rfl⟩)
  obtain ⟨outcome, hrun, hfails, hchain, -⟩ :=
    runOn_fails_iff Text.tangled .wide .narrow Text.tangled_byteSize
  obtain ⟨failure, hfailure⟩ := hfails.2 ⟨rfl, .inr (by rw [Settings.wide, hwide]; rfl)⟩
  obtain ⟨error, herror, htexts, -⟩ := hchain failure hfailure
  cases herror.symm.trans hwide
  exact ⟨outcome, failure, hrun, hfailure, htexts⟩

example : (refusal? Settings.refusedTwice.openPattern .direct).map (·.text) = some "(" := by decide

end BlockFolding

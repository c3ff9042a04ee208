import BlockFolding.Proofs.RunTotal

/-
  Default patterns

  A brace behind a backslash is a pattern that every compiler has room for, and it matches the lines
  that hold the brace (`matches_single`): an expression of one set of characters leads somewhere
  from the places before the characters of the set, and from no other. So the test for braces and
  the pair of default patterns answer alike about every line.

  From the lines it goes up to runs. The scans under two tests that answer alike are the same, so
  are the plans and what is printed of them, and settings that leave a side out run as those that
  spell its default out (`runOn_spelledOut`). Only the log tells them apart, and the context of a
  failure, which quotes the settings.
-/

namespace BlockFolding

namespace Pattern

theorem placesBefore_lt (test : Char → Bool) : ∀ (text : List Char),
    placesBefore test text < 2 ^ text.length
  | [] => Nat.one_pos
  | c :: rest => by
    calc placesBefore test (c :: rest) ≤ 1 + 2 * placesBefore test rest :=
          Nat.add_le_add_right (Bool.toNat_le (test c)) _
      _ < 2 * (placesBefore test rest + 1) := by
          rw [Nat.mul_add, Nat.add_comm]
          exact Nat.lt_succ_self _
      _ ≤ 2 * 2 ^ rest.length := Nat.mul_le_mul_left 2 (placesBefore_lt test rest)
      _ = 2 ^ (c :: rest).length := by rw [List.length_cons, Nat.pow_succ, Nat.mul_comm]

theorem placesBefore_eq_zero {test : Char → Bool} {text : List Char} :
    placesBefore test text = 0 ↔ text.any test = false := by
  induction text with
  | nil => simp [placesBefore]
  | cons c rest ih =>
    rw [placesBefore, List.any_cons, Nat.add_eq_zero_iff, Nat.mul_eq_zero, ih]
    cases test c <;> simp

/-- An expression of one set matches the texts that hold a character of it. -/
theorem isMatch_chars (set : Unicode.CharSet) (text : List Char) :
    (Expr.chars set).isMatch text = text.any set.contains := by
  have hlt : placesBefore set.contains text < 2 ^ (text.length + 1) :=
    Nat.lt_trans (placesBefore_lt set.contains text) (Nat.pow_lt_pow_succ (by decide))
  -- The route starts at every place, so it keeps all that the set picks.
  have hall : allPlaces text &&& placesBefore set.contains text =
      placesBefore set.contains text := by
    rw [Nat.and_comm, allPlaces, Nat.one_shiftLeft]
    exact Nat.and_two_pow_sub_one_of_lt_two_pow hlt
  simp only [Expr.isMatch, Expr.route, Route.follow, hall]
  cases hany : text.any set.contains with
  | false =>
    rw [placesBefore_eq_zero.2 hany]
    rfl
  | true =>
    have hne : placesBefore set.contains text ≠ 0 := by
      rw [Ne, placesBefore_eq_zero, hany]
      decide
    rw [Nat.shiftLeft_eq, bne_iff_ne]
    exact Nat.mul_ne_zero hne (by decide)

theorem matches_single (text : String) (sign : Char) :
    Pattern.matches { text, expr := .chars (.single sign) } =
      fun line => line.toList.contains sign := by
  funext line
  rw [Pattern.matches, isMatch_chars, List.contains_eq_any_beq]
  congr 1
  funext c
  rw [Unicode.CharSet.contains_single, Bool.beq_comm]

end Pattern

/-! ## The default pair -/

namespace PatternPair

section
variable (compiler : Pattern.Compiler)

theorem compile_defaultOpening : Pattern.compile defaultOpening compiler = .ok openingBrace :=
  if_pos compiler.opening_fits

theorem compile_defaultClosing : Pattern.compile defaultClosing compiler = .ok closingBrace :=
  if_pos compiler.closing_fits

/-- A side left out is the side that its default text writes. -/
theorem withDefaults_eq_compile (opening closing : Option String) :
    withDefaults opening closing compiler =
      compile (opening.getD defaultOpening) (closing.getD defaultClosing) compiler := by
  have hopening : compileSide openingBrace opening compiler =
      Pattern.compile (opening.getD defaultOpening) compiler := by
    cases opening with
    | none => exact (compile_defaultOpening compiler).symm
    | some text => rfl
  have hclosing : compileSide closingBrace closing compiler =
      Pattern.compile (closing.getD defaultClosing) compiler := by
    cases closing with
    | none => exact (compile_defaultClosing compiler).symm
    | some text => rfl
  rw [withDefaults, hopening, hclosing, compile]

end

/-- The pair in which both sides are left out. -/
def defaults : PatternPair := { opening := openingBrace, closing := closingBrace }

theorem lineTest_defaults : defaults.lineTest = LineTest.braces := by
  simp only [defaults, openingBrace, closingBrace, lineTest, Pattern.matches_single,
    LineTest.braces]

end PatternPair

/-! ## Runs with the defaults spelled out -/

/-- The settings with the text of the default pattern in place of a pattern left out. -/
def Settings.spelledOut (settings : Settings) : Settings :=
  { settings with
    openPattern := some (settings.openPattern.getD PatternPair.defaultOpening)
    closePattern := some (settings.closePattern.getD PatternPair.defaultClosing) }

namespace Run

theorem printBlocks_congr (source : String) (settings : Settings) {pair other : Option PatternPair}
    (h : lineTest pair = lineTest other) :
    (printBlocks source settings pair).map Prod.snd =
      (printBlocks source settings other).map Prod.snd := by
  simp only [printBlocks, h]
  cases Scan.ofText source (lineTest other) largeThreshold with
  | error overflow => rfl
  | ok scan =>
    simp only [ok_bind]
    cases FoldPlan.build source scan.ranges with
    | error overflow => rfl
    | ok plan =>
      simp only [ok_bind]
      cases print source settings plan <;> rfl

/-- Settings with the defaults spelled out are refused for the same cause, or their patterns make
the same test. -/
theorem patterns?_spelledOut (settings : Settings) (compiler : Pattern.Compiler) :
    (∃ failure spelled, patterns? settings compiler = .error failure ∧
      patterns? settings.spelledOut compiler = .error spelled ∧ failure.cause = spelled.cause) ∨
    (∃ pair spelled, patterns? settings compiler = .ok pair ∧
      patterns? settings.spelledOut compiler = .ok spelled ∧ lineTest pair = lineTest spelled) := by
  have huses : settings.spelledOut.usesPatterns = true := rfl
  have hsame : PatternPair.withDefaults settings.spelledOut.openPattern
      settings.spelledOut.closePattern compiler =
      PatternPair.withDefaults settings.openPattern settings.closePattern compiler := by
    simp only [PatternPair.withDefaults_eq_compile, Settings.spelledOut, Option.getD_some]
  cases hsettings : settings.usesPatterns with
  | true =>
    simp only [patterns?, huses, hsettings, hsame, if_true]
    cases PatternPair.withDefaults settings.openPattern settings.closePattern compiler with
    | error cause => exact .inl ⟨_, _, rfl, rfl, rfl⟩
    | ok pair => exact .inr ⟨_, _, rfl, rfl, rfl⟩
  | false =>
    -- Nothing is compiled, and both defaults are once they are spelled out.
    simp only [Settings.usesPatterns, Bool.or_eq_false_iff, Option.isSome_eq_false_iff,
      Option.isNone_iff_eq_none] at hsettings
    simp only [hsettings.1, hsettings.2] at hsame
    have hdefaults : PatternPair.withDefaults none none compiler = .ok PatternPair.defaults := rfl
    refine .inr ⟨none, some PatternPair.defaults, ?_, ?_, PatternPair.lineTest_defaults.symm⟩
    · simp [patterns?, Settings.usesPatterns, hsettings.1, hsettings.2]
    · simp only [patterns?, huses, hsame, hdefaults, if_true]

end Run

/-- The default patterns agree with the test for braces about every text, and settings that leave
a pattern out run as those that spell its default out: both print the same text, or both fail for
the same fault of a pattern, and without any pattern both print. -/
theorem runOn_spelledOut (source : String) (compiler : Pattern.Compiler)
    (h : source.utf8ByteSize < 2 ^ 63) :
    (∃ pair, PatternPair.withDefaults none none compiler = .ok pair ∧
      ∀ threshold, ∃ ranges, findBlocks source pair.lineTest threshold = .ok ranges ∧
        findBlocks source .braces threshold = .ok ranges) ∧
    (∀ settings : Settings, ∃ outcome spelled,
      runOn source settings compiler = .ok outcome ∧
      runOn source settings.spelledOut compiler = .ok spelled ∧
      outcome.result.mapError (·.cause) = spelled.result.mapError (·.cause) ∧
      (settings.usesPatterns = false →
        ∃ text, outcome.result = .ok text ∧ spelled.result = .ok text)) := by
  constructor
  · refine ⟨PatternPair.defaults, rfl, fun threshold => ?_⟩
    rw [PatternPair.lineTest_defaults]
    exact ⟨_, findBlocks_eq_unchecked .braces threshold h,
      findBlocks_eq_unchecked .braces threshold h⟩
  · intro settings
    cases hcolumn : settings.columnOf with
    | some index =>
      have hspelled : settings.spelledOut.columnOf = some index := hcolumn
      obtain ⟨outcome, hrun, hresult⟩ := runOn_column source hcolumn
      obtain ⟨spelled, hrun', hresult'⟩ := runOn_column source hspelled
      refine ⟨outcome, spelled, hrun, hrun', ?_, fun _ => ⟨_, hresult, hresult'⟩⟩
      rw [hresult, hresult']
    | none =>
      have hspelled : settings.spelledOut.columnOf = none := hcolumn
      rcases Run.patterns?_spelledOut settings compiler with
        ⟨failure, failure', hfail, hfail', hcause⟩ | ⟨pair, pair', hpair, hpair', htest⟩
      · obtain ⟨outcome, hrun, hresult⟩ := runOn_refused source hcolumn hfail
        obtain ⟨spelled, hrun', hresult'⟩ := runOn_refused source hspelled hfail'
        refine ⟨outcome, spelled, hrun, hrun', ?_, fun huses => ?_⟩
        · rw [hresult, hresult']
          exact congrArg Except.error hcause
        · simp [Run.patterns?, huses] at hfail
      · obtain ⟨outcome, text, hrun, hresult, hprint⟩ := runOn_printed source h hcolumn hpair
        obtain ⟨spelled, text', hrun', hresult', hprint'⟩ := runOn_printed source h hspelled hpair'
        have hsame : text = text' := by
          have hcongr := Run.printBlocks_congr source settings htest
          rw [hprint] at hcongr
          exact Except.ok.inj (hcongr.trans hprint')
        subst hsame
        refine ⟨outcome, spelled, hrun, hrun', ?_, fun _ => ⟨text, hresult, hresult'⟩⟩
        rw [hresult, hresult']

theorem runOn_spelledOut_tangled :
    Text.tangled.utf8ByteSize < 2 ^ 63 ∧
    (∃ pair, PatternPair.withDefaults none none .direct = .ok pair ∧
      ∀ threshold, ∃ ranges, findBlocks Text.tangled pair.lineTest threshold = .ok ranges ∧
        findBlocks Text.tangled .braces threshold = .ok ranges) ∧
    (∀ settings : Settings, ∃ outcome spelled,
      runOn Text.tangled settings .direct = .ok outcome ∧
      runOn Text.tangled settings.spelledOut .direct = .ok spelled ∧
      outcome.result.mapError (·.cause) = spelled.result.mapError (·.cause) ∧
      (settings.usesPatterns = false →
        ∃ text, outcome.result = .ok text ∧ spelled.result = .ok text)) :=
  ⟨Text.tangled_byteSize, runOn_spelledOut Text.tangled .direct Text.tangled_byteSize⟩

end BlockFolding

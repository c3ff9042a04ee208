import Mathlib.Data.List.TakeWhile
import BlockFolding.Settings

/-
  Layers of environments

  An environment only ever switches things on: what it sets is added to the settings, and nothing
  is taken back. So environments one after another act as a single one, which sets what any of them
  does (`withEnvironment_layered`), and neither their order nor applying one of them again makes a
  difference.

  What a variable sets is decided by its value apart from the blanks around it. A variable that is
  missing is off, and so is one whose value is empty, `0` or `false` between blanks (`IsOff`); every
  other value is on. So values that differ in the blanks around them, or are all off, are `Alike`,
  and environments that hold alike values of the two variables give the same settings.
-/

namespace BlockFolding

/-! ## Blanks around a text -/

namespace Text

/-- The text consists of blanks. -/
def Blank (text : String) : Prop := ∀ c ∈ text.toList, Unicode.isWhiteSpace c = true

instance (text : String) : Decidable (Blank text) :=
  List.decidableBAll (fun c => Unicode.isWhiteSpace c = true) text.toList

/-- The text is the core with blanks around it. -/
def Padded (core text : String) : Prop :=
  ∃ before behind, Blank before ∧ Blank behind ∧ text = before ++ core ++ behind

theorem trimEndChars_append {cs blanks : List Char}
    (h : ∀ c ∈ blanks, Unicode.isWhiteSpace c = true) :
    trimEndChars (cs ++ blanks) = trimEndChars cs := by
  unfold trimEndChars
  rw [List.reverse_append, List.dropWhile_append_of_pos]
  intro c hc
  exact h c (List.mem_reverse.1 hc)

theorem trim_padded {core text : String} (h : Padded core text) : trim text = trim core := by
  obtain ⟨before, behind, hbefore, hbehind, rfl⟩ := h
  unfold trim
  rw [String.toList_append, String.toList_append, List.append_assoc,
    List.dropWhile_append_of_pos hbefore, List.dropWhile_append]
  split
  · rename_i hempty
    -- The core is blank itself, so nothing is left on either side.
    rw [List.isEmpty_iff.1 hempty, List.dropWhile_eq_nil_iff.2 hbehind]
  · rw [trimEndChars_append hbehind]

theorem trimEndChars_append_takeWhile (cs : List Char) :
    trimEndChars cs ++ (cs.reverse.takeWhile Unicode.isWhiteSpace).reverse = cs := by
  unfold trimEndChars
  rw [← List.reverse_append, List.takeWhile_append_dropWhile, List.reverse_reverse]

theorem padded_trim (text : String) : Padded (trim text) text := by
  let before := text.toList.takeWhile Unicode.isWhiteSpace
  let kept := text.toList.dropWhile Unicode.isWhiteSpace
  let behind := (kept.reverse.takeWhile Unicode.isWhiteSpace).reverse
  refine ⟨String.ofList before, String.ofList behind, ?_, ?_, ?_⟩
  · intro c hc
    rw [String.toList_ofList] at hc
    exact List.mem_takeWhile_imp hc
  · intro c hc
    rw [String.toList_ofList, List.mem_reverse] at hc
    exact List.mem_takeWhile_imp hc
  · calc text = String.ofList (before ++ kept) := by
          rw [List.takeWhile_append_dropWhile, String.ofList_toList]
      _ = String.ofList (before ++ (trimEndChars kept ++ behind)) := by
          rw [trimEndChars_append_takeWhile]
      _ = String.ofList before ++ trim text ++ String.ofList behind := by
          rw [String.ofList_append, String.ofList_append, ← String.append_assoc]
          rfl

end Text

/-! ## Values that switch nothing on -/

/-- The words that switch nothing on. -/
def offWords : List String := ["", "0", "false"]

/-- The variable is missing, or its value is a word that switches nothing on, between blanks. -/
def IsOff (value : Option String) : Prop :=
  ∀ text ∈ value, ∃ word ∈ offWords, Text.Padded word text

/-- The values are both off, or the same text apart from the blanks around it. -/
inductive Alike : Option String → Option String → Prop
  | off {value other : Option String} (hvalue : IsOff value) (hother : IsOff other) :
      Alike value other
  | padded {core text other : String} (htext : Text.Padded core text)
      (hother : Text.Padded core other) : Alike (some text) (some other)

theorem isOnValue_eq_false {text : String} :
    isOnValue text = false ↔ ∃ word ∈ offWords, Text.Padded word text := by
  have htrimmed : isOnValue text = false ↔ Text.trim text ∈ offWords := by
    unfold isOnValue offWords
    rw [Bool.not_eq_false', List.contains_iff_mem]
  rw [htrimmed]
  constructor
  · intro hmem
    exact ⟨Text.trim text, hmem, Text.padded_trim text⟩
  · intro ⟨word, hword, hpadded⟩
    have hclean : ∀ word ∈ offWords, Text.trim word = word := by decide
    rw [Text.trim_padded hpadded, hclean word hword]
    exact hword

theorem any_isOnValue (value : Option String) : value.any isOnValue = true ↔ ¬ IsOff value := by
  unfold IsOff
  cases value with
  | none => simp
  | some text =>
    rw [Option.any_some, ← Bool.not_eq_false, isOnValue_eq_false]
    simp

/-- Of values that are alike both are on, or neither is. -/
theorem Alike.any_isOnValue_eq {value other : Option String} (h : Alike value other) :
    value.any isOnValue = other.any isOnValue := by
  cases h with
  | off hvalue hother =>
    have hoff {value : Option String} (hvalue : IsOff value) : value.any isOnValue = false := by
      rw [← Bool.not_eq_true, any_isOnValue]
      exact not_not_intro hvalue
    rw [hoff hvalue, hoff hother]
  | padded htext hother =>
    unfold isOnValue
    rw [Option.any_some, Option.any_some, Text.trim_padded htext, Text.trim_padded hother]

/-! ## Environments -/

/-- The variables that an environment is asked for. -/
def knownVariables : List String := [verboseVariable, jsonVariable]

namespace Environment

/-- The variable has a value that switches something on. -/
def Sets (env : Environment) (name : String) : Prop := ¬ IsOff (env name)

theorem isOn_iff {env : Environment} {name : String} : env.isOn name = true ↔ env.Sets name :=
  any_isOnValue (env name)

/-- The environment with another on top of it, which wins where it switches something on. -/
def layered (env other : Environment) : Environment :=
  fun name => if other.isOn name then other name else env name

theorem isOn_layered (env other : Environment) (name : String) :
    (env.layered other).isOn name = (env.isOn name || other.isOn name) := by
  cases hother : other.isOn name with
  | false =>
    have hvalue : env.layered other name = env name := by simp [layered, hother]
    rw [Bool.or_false, isOn, hvalue]
    rfl
  | true =>
    have hvalue : env.layered other name = other name := by simp [layered, hother]
    rw [Bool.or_true, isOn, hvalue]
    exact hother

end Environment

namespace Settings

section
variable (settings : Settings) {env other : Environment}

/-- What an environment adds depends on which of the two variables are on. -/
theorem withEnvironment_congr
    (h : ∀ name ∈ knownVariables, env.isOn name = other.isOn name) :
    settings.withEnvironment env = settings.withEnvironment other := by
  have hverbose := h verboseVariable (by simp [knownVariables])
  have hjson := h jsonVariable (by simp [knownVariables])
  unfold withEnvironment
  rw [hverbose, hjson]

theorem withEnvironment_layered (env other : Environment) :
    (settings.withEnvironment env).withEnvironment other =
      settings.withEnvironment (env.layered other) := by
  simp only [withEnvironment, Environment.isOn_layered, Bool.or_assoc]
  cases env.isOn jsonVariable <;> cases other.isOn jsonVariable <;> rfl

theorem verbose_withEnvironment :
    (settings.withEnvironment env).verbose = true ↔
      settings.verbose = true ∨ env.Sets verboseVariable := by
  unfold withEnvironment
  rw [Bool.or_eq_true, Environment.isOn_iff]

theorem format_withEnvironment :
    (settings.withEnvironment env).format = .json ↔
      settings.format = .json ∨ env.Sets jsonVariable := by
  rw [← Environment.isOn_iff]
  unfold withEnvironment
  cases env.isOn jsonVariable <;> simp

end

/-- Environments only switch on, and they combine. Whichever of two is applied first, the settings
are those of a single one that sets what either does, and one that is applied again adds nothing.
The detailed log and the JSON format are on afterwards exactly if they were before or the
environment sets their variable, and nothing else changes. Environments whose values of the two
variables are alike give the same settings. -/
theorem withEnvironment_combine (settings : Settings) (env other : Environment) :
    (settings.withEnvironment env).withEnvironment other =
      (settings.withEnvironment other).withEnvironment env ∧
    (∀ both : Environment,
      (∀ name ∈ knownVariables, both.Sets name ↔ env.Sets name ∨ other.Sets name) →
      (settings.withEnvironment env).withEnvironment other = settings.withEnvironment both) ∧
    (settings.withEnvironment env).withEnvironment env = settings.withEnvironment env ∧
    ((settings.withEnvironment env).verbose = true ↔
      settings.verbose = true ∨ env.Sets verboseVariable) ∧
    ((settings.withEnvironment env).format = .json ↔
      settings.format = .json ∨ env.Sets jsonVariable) ∧
    (settings.withEnvironment env).showSource = settings.showSource ∧
    (settings.withEnvironment env).openPattern = settings.openPattern ∧
    (settings.withEnvironment env).closePattern = settings.closePattern ∧
    (settings.withEnvironment env).columnOf = settings.columnOf ∧
    ((∀ name ∈ knownVariables, Alike (env name) (other name)) →
      settings.withEnvironment env = settings.withEnvironment other) := by
  refine ⟨?_, ?_, ?_, settings.verbose_withEnvironment, settings.format_withEnvironment,
    rfl, rfl, rfl, rfl, ?_⟩
  · rw [withEnvironment_layered, withEnvironment_layered]
    apply withEnvironment_congr
    intro name _
    rw [Environment.isOn_layered, Environment.isOn_layered, Bool.or_comm]
  · intro both hboth
    rw [withEnvironment_layered]
    apply withEnvironment_congr
    intro name hname
    rw [Environment.isOn_layered, Bool.eq_iff_iff, Bool.or_eq_true, Environment.isOn_iff,
      Environment.isOn_iff, Environment.isOn_iff]
    exact (hboth name hname).symm
  · rw [withEnvironment_layered]
    apply withEnvironment_congr
    intro name _
    rw [Environment.isOn_layered, Bool.or_self]
  · intro halike
    apply withEnvironment_congr
    intro name hname
    exact (halike name hname).any_isOnValue_eq

/-- An environment that asks for the detailed log between blanks, and says no to JSON. -/
def padding : Environment := fun name =>
  if name = verboseVariable then some "\u2003yes\n"
  else if name = jsonVariable then some " 0\t"
  else none

/-- An environment that asks for the detailed log alone, and holds a variable that is not asked
for. -/
def terse : Environment := fun name =>
  if name = verboseVariable then some "yes"
  else if name = jsonVariable then none
  else some "1"

/-- An environment that asks for JSON by a word of its own. -/
def wordy : Environment := fun name => if name = jsonVariable then some "off" else some "false"

/-- An environment in which every variable is on. -/
def eager : Environment := fun _ => some "1"

theorem withEnvironment_combine_padding :
    (∀ name ∈ knownVariables, Alike (padding name) (terse name)) ∧
    Settings.withEnvironment {} padding = Settings.withEnvironment {} terse ∧
    (∀ name ∈ knownVariables, eager.Sets name ↔ terse.Sets name ∨ wordy.Sets name) ∧
    (Settings.withEnvironment {} terse).withEnvironment wordy =
      Settings.withEnvironment {} eager :=
  have halike : ∀ name ∈ knownVariables, Alike (padding name) (terse name) := by
    have hyes : Text.Padded "yes" "\u2003yes\n" :=
      ⟨"\u2003", "\n", by decide, by decide, by decide⟩
    have hverbose : Alike (some "\u2003yes\n") (some "yes") :=
      .padded hyes ⟨"", "", by decide, by decide, by decide⟩
    have hzero : IsOff (some " 0\t") := by
      intro text htext
      rw [Option.mem_some_iff.1 htext.symm]
      exact ⟨"0", by decide, " ", "\t", by decide, by decide, by decide⟩
    have hjson : Alike (some " 0\t") none := .off hzero nofun
    intro name hname
    rcases List.mem_cons.1 hname with rfl | hname
    · exact hverbose
    · rw [List.mem_singleton.1 hname]
      exact hjson
  have hsets : ∀ name ∈ knownVariables, eager.Sets name ↔ terse.Sets name ∨ wordy.Sets name := by
    simp only [← Environment.isOn_iff]
    decide
  ⟨halike, (withEnvironment_combine {} padding terse).2.2.2.2.2.2.2.2.2 halike,
    hsets, (withEnvironment_combine {} terse wordy).2.1 _ hsets⟩

end Settings

end BlockFolding

import BlockFolding.Program
import BlockFolding.Proofs.SignedNumerals

/-
  Arguments written for settings

  Settings other than the default ones can be asked for by arguments: one for each flag that is set
  and one or two for each option that has a value. Arguments written in this way are accepted and
  read as the settings, whatever the values hold and in whatever order the requests come
  (`CommandLine.read_written`).

  Two facts carry it. To read arguments written for requests is to settle the requests one after
  another (`readFrom_written`): an option whose value is an argument of its own is settled late, when
  the next request or the end comes, but with the same result. And to settle some of the requests
  of settings is to keep their switches and leave the others out (`foldlM_set_keeping`), so no order
  matters, because no switch is asked for twice.
-/

namespace BlockFolding.CommandLine

/-! ## Requests and how they are written -/

/-- What arguments may ask for: a flag, or an option with its value. -/
inductive Request where
  | flag (name : Flag)
  | valued (option : Valued) (value : String)
  deriving DecidableEq, Repr

/-- The switch that a request is about. -/
def Request.switch : Request → Switch
  | .flag name => .flag name
  | .valued option _ => .valued option

/-- Settles a request. -/
def Request.set (settings : Settings) : Request → Except Stop Settings
  | .flag name => setFlag name settings
  | .valued option value => setValue option value settings

/-- How arguments write a request. A value stands behind an equals sign, or it is an argument of its
own; in that case it begins with no hyphen or is the index of a line. -/
inductive Written : Request → List String → Prop
  | flag (flag : Flag) : Written (.flag flag) ["--" ++ flag.name]
  | joined (option : Valued) (value : String) :
      Written (.valued option value) ["--" ++ option.name ++ "=" ++ value]
  | apart (option : Valued) (value : String) (no_hyphen : value.toList.head? ≠ some '-') :
      Written (.valued option value) ["--" ++ option.name, value]
  | index (n : Int64) :
      Written (.valued .column (Settings.intText n))
        ["--" ++ Valued.column.name, Settings.intText n]

/-- The request about a switch that settings are asked for by: for a flag if it is set, and for an
option if it has a value. -/
def request? (settings : Settings) : Switch → Option Request
  | .flag .json => if settings.format = .json then some (.flag .json) else none
  | .flag .showSource => if settings.showSource then some (.flag .showSource) else none
  | .flag .verbose => if settings.verbose then some (.flag .verbose) else none
  | .valued .openPattern => settings.openPattern.map (.valued .openPattern)
  | .valued .closePattern => settings.closePattern.map (.valued .closePattern)
  | .valued .column => settings.columnOf.map fun n => .valued .column (Settings.intText n)
  | .help | .version => none

/-- The switches that set something. -/
def switches : List Switch :=
  [.flag .json, .flag .showSource, .flag .verbose, .valued .openPattern, .valued .closePattern,
    .valued .column]

/-- The requests that settings are asked for by. -/
def requests (settings : Settings) : List Request := switches.filterMap (request? settings)

/-! ## The look of written arguments -/

theorem cutName_append : ∀ {name : List Char}, '=' ∉ name → ∀ (value : List Char),
    cutName (name ++ '=' :: value) = (name, some value)
  | [], _, _ => rfl
  | c :: name, h, value => by
    rw [List.mem_cons, not_or] at h
    rw [List.cons_append, cutName]
    · rw [cutName_append h.2 value]
    · exact fun hc => h.1 hc.symm

theorem ofArgument_flag (flag : Flag) :
    Form.ofArgument ("--" ++ flag.name) = .long flag.name none := by
  cases flag <;> rfl

theorem ofArgument_name (option : Valued) :
    Form.ofArgument ("--" ++ option.name) = .long option.name none := by
  cases option <;> rfl

theorem ofArgument_joined (option : Valued) (value : String) :
    Form.ofArgument ("--" ++ option.name ++ "=" ++ value) = .long option.name (some value) := by
  obtain ⟨c, rest, hname⟩ : ∃ c rest, option.name.toList = c :: rest := by
    cases option <;> exact ⟨_, _, rfl⟩
  have hequals : '=' ∉ option.name.toList := by cases option <;> decide
  have hargument : ("--" ++ option.name ++ "=" ++ value).toList =
      '-' :: '-' :: c :: (rest ++ '=' :: value.toList) := by
    simp [String.toList_append, hname]
  have hcut := cutName_append hequals value.toList
  rw [hname, List.cons_append] at hcut
  rw [Form.ofArgument, hargument]
  simp only [hcut, ← hname, String.ofList_toList, Option.map_some]

theorem ofArgument_word {argument : String} (h : argument.toList.head? ≠ some '-') :
    Form.ofArgument argument = .word := by
  unfold Form.ofArgument
  split <;> simp_all

theorem isNumberFrom_digits {pointSeen markSeen : Bool} : ∀ {digits : List Char} {first : Bool},
    (∀ d ∈ digits, d.isDigit = true) → isNumberFrom first pointSeen markSeen digits = true
  | [], _, _ => rfl
  | d :: rest, _, h => by
    obtain ⟨hd, hrest⟩ := List.forall_mem_cons.1 h
    rw [isNumberFrom, if_pos hd]
    exact isNumberFrom_digits hrest

/-- The look of an argument that is taken as the value of an option. -/
def TakenAs (option : Valued) (argument : String) : Prop :=
  Form.ofArgument argument = .word ∨
    ∃ letters, Form.ofArgument argument = .short letters ∧ option.takes letters = true

theorem takenAs_column (n : Int64) : TakenAs .column (Settings.intText n) := by
  have hnumeral := Text.toList_intText n
  obtain ⟨d, rest, hdigits, hd⟩ := Text.exists_toDigits_eq_cons n.toInt.natAbs
  have hhyphen : d ≠ '-' := by
    rintro rfl
    contradiction
  rw [hdigits] at hnumeral
  split at hnumeral
  · refine .inr ⟨d :: rest, ?_, ?_⟩
    · rw [Form.ofArgument, hnumeral]
      simp [hhyphen]
    · rw [← hdigits]
      exact isNumberFrom_digits isDigit_of_mem_toDigits
  · left
    apply ofArgument_word
    rw [hnumeral]
    simp [hhyphen]

/-! ## Reading written arguments -/

theorem ofName?_flag (flag : Flag) : Switch.ofName? flag.name = some (.flag flag) := by
  cases flag <;> rfl

theorem ofName?_valued (option : Valued) : Switch.ofName? option.name = some (.valued option) := by
  cases option <;> rfl

/-- The settings if the arguments end here. -/
def Progress.ending (progress : Progress) : Except Stop Settings :=
  settle progress.waiting progress.settings

theorem ending_settled (settings : Settings) : Progress.ending { settings } = .ok settings := rfl

theorem ending_waiting (settings : Settings) (option : Valued) (value : String) :
    Progress.ending { settings, waiting := some { option, value := some value } } =
      setValue option value settings :=
  rfl

section
variable (progress : Progress) (rest : List String)

theorem readFrom_cons {argument : String} (h : Form.ofArgument argument ≠ .separator) :
    readFrom progress (argument :: rest) =
      readArgument argument progress >>= (readFrom · rest) := by
  simp only [readFrom, if_neg h]

theorem readFrom_long {argument name : String} {value : Option String}
    (h : Form.ofArgument argument = .long name value) :
    readFrom progress (argument :: rest) = readLong name value progress >>= (readFrom · rest) := by
  rw [readFrom_cons progress rest (by simp [h]), readArgument, h]

theorem readFrom_flag (flag : Flag) :
    readFrom progress (("--" ++ flag.name) :: rest) = (do
      let settings ← progress.ending
      let settings ← setFlag flag settings
      readFrom { settings } rest) := by
  simp only [readFrom_long progress rest (ofArgument_flag flag), readLong, ofName?_flag,
    Progress.settled, Progress.ending, bind_assoc, pure_bind]

theorem readFrom_joined (option : Valued) (value : String) :
    readFrom progress (("--" ++ option.name ++ "=" ++ value) :: rest) = (do
      let settings ← progress.ending
      let settings ← setValue option value settings
      readFrom { settings } rest) := by
  simp only [readFrom_long progress rest (ofArgument_joined option value), readLong,
    ofName?_valued, Progress.settled, Progress.ending, bind_assoc, pure_bind]

/-- An option with its value as an argument of its own settles what waits, and waits then. -/
theorem readFrom_apart {option : Valued} {value : String} (h : TakenAs option value) :
    readFrom progress (("--" ++ option.name) :: value :: rest) = (do
      let settings ← progress.ending
      readFrom { settings, waiting := some { option, value := some value } } rest) := by
  have hvalue (settings : Settings) :
      readFrom { settings, waiting := some { option, value := none } } (value :: rest) =
        readFrom { settings, waiting := some { option, value := some value } } rest := by
    rcases h with hword | ⟨letters, hshort, htakes⟩
    · rw [readFrom_cons _ _ (by simp [hword]), readArgument, hword]
      rfl
    · rw [readFrom_cons _ _ (by simp [hshort]), readArgument, hshort]
      simp only [Progress.wanting, htakes, if_true]
      rfl
  simp only [readFrom_long progress (value :: rest) (ofArgument_name option), readLong,
    ofName?_valued, Progress.settled, Progress.ending, bind_assoc, pure_bind, hvalue]

end

/-- To read arguments written for requests is to settle what waits and then the requests. -/
theorem readFrom_written {asked : List Request} {arguments : List (List String)}
    (h : List.Forall₂ Written asked arguments) (progress : Progress) :
    readFrom progress arguments.flatten = progress.ending >>= asked.foldlM Request.set := by
  induction h generalizing progress with
  | nil =>
    rw [List.flatten_nil, readFrom, ← Progress.ending]
    exact (bind_pure progress.ending).symm
  | @cons request _ asked arguments hwritten _ ih =>
    rw [List.flatten_cons]
    cases hwritten with
    | flag flag =>
      simp only [List.singleton_append, readFrom_flag, ih, ending_settled, ok_bind,
        List.foldlM_cons, Request.set]
    | joined option value =>
      simp only [List.singleton_append, readFrom_joined, ih, ending_settled, ok_bind,
        List.foldlM_cons, Request.set]
    | apart option value no_hyphen =>
      have htaken : TakenAs option value := .inl (ofArgument_word no_hyphen)
      simp only [List.cons_append, List.nil_append, readFrom_apart _ _ htaken, ih, ending_waiting,
        List.foldlM_cons, Request.set]
    | index n =>
      simp only [List.cons_append, List.nil_append, readFrom_apart _ _ (takenAs_column n), ih,
        ending_waiting, List.foldlM_cons, Request.set]

/-! ## Settling the requests of settings -/

section
variable {settings : Settings}

theorem switch_of_request? {switch : Switch} {request : Request}
    (h : request? settings switch = some request) : request.switch = switch := by
  cases switch with
  | flag flag =>
    cases flag <;>
    · obtain ⟨-, hrequest⟩ := Option.ite_none_right_eq_some.1 h
      cases hrequest
      rfl
  | valued option =>
    cases option <;>
    · obtain ⟨value, -, hrequest⟩ := Option.map_eq_some_iff.1 h
      cases hrequest
      rfl
  | help => contradiction
  | version => contradiction

theorem mem_requests {request : Request} :
    request ∈ requests settings ↔ request? settings request.switch = some request := by
  rw [requests, List.mem_filterMap]
  constructor
  · rintro ⟨switch, -, hrequest⟩
    rwa [switch_of_request? hrequest]
  · intro hrequest
    have hmem : request.switch ∈ switches := by
      cases request with
      | flag flag => cases flag <;> simp [Request.switch, switches]
      | valued option value => cases option <;> simp [Request.switch, switches]
    exact ⟨request.switch, hmem, hrequest⟩

theorem switch_filterMap_sublist : ∀ (switches : List Switch),
    ((switches.filterMap (request? settings)).map Request.switch).Sublist switches
  | [] => .slnil
  | switch :: rest => by
    have ih := switch_filterMap_sublist rest
    cases hrequest : request? settings switch with
    | none =>
      rw [List.filterMap_cons_none hrequest]
      exact ih.cons switch
    | some request =>
      rw [List.filterMap_cons_some hrequest, List.map_cons, switch_of_request? hrequest]
      exact ih.cons_cons switch

variable (settings) in
theorem nodup_switch_requests : ((requests settings).map Request.switch).Nodup := by
  have hswitches : switches.Nodup := by decide
  exact hswitches.sublist (switch_filterMap_sublist switches)

/-- The settings of which only the switches of a list are kept, and the others are left out. -/
def keeping (kept : List Switch) (settings : Settings) : Settings where
  format := if .flag .json ∈ kept then settings.format else .text
  showSource := if .flag .showSource ∈ kept then settings.showSource else false
  verbose := if .flag .verbose ∈ kept then settings.verbose else false
  openPattern := if .valued .openPattern ∈ kept then settings.openPattern else none
  closePattern := if .valued .closePattern ∈ kept then settings.closePattern else none
  columnOf := if .valued .column ∈ kept then settings.columnOf else none

/-- Settings are kept whole where the switches of their requests are kept: the others are as they
are by default. -/
theorem keeping_eq_self {kept : List Switch}
    (h : ∀ switch request, request? settings switch = some request → switch ∈ kept) :
    keeping kept settings = settings := by
  obtain ⟨format, showSource, openPattern, closePattern, columnOf, verbose⟩ := settings
  simp only [keeping, Settings.mk.injEq]
  refine ⟨?_, ?_, ?_, ?_, ?_, ?_⟩
  · cases format with
    | text => exact ite_self _
    | json => exact if_pos (h (.flag .json) _ rfl)
  · cases showSource with
    | false => exact ite_self _
    | true => exact if_pos (h (.flag .showSource) _ rfl)
  · cases openPattern with
    | none => exact ite_self _
    | some pattern => exact if_pos (h (.valued .openPattern) _ rfl)
  · cases closePattern with
    | none => exact ite_self _
    | some pattern => exact if_pos (h (.valued .closePattern) _ rfl)
  · cases columnOf with
    | none => exact ite_self _
    | some n => exact if_pos (h (.valued .column) _ rfl)
  · cases verbose with
    | false => exact ite_self _
    | true => exact if_pos (h (.flag .verbose) _ rfl)

theorem set_keeping {kept : List Switch} {request : Request}
    (h : request? settings request.switch = some request) (hnew : request.switch ∉ kept) :
    request.set (keeping kept settings) = .ok (keeping (request.switch :: kept) settings) := by
  cases request with
  | flag flag => cases flag <;> simp_all [request?, Request.switch, Request.set, setFlag, keeping]
  | valued option value =>
    cases option with
    | openPattern => simp_all [request?, Request.switch, Request.set, setValue, keeping]
    | closePattern => simp_all [request?, Request.switch, Request.set, setValue, keeping]
    | column =>
      -- The value is the numeral of an index, and that is read back.
      obtain ⟨n, hn, hvalue⟩ := Option.map_eq_some_iff.1 h
      cases hvalue
      simp_all [Request.switch, Request.set, setValue, keeping, Text.readInt64_intText]

/-- To settle requests of settings of which their switches are left out, none of them asked for
twice, is to keep their switches. -/
theorem foldlM_set_keeping : ∀ {asked : List Request} {kept : List Switch},
    (∀ request ∈ asked, request ∈ requests settings) →
    ((asked.map Request.switch).reverse ++ kept).Nodup →
    asked.foldlM Request.set (keeping kept settings) =
      .ok (keeping ((asked.map Request.switch).reverse ++ kept) settings)
  | [], _, _, _ => rfl
  | request :: asked, kept, hasked, hnodup => by
    obtain ⟨hrequest, hlater⟩ := List.forall_mem_cons.1 hasked
    rw [List.map_cons, List.reverse_cons, List.append_assoc, List.singleton_append] at hnodup ⊢
    have hnew : request.switch ∉ kept :=
      (List.nodup_cons.1 (List.nodup_append.1 hnodup).2.1).1
    rw [List.foldlM_cons, set_keeping (mem_requests.1 hrequest) hnew, ok_bind]
    exact foldlM_set_keeping hlater hnodup

theorem foldlM_set_requests {asked : List Request} (h : asked.Perm (requests settings)) :
    asked.foldlM Request.set {} = .ok settings := by
  have hnodup : ((asked.map Request.switch).reverse ++ []).Nodup := by
    rw [List.append_nil, (List.reverse_perm _).nodup_iff, (h.map Request.switch).nodup_iff]
    exact nodup_switch_requests settings
  have hwhole : keeping ((asked.map Request.switch).reverse ++ []) settings = settings := by
    apply keeping_eq_self
    intro switch request hrequest
    have hswitch := switch_of_request? hrequest
    rw [← hswitch] at hrequest ⊢
    rw [List.append_nil, List.mem_reverse]
    exact List.mem_map_of_mem (h.symm.subset (mem_requests.2 hrequest))
  calc asked.foldlM Request.set {}
      = asked.foldlM Request.set (keeping [] settings) := rfl
    _ = .ok settings := by
      rw [foldlM_set_keeping (fun request hrequest => h.subset hrequest) hnodup, hwhole]

end

/-! ## Settings from arguments -/

/-- An environment in which no variable has a value. -/
def emptyEnvironment : Environment := fun _ => none

theorem withEnvironment_empty (settings : Settings) :
    settings.withEnvironment emptyEnvironment = settings := by
  simp [Settings.withEnvironment, Environment.isOn, emptyEnvironment]

/-- Arguments written for the requests of settings, in whatever order they come and way they are
written, are read as the settings, and where the environment is empty the program runs with just
these. -/
theorem read_written (settings : Settings) (asked : List Request) (arguments : List (List String))
    (compiler : Pattern.Compiler) (horder : asked.Perm (requests settings))
    (hwritten : List.Forall₂ Written asked arguments) :
    read arguments.flatten = .ok settings ∧
      settings.withEnvironment emptyEnvironment = settings ∧
      Program.run arguments.flatten emptyEnvironment compiler =
        Program.runWith settings emptyEnvironment compiler := by
  have hread : read arguments.flatten = .ok settings :=
    calc read arguments.flatten
        = Progress.ending {} >>= asked.foldlM Request.set := readFrom_written hwritten {}
      _ = asked.foldlM Request.set {} := rfl
      _ = .ok settings := foldlM_set_requests horder
  refine ⟨hread, withEnvironment_empty settings, ?_⟩
  rw [Program.run_eq_runWith hread, withEnvironment_empty]

/-- Settings in which nothing is left as it is by default: a pattern that looks like an option, one
that is empty, and the least of all indices. -/
def unusual : Settings where
  format := .json
  showSource := true
  openPattern := some "--json= =😀"
  closePattern := some ""
  columnOf := some Int64.minValue
  verbose := true

/-- The requests of the unusual settings, in another order. -/
def unusualRequests : List Request :=
  [.valued .column "-9223372036854775808", .flag .verbose, .valued .closePattern "",
    .valued .openPattern "--json= =😀", .flag .showSource, .flag .json]

/-- Arguments written for these requests. -/
def unusualArguments : List (List String) :=
  [["--column", "-9223372036854775808"], ["--verbose"], ["--close-pattern", ""],
    ["--open-pattern=--json= =😀"], ["--show-source"], ["--json"]]

theorem read_written_unusual :
    unusualRequests.Perm (requests unusual) ∧
    List.Forall₂ Written unusualRequests unusualArguments ∧
    read unusualArguments.flatten = .ok unusual ∧
    unusual.withEnvironment emptyEnvironment = unusual ∧
    Program.run unusualArguments.flatten emptyEnvironment .direct =
      Program.runWith unusual emptyEnvironment .direct :=
  have hleast : Settings.intText Int64.minValue = "-9223372036854775808" := by decide
  have horder : unusualRequests.Perm (requests unusual) := by decide
  have hwritten : List.Forall₂ Written unusualRequests unusualArguments :=
    .cons (hleast ▸ .index Int64.minValue) <| .cons (.flag .verbose) <|
      .cons (.apart .closePattern "" (by decide)) <| .cons (.joined .openPattern "--json= =😀") <|
        .cons (.flag .showSource) <| .cons (.flag .json) .nil
  ⟨horder, hwritten, read_written unusual unusualRequests unusualArguments .direct horder hwritten⟩

end BlockFolding.CommandLine

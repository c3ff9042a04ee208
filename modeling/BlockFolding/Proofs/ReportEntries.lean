import BlockFolding.Plan.Report
import BlockFolding.Proofs.AnyRanges

/-
  The entries of a report

  A report can be asked for of any plan, also one that was not built from ranges: its lists may be
  of different lengths, and its numbers any words. The entries end with the shortest of the lists
  (`entryCount`), while the head counts the regions. Writing an entry goes wrong in two ways only,
  those of counting the lines of its region, and the first region that is not counted ends the
  report (`report_entries`). Regions past the shortest list are not looked at, so they may be
  anything.
-/

namespace BlockFolding.FoldPlan

/-- How many entries the report of the plan has: as many as the shortest of its lists. -/
def entryCount (plan : FoldPlan) : Nat :=
  min plan.regions.length (min plan.zones.length plan.widgets.length)

/-! ## One entry -/

/-- The part of an entry on its region. -/
def blockPart (number : Nat) (region : FoldingRegion) (count : Word) : String :=
  "Block " ++ toString number ++ ": lines " ++ toString region.first.toNat ++ "-" ++
    toString region.last.toNat ++ " (" ++ toString count.toNat ++ " lines)\n"

/-- The part of an entry on its zone. -/
def zonePart (zone : CommentZone) : String :=
  "  zone:   after line " ++ toString zone.afterLine.toNat ++ ": " ++ zone.text ++ "\n"

/-- The part of an entry on its widget. -/
def widgetPart (widget : InspectWidget) : String :=
  "  widget: " ++ widget.id ++ " at " ++ toString widget.line.toNat ++ ":" ++
    toString widget.column.toNat ++ "\n"

/-- The text is the entry with the number for the region, the zone and the widget. -/
def IsEntry (number : Nat) (region : FoldingRegion) (zone : CommentZone) (widget : InspectWidget)
    (text : String) : Prop :=
  ∃ count, LineRange.lineCount { first := region.first, last := region.last } = .ok count ∧
    text = blockPart number region count ++ zonePart zone ++ widgetPart widget ++ rule

section
variable {index : Nat} {region : FoldingRegion} {zone : CommentZone} {widget : InspectWidget}

/-- An entry takes one bound of its region from the other and adds one, and that is how the lines of
a range with these bounds are counted. -/
theorem entry_eq_bind :
    entry index region zone widget = (do
      let count ← LineRange.lineCount { first := region.first, last := region.last }
      return blockPart (index + 1) region count ++ zonePart zone ++ widgetPart widget ++ rule) := by
  unfold entry LineRange.lineCount blockPart zonePart widgetPart
  simp only [bind_assoc, String.append_assoc]

theorem entry_eq_ok {text : String} :
    entry index region zone widget = .ok text ↔ IsEntry (index + 1) region zone widget text := by
  rw [entry_eq_bind, bind_eq_ok, IsEntry]
  simp only [pure, Except.pure, Except.ok.injEq, eq_comm]

theorem entry_eq_error {overflow : Overflow} :
    entry index region zone widget = .error overflow ↔
      CountOverflow region.first region.last overflow := by
  rw [entry_eq_bind, bind_pure_eq_error, LineRange.lineCount_eq_error]

end

/-! ## All entries -/

/-- Some region is not counted because of the overflow, and all before it are counted. -/
def FirstOverflow (regions : List FoldingRegion) (overflow : Overflow) : Prop :=
  ∃ place region, regions[place]? = some region ∧
    CountOverflow region.first region.last overflow ∧
    ∀ earlier ∈ regions.take place, ∀ other, ¬ CountOverflow earlier.first earlier.last other

theorem firstOverflow_nil (overflow : Overflow) : ¬ FirstOverflow [] overflow := by
  rintro ⟨place, region, hregion, -⟩
  contradiction

theorem firstOverflow_cons {region : FoldingRegion} {rest : List FoldingRegion}
    {overflow : Overflow} :
    FirstOverflow (region :: rest) overflow ↔
      CountOverflow region.first region.last overflow ∨
        (∀ other, ¬ CountOverflow region.first region.last other) ∧
          FirstOverflow rest overflow := by
  constructor
  · rintro ⟨place, failing, hfailing, hoverflow, hearlier⟩
    cases place with
    | zero =>
      rw [List.getElem?_cons_zero, Option.some.injEq] at hfailing
      exact .inl (hfailing ▸ hoverflow)
    | succ place =>
      rw [List.take_succ_cons, List.forall_mem_cons] at hearlier
      exact .inr ⟨hearlier.1, place, failing, hfailing, hoverflow, hearlier.2⟩
  · rintro (hoverflow | ⟨hcounted, place, failing, hfailing, hoverflow, hearlier⟩)
    · exact ⟨0, region, rfl, hoverflow, nofun⟩
    · refine ⟨place + 1, failing, hfailing, hoverflow, ?_⟩
      rw [List.take_succ_cons]
      exact List.forall_mem_cons.2 ⟨hcounted, hearlier⟩

section
variable {index : Nat} {region : FoldingRegion} {zone : CommentZone} {widget : InspectWidget}
  {regions : List FoldingRegion} {zones : List CommentZone} {widgets : List InspectWidget}

theorem entries_cons_eq_ok {texts : List String} :
    entries index (region :: regions) (zone :: zones) (widget :: widgets) = .ok texts ↔
      ∃ text later, entry index region zone widget = .ok text ∧
        entries (index + 1) regions zones widgets = .ok later ∧ texts = text :: later := by
  rw [entries, bind_eq_ok]
  apply exists_congr
  intro text
  rw [bind_eq_ok, ← exists_and_left]
  apply exists_congr
  intro later
  simp only [pure, Except.pure, Except.ok.injEq, eq_comm]

theorem entries_cons_eq_error {overflow : Overflow} :
    entries index (region :: regions) (zone :: zones) (widget :: widgets) = .error overflow ↔
      CountOverflow region.first region.last overflow ∨
        (∀ other, ¬ CountOverflow region.first region.last other) ∧
          entries (index + 1) regions zones widgets = .error overflow := by
  rw [entries, bind_eq_error, entry_eq_error]
  simp only [bind_pure_eq_error, exists_and_right, exists_eq_ok_iff, Ne, entry_eq_error]

end

/-- The entries meet the overflow that the first of their regions not counted meets. -/
theorem entries_eq_error (overflow : Overflow) : ∀ (regions : List FoldingRegion)
    (zones : List CommentZone) (widgets : List InspectWidget) (index : Nat),
    entries index regions zones widgets = .error overflow ↔
      FirstOverflow (regions.take (min regions.length (min zones.length widgets.length))) overflow
  | [], _, _, _ => iff_of_false nofun (by simpa using firstOverflow_nil overflow)
  | _ :: _, [], _, _ => iff_of_false nofun (by simpa using firstOverflow_nil overflow)
  | _ :: _, _ :: _, [], _ => iff_of_false nofun (by simpa using firstOverflow_nil overflow)
  | region :: regions, zone :: zones, widget :: widgets, index => by
    have ih := entries_eq_error overflow regions zones widgets (index + 1)
    simp only [List.length_cons, Nat.add_min_add_right, List.take_succ_cons]
    rw [entries_cons_eq_error, firstOverflow_cons, ih]

theorem entries_eq_ok : ∀ {regions : List FoldingRegion} {zones : List CommentZone}
    {widgets : List InspectWidget} {index : Nat} {texts : List String},
    entries index regions zones widgets = .ok texts →
      texts.length = min regions.length (min zones.length widgets.length) ∧
      ∀ place text, texts[place]? = some text → ∃ region zone widget,
        regions[place]? = some region ∧ zones[place]? = some zone ∧
        widgets[place]? = some widget ∧ IsEntry (index + place + 1) region zone widget text
  | [], _, _, _, _, h
  | _ :: _, [], _, _, _, h
  | _ :: _, _ :: _, [], _, _, h => by
    cases h
    exact ⟨by simp, nofun⟩
  | region :: regions, zone :: zones, widget :: widgets, index, texts, h => by
    obtain ⟨text, later, htext, hlater, rfl⟩ := entries_cons_eq_ok.1 h
    obtain ⟨hlength, hplaces⟩ := entries_eq_ok hlater
    refine ⟨?_, ?_⟩
    · simp only [List.length_cons, Nat.add_min_add_right, hlength]
    · intro place other hother
      cases place with
      | zero =>
        rw [List.getElem?_cons_zero, Option.some.injEq] at hother
        exact ⟨region, zone, widget, rfl, rfl, rfl, hother ▸ entry_eq_ok.1 htext⟩
      | succ place =>
        have hplace := hplaces place other hother
        rw [Nat.add_right_comm index 1 place] at hplace
        exact hplace

/-! ## Reports -/

/-- The regions that have an entry in the report of the plan. -/
def shownRegions (plan : FoldPlan) : List FoldingRegion := plan.regions.take plan.entryCount

/-- A report meets the overflow that the first region not counted, of those it shows, meets. -/
theorem report_eq_error {plan : FoldPlan} {overflow : Overflow} :
    plan.report = .error overflow ↔ FirstOverflow plan.shownRegions overflow := by
  rw [report, bind_pure_eq_error, entries_eq_error, shownRegions, entryCount]

theorem exists_firstOverflow {regions : List FoldingRegion} :
    (∃ overflow, FirstOverflow regions overflow) ↔
      ∃ region ∈ regions, ∃ overflow, CountOverflow region.first region.last overflow := by
  induction regions with
  | nil => simp [firstOverflow_nil]
  | cons region rest ih =>
    simp only [firstOverflow_cons, List.exists_mem_cons_iff, exists_or, exists_and_left, ih]
    apply or_congr_right'
    intro hcounted
    exact and_iff_right (not_exists.1 hcounted)

theorem exists_countOverflow {first last : Word} :
    (∃ overflow, CountOverflow first last overflow) ↔
      last.toNat < first.toNat ∨ last.toNat - first.toNat = 2 ^ 64 - 1 := by
  have hcount : last.toNat - first.toNat + 1 = UInt64.size ↔
      last.toNat - first.toNat = 2 ^ 64 - 1 := by
    rw [UInt64.size]
    omega
  constructor
  · rintro ⟨overflow, hlt | hall⟩
    · exact .inl hlt
    · exact .inr (hcount.1 hall)
  · rintro (hlt | hall)
    · exact ⟨.sub, .inverted hlt⟩
    · exact ⟨.add, .everyNumber (hcount.2 hall)⟩

theorem exists_report_eq_error {plan : FoldPlan} :
    (∃ overflow, plan.report = .error overflow) ↔
      ∃ region ∈ plan.shownRegions, region.last.toNat < region.first.toNat ∨
        region.last.toNat - region.first.toNat = 2 ^ 64 - 1 := by
  simp only [report_eq_error, exists_firstOverflow, exists_countOverflow]

/-- A report that is written is its head and the entries behind it. -/
theorem report_eq_ok {plan : FoldPlan} {text : String} (h : plan.report = .ok text) :
    ∃ texts, text = plan.head ++ String.join texts ∧ texts.length = plan.entryCount ∧
      ∀ place entry, texts[place]? = some entry → ∃ region zone widget,
        plan.regions[place]? = some region ∧ plan.zones[place]? = some zone ∧
        plan.widgets[place]? = some widget ∧ IsEntry (place + 1) region zone widget entry := by
  rw [report, bind_eq_ok] at h
  obtain ⟨texts, htexts, h⟩ := h
  obtain ⟨hlength, hplaces⟩ := entries_eq_ok htexts
  simp only [Nat.zero_add] at hplaces
  exact ⟨texts, (Except.ok.inj h).symm, hlength, hplaces⟩

theorem entryCount_of_build {source : String} {ranges : List LineRange} {plan : FoldPlan}
    (h : build source ranges = .ok plan) : plan.entryCount = plan.regions.length := by
  rw [eq_ofRanges_of_build h, entryCount, ofRanges]
  simp only [List.length_map, List.length_zipIdx, Nat.min_self]

/-- The report of any plan. It meets an overflow just where a region that it shows is the wrong way
round or covers all numbers, and then the overflow of the first such region. Otherwise its head
counts the regions, and an entry for each place that all of the lists have shows the members at that
place. In a plan that was built every region has its entry. -/
theorem report_entries (plan : FoldPlan) :
    ((∃ overflow, plan.report = .error overflow) ↔
      ∃ region ∈ plan.shownRegions, region.last.toNat < region.first.toNat ∨
        region.last.toNat - region.first.toNat = 2 ^ 64 - 1) ∧
    (∀ overflow, plan.report = .error overflow ↔ FirstOverflow plan.shownRegions overflow) ∧
    ((∀ region ∈ plan.shownRegions, ¬ (region.last.toNat < region.first.toNat ∨
        region.last.toNat - region.first.toNat = 2 ^ 64 - 1)) →
      ∃ texts, plan.report = .ok (rule ++ "Large blocks found: " ++
          toString plan.regions.length ++ "\n" ++ rule ++ String.join texts) ∧
        texts.length = plan.entryCount ∧
        ∀ place text, texts[place]? = some text → ∃ region zone widget,
          plan.regions[place]? = some region ∧ plan.zones[place]? = some zone ∧
          plan.widgets[place]? = some widget ∧ IsEntry (place + 1) region zone widget text) ∧
    (∀ source ranges, build source ranges = .ok plan →
      plan.entryCount = plan.regions.length) := by
  refine ⟨exists_report_eq_error, fun _ => report_eq_error, ?_, fun _ _ => entryCount_of_build⟩
  intro hcounted
  have hwritten : ∃ text, plan.report = .ok text := by
    rw [exists_eq_ok_iff]
    intro overflow hoverflow
    obtain ⟨region, hregion, hfails⟩ := exists_report_eq_error.1 ⟨overflow, hoverflow⟩
    exact hcounted region hregion hfails
  obtain ⟨text, htext⟩ := hwritten
  obtain ⟨texts, rfl, hlength, hplaces⟩ := report_eq_ok htext
  exact ⟨texts, htext, hlength, hplaces⟩

/-- A plan with fewer zones than regions, of which the last one is the wrong way round. -/
def lopsided : FoldPlan where
  regions := [{ first := 3, last := 6 }, { first := 7, last := 7 }, { first := 9, last := 4 }]
  zones := [{ afterLine := 0, text := "" }, { afterLine := 8, text := "a\nb" }]
  widgets := [{ id := "x", line := 3, column := 0 }, { id := "x", line := 0, column := 2 },
    { id := "", line := 1, column := 1 }]

theorem report_entries_lopsided :
    (∀ region ∈ lopsided.shownRegions, ¬ (region.last.toNat < region.first.toNat ∨
      region.last.toNat - region.first.toNat = 2 ^ 64 - 1)) ∧
    ((∃ overflow, lopsided.report = .error overflow) ↔
      ∃ region ∈ lopsided.shownRegions, region.last.toNat < region.first.toNat ∨
        region.last.toNat - region.first.toNat = 2 ^ 64 - 1) ∧
    (∀ overflow, lopsided.report = .error overflow ↔
      FirstOverflow lopsided.shownRegions overflow) ∧
    (∃ texts, lopsided.report = .ok (rule ++ "Large blocks found: " ++
        toString lopsided.regions.length ++ "\n" ++ rule ++ String.join texts) ∧
      texts.length = lopsided.entryCount ∧
      ∀ place text, texts[place]? = some text → ∃ region zone widget,
        lopsided.regions[place]? = some region ∧ lopsided.zones[place]? = some zone ∧
        lopsided.widgets[place]? = some widget ∧
        IsEntry (place + 1) region zone widget text) ∧
    ∃ plan, build Text.tangled unruly = .ok plan ∧ plan.entryCount = plan.regions.length :=
  have hcounted : ∀ region ∈ lopsided.shownRegions,
      ¬ (region.last.toNat < region.first.toNat ∨
        region.last.toNat - region.first.toNat = 2 ^ 64 - 1) := by decide
  have hreport := report_entries lopsided
  have hfirst : ∀ range ∈ unruly, range.first ≠ 0 := by decide
  have hbuild := build_eq_ofRanges Text.tangled hfirst
  ⟨hcounted, hreport.1, hreport.2.1, hreport.2.2.1 hcounted,
    _, hbuild, (report_entries _).2.2.2 Text.tangled unruly hbuild⟩

-- With a third zone the region that is the wrong way round is shown.
example : report { lopsided with zones := lopsided.zones ++ lopsided.zones } = .error .sub := by
  decide

end BlockFolding.FoldPlan

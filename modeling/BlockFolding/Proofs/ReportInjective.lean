import BlockFolding.Proofs.ReportEntries
import BlockFolding.Text

/-
  Reports tell their plans

  The report of a plan made from ranges loses nothing (`report_ofRanges_inj`): its head tells how
  many entries follow, and in an entry every number ends at a sign that is no digit, so the numbers
  are told apart however wide they are. A report ends in a rule, so of the blanks at its end nothing
  is cut off but its last line end, whatever stands in front of it (`trimEnd_report`).
-/

namespace BlockFolding

theorem numeral_text_append_inj {n m : Nat} {text : String} {c : Char} {cs : List Char}
    (htext : text.toList = c :: cs) (hc : c.isDigit = false) {behind behind' : List Char}
    (h : (toString n).toList ++ (text.toList ++ behind) =
      (toString m).toList ++ (text.toList ++ behind')) :
    n = m ∧ behind = behind' := by
  have hends (rest : List Char) : EndsNumeral (text.toList ++ rest) := by
    rw [htext]
    exact endsNumeral_cons hc _
  obtain ⟨hnumber, hbehind⟩ := numeral_append_inj (hends behind) (hends behind') h
  exact ⟨hnumber, List.append_cancel_left hbehind⟩

theorem Text.trimEndChars_concat (cs : List Char) {sign blank : Char}
    (hsign : Unicode.isWhiteSpace sign = false) (hblank : Unicode.isWhiteSpace blank = true) :
    Text.trimEndChars (cs ++ [sign, blank]) = cs ++ [sign] := by
  simp [Text.trimEndChars, hsign, hblank]

namespace FoldPlan

/-! ## Entries -/

/-- An entry tells its region, its zone and its widget, and where it ends, if the note and the id
are known. -/
theorem entry_append_inj {index : Nat} {region region' : FoldingRegion} {zone zone' : CommentZone}
    {widget widget' : InspectWidget} {text text' : String} {behind behind' : List Char}
    (htext : entry index region zone widget = .ok text)
    (htext' : entry index region' zone' widget' = .ok text')
    (hnote : zone.text = zone'.text) (hid : widget.id = widget'.id)
    (h : text.toList ++ behind = text'.toList ++ behind') :
    region = region' ∧ zone = zone' ∧ widget = widget' ∧ behind = behind' := by
  obtain ⟨count, -, rfl⟩ := entry_eq_ok.1 htext
  obtain ⟨count', -, rfl⟩ := entry_eq_ok.1 htext'
  unfold blockPart zonePart widgetPart at h
  rw [hnote, hid] at h
  simp only [String.toList_append, List.append_assoc, List.append_cancel_left_eq] at h
  -- Each number stands in front of a fixed text that begins with no digit.
  obtain ⟨hfirst, h⟩ := numeral_text_append_inj rfl rfl h
  obtain ⟨hlast, h⟩ := numeral_text_append_inj rfl rfl h
  obtain ⟨-, h⟩ := numeral_text_append_inj rfl rfl h
  rw [List.append_cancel_left_eq] at h
  obtain ⟨hafter, h⟩ := numeral_text_append_inj rfl rfl h
  simp only [List.append_cancel_left_eq] at h
  obtain ⟨hline, h⟩ := numeral_text_append_inj rfl rfl h
  obtain ⟨hcolumn, h⟩ := numeral_text_append_inj rfl rfl h
  have hbehind := List.append_cancel_left h
  obtain ⟨first, last, kind⟩ := region
  obtain ⟨first', last', kind'⟩ := region'
  obtain ⟨afterLine, note⟩ := zone
  obtain ⟨afterLine', note'⟩ := zone'
  obtain ⟨id, line, column⟩ := widget
  obtain ⟨id', line', column'⟩ := widget'
  cases kind
  cases kind'
  rw [UInt64.toNat_inj] at hfirst hlast hafter hline hcolumn
  subst hfirst hlast hafter hline hcolumn hnote hid
  exact ⟨rfl, rfl, rfl, hbehind⟩

/-! ## Reports -/

theorem ofRanges_cons (lines : List String) (index : Nat) (range : LineRange)
    (rest : List LineRange) :
    ofRanges lines index (range :: rest) =
      (ofRanges lines (index + 1) rest).cons (regionOf range) (zoneOf range)
        (widgetOf lines range index) :=
  rfl

/-- The entries of a plan from an index on. -/
def entriesFrom (index : Nat) (plan : FoldPlan) : Checked (List String) :=
  entries index plan.regions plan.zones plan.widgets

theorem entriesFrom_cons (plan : FoldPlan) {index : Nat} {region : FoldingRegion}
    {zone : CommentZone} {widget : InspectWidget} {texts : List String}
    (h : entriesFrom index (plan.cons region zone widget) = .ok texts) :
    ∃ text later, entry index region zone widget = .ok text ∧
      entriesFrom (index + 1) plan = .ok later ∧ texts = text :: later :=
  entries_cons_eq_ok.1 h

theorem entries_join_inj (lines others : List String) :
    ∀ (ranges ranges' : List LineRange) {index : Nat} {texts texts' : List String},
      ranges.length = ranges'.length →
      entriesFrom index (ofRanges lines index ranges) = .ok texts →
      entriesFrom index (ofRanges others index ranges') = .ok texts' →
      (String.join texts).toList = (String.join texts').toList →
      ofRanges lines index ranges = ofRanges others index ranges'
  | [], [], _, _, _, _, _, _, _ => rfl
  | range :: rest, range' :: rest', index, texts, texts', hlength, htexts, htexts', h => by
    rw [ofRanges_cons] at htexts htexts'
    obtain ⟨text, later, htext, hlater, rfl⟩ := entriesFrom_cons _ htexts
    obtain ⟨text', later', htext', hlater', rfl⟩ := entriesFrom_cons _ htexts'
    rw [String.join_cons, String.join_cons, String.toList_append, String.toList_append] at h
    obtain ⟨hregion, hzone, hwidget, hrest⟩ := entry_append_inj htext htext' rfl rfl h
    rw [ofRanges_cons, ofRanges_cons, hregion, hzone, hwidget,
      entries_join_inj lines others rest rest' (Nat.succ.inj hlength) hlater hlater' hrest]

/-- A report tells the plan it is made from. -/
theorem report_ofRanges_inj {lines others : List String} {ranges ranges' : List LineRange}
    {text : String} (h : (ofRanges lines 0 ranges).report = .ok text)
    (h' : (ofRanges others 0 ranges').report = .ok text) :
    ofRanges lines 0 ranges = ofRanges others 0 ranges' := by
  rw [report, bind_eq_ok] at h h'
  obtain ⟨texts, htexts, h⟩ := h
  obtain ⟨texts', htexts', h'⟩ := h'
  have heq := congrArg String.toList ((Except.ok.inj h).trans (Except.ok.inj h').symm)
  simp only [head, String.toList_append, List.append_assoc, List.append_cancel_left_eq] at heq
  obtain ⟨hsize, hentries⟩ := numeral_text_append_inj rfl rfl heq
  have hlength : ranges.length = ranges'.length := by
    simpa [size, ofRanges] using hsize
  exact entries_join_inj lines others ranges ranges' hlength htexts htexts'
    (List.append_cancel_left hentries)

/-! ## The end of a report -/

theorem entry_ends {index : Nat} {region : FoldingRegion} {zone : CommentZone}
    {widget : InspectWidget} {text : String} (h : entry index region zone widget = .ok text) :
    ∃ body, text = body ++ rule := by
  obtain ⟨count, -, rfl⟩ := entry_eq_ok.1 h
  exact ⟨_, rfl⟩

theorem entries_end : ∀ (plan : FoldPlan) {index : Nat} {texts : List String},
    entriesFrom index plan = .ok texts →
    ∀ before, ∃ body, before ++ rule ++ String.join texts = body ++ rule
  | ⟨region :: regions, zone :: zones, widget :: widgets⟩, index, texts, h, before => by
    obtain ⟨text, later, htext, hlater, rfl⟩ :=
      entriesFrom_cons ⟨regions, zones, widgets⟩ h
    obtain ⟨body, rfl⟩ := entry_ends htext
    obtain ⟨front, hfront⟩ := entries_end ⟨regions, zones, widgets⟩ hlater (before ++ rule ++ body)
    refine ⟨front, ?_⟩
    rw [String.join_cons, ← hfront]
    simp only [String.append_assoc]
  | ⟨[], _, _⟩, _, _, h, before
  | ⟨_ :: _, [], _⟩, _, _, h, before
  | ⟨_ :: _, _ :: _, []⟩, _, _, h, before => by
    cases h
    exact ⟨before, by simp [String.join]⟩

theorem report_ends {plan : FoldPlan} {text : String} (h : plan.report = .ok text) :
    ∃ body, text = body ++ rule := by
  rw [report, bind_eq_ok] at h
  obtain ⟨texts, htexts, h⟩ := h
  obtain ⟨body, hbody⟩ :=
    entries_end plan htexts (rule ++ "Large blocks found: " ++ toString plan.size ++ "\n")
  exact ⟨body, by rw [← hbody, ← Except.ok.inj h, head]⟩

/-- Of a text that ends in a report, nothing is cut off but the line end of the last rule. -/
theorem trimEnd_report {plan : FoldPlan} {text : String} (h : plan.report = .ok text)
    (before : String) : Text.trimEnd (before ++ text) ++ "\n" = before ++ text := by
  obtain ⟨body, rfl⟩ := report_ends h
  have hrule : rule.toList = List.replicate 49 '-' ++ ['-', '\n'] := by decide
  have hsign : Unicode.isWhiteSpace '-' = false := by decide
  have hblank : Unicode.isWhiteSpace '\n' = true := by decide
  have htrim := Text.trimEndChars_concat
    (before.toList ++ (body.toList ++ List.replicate 49 '-')) hsign hblank
  apply String.toList_inj.1
  rw [Text.trimEnd]
  simp only [String.toList_append, String.toList_ofList, hrule]
  simp only [← List.append_assoc] at htrim ⊢
  rw [htrim]
  simp

theorem trimEnd_report_alone {plan : FoldPlan} {text : String} (h : plan.report = .ok text) :
    Text.trimEnd text ++ "\n" = text := by
  have htrim := trimEnd_report h ""
  rw [String.empty_append] at htrim
  exact htrim

theorem trimEnd_append_report {plan : FoldPlan} {text : String} (h : plan.report = .ok text)
    (before : String) : Text.trimEnd (before ++ text) = before ++ Text.trimEnd text := by
  have hbehind : Text.trimEnd (before ++ text) ++ "\n" = before ++ Text.trimEnd text ++ "\n" := by
    rw [trimEnd_report h before, String.append_assoc, trimEnd_report_alone h]
  exact (String.append_left_inj "\n").1 hbehind

/-- The report of a plan made from ranges tells the plan, also without the line end of its last
rule. -/
theorem trimEnd_report_inj {lines others : List String} {ranges ranges' : List LineRange}
    {text text' : String} (h : (ofRanges lines 0 ranges).report = .ok text)
    (h' : (ofRanges others 0 ranges').report = .ok text') :
    Text.trimEnd text = Text.trimEnd text' ↔
      ofRanges lines 0 ranges = ofRanges others 0 ranges' := by
  constructor
  · intro htrim
    rw [← trimEnd_report_alone h', ← htrim, trimEnd_report_alone h] at h'
    exact report_ofRanges_inj h h'
  · intro hplan
    rw [hplan, h', Except.ok.injEq] at h
    rw [h]

end FoldPlan
end BlockFolding

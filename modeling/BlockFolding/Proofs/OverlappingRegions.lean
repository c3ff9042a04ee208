import BlockFolding.Proofs.ListingDecoder

/-
  Marks where regions overlap

  The regions of a plan need not be apart, and their order need not be that of the lines. A line
  that one region starts at may then be inside of another (`Contested`), and two marks fit it. The
  listing shows the one of the region that comes first in the plan (`mark_first`), and so the first
  line of a region is not always marked as such (`listing_overlapping`).

  Elsewhere the marks depend on the regions alone: a line that is not contested has the mark that
  fits it (`mark_eq_fittingMark`), in whatever order the regions stand. Since the text of a listing
  tells its marks (`listing_eq_iff`), the listing is the same for every order of the regions exactly
  where none of the lines it shows is contested (`listing_reordered`).
-/

namespace BlockFolding

namespace FoldingRegion

/-- The line with the number is the first one of the region. -/
def StartsAt (region : FoldingRegion) (number : Nat) : Prop :=
  region.first.toNat = number ∧ number ≤ region.last.toNat

/-- The line with the number is in the region, below its first line. -/
def GoesOnAt (region : FoldingRegion) (number : Nat) : Prop :=
  region.first.toNat < number ∧ number ≤ region.last.toNat

section
variable {region : FoldingRegion} {number : Nat}

instance : Decidable (region.StartsAt number) := inferInstanceAs (Decidable (_ ∧ _))

instance : Decidable (region.GoesOnAt number) := inferInstanceAs (Decidable (_ ∧ _))

theorem covers_iff :
    region.covers number = true ↔ region.StartsAt number ∨ region.GoesOnAt number := by
  simp only [covers, StartsAt, GoesOnAt, Bool.and_eq_true, decide_eq_true_eq]
  omega

theorem mark_of_startsAt (h : region.StartsAt number) : region.mark number = '>' := by
  unfold mark
  exact if_pos h.1

theorem mark_of_goesOnAt (h : region.GoesOnAt number) : region.mark number = '|' := by
  unfold mark
  exact if_neg (Nat.ne_of_lt h.1)

end

end FoldingRegion

namespace FoldPlan

/-- One region starts at the line with the number, and another goes on there. -/
def Contested (regions : List FoldingRegion) (number : Nat) : Prop :=
  (∃ region ∈ regions, region.StartsAt number) ∧ ∃ region ∈ regions, region.GoesOnAt number

instance (regions : List FoldingRegion) (number : Nat) : Decidable (Contested regions number) :=
  inferInstanceAs (Decidable (_ ∧ _))

/-- The mark that fits the line with the number, whatever the order of the regions: the sign for
the first line of a region, if it is one. -/
def fittingMark (regions : List FoldingRegion) (number : Nat) : Char :=
  if ∃ region ∈ regions, region.StartsAt number then '>'
  else if ∃ region ∈ regions, region.GoesOnAt number then '|'
  else ' '

/-- The region covers the line with the number, and none of those before it in the list does. -/
def FirstCovering (regions : List FoldingRegion) (number : Nat) (region : FoldingRegion) : Prop :=
  (region.StartsAt number ∨ region.GoesOnAt number) ∧
    ∃ before behind, regions = before ++ region :: behind ∧
      ∀ other ∈ before, ¬ (other.StartsAt number ∨ other.GoesOnAt number)

/-! ## The mark of a line -/

section
variable {regions : List FoldingRegion} {region : FoldingRegion} {number : Nat}

theorem FirstCovering.mem (h : FirstCovering regions number region) : region ∈ regions := by
  obtain ⟨before, behind, hregions, -⟩ := h.2
  rw [hregions]
  exact List.mem_append_right before List.mem_cons_self

theorem find?_covers_eq_some :
    regions.find? (·.covers number) = some region ↔ FirstCovering regions number region := by
  unfold FirstCovering
  simp only [List.find?_eq_some_iff_append, FoldingRegion.covers_iff, Bool.not_eq_true',
    ← Bool.not_eq_true]

theorem find?_covers_eq_none :
    regions.find? (·.covers number) = none ↔
      ∀ region ∈ regions, ¬ (region.StartsAt number ∨ region.GoesOnAt number) := by
  simp only [List.find?_eq_none, FoldingRegion.covers_iff]

end

/-- A line has the mark of the first region that covers it. -/
theorem mark_first (plan : FoldPlan) (number : Nat) :
    (plan.mark number = '>' ∧
      ∃ region, FirstCovering plan.regions number region ∧ region.StartsAt number) ∨
    (plan.mark number = '|' ∧
      ∃ region, FirstCovering plan.regions number region ∧ region.GoesOnAt number) ∨
    (plan.mark number = ' ' ∧
      ∀ region ∈ plan.regions, ¬ (region.StartsAt number ∨ region.GoesOnAt number)) := by
  unfold mark
  cases hfind : plan.regions.find? (·.covers number) with
  | none => exact .inr (.inr ⟨rfl, find?_covers_eq_none.1 hfind⟩)
  | some region =>
    have hfirst := find?_covers_eq_some.1 hfind
    rcases hfirst.1 with hstarts | hgoes
    · exact .inl ⟨FoldingRegion.mark_of_startsAt hstarts, region, hfirst, hstarts⟩
    · exact .inr (.inl ⟨FoldingRegion.mark_of_goesOnAt hgoes, region, hfirst, hgoes⟩)

theorem mark_first_iff (plan : FoldPlan) (number : Nat) :
    (plan.mark number = '>' ↔
      ∃ region, FirstCovering plan.regions number region ∧ region.StartsAt number) ∧
    (plan.mark number = '|' ↔
      ∃ region, FirstCovering plan.regions number region ∧ region.GoesOnAt number) ∧
    (plan.mark number = ' ' ↔
      ∀ region ∈ plan.regions, ¬ (region.StartsAt number ∨ region.GoesOnAt number)) := by
  have hmark {region : FoldingRegion} (hfirst : FirstCovering plan.regions number region) :
      plan.mark number = region.mark number := by
    unfold mark
    rw [find?_covers_eq_some.2 hfirst]
  refine ⟨⟨?_, ?_⟩, ⟨?_, ?_⟩, ⟨?_, ?_⟩⟩
  · intro hsign
    simpa [hsign] using mark_first plan number
  · intro ⟨region, hfirst, hstarts⟩
    rw [hmark hfirst, FoldingRegion.mark_of_startsAt hstarts]
  · intro hsign
    simpa [hsign] using mark_first plan number
  · intro ⟨region, hfirst, hgoes⟩
    rw [hmark hfirst, FoldingRegion.mark_of_goesOnAt hgoes]
  · intro hsign
    simpa [hsign] using mark_first plan number
  · intro hnone
    unfold mark
    rw [find?_covers_eq_none.2 hnone]

/-- A line that is not contested has the mark that fits it. -/
theorem mark_eq_fittingMark {plan : FoldPlan} {number : Nat}
    (h : ¬ Contested plan.regions number) :
    plan.mark number = fittingMark plan.regions number := by
  unfold fittingMark
  rcases mark_first plan number with
    ⟨hmark, region, hfirst, hstarts⟩ | ⟨hmark, region, hfirst, hgoes⟩ | ⟨hmark, hnone⟩
  · rw [hmark, if_pos ⟨region, hfirst.mem, hstarts⟩]
  · have hgoesOn : ∃ region ∈ plan.regions, region.GoesOnAt number := ⟨region, hfirst.mem, hgoes⟩
    rw [hmark, if_neg fun hstarts => h ⟨hstarts, hgoesOn⟩, if_pos hgoesOn]
  · have hstarts : ¬ ∃ region ∈ plan.regions, region.StartsAt number :=
      fun ⟨region, hregion, hstarts⟩ => hnone region hregion (.inl hstarts)
    have hgoes : ¬ ∃ region ∈ plan.regions, region.GoesOnAt number :=
      fun ⟨region, hregion, hgoes⟩ => hnone region hregion (.inr hgoes)
    rw [hmark, if_neg hstarts, if_neg hgoes]

/-! ## The order of the regions -/

section
variable {regions others : List FoldingRegion}

theorem contested_perm (h : others.Perm regions) (number : Nat) :
    Contested others number ↔ Contested regions number := by
  simp only [Contested, h.mem_iff]

theorem fittingMark_perm (h : others.Perm regions) (number : Nat) :
    fittingMark others number = fittingMark regions number := by
  simp only [fittingMark, h.mem_iff]

end

/-- The plan with the regions in place of its own. -/
def withRegions (plan : FoldPlan) (regions : List FoldingRegion) : FoldPlan :=
  { plan with regions }

theorem mark_withRegions_cons (plan : FoldPlan) {region : FoldingRegion} {number : Nat}
    (h : region.StartsAt number ∨ region.GoesOnAt number) (rest : List FoldingRegion) :
    (plan.withRegions (region :: rest)).mark number = region.mark number := by
  have hfind : (region :: rest).find? (·.covers number) = some region :=
    List.find?_cons_of_pos (FoldingRegion.covers_iff.2 h)
  unfold mark withRegions
  rw [hfind]

theorem getElem?_records (plan : FoldPlan) (lines : List String) (index : Nat) :
    (plan.records 1 lines)[index]? = lines[index]?.map (plan.record (index + 1)) := by
  unfold records
  rw [List.getElem?_map, List.getElem?_zipIdx, Option.map_map, Nat.add_comm 1 index]
  rfl

theorem listing_eq_iff {plan other : FoldPlan} {source : String} :
    plan.listing source = other.listing source ↔
      ∀ number, 1 ≤ number → number ≤ Text.lineCount source →
        plan.mark number = other.mark number := by
  constructor
  · intro h number hone hle
    have hlines := congrArg Text.lines h
    rw [lines_listing, lines_listing] at hlines
    have hrecords := List.append_cancel_right hlines
    have hmarks := Listing.map_readMark_records plan 1 (Text.lines source)
    rw [hrecords, Listing.map_readMark_records, List.map_inj_left] at hmarks
    refine (hmarks number ?_).symm
    rw [List.mem_range'_1]
    unfold Text.lineCount at hle
    omega
  · intro h
    have hrecords : plan.records 1 (Text.lines source) = other.records 1 (Text.lines source) := by
      unfold records
      apply List.map_congr_left
      intro ⟨line, place⟩ hline
      have hplace := List.snd_lt_add_of_mem_zipIdx hline
      have hone := List.le_snd_of_mem_zipIdx hline
      show plan.record place line = other.record place line
      unfold record
      rw [h place hone (by unfold Text.lineCount; omega)]
    unfold listing
    rw [rows_eq, rows_eq, hrecords]

/-- The listing is the same for every order of the regions exactly where no line that it shows is
contested. -/
theorem listing_perm_iff {plan : FoldPlan} {source : String} :
    (∀ other : FoldPlan, other.regions.Perm plan.regions →
      other.listing source = plan.listing source) ↔
    ∀ number, 1 ≤ number → number ≤ Text.lineCount source → ¬ Contested plan.regions number := by
  constructor
  · intro h number hone hle ⟨⟨starting, hstarting, hstarts⟩, going, hgoing, hgoes⟩
    -- Each of the two regions is put in front of the others; the marks of the line differ then.
    have hfront {region : FoldingRegion} (hregion : region ∈ plan.regions)
        (hcovers : region.StartsAt number ∨ region.GoesOnAt number) :
        region.mark number = plan.mark number := by
      have hperm := List.perm_cons_erase hregion
      have hlisting := h (plan.withRegions (region :: plan.regions.erase region)) hperm.symm
      rw [← mark_withRegions_cons plan hcovers]
      exact listing_eq_iff.1 hlisting number hone hle
    have hmark := (hfront hstarting (.inl hstarts)).trans (hfront hgoing (.inr hgoes)).symm
    rw [FoldingRegion.mark_of_startsAt hstarts, FoldingRegion.mark_of_goesOnAt hgoes] at hmark
    exact absurd hmark (by decide)
  · intro h other hperm
    rw [listing_eq_iff]
    intro number hone hle
    have hfree := h number hone hle
    rw [mark_eq_fittingMark hfree, ← fittingMark_perm hperm]
    apply mark_eq_fittingMark
    rw [contested_perm hperm]
    exact hfree

/-- A listing under any plan has a record for each line of the text, with the number of the line, a
mark and the line. The mark tells what the first region in the plan that covers the line is to it,
and where the line is not contested it is the one that fits the line among the regions in any
order. So the listing is the same for every order of the regions exactly where no line that it shows
is contested. -/
theorem listing_reordered (plan : FoldPlan) (source : String) :
    (∃ records, Text.lines (plan.listing source) = records ++ [""] ∧
      records.length = Text.lineCount source ∧
      ∀ index record, records[index]? = some record →
        ∃ line mark, (Text.lines source)[index]? = some line ∧
          record = Text.padLeft 4 (toString (index + 1)) ++ " " ++ String.singleton mark ++ " " ++
            line ∧
          (mark = '>' ↔ ∃ region,
            FirstCovering plan.regions (index + 1) region ∧ region.StartsAt (index + 1)) ∧
          (mark = '|' ↔ ∃ region,
            FirstCovering plan.regions (index + 1) region ∧ region.GoesOnAt (index + 1)) ∧
          (mark = ' ' ↔ ∀ region ∈ plan.regions,
            ¬ (region.StartsAt (index + 1) ∨ region.GoesOnAt (index + 1))) ∧
          (¬ Contested plan.regions (index + 1) →
            mark = fittingMark plan.regions (index + 1))) ∧
    ((∀ other : FoldPlan, other.regions.Perm plan.regions →
        other.listing source = plan.listing source) ↔
      ∀ number, 1 ≤ number → number ≤ Text.lineCount source →
        ¬ Contested plan.regions number) := by
  refine ⟨⟨_, lines_listing plan source, ?_, ?_⟩, listing_perm_iff⟩
  · unfold records Text.lineCount
    rw [List.length_map, List.length_zipIdx]
  · intro index record hrecord
    rw [getElem?_records, Option.map_eq_some_iff] at hrecord
    obtain ⟨line, hline, hrecord⟩ := hrecord
    obtain ⟨hstarts, hgoes, hnone⟩ := mark_first_iff plan (index + 1)
    exact ⟨line, plan.mark (index + 1), hline, hrecord.symm, hstarts, hgoes, hnone,
      mark_eq_fittingMark⟩

/-- A text of two lines, each of which opens a block. -/
def twoOpenings : String := "a = \x7b\nb = \x7b"

/-- The plan for two ranges past the end of that text, the second of which starts inside of the
first. -/
def overlapping : FoldPlan :=
  ofRanges (Text.lines twoOpenings) 0 [{ first := 1, last := 7 }, { first := 2, last := 9 }]

theorem listing_reordered_overlapping :
    ¬ Contested overlapping.regions 1 ∧ Contested overlapping.regions 2 ∧
    (∃ records, Text.lines (overlapping.listing twoOpenings) = records ++ [""] ∧
      records.length = Text.lineCount twoOpenings ∧
      ∀ index record, records[index]? = some record →
        ∃ line mark, (Text.lines twoOpenings)[index]? = some line ∧
          record = Text.padLeft 4 (toString (index + 1)) ++ " " ++ String.singleton mark ++ " " ++
            line ∧
          (mark = '>' ↔ ∃ region,
            FirstCovering overlapping.regions (index + 1) region ∧ region.StartsAt (index + 1)) ∧
          (mark = '|' ↔ ∃ region,
            FirstCovering overlapping.regions (index + 1) region ∧ region.GoesOnAt (index + 1)) ∧
          (mark = ' ' ↔ ∀ region ∈ overlapping.regions,
            ¬ (region.StartsAt (index + 1) ∨ region.GoesOnAt (index + 1))) ∧
          (¬ Contested overlapping.regions (index + 1) →
            mark = fittingMark overlapping.regions (index + 1))) ∧
    ¬ ∀ other : FoldPlan, other.regions.Perm overlapping.regions →
      other.listing twoOpenings = overlapping.listing twoOpenings :=
  have hcontested : Contested overlapping.regions 2 := by decide
  have hlisting := listing_reordered overlapping twoOpenings
  ⟨by decide, hcontested, hlisting.1,
    fun hsame => hlisting.2.1 hsame 2 (by decide) (by decide) hcontested⟩

/-- The first line of a region is not always marked as such, and the listing changes with the order
of the regions. -/
theorem listing_overlapping :
    build twoOpenings [{ first := 1, last := 7 }, { first := 2, last := 9 }] = .ok overlapping ∧
    (∃ region ∈ overlapping.regions, region.StartsAt 2) ∧
    overlapping.listing twoOpenings = "   1 > a = \x7b\n   2 | b = \x7b\n" ∧
    (overlapping.withRegions overlapping.regions.reverse).listing twoOpenings =
      "   1 > a = \x7b\n   2 > b = \x7b\n" := by
  decide

end FoldPlan

end BlockFolding

import BlockFolding.Plan.Listing
import BlockFolding.Proofs.PlanEntries

/-
  Marks of regions

  A listing marks the lines of each region, and the marks alone tell the ranges of a plan. For
  stacked ranges the column of marks is a picture of them (`map_mark_eq_paint`): blanks down to a
  range, one sign for its first line and another for each line after it, and so on to the last
  line. The picture is read back by counting (`readRanges_paint`): a range goes on from its first
  line as long as its lines are marked as inside. Two ranges that touch are told apart, because the
  first line of the second has a sign of its own.
-/

namespace BlockFolding

/-- Each line below the line `above` has the mark that the ranges ask for. -/
structure MarksRanges (mark : Nat → Char) (above : Nat) (ranges : List LineRange) : Prop where
  first : ∀ range ∈ ranges, mark range.first.toNat = '>'
  inside : ∀ range ∈ ranges, ∀ number, range.first.toNat < number → number ≤ range.last.toNat →
    mark number = '|'
  outside : ∀ number, above < number → (∀ range ∈ ranges, ¬ range.Covers number) →
    mark number = ' '

/-! ## The marks of a plan -/

theorem covers_regionOf {range : LineRange} {number : Nat} :
    (FoldPlan.regionOf range).covers number = true ↔ range.Covers number := by
  rw [FoldingRegion.covers, Bool.and_eq_true, decide_eq_true_iff, decide_eq_true_iff]
  exact Iff.rfl

section
variable {threshold : Word} {count : Nat} {ranges : List LineRange}

/-- The first region that covers a line is that of any range that covers it. -/
theorem Stacked.mark_eq {above : Nat} (h : Stacked threshold count above ranges)
    {lines : List String} {range : LineRange} {number : Nat} (hrange : range ∈ ranges)
    (hcovers : range.Covers number) :
    (FoldPlan.ofRanges lines 0 ranges).mark number =
      (FoldPlan.regionOf range).mark number := by
  rw [FoldPlan.mark]
  cases hfind : (FoldPlan.ofRanges lines 0 ranges).regions.find? (·.covers number) with
  | none =>
    have hnone := List.find?_eq_none.1 hfind _ (List.mem_map_of_mem hrange)
    exact absurd (covers_regionOf.2 hcovers) hnone
  | some region =>
    obtain ⟨other, hother, rfl⟩ := List.mem_map.1 (List.mem_of_find?_eq_some hfind)
    have hfound := List.find?_some hfind
    obtain ⟨hfirst, hlast⟩ := covers_regionOf.1 hfound
    obtain ⟨hfirst', hlast'⟩ := hcovers
    -- No two of the ranges cover one line.
    rcases h.eq_or_apart hrange hother with rfl | hapart | hapart
    · rfl
    · omega
    · omega

theorem Stacked.marks {above : Nat} (h : Stacked threshold count above ranges)
    (lines : List String) :
    MarksRanges (FoldPlan.ofRanges lines 0 ranges).mark 0 ranges where
  first := by
    intro range hrange
    have hlong := (h.bounds range hrange).2.1
    rw [h.mark_eq hrange ⟨Nat.le_refl _, by omega⟩]
    exact if_pos rfl
  inside := by
    intro range hrange number hlt hle
    rw [h.mark_eq hrange ⟨Nat.le_of_lt hlt, hle⟩]
    exact if_neg (Nat.ne_of_lt hlt)
  outside := by
    intro number _ hnone
    have hfind : (FoldPlan.ofRanges lines 0 ranges).regions.find? (·.covers number) = none := by
      rw [List.find?_eq_none]
      intro region hregion hcovers
      obtain ⟨range, hrange, rfl⟩ := List.mem_map.1 hregion
      exact hnone range hrange (covers_regionOf.1 hcovers)
    rw [FoldPlan.mark, hfind]

end

namespace MarksRanges
variable {mark : Nat → Char} {ranges : List LineRange}

theorem tail {above : Nat} {range : LineRange} (h : MarksRanges mark above (range :: ranges))
    (habove : above ≤ range.last.toNat) : MarksRanges mark range.last.toNat ranges where
  first other hother := h.first other (List.mem_cons_of_mem range hother)
  inside other hother := h.inside other (List.mem_cons_of_mem range hother)
  outside := by
    intro number hnumber hnone
    apply h.outside number (by omega)
    intro other hother hcovers
    rcases List.mem_cons.1 hother with rfl | hother
    · exact absurd hcovers.2 (by omega)
    · exact hnone other hother hcovers

section
variable {number : Nat} (h : MarksRanges mark 0 ranges) (hnumber : 0 < number)
include h hnumber

theorem cases_of_mark :
    (mark number = '>' ∧ ∃ range ∈ ranges, range.first.toNat = number) ∨
    (mark number = '|' ∧
      ∃ range ∈ ranges, range.first.toNat < number ∧ number ≤ range.last.toNat) ∨
    (mark number = ' ' ∧ ∀ range ∈ ranges, ¬ range.Covers number) := by
  by_cases hcovers : ∃ range ∈ ranges, range.Covers number
  · obtain ⟨range, hrange, hfirst, hlast⟩ := hcovers
    rcases Nat.lt_or_eq_of_le hfirst with hlt | rfl
    · exact .inr (.inl ⟨h.inside range hrange number hlt hlast, range, hrange, hlt, hlast⟩)
    · exact .inl ⟨h.first range hrange, range, hrange, rfl⟩
  · have hnone : ∀ range ∈ ranges, ¬ range.Covers number :=
      fun range hrange hcovered => hcovers ⟨range, hrange, hcovered⟩
    exact .inr (.inr ⟨h.outside number hnumber hnone, hnone⟩)

/-- Each of the three marks tells which kind of line it stands on. -/
theorem mark_iff :
    (mark number = '>' ↔ ∃ range ∈ ranges, range.first.toNat = number) ∧
    (mark number = '|' ↔
      ∃ range ∈ ranges, range.first.toNat < number ∧ number ≤ range.last.toNat) ∧
    (mark number = ' ' ↔ ∀ range ∈ ranges, ¬ range.Covers number) := by
  refine ⟨⟨?_, ?_⟩, ⟨?_, ?_⟩, ⟨?_, h.outside number hnumber⟩⟩
  · intro hmark
    rcases h.cases_of_mark hnumber with ⟨_, hfirst⟩ | ⟨hother, _⟩ | ⟨hother, _⟩
    · exact hfirst
    · exact absurd (hmark.symm.trans hother) (by decide)
    · exact absurd (hmark.symm.trans hother) (by decide)
  · rintro ⟨range, hrange, rfl⟩
    exact h.first range hrange
  · intro hmark
    rcases h.cases_of_mark hnumber with ⟨hother, _⟩ | ⟨_, hinside⟩ | ⟨hother, _⟩
    · exact absurd (hmark.symm.trans hother) (by decide)
    · exact hinside
    · exact absurd (hmark.symm.trans hother) (by decide)
  · rintro ⟨range, hrange, hlt, hle⟩
    exact h.inside range hrange number hlt hle
  · intro hmark
    rcases h.cases_of_mark hnumber with ⟨hother, _⟩ | ⟨hother, _⟩ | ⟨_, houtside⟩
    · exact absurd (hmark.symm.trans hother) (by decide)
    · exact absurd (hmark.symm.trans hother) (by decide)
    · exact houtside

end

end MarksRanges

/-! ## The picture of stacked ranges -/

/-- The marks of the lines below the line `above` as stacked ranges ask for them. -/
def paint (count : Nat) : (above : Nat) → List LineRange → List Char
  | above, [] => List.replicate (count - above) ' '
  | above, range :: rest =>
    List.replicate (range.first.toNat - (above + 1)) ' ' ++ '>' ::
      (List.replicate (range.last.toNat - range.first.toNat) '|' ++
        paint count range.last.toNat rest)

theorem map_range'_eq_replicate {mark : Nat → Char} {sign : Char} {start size : Nat}
    (h : ∀ number, start ≤ number → number < start + size → mark number = sign) :
    (List.range' start size).map mark = List.replicate size sign := by
  rw [List.eq_replicate_iff]
  refine ⟨by simp, ?_⟩
  intro found hfound
  obtain ⟨number, hnumber, rfl⟩ := List.mem_map.1 hfound
  obtain ⟨hge, hlt⟩ := List.mem_range'_1.1 hnumber
  exact h number hge hlt

theorem range'_around (start before inside below : Nat) :
    List.range' start (before + (inside + below + 1)) =
      List.range' start before ++ (start + before) ::
        (List.range' (start + before + 1) inside ++
          List.range' (start + before + 1 + inside) below) := by
  rw [← List.range'_append_1, List.range'_succ, List.range'_append_1]

/-- The lines below `above` are those above the first of the stacked ranges, its first line, those
inside of it, and those below it. -/
theorem Stacked.cut {threshold : Word} {count above : Nat} {range : LineRange}
    {rest : List LineRange} (h : Stacked threshold count above (range :: rest)) :
    count - above = (range.first.toNat - (above + 1)) +
      ((range.last.toNat - range.first.toNat) + (count - range.last.toNat) + 1) ∧
    above + 1 + (range.first.toNat - (above + 1)) = range.first.toNat ∧
    range.first.toNat + 1 + (range.last.toNat - range.first.toNat) = range.last.toNat + 1 := by
  have hbounds := h.bounds range List.mem_cons_self
  omega

theorem map_mark_eq_paint {mark : Nat → Char} {threshold : Word} {count : Nat} :
    ∀ (ranges : List LineRange) (above : Nat), Stacked threshold count above ranges →
      MarksRanges mark above ranges →
      (List.range' (above + 1) (count - above)).map mark = paint count above ranges
  | [], above, _, hmarks => by
    apply map_range'_eq_replicate
    intro number hge _
    exact hmarks.outside number hge nofun
  | range :: rest, above, hstacked, hmarks => by
    have hbounds := hstacked.bounds range List.mem_cons_self
    obtain ⟨hcut, hfirst, hbelow⟩ := hstacked.cut
    -- The part below the range is the picture of the others; of the parts above it and inside of it
    -- every line has one mark.
    have ih := map_mark_eq_paint rest range.last.toNat hstacked.2.2 (hmarks.tail (by omega))
    have habove : (List.range' (above + 1) (range.first.toNat - (above + 1))).map mark =
        List.replicate (range.first.toNat - (above + 1)) ' ' := by
      apply map_range'_eq_replicate
      intro number hge hlt
      apply hmarks.outside number hge
      intro other hother hcovers
      rcases List.mem_cons.1 hother with rfl | hother
      · exact absurd hcovers.1 (by omega)
      · have := (hstacked.2.2.bounds other hother).1
        exact absurd hcovers.1 (by omega)
    have hinside : (List.range' (range.first.toNat + 1)
        (range.last.toNat - range.first.toNat)).map mark =
        List.replicate (range.last.toNat - range.first.toNat) '|' := by
      apply map_range'_eq_replicate
      intro number hge hlt
      exact hmarks.inside range List.mem_cons_self number hge (by omega)
    rw [hcut, range'_around, hfirst, hbelow, List.map_append, List.map_cons, List.map_append,
      habove, hmarks.first range List.mem_cons_self, hinside, ih, paint]

/-! ## Reading the picture -/

/-- The ranges that marks show, the first mark that of the line with the number: each goes on from
its first line as long as the lines are marked as inside. -/
def readRanges (number : Nat) : List Char → List LineRange
  | [] => []
  | mark :: rest =>
    if mark = '>' then
      { first := .ofNat number
        last := .ofNat (number + (rest.takeWhile (· == '|')).length) } ::
          readRanges (number + 1) rest
    else readRanges (number + 1) rest

theorem readRanges_replicate {sign : Char} (hsign : sign ≠ '>') (marks : List Char) :
    ∀ (size number : Nat),
      readRanges number (List.replicate size sign ++ marks) = readRanges (number + size) marks
  | 0, _ => rfl
  | size + 1, number => by
    rw [List.replicate_succ, List.cons_append, readRanges, if_neg hsign,
      readRanges_replicate hsign marks size, Nat.add_right_comm, Nat.add_assoc]

theorem takeWhile_paint (count above : Nat) (ranges : List LineRange) :
    (paint count above ranges).takeWhile (· == '|') = [] := by
  cases ranges with
  | nil =>
    rw [paint]
    cases count - above <;> rfl
  | cons range rest =>
    rw [paint]
    cases range.first.toNat - (above + 1) <;> rfl

theorem readRanges_paint {threshold : Word} {count : Nat} : ∀ (ranges : List LineRange)
    (above : Nat), Stacked threshold count above ranges →
      readRanges (above + 1) (paint count above ranges) = ranges
  | [], above, _ => by
    have hblank : ' ' ≠ '>' := by decide
    have hread := readRanges_replicate hblank [] (count - above) (above + 1)
    rw [List.append_nil] at hread
    rw [paint, hread]
    rfl
  | range :: rest, above, hstacked => by
    obtain ⟨-, hfirst, hbelow⟩ := hstacked.cut
    -- The run of marks below the first line ends where the range does.
    have hlength : ((List.replicate (range.last.toNat - range.first.toNat) '|' ++
        paint count range.last.toNat rest).takeWhile (· == '|')).length =
        range.last.toNat - range.first.toNat := by
      rw [List.takeWhile_append_of_pos (by simp), takeWhile_paint, List.append_nil,
        List.length_replicate]
    have hend : range.first.toNat + (range.last.toNat - range.first.toNat) =
        range.last.toNat := by omega
    rw [paint, readRanges_replicate (by decide), hfirst, readRanges, if_pos rfl, hlength, hend,
      readRanges_replicate (by decide), hbelow, readRanges_paint rest _ hstacked.2.2,
      UInt64.ofNat_toNat, UInt64.ofNat_toNat]

end BlockFolding

import BlockFolding.Word

/-
  Ranges of lines

  A range of lines is a pair of line numbers counted from 1, both ends included. Any pair of
  words is one, so counting its lines is checked.
-/

namespace BlockFolding

/-- The lines from `first` to `last`. -/
structure LineRange where
  first : Word
  last : Word
  deriving DecidableEq, Repr

def LineRange.lineCount (range : LineRange) : Checked Word := do
  Word.plus (← Word.minus range.last range.first) 1

/-- A range that is not the wrong way round is counted, unless it covers all 2^64 numbers. -/
theorem LineRange.lineCount_eq_ok {range : LineRange} {count : Word} :
    range.lineCount = .ok count ↔
      range.first.toNat ≤ range.last.toNat ∧
        count.toNat = range.last.toNat - range.first.toNat + 1 := by
  rw [lineCount, bind_eq_ok]
  constructor
  · rintro ⟨distance, hdistance, hcount⟩
    rw [Word.minus_eq_ok] at hdistance
    rw [Word.plus_eq_ok, UInt64.toNat_one] at hcount
    omega
  · rintro ⟨hle, hcount⟩
    have hminus : (range.last - range.first).toNat = range.last.toNat - range.first.toNat :=
      UInt64.toNat_sub_of_le _ _ (UInt64.le_iff_toNat_le.2 hle)
    refine ⟨range.last - range.first, ?_, ?_⟩
    · rw [Word.minus_eq_ok]
      omega
    · rw [Word.plus_eq_ok, UInt64.toNat_one]
      omega

/-- The overflow met when the lines from the first to the last number are counted. -/
inductive CountOverflow (first last : Word) : Overflow → Prop
  /-- The range is the wrong way round. -/
  | inverted (h : last.toNat < first.toNat) : CountOverflow first last .sub
  /-- The range covers all 2^64 numbers, and no word holds that many. -/
  | everyNumber (h : last.toNat - first.toNat + 1 = UInt64.size) : CountOverflow first last .add

/-- A range is not counted where one of the two overflows is met. -/
theorem LineRange.lineCount_eq_error {range : LineRange} {overflow : Overflow} :
    range.lineCount = .error overflow ↔ CountOverflow range.first range.last overflow := by
  rw [lineCount, bind_eq_error]
  constructor
  · rintro (hminus | ⟨distance, hdistance, hplus⟩)
    · obtain ⟨rfl, hlt⟩ := Word.minus_eq_error.1 hminus
      exact .inverted hlt
    · obtain ⟨rfl, hsize⟩ := Word.plus_eq_error.1 hplus
      rw [Word.minus_eq_ok] at hdistance
      rw [UInt64.toNat_one] at hsize
      have hword := distance.toNat_lt_size
      exact .everyNumber (by omega)
  · rintro (hlt | hcount)
    · exact .inl (Word.minus_eq_error.2 ⟨rfl, hlt⟩)
    · have hle : range.first.toNat ≤ range.last.toNat := by
        rw [UInt64.size] at hcount
        omega
      have hminus : (range.last - range.first).toNat = range.last.toNat - range.first.toNat :=
        UInt64.toNat_sub_of_le _ _ (UInt64.le_iff_toNat_le.2 hle)
      refine .inr ⟨range.last - range.first, ?_, ?_⟩
      · rw [Word.minus_eq_ok]
        omega
      · rw [Word.plus_eq_error, UInt64.toNat_one]
        exact ⟨rfl, by omega⟩

end BlockFolding

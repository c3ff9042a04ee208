import Mathlib.Algebra.GroupWithZero.Nat
import BlockFolding.Column
import BlockFolding.Proofs.Lines

/-
  End columns in the UTF-16 units of a text

  An end column is found by splitting a text into lines and encoding one of them. An editor goes
  the other way: it encodes the whole text and looks for line feeds among the units. The two
  agree (`endColumn_utf16`), because no unit of a character but the line feed itself is the unit
  of a line feed: the units of a text are those of its lines, joined by that unit
  (`utf16_eq_intercalate`). So the end columns of the lines before one add up to the place of its
  first unit, and those of all lines to one more than there are units.
-/

namespace BlockFolding

namespace Text

/-- The UTF-16 unit of a line feed. -/
def newlineUnit : UInt16 := 0x000A

/-! ## Units of characters -/

theorem charUnits_newline : charUnits '\n' = [newlineUnit] := by decide

theorem eq_newline_of_mem_charUnits {c : Char} (h : newlineUnit ∈ charUnits c) : c = '\n' := by
  have hmax : c.toNat < 0x110000 := by
    rcases c.valid with hlow | ⟨_, hhigh⟩
    · exact Nat.lt_trans hlow (by decide)
    · exact hhigh
  have toNat_ofNat {n : Nat} (hn : n < 0x10000) : (UInt16.ofNat n).toNat = n :=
    UInt16.toNat_ofNat_of_lt' hn
  have toNat_newlineUnit : newlineUnit.toNat = '\n'.toNat := rfl
  rw [charUnits] at h
  split at h
  · rename_i hbasic
    have := congrArg UInt16.toNat (List.mem_singleton.1 h)
    rw [toNat_ofNat hbasic, toNat_newlineUnit] at this
    exact (Char.toNat_inj.1 this).symm
  · rename_i habove
    have hnewline : '\n'.toNat = 10 := rfl
    simp only [List.mem_cons, List.not_mem_nil, or_false] at h
    -- Either half of a pair is 0xD800 at least.
    rcases h with h | h
    · have := congrArg UInt16.toNat h
      rw [toNat_ofNat (by omega), toNat_newlineUnit] at this
      omega
    · have := congrArg UInt16.toNat h
      rw [toNat_ofNat (by omega), toNat_newlineUnit] at this
      omega

theorem length_charUnits_le (c : Char) : (charUnits c).length ≤ c.utf8Size := by
  rw [charUnits]
  split
  · exact c.utf8Size_pos
  · rename_i habove
    have hfour : c.utf8Size = 4 := by
      rw [Char.utf8Size_eq_four_iff, UInt32.lt_iff_toNat_lt]
      show 0xffff < c.toNat
      omega
    rw [hfour]
    show 2 ≤ 4
    decide

/-! ## Units of texts -/

theorem length_utf16_le (text : String) : (utf16 text).length ≤ text.utf8ByteSize := by
  rw [← String.utf8Len_toList, utf16]
  induction text.toList with
  | nil => exact Nat.le_refl 0
  | cons c rest ih =>
    have := length_charUnits_le c
    simp only [List.flatMap_cons, List.length_append, String.utf8Len_cons]
    omega

theorem newlineUnit_not_mem_utf16 {text line : String} (h : line ∈ lines text) :
    newlineUnit ∉ utf16 line := by
  intro hmem
  obtain ⟨c, hc, hunit⟩ := List.mem_flatMap.1 hmem
  rw [eq_newline_of_mem_charUnits hunit] at hc
  exact newline_not_mem_line h hc

theorem flatMap_intercalate {α β : Type} (f : α → List β) (separator : List α) :
    ∀ (pieces : List (List α)), (separator.intercalate pieces).flatMap f =
      (separator.flatMap f).intercalate (pieces.map (·.flatMap f))
  | [] => rfl
  | [piece] => by simp only [List.intercalate_singleton, List.map_cons, List.map_nil]
  | piece :: next :: rest => by
    have ih := flatMap_intercalate f separator (next :: rest)
    simp only [List.intercalate_cons_cons, List.flatMap_append, List.map_cons] at ih ⊢
    rw [ih]

/-- The units of a text are those of its lines, joined by that of a line feed. -/
theorem utf16_eq_intercalate (text : String) :
    utf16 text = [newlineUnit].intercalate ((lines text).map utf16) := by
  have hunits : (lines text).map utf16 = ((lines text).map String.toList).map
      (·.flatMap charUnits) := by
    rw [List.map_map]
    rfl
  rw [hunits, ← charUnits_newline, ← List.flatMap_singleton charUnits '\n',
    ← flatMap_intercalate, intercalate_lines, utf16]

/-! ## Places in joined pieces -/

section
variable {α : Type} {separator : α}

theorem intercalate_around : ∀ {pieces : List (List α)} {i : Nat} {piece : List α},
    pieces[i]? = some piece →
    [separator].intercalate pieces = (pieces.take i).flatMap (· ++ [separator]) ++
      (piece ++ (pieces.drop (i + 1)).flatMap (separator :: ·))
  | [], _, _, h => by simp at h
  | first :: rest, 0, piece, h => by
    simp only [List.getElem?_cons_zero, Option.some.injEq] at h
    rw [h, intercalate_cons]
    simp
  | first :: rest, i + 1, piece, h => by
    rw [List.getElem?_cons_succ] at h
    have hne : rest ≠ [] := by
      rintro rfl
      simp at h
    rw [List.intercalate_cons_of_ne_nil hne, intercalate_around h]
    simp

theorem length_flatMap_append (pieces : List (List α)) :
    (pieces.flatMap (· ++ [separator])).length = (pieces.map (·.length + 1)).sum := by
  simp [List.length_flatMap]

variable {before own after : List α}

theorem getElem?_middle {place : Nat} (hge : before.length ≤ place)
    (hlt : place < before.length + own.length) :
    ∃ a ∈ own, (before ++ (own ++ after))[place]? = some a := by
  have hplace : place - before.length < own.length := by omega
  refine ⟨own[place - before.length], List.getElem_mem hplace, ?_⟩
  rw [List.getElem?_append_right hge, List.getElem?_append_left hplace,
    List.getElem?_eq_getElem hplace]

theorem getElem?_behind :
    (before ++ (own ++ after))[before.length + own.length]? = after[0]? := by
  rw [List.getElem?_append_right (Nat.le_add_right _ _), Nat.add_sub_cancel_left,
    List.getElem?_append_right (Nat.le_refl _), Nat.sub_self]

end

/-- The units of a text around those of one of its lines. -/
theorem utf16_around {text line : String} {i : Nat} (h : (lines text)[i]? = some line) :
    utf16 text = (((lines text).map utf16).take i).flatMap (· ++ [newlineUnit]) ++
      (utf16 line ++ (((lines text).map utf16).drop (i + 1)).flatMap (newlineUnit :: ·)) := by
  have hunits : ((lines text).map utf16)[i]? = some (utf16 line) := by
    rw [List.getElem?_map, h]
    rfl
  rw [utf16_eq_intercalate text, intercalate_around hunits]

theorem length_utf16_line_le {text line : String} (h : line ∈ lines text) :
    (utf16 line).length ≤ (utf16 text).length := by
  obtain ⟨i, hi⟩ := List.getElem?_of_mem h
  rw [utf16_around hi]
  simp only [List.length_append]
  omega

end Text

/-! ## End columns -/

section
variable {source : String}

theorem toNat_endColumn (h : source.utf8ByteSize < 2 ^ 63) {index : Word} {line : String}
    (hline : (Text.lines source)[index.toNat]? = some line) :
    (endColumn source index).toNat = (Text.utf16 line).length + 1 := by
  have hlength : (Text.utf16 line).length ≤ source.utf8ByteSize :=
    Nat.le_trans (Text.length_utf16_line_le (List.mem_of_getElem? hline))
      (Text.length_utf16_le source)
  simp only [endColumn, endColumnAmong, hline]
  exact UInt64.toNat_ofNat_of_lt' (show _ < 2 ^ 64 by omega)

theorem endColumn_missing {index : Word} (h : (Text.lines source).length ≤ index.toNat) :
    endColumn source index = 0 := by
  simp only [endColumn, endColumnAmong, List.getElem?_eq_none h]

/-- The sum of the end columns of the lines before an index. -/
def columnsBefore (source : String) (index : Nat) : Nat :=
  ((List.range index).map fun i => (endColumn source (.ofNat i)).toNat).sum

theorem columnsBefore_succ (source : String) (index : Nat) :
    columnsBefore source (index + 1) =
      columnsBefore source index + (endColumn source (.ofNat index)).toNat := by
  simp [columnsBefore, List.range_succ]

theorem toNat_ofNat_index (h : source.utf8ByteSize < 2 ^ 63) {index : Nat}
    (hindex : index ≤ Text.newlines source) : (.ofNat index : Word).toNat = index := by
  have := Text.newlines_le_byteSize source
  exact UInt64.toNat_ofNat_of_lt' (show _ < 2 ^ 64 by omega)

theorem columnsBefore_eq (h : source.utf8ByteSize < 2 ^ 63) : ∀ (index : Nat),
    index ≤ Text.newlines source + 1 →
    columnsBefore source index =
      ((((Text.lines source).map Text.utf16).take index).map (·.length + 1)).sum
  | 0, _ => rfl
  | index + 1, hle => by
    have hindex : index ≤ Text.newlines source := Nat.le_of_succ_le_succ hle
    have htoNat := toNat_ofNat_index h hindex
    obtain ⟨line, hline⟩ := Text.exists_line hindex
    rw [columnsBefore_succ, columnsBefore_eq h index (Nat.le_of_succ_le hle),
      toNat_endColumn h (htoNat.symm ▸ hline), List.take_add_one, List.getElem?_map, hline]
    simp

theorem utf16_around_line (h : source.utf8ByteSize < 2 ^ 63) {index : Nat} {line : String}
    (hindex : index ≤ Text.newlines source)
    (hline : (Text.lines source)[index]? = some line) :
    ∃ before after, Text.utf16 source = before ++ (Text.utf16 line ++ after) ∧
      before.length = columnsBefore source index ∧
      (index < Text.newlines source → after[0]? = some Text.newlineUnit) ∧
      (index = Text.newlines source → after = []) := by
  refine ⟨_, _, Text.utf16_around hline, ?_, ?_, ?_⟩
  · rw [Text.length_flatMap_append, columnsBefore_eq h index (Nat.le_succ_of_le hindex)]
  · intro hbefore_last
    have hnext : index + 1 < ((Text.lines source).map Text.utf16).length := by
      rw [List.length_map, Text.length_lines]
      omega
    rw [List.drop_eq_getElem_cons hnext]
    rfl
  · rintro rfl
    rw [← Text.length_lines, ← List.length_map (f := Text.utf16), List.drop_length]
    rfl

/-- The end columns of all lines add up to one more than there are units: the last line, too, has
a column behind its last unit, and no line feed stands there. -/
theorem columnsBefore_all (h : source.utf8ByteSize < 2 ^ 63) :
    columnsBefore source (Text.newlines source + 1) = (Text.utf16 source).length + 1 := by
  have htoNat := toNat_ofNat_index h (Nat.le_refl (Text.newlines source))
  obtain ⟨line, hline⟩ := Text.exists_line (Nat.le_refl (Text.newlines source))
  obtain ⟨before, after, hunits, hbefore, -, hlast⟩ :=
    utf16_around_line h (Nat.le_refl _) hline
  rw [columnsBefore_succ, toNat_endColumn h (htoNat.symm ▸ hline), hunits, hlast rfl, ← hbefore]
  simp only [List.append_nil, List.length_append]
  omega

theorem endColumnSigned_eq {signed : Int64} {index : Word}
    (heq : (index.toNat : Int) = signed.toInt) :
    endColumnSigned source signed = endColumn source index := by
  have hzero : (0 : Int64).toInt = 0 := rfl
  have hnonneg : 0 ≤ signed := by
    rw [Int64.le_iff_toInt_le, hzero, ← heq]
    exact Int.natCast_nonneg _
  have hindex : signed.toUInt64 = index := by
    apply UInt64.toNat_inj.1
    rw [Int64.toNat_toUInt64_of_le hnonneg, ← Int64.toNat_toInt, ← heq, Int.toNat_natCast]
  rw [endColumnSigned, if_neg (Int64.not_lt.2 hnonneg), hindex]

theorem endColumnSigned_negative {signed : Int64} (hneg : signed.toInt < 0) :
    endColumnSigned source signed = 0 := by
  rw [endColumnSigned, if_pos]
  exact Int64.lt_iff_toInt_lt.2 hneg

end

/-- End columns are those of an editor that holds the UTF-16 units of the text. From the sum of
the columns before a line on, the units up to its end column are no line feeds; at it stands a
line feed or, for the last line, the end of the units. No other line has a column but 0, and all
columns add up to the number of units and one. -/
theorem endColumn_utf16 (source : String) (h : source.utf8ByteSize < 2 ^ 63) :
    (∀ index : Word, index.toNat ≤ Text.newlines source →
      1 ≤ (endColumn source index).toNat ∧
      (∀ place, columnsBefore source index.toNat ≤ place →
        place + 2 ≤ columnsBefore source index.toNat + (endColumn source index).toNat →
        ∃ unit, (Text.utf16 source)[place]? = some unit ∧ unit ≠ Text.newlineUnit) ∧
      (index.toNat < Text.newlines source →
        (Text.utf16 source)[columnsBefore source index.toNat +
          (endColumn source index).toNat - 1]? = some Text.newlineUnit) ∧
      (index.toNat = Text.newlines source →
        columnsBefore source index.toNat + (endColumn source index).toNat - 1 =
          (Text.utf16 source).length)) ∧
    (∀ index : Word, Text.newlines source < index.toNat → endColumn source index = 0) ∧
    columnsBefore source (Text.newlines source + 1) = (Text.utf16 source).length + 1 ∧
    (∀ (signed : Int64) (index : Word), (index.toNat : Int) = signed.toInt →
      endColumnSigned source signed = endColumn source index) ∧
    (∀ signed : Int64, signed.toInt < 0 → endColumnSigned source signed = 0) := by
  refine ⟨?_, ?_, columnsBefore_all h, fun _ _ => endColumnSigned_eq,
    fun _ => endColumnSigned_negative⟩
  · intro index hindex
    obtain ⟨line, hline⟩ := Text.exists_line hindex
    obtain ⟨before, after, hunits, hbefore, hnewline, hlast⟩ :=
      utf16_around_line h hindex hline
    rw [hunits, ← hbefore, toNat_endColumn h hline]
    refine ⟨Nat.le_add_left 1 _, ?_, ?_, ?_⟩
    · intro place hge hle
      have hlt : place < before.length + (Text.utf16 line).length := by omega
      obtain ⟨unit, hmem, hunit⟩ := Text.getElem?_middle hge hlt
      refine ⟨unit, hunit, ?_⟩
      rintro rfl
      exact Text.newlineUnit_not_mem_utf16 (List.mem_of_getElem? hline) hmem
    · intro hlt
      rw [← Nat.add_assoc, Nat.add_sub_cancel, Text.getElem?_behind]
      exact hnewline hlt
    · intro heq
      rw [hlast heq]
      simp only [List.append_nil, List.length_append]
      omega
  · intro index hindex
    apply endColumn_missing
    rw [Text.length_lines]
    exact hindex

theorem endColumn_utf16_tangled :
    Text.tangled.utf8ByteSize < 2 ^ 63 ∧
    (∀ index : Word, index.toNat ≤ Text.newlines Text.tangled →
      1 ≤ (endColumn Text.tangled index).toNat ∧
      (∀ place, columnsBefore Text.tangled index.toNat ≤ place →
        place + 2 ≤ columnsBefore Text.tangled index.toNat +
          (endColumn Text.tangled index).toNat →
        ∃ unit, (Text.utf16 Text.tangled)[place]? = some unit ∧ unit ≠ Text.newlineUnit) ∧
      (index.toNat < Text.newlines Text.tangled →
        (Text.utf16 Text.tangled)[columnsBefore Text.tangled index.toNat +
          (endColumn Text.tangled index).toNat - 1]? = some Text.newlineUnit) ∧
      (index.toNat = Text.newlines Text.tangled →
        columnsBefore Text.tangled index.toNat + (endColumn Text.tangled index).toNat - 1 =
          (Text.utf16 Text.tangled).length)) ∧
    (∀ index : Word, Text.newlines Text.tangled < index.toNat →
      endColumn Text.tangled index = 0) ∧
    columnsBefore Text.tangled (Text.newlines Text.tangled + 1) =
      (Text.utf16 Text.tangled).length + 1 ∧
    (∀ (signed : Int64) (index : Word), (index.toNat : Int) = signed.toInt →
      endColumnSigned Text.tangled signed = endColumn Text.tangled index) ∧
    (∀ signed : Int64, signed.toInt < 0 → endColumnSigned Text.tangled signed = 0) :=
  ⟨Text.tangled_byteSize, endColumn_utf16 Text.tangled Text.tangled_byteSize⟩

example : (List.range 9).map (fun i => endColumn Text.tangled (.ofNat i)) =
    [4, 5, 2, 2, 1, 4, 2, 1, 0] := by decide

end BlockFolding

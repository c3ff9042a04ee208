import Mathlib.Data.String.Basic
import BlockFolding.Text

/-
  The lines of a text

  A text has one line more than it has line feeds, no line holds a line feed, and joining the
  lines by line feeds gives the text back. The bytes of a text bound the number of its lines, so
  the lines of a text below 2^63 bytes are counted by words with room to spare.
-/

namespace BlockFolding.Text

/-- How many line feeds a text holds. -/
def newlines (text : String) : Nat := text.toList.count '\n'

theorem length_lines (text : String) : (lines text).length = newlines text + 1 := by
  simp only [lines, newlines, List.length_map]
  induction text.toList with
  | nil => rfl
  | cons c rest ih =>
    rw [List.splitOn_cons_eq_if_modifyHead, List.count_cons]
    split
    · rw [List.length_cons, ih]
    · rw [List.length_modifyHead, ih, Nat.add_zero]

theorem lines_ne_nil (text : String) : lines text ≠ [] := by
  apply List.ne_nil_of_length_pos
  rw [length_lines]
  exact Nat.succ_pos _

theorem exists_line {text : String} {index : Nat} (h : index ≤ newlines text) :
    ∃ line, (lines text)[index]? = some line := by
  have hlt : index < (lines text).length := by
    rw [length_lines]
    omega
  exact ⟨_, List.getElem?_eq_getElem hlt⟩

theorem map_toList_lines (text : String) :
    (lines text).map String.toList = text.toList.splitOn '\n' := by
  rw [lines, List.map_map, List.map_congr_left (g := id), List.map_id]
  intro cs _
  exact String.toList_ofList

theorem intercalate_cons {α : Type} (separator : α) : ∀ (piece : List α) (rest : List (List α)),
    [separator].intercalate (piece :: rest) = piece ++ rest.flatMap (separator :: ·)
  | piece, [] => by simp
  | piece, next :: rest => by
    rw [List.intercalate_cons_cons, intercalate_cons separator next rest]
    simp

theorem intercalate_lines (text : String) :
    ['\n'].intercalate ((lines text).map String.toList) = text.toList := by
  rw [map_toList_lines, List.intercalate_splitOn]

theorem newline_not_mem_splitOn : ∀ (cs : List Char), ∀ piece ∈ cs.splitOn '\n', '\n' ∉ piece
  | [], piece, h => by
    rw [List.splitOn_nil, List.mem_singleton] at h
    rw [h]
    exact List.not_mem_nil
  | c :: rest, piece, h => by
    have ih := newline_not_mem_splitOn rest
    rw [List.splitOn_cons_eq_if_modifyHead] at h
    split at h
    · rcases List.mem_cons.1 h with rfl | h
      · exact List.not_mem_nil
      · exact ih piece h
    · rename_i hc
      -- The character goes in front of the first piece, and the others stay as they are.
      obtain ⟨first, others, hsplit⟩ :=
        List.exists_cons_of_ne_nil (List.splitOn_ne_nil '\n' rest)
      rw [hsplit] at h ih
      rw [List.modifyHead_cons] at h
      rcases List.mem_cons.1 h with rfl | h
      · intro hmem
        rcases List.mem_cons.1 hmem with rfl | hmem
        · exact hc (beq_self_eq_true '\n')
        · exact ih first List.mem_cons_self hmem
      · exact ih piece (List.mem_cons_of_mem first h)

theorem newline_not_mem_line {text line : String} (h : line ∈ lines text) :
    '\n' ∉ line.toList := by
  apply newline_not_mem_splitOn text.toList
  rw [← map_toList_lines]
  exact List.mem_map_of_mem h

theorem lines_append_newline (text more : String) :
    lines (text ++ "\n" ++ more) = lines text ++ lines more := by
  have htext : (text ++ "\n" ++ more).toList = text.toList ++ '\n' :: more.toList := by
    simp [String.toList_append]
  rw [lines, htext, List.splitOn_append_cons_self, List.map_append]
  rfl

theorem map_ofList_map_toList (records : List String) :
    (records.map String.toList).map String.ofList = records := by
  simp [Function.comp_def]

theorem newline_not_mem_map_toList {records : List String}
    (h : ∀ record ∈ records, '\n' ∉ record.toList) :
    ∀ piece ∈ records.map String.toList, '\n' ∉ piece := by
  intro piece hpiece
  obtain ⟨record, hrecord, rfl⟩ := List.mem_map.1 hpiece
  exact h record hrecord

theorem lines_intercalate {joined : List String} (hne : joined ≠ [])
    (h : ∀ line ∈ joined, '\n' ∉ line.toList) : lines ("\n".intercalate joined) = joined := by
  have hsplit := List.splitOn_intercalate '\n' (newline_not_mem_map_toList h) (by simpa using hne)
  calc lines ("\n".intercalate joined)
      = ((['\n'].intercalate (joined.map String.toList)).splitOn '\n').map String.ofList := by
        rw [lines, String.toList_intercalate]
        rfl
    _ = joined := by rw [hsplit, map_ofList_map_toList]

theorem splitOn_append : ∀ (cs ds : List Char), ∃ above last first below,
    cs.splitOn '\n' = above ++ [last] ∧ ds.splitOn '\n' = first :: below ∧
      (cs ++ ds).splitOn '\n' = above ++ (last ++ first) :: below
  | [], ds => by
    obtain ⟨first, below, hds⟩ := List.exists_cons_of_ne_nil (List.splitOn_ne_nil '\n' ds)
    exact ⟨[], [], first, below, List.splitOn_nil '\n', hds, hds⟩
  | c :: cs, ds => by
    obtain ⟨above, last, first, below, hcs, hds, hjoined⟩ := splitOn_append cs ds
    rw [List.cons_append, List.splitOn_cons_eq_if_modifyHead, List.splitOn_cons_eq_if_modifyHead,
      hcs, hjoined]
    cases c == '\n' with
    | true => exact ⟨[] :: above, last, first, below, rfl, hds, rfl⟩
    | false =>
      -- The character goes in front of the first line, which is the last one if there is no other.
      cases above with
      | nil => exact ⟨[], c :: last, first, below, rfl, hds, rfl⟩
      | cons line above => exact ⟨(c :: line) :: above, last, first, below, rfl, hds, rfl⟩

/-- A text that goes on goes on in its last line, up to the first line end of what comes. -/
theorem lines_append (text more : String) : ∃ above last rest below,
    lines text = above ++ [last] ∧ lines (text ++ more) = above ++ (last ++ rest) :: below := by
  obtain ⟨above, last, first, below, htext, -, hjoined⟩ :=
    splitOn_append text.toList more.toList
  refine ⟨above.map String.ofList, String.ofList last, String.ofList first,
    below.map String.ofList, ?_, ?_⟩
  · rw [lines, htext, List.map_append]
    rfl
  · rw [lines, String.toList_append, hjoined, List.map_append, List.map_cons, String.ofList_append]

theorem splitOn_terminated : ∀ {pieces : List (List Char)}, (∀ piece ∈ pieces, '\n' ∉ piece) →
    (pieces.flatMap (· ++ ['\n'])).splitOn '\n' = pieces ++ [[]]
  | [], _ => List.splitOn_nil '\n'
  | piece :: rest, h => by
    have ih := splitOn_terminated fun other hother => h other (List.mem_cons_of_mem piece hother)
    rw [List.flatMap_cons, List.append_assoc, List.singleton_append,
      List.splitOn_append_cons_self_of_not_mem (h piece List.mem_cons_self), ih, List.cons_append]

/-- Where every record ends in a line feed and holds no other, the lines are the records and an
empty last line. -/
theorem lines_terminated {records : List String} (h : ∀ record ∈ records, '\n' ∉ record.toList) :
    lines (String.join (records.map (· ++ "\n"))) = records ++ [""] := by
  have htext : (String.join (records.map (· ++ "\n"))).toList =
      (records.map String.toList).flatMap (· ++ ['\n']) := by
    simp only [String.toList_join, List.flatMap_map, String.toList_append]
    rfl
  rw [lines, htext, splitOn_terminated (newline_not_mem_map_toList h), List.map_append,
    map_ofList_map_toList]
  rfl

/-! ## Sizes -/

theorem length_le_utf8Len (cs : List Char) : cs.length ≤ String.utf8Len cs := by
  induction cs with
  | nil => exact Nat.zero_le _
  | cons c rest ih =>
    have := c.utf8Size_pos
    simp only [List.length_cons, String.utf8Len_cons]
    omega

theorem newlines_le_byteSize (text : String) : newlines text ≤ text.utf8ByteSize := by
  calc newlines text ≤ text.toList.length := List.count_le_length
    _ ≤ String.utf8Len text.toList := length_le_utf8Len text.toList
    _ = text.utf8ByteSize := String.utf8Len_toList text

/-- The lines of a text that fits in memory are counted by a word. -/
theorem length_lines_lt {text : String} (h : text.utf8ByteSize < 2 ^ 63) :
    (lines text).length < 2 ^ 64 := by
  have := newlines_le_byteSize text
  rw [length_lines]
  omega

/-- A text with much of what a law about texts may stumble over: a short block and a long one, a
line that closes one block and would open another, a block that nothing closes, a carriage
return, an empty line, a last line that is empty, and a character above the basic plane. -/
def tangled : String :=
  "\x7b\x7d\r\n\x7d\x7b😀\n\x7b\n\x7b\n\né\x7b\x7d\n\x7b\n"

theorem tangled_byteSize : tangled.utf8ByteSize < 2 ^ 63 := by decide

/-- A text with a large block, of which some lines end in a carriage return, and below it a block
that nothing closes. -/
def rambling : String := "a\n\x7b😀\r\n\n\r\n\n\n\n\x7d\n\x7b\n"

theorem rambling_byteSize : rambling.utf8ByteSize < 2 ^ 63 := by decide

end BlockFolding.Text

import BlockFolding.Plan.Json
import BlockFolding.Proofs.Lines
import BlockFolding.Proofs.Numerals
import BlockFolding.Text.Numeral

/-
  JSON texts tell their values

  Two values with one text are one value (`pretty_injective`), so a plan printed as JSON loses
  nothing. A text is read from its front: its first sign tells what kind of value it is, a string
  goes on to the first quote that is not escaped, a number to the first sign that is no digit, and
  behind an item or a field a comma says that another one follows and a line end that none does.
-/

namespace BlockFolding

namespace Json

/-! ## Strings -/

/-- The character that a letter stands for behind a backslash. -/
def escaped : Char → Char
  | 'b' => '\x08'
  | 'f' => '\x0c'
  | 'n' => '\n'
  | 'r' => '\r'
  | 't' => '\t'
  | c => c

/-- Reads a character inside a JSON string. -/
def readStringChar : List Char → Option (Char × List Char)
  | '\\' :: 'u' :: _ :: _ :: high :: low :: rest =>
    some (.ofNat (16 * Text.hexDigitValue high + Text.hexDigitValue low), rest)
  | '\\' :: letter :: rest => some (escaped letter, rest)
  | c :: rest => some (c, rest)
  | [] => none

theorem hexDigitValue_hexDigit {n : Nat} (h : n < 16) : Text.hexDigitValue (hexDigit n) = n := by
  revert n
  decide

theorem readStringChar_stringChar (c : Char) (rest : List Char) :
    readStringChar (stringChar c ++ rest) = some (c, rest) := by
  unfold stringChar
  split
  · rfl
  · rfl
  · rfl
  · rfl
  · rfl
  · rfl
  · rfl
  · rename_i hquote hbackslash _ _ _ _ _
    split
    · rename_i hcontrol
      have hlt : c.toNat < 32 := hcontrol
      have hc : Char.ofNat (16 * (c.toNat / 16) + c.toNat % 16) = c := by
        rw [Nat.div_add_mod, Char.ofNat_toNat]
      simp [readStringChar, hexDigitValue_hexDigit (show c.toNat / 16 < 16 by omega),
        hexDigitValue_hexDigit (show c.toNat % 16 < 16 by omega), hc]
    · rw [List.singleton_append, readStringChar]
      · exact fun _ _ _ _ _ h _ => hbackslash h
      · exact fun _ _ h _ => hbackslash h

section
variable {behind behind' : List Char}

theorem stringChar_append_inj {c d : Char}
    (h : stringChar c ++ behind = stringChar d ++ behind') : c = d ∧ behind = behind' := by
  have hread := readStringChar_stringChar c behind
  rw [h, readStringChar_stringChar] at hread
  simp only [Option.some.injEq, Prod.mk.injEq] at hread
  exact ⟨hread.1.symm, hread.2.symm⟩

theorem stringChar_append_ne (c : Char) :
    stringChar c ++ behind ≠ '"' :: behind' := by
  unfold stringChar
  split
  · simp
  · simp
  · simp
  · simp
  · simp
  · simp
  · simp
  · rename_i hquote _ _ _ _ _ _
    split
    · simp
    · simpa using fun h => absurd h hquote

theorem chars_append_inj : ∀ {cs ds : List Char},
    cs.flatMap stringChar ++ '"' :: behind = ds.flatMap stringChar ++ '"' :: behind' →
    cs = ds ∧ behind = behind'
  | [], [], h => ⟨rfl, List.tail_eq_of_cons_eq h⟩
  | [], d :: ds, h => by
    rw [List.flatMap_cons, List.append_assoc] at h
    exact absurd h.symm (stringChar_append_ne d)
  | c :: cs, [], h => by
    rw [List.flatMap_cons, List.append_assoc] at h
    exact absurd h (stringChar_append_ne c)
  | c :: cs, d :: ds, h => by
    rw [List.flatMap_cons, List.flatMap_cons, List.append_assoc, List.append_assoc] at h
    obtain ⟨rfl, hrest⟩ := stringChar_append_inj h
    obtain ⟨rfl, hbehind⟩ := chars_append_inj hrest
    exact ⟨rfl, hbehind⟩

theorem quote_append_inj {text text' : String}
    (h : quote text ++ behind = quote text' ++ behind') : text = text' ∧ behind = behind' := by
  simp only [quote, List.cons_append, List.append_assoc, List.nil_append, List.cons.injEq,
    true_and] at h
  obtain ⟨htext, hbehind⟩ := chars_append_inj h
  exact ⟨String.toList_inj.1 htext, hbehind⟩

end

/-! ## Values -/

/-- The sign that the text of a value begins with, with 0 for any digit. -/
def opening : Json → Char
  | number _ => '0'
  | string _ => '"'
  | list _ => '['
  | object _ => '\x7b'

/-- A sign with 0 in place of any digit. -/
def withoutDigit (c : Char) : Char := if c.isDigit then '0' else c

theorem enclose_eq_cons (first last : Char) (level : Nat) (parts : List (List Char)) :
    ∃ rest, enclose first last level parts = first :: rest := by
  cases parts with
  | nil => exact ⟨_, rfl⟩
  | cons part parts => exact ⟨_, rfl⟩

/-- The first sign of a text tells what kind of value it is. -/
theorem layout_eq_cons (level : Nat) (value : Json) :
    ∃ c rest, layout level value = c :: rest ∧ withoutDigit c = value.opening := by
  cases value with
  | number n =>
    obtain ⟨digit, digits, hdigits⟩ := List.exists_cons_of_ne_nil (toString_ne_nil n)
    have hdigit : digit.isDigit = true := isDigit_of_mem_toString (hdigits ▸ List.mem_cons_self)
    exact ⟨digit, digits, hdigits, if_pos hdigit⟩
  | string s => exact ⟨'"', _, rfl, rfl⟩
  | list items =>
    obtain ⟨rest, hrest⟩ := enclose_eq_cons '[' ']' level (layoutItems (level + 1) items)
    exact ⟨'[', rest, hrest, rfl⟩
  | object fields =>
    obtain ⟨rest, hrest⟩ := enclose_eq_cons '\x7b' '\x7d' level (layoutFields (level + 1) fields)
    exact ⟨'\x7b', rest, hrest, rfl⟩

/-- The parts of an enclosed text behind its first part. -/
def laterParts (level : Nat) (parts : List (List Char)) : List Char :=
  parts.flatMap fun part => ',' :: (newLine level ++ part)

theorem laterParts_cons (level : Nat) (part : List Char) (parts : List (List Char)) :
    laterParts level (part :: parts) =
      ',' :: (newLine level ++ (part ++ laterParts level parts)) := by
  simp [laterParts]

theorem enclose_cons (first last : Char) (level : Nat) (part : List Char)
    (parts : List (List Char)) :
    enclose first last level (part :: parts) =
      first :: (newLine (level + 1) ++ (part ++ (laterParts (level + 1) parts ++
        (newLine level ++ [last])))) := by
  simp [enclose, laterParts, Text.intercalate_cons, List.flatMap_map]

/-- An enclosed text tells its parts, as far as they are told from one another. -/
theorem enclose_append_inj {first last : Char} (hlast : last ≠ '\n') {level : Nat}
    {parts parts' : List (List Char)} {behind behind' : List Char}
    (h : enclose first last level parts ++ behind = enclose first last level parts' ++ behind') :
    laterParts (level + 1) parts ++
        '\n' :: (List.replicate (2 * level) ' ' ++ last :: behind) =
      laterParts (level + 1) parts' ++
        '\n' :: (List.replicate (2 * level) ' ' ++ last :: behind') := by
  cases parts with
  | nil =>
    cases parts' with
    | nil =>
      simp only [enclose, List.cons_append, List.nil_append, List.cons.injEq, true_and] at h
      rw [h]
    | cons part' parts' =>
      rw [enclose_cons] at h
      simp [enclose, newLine, hlast] at h
  | cons part parts =>
    cases parts' with
    | nil =>
      rw [enclose_cons] at h
      simp [enclose, newLine, hlast.symm] at h
    | cons part' parts' =>
      rw [enclose_cons, enclose_cons] at h
      simpa [laterParts_cons, newLine] using h

theorem endsNumeral_laterParts (level : Nat) (parts : List (List Char)) (behind : List Char) :
    EndsNumeral (laterParts level parts ++ '\n' :: behind) := by
  cases parts with
  | nil => exact endsNumeral_cons (by decide) _
  | cons part parts => exact endsNumeral_cons (by decide) _

theorem layout_opening_eq {level : Nat} {value other : Json} {behind behind' : List Char}
    (h : layout level value ++ behind = layout level other ++ behind') :
    value.opening = other.opening := by
  obtain ⟨c, rest, hvalue, hc⟩ := layout_eq_cons level value
  obtain ⟨d, rest', hother, hd⟩ := layout_eq_cons level other
  rw [hvalue, hother, List.cons_append, List.cons_append, List.cons.injEq] at h
  rw [← hc, ← hd, h.1]

mutual

/-- A text tells its value and where it ends. -/
theorem layout_append_inj (level : Nat) : ∀ (value other : Json) {behind behind' : List Char},
    EndsNumeral behind → EndsNumeral behind' →
    layout level value ++ behind = layout level other ++ behind' →
    value = other ∧ behind = behind'
  | .number n, other, behind, behind', hends, hends', h => by
    have hopening := layout_opening_eq h
    cases other with
    | number m =>
      obtain ⟨rfl, hbehind⟩ := numeral_append_inj hends hends' h
      exact ⟨rfl, hbehind⟩
    | _ => simp [opening] at hopening
  | .string s, other, behind, behind', _, _, h => by
    have hopening := layout_opening_eq h
    cases other with
    | string t =>
      obtain ⟨rfl, hbehind⟩ := quote_append_inj h
      exact ⟨rfl, hbehind⟩
    | _ => simp [opening] at hopening
  | .list items, other, behind, behind', _, _, h => by
    have hopening := layout_opening_eq h
    cases other with
    | list others =>
      obtain ⟨rfl, hrest⟩ := items_append_inj (level + 1) items others
        (enclose_append_inj (by decide) h)
      exact ⟨rfl, List.tail_eq_of_cons_eq (List.append_cancel_left hrest)⟩
    | _ => simp [opening] at hopening
  | .object fields, other, behind, behind', _, _, h => by
    have hopening := layout_opening_eq h
    cases other with
    | object others =>
      obtain ⟨rfl, hrest⟩ := fields_append_inj (level + 1) fields others
        (enclose_append_inj (by decide) h)
      exact ⟨rfl, List.tail_eq_of_cons_eq (List.append_cancel_left hrest)⟩
    | _ => simp [opening] at hopening

theorem items_append_inj (level : Nat) : ∀ (items others : List Json)
    {behind behind' : List Char},
    laterParts level (layoutItems level items) ++ '\n' :: behind =
      laterParts level (layoutItems level others) ++ '\n' :: behind' →
    items = others ∧ behind = behind'
  | [], [], _, _, h => ⟨rfl, List.tail_eq_of_cons_eq h⟩
  | [], other :: others, _, _, h => by simp [laterParts, layoutItems] at h
  | item :: items, [], _, _, h => by simp [laterParts, layoutItems] at h
  | item :: items, other :: others, behind, behind', h => by
    simp only [layoutItems, laterParts_cons, List.cons_append, List.append_assoc,
      List.cons.injEq, true_and, List.append_cancel_left_eq] at h
    obtain ⟨rfl, hrest⟩ := layout_append_inj level item other
      (endsNumeral_laterParts level _ behind) (endsNumeral_laterParts level _ behind') h
    obtain ⟨rfl, hbehind⟩ := items_append_inj level items others hrest
    exact ⟨rfl, hbehind⟩

theorem fields_append_inj (level : Nat) : ∀ (fields others : List (String × Json))
    {behind behind' : List Char},
    laterParts level (layoutFields level fields) ++ '\n' :: behind =
      laterParts level (layoutFields level others) ++ '\n' :: behind' →
    fields = others ∧ behind = behind'
  | [], [], _, _, h => ⟨rfl, List.tail_eq_of_cons_eq h⟩
  | [], other :: others, _, _, h => by simp [laterParts, layoutFields] at h
  | field :: fields, [], _, _, h => by simp [laterParts, layoutFields] at h
  | (name, value) :: fields, (name', value') :: others, behind, behind', h => by
    simp only [layoutFields, laterParts_cons, List.cons_append, List.append_assoc,
      List.cons.injEq, true_and, List.append_cancel_left_eq] at h
    obtain ⟨rfl, hvalue⟩ := quote_append_inj h
    simp only [List.nil_append, List.cons.injEq, true_and] at hvalue
    obtain ⟨rfl, hrest⟩ := layout_append_inj level value value'
      (endsNumeral_laterParts level _ behind) (endsNumeral_laterParts level _ behind') hvalue
    obtain ⟨rfl, hbehind⟩ := fields_append_inj level fields others hrest
    exact ⟨rfl, hbehind⟩

end

/-- Two values with one text are one value. -/
theorem pretty_injective {value other : Json} (h : value.pretty = other.pretty) :
    value = other := by
  have hlayout : layout 0 value ++ [] = layout 0 other ++ [] := by
    rw [List.append_nil, List.append_nil]
    exact String.ofList_injective h
  exact (layout_append_inj 0 value other endsNumeral_nil endsNumeral_nil hlayout).1

end Json

/-! ## Plans -/

theorem FoldingRegion.toJson_injective {region other : FoldingRegion}
    (h : region.toJson = other.toJson) : region = other := by
  obtain ⟨first, last, kind⟩ := region
  obtain ⟨first', last', kind'⟩ := other
  cases kind
  cases kind'
  simpa [toJson, UInt64.toNat_inj] using h

theorem CommentZone.toJson_injective {zone other : CommentZone} (h : zone.toJson = other.toJson) :
    zone = other := by
  obtain ⟨afterLine, text⟩ := zone
  obtain ⟨afterLine', text'⟩ := other
  simpa [toJson, UInt64.toNat_inj] using h

theorem InspectWidget.toJson_injective {widget other : InspectWidget}
    (h : widget.toJson = other.toJson) : widget = other := by
  obtain ⟨id, line, column⟩ := widget
  obtain ⟨id', line', column'⟩ := other
  simpa [toJson, UInt64.toNat_inj] using h

theorem FoldPlan.toJson_injective {plan other : FoldPlan} (h : plan.toJson = other.toJson) :
    plan = other := by
  obtain ⟨regions, zones, widgets⟩ := plan
  obtain ⟨regions', zones', widgets'⟩ := other
  simp only [toJson, Json.object.injEq, Json.list.injEq, List.cons.injEq, Prod.mk.injEq, true_and,
    and_true] at h
  obtain ⟨hregions, hzones, hwidgets⟩ := h
  rw [(List.map_inj_right fun _ _ => FoldingRegion.toJson_injective).1 hregions,
    (List.map_inj_right fun _ _ => CommentZone.toJson_injective).1 hzones,
    (List.map_inj_right fun _ _ => InspectWidget.toJson_injective).1 hwidgets]

theorem FoldPlan.pretty_toJson_inj {plan other : FoldPlan} :
    plan.toJson.pretty = other.toJson.pretty ↔ plan = other := by
  constructor
  · intro h
    exact toJson_injective (Json.pretty_injective h)
  · rintro rfl
    rfl

end BlockFolding

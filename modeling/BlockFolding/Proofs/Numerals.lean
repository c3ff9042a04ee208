import Mathlib.Data.String.Basic

/-
  Where numerals end

  A numeral is a run of digits, so in a text it goes on to the first character that is no digit.
  Two texts that each begin with a numeral and go on with no digit are equal only if the numbers
  are equal and the texts behind them are (`numeral_append_inj`).
-/

namespace BlockFolding

theorem isDigit_of_mem_toDigits {n : Nat} : ∀ d ∈ Nat.toDigits 10 n, d.isDigit = true :=
  fun _ hd => Nat.isDigit_of_mem_toDigits (by decide) (by decide) hd

theorem isDigit_of_mem_toString {n : Nat} {c : Char} (h : c ∈ (toString n).toList) :
    c.isDigit = true := by
  rw [Nat.toString_eq_ofList_toDigits, String.toList_ofList] at h
  exact isDigit_of_mem_toDigits c h

theorem toString_injective {n m : Nat} (h : (toString n).toList = (toString m).toList) : n = m := by
  simp only [Nat.toString_eq_ofList_toDigits, String.toList_ofList] at h
  have := congrArg (fun digits => Nat.ofDigitChars 10 digits 0) h
  simpa only [Nat.ofDigitChars_ten_toDigits] using this

theorem toString_ne_nil (n : Nat) : (toString n).toList ≠ [] := by
  rw [Nat.toString_eq_ofList_toDigits, String.toList_ofList]
  exact Nat.toDigits_ne_nil

/-- A numeral in front of the characters is over where they begin. -/
def EndsNumeral (behind : List Char) : Prop := behind.takeWhile Char.isDigit = []

theorem endsNumeral_nil : EndsNumeral [] := rfl

theorem endsNumeral_cons {c : Char} (h : c.isDigit = false) (rest : List Char) :
    EndsNumeral (c :: rest) := by
  rw [EndsNumeral, List.takeWhile_cons, h]
  rfl

theorem takeWhile_numeral (n : Nat) {behind : List Char} (h : EndsNumeral behind) :
    ((toString n).toList ++ behind).takeWhile Char.isDigit = (toString n).toList := by
  rw [List.takeWhile_append_of_pos fun c hc => isDigit_of_mem_toString hc, h, List.append_nil]

/-- A numeral and what is behind it are told apart. -/
theorem numeral_append_inj {n m : Nat} {behind behind' : List Char} (hends : EndsNumeral behind)
    (hends' : EndsNumeral behind')
    (h : (toString n).toList ++ behind = (toString m).toList ++ behind') :
    n = m ∧ behind = behind' := by
  have hdigits : (toString n).toList = (toString m).toList := by
    rw [← takeWhile_numeral n hends, ← takeWhile_numeral m hends', h]
  refine ⟨toString_injective hdigits, ?_⟩
  rw [hdigits] at h
  exact List.append_cancel_left h

end BlockFolding

import BlockFolding.Proofs.Numerals
import BlockFolding.Settings
import BlockFolding.Text.Numeral

/-
  Signed numerals are read back

  A 64-bit integer that is written in decimal is read as itself, whatever its sign and however near
  it is to the ends of its range (`Text.readInt64_intText`). The digits are read one by one and the
  number read so far never exceeds the whole (`le_ofDigitChars`), so no digit takes it past a limit
  that the whole keeps. The limit for a negative numeral is greater by one than that for others.
-/

namespace BlockFolding

theorem le_ofDigitChars : ∀ (digits : List Char) (value : Nat),
    value ≤ Nat.ofDigitChars 10 digits value
  | [], _ => Nat.le_refl _
  | d :: rest, value => by
    have := le_ofDigitChars rest (10 * value + (d.toNat - '0'.toNat))
    rw [Nat.ofDigitChars_cons]
    omega

namespace Text

/-- Digits whose number keeps the limit are read as that number. -/
theorem readDigits_eq_ok (overflow : NumeralError) {limit : Nat} : ∀ {digits : List Char}
    {value : Nat}, (∀ d ∈ digits, d.isDigit = true) → Nat.ofDigitChars 10 digits value ≤ limit →
    readDigits overflow limit value digits = .ok (Nat.ofDigitChars 10 digits value)
  | [], _, _, _ => rfl
  | d :: rest, value, hdigits, hlimit => by
    obtain ⟨hd, hrest⟩ := List.forall_mem_cons.1 hdigits
    rw [Nat.ofDigitChars_cons] at hlimit ⊢
    have hnext := Nat.le_trans (le_ofDigitChars rest _) hlimit
    rw [readDigits, if_pos hd, if_pos hnext]
    exact readDigits_eq_ok overflow hrest hlimit

theorem readDigits_toDigits (overflow : NumeralError) {limit n : Nat} (h : n ≤ limit) :
    readDigits overflow limit 0 (Nat.toDigits 10 n) = .ok n := by
  have hn : Nat.ofDigitChars 10 (Nat.toDigits 10 n) 0 = n := Nat.ofDigitChars_ten_toDigits
  rw [readDigits_eq_ok overflow isDigit_of_mem_toDigits (hn.symm ▸ h), hn]

theorem exists_toDigits_eq_cons (n : Nat) :
    ∃ d rest, Nat.toDigits 10 n = d :: rest ∧ d.isDigit = true := by
  have hne : Nat.toDigits 10 n ≠ [] := Nat.toDigits_ne_nil
  obtain ⟨d, rest, hdigits⟩ := List.exists_cons_of_ne_nil hne
  exact ⟨d, rest, hdigits, isDigit_of_mem_toDigits d (hdigits ▸ List.mem_cons_self)⟩

theorem toList_intText (n : Int64) :
    (Settings.intText n).toList =
      (if n.toInt < 0 then ['-'] else []) ++ Nat.toDigits 10 n.toInt.natAbs := by
  rw [Settings.intText]
  cases n.toInt with
  | ofNat m =>
    have hnot : ¬ Int.ofNat m < 0 := Int.not_lt.2 (Int.natCast_nonneg m)
    rw [if_neg hnot]
    exact Nat.toList_repr
  | negSucc m =>
    rw [if_pos (Int.negSucc_lt_zero m)]
    exact (String.toList_append).trans (congrArg _ Nat.toList_repr)

theorem readInt64_digits {d : Char} (hd : d.isDigit = true) (rest : List Char) :
    readInt64 (d :: rest) =
      (readDigits .tooLarge 0x7FFFFFFFFFFFFFFF 0 (d :: rest)).map fun n => (n : Int) := by
  have hminus : d ≠ '-' := by
    rintro rfl
    contradiction
  have hplus : d ≠ '+' := by
    rintro rfl
    contradiction
  unfold readInt64
  split <;> simp_all

/-- An integer is read back from its numeral. -/
theorem readInt64_intText (n : Int64) :
    readInt64 (Settings.intText n).toList = .ok n.toInt := by
  have hlow := n.le_toInt
  have hhigh := n.toInt_lt
  obtain ⟨d, rest, hdigits, hd⟩ := exists_toDigits_eq_cons n.toInt.natAbs
  rw [toList_intText]
  split
  · have hread := readDigits_toDigits .tooSmall
      (show n.toInt.natAbs ≤ 0x8000000000000000 by omega)
    rw [hdigits] at hread ⊢
    simp only [List.singleton_append, readInt64, hread, Except.map]
    exact congrArg Except.ok (show -(n.toInt.natAbs : Int) = n.toInt by omega)
  · have hread := readDigits_toDigits .tooLarge
      (show n.toInt.natAbs ≤ 0x7FFFFFFFFFFFFFFF by omega)
    rw [hdigits] at hread ⊢
    rw [List.nil_append, readInt64_digits hd, hread]
    exact congrArg Except.ok (show (n.toInt.natAbs : Int) = n.toInt by omega)

end Text

end BlockFolding

/-
  Checked words

  Line numbers and columns are 64-bit words. Adding and subtracting them is checked: a result
  that no word holds is an overflow, told apart by the operation, and ends the computation. The
  lemmas on each operation say exactly when it succeeds, what number the result is, and which
  overflow it is otherwise.
-/

namespace BlockFolding

/-- A 64-bit word without sign. -/
abbrev Word := UInt64

/-- The operation whose result no word holds. -/
inductive Overflow where
  | add
  | sub
  deriving DecidableEq, Repr

def Overflow.message : Overflow → String
  | add => "attempt to add with overflow"
  | sub => "attempt to subtract with overflow"

/-- A value, or the overflow met on the way to it. -/
abbrev Checked := Except Overflow

@[simp] theorem ok_bind {ε α β : Type} (a : α) (f : α → Except ε β) : (Except.ok a >>= f) = f a :=
  rfl

theorem bind_eq_ok {ε α β : Type} {x : Except ε α} {f : α → Except ε β} {b : β} :
    x >>= f = .ok b ↔ ∃ a, x = .ok a ∧ f a = .ok b := by
  cases x with
  | error e => exact ⟨nofun, nofun⟩
  | ok a => simp

theorem bind_eq_error {ε α β : Type} {x : Except ε α} {f : α → Except ε β} {e : ε} :
    x >>= f = .error e ↔ x = .error e ∨ ∃ a, x = .ok a ∧ f a = .error e := by
  cases x with
  | error other =>
    change (Except.error other : Except ε β) = .error e ↔ _
    simp
  | ok a => simp

theorem bind_pure_eq_error {ε α β : Type} {x : Except ε α} {f : α → β} {e : ε} :
    (x >>= fun a => pure (f a)) = .error e ↔ x = .error e := by
  rw [bind_eq_error]
  constructor
  · rintro (h | ⟨a, -, h⟩)
    · exact h
    · contradiction
  · exact Or.inl

theorem exists_eq_ok_iff {ε α : Type} {x : Except ε α} :
    (∃ a, x = .ok a) ↔ ∀ e, x ≠ .error e := by
  cases x <;> simp

namespace Word

def plus (a b : Word) : Checked Word :=
  if a.toNat + b.toNat < UInt64.size then .ok (a + b) else .error .add

def minus (a b : Word) : Checked Word := if b ≤ a then .ok (a - b) else .error .sub

theorem plus_eq_ok {a b c : Word} : plus a b = .ok c ↔ c.toNat = a.toNat + b.toNat := by
  unfold plus
  have := c.toNat_lt
  split
  · rename_i h
    simp only [Except.ok.injEq, ← UInt64.toNat_inj, UInt64.toNat_add, Nat.mod_eq_of_lt h, eq_comm]
  · rename_i h
    rw [UInt64.size] at h
    simp only [reduceCtorEq, false_iff]
    omega

/-- A difference that is no word is a subtraction of the greater from the lesser. -/
theorem minus_eq_ok {a b c : Word} : minus a b = .ok c ↔ c.toNat + b.toNat = a.toNat := by
  unfold minus
  split
  · rename_i h
    have := UInt64.le_iff_toNat_le.1 h
    simp only [Except.ok.injEq, ← UInt64.toNat_inj, UInt64.toNat_sub_of_le _ _ h]
    omega
  · rename_i h
    rw [UInt64.le_iff_toNat_le] at h
    simp only [reduceCtorEq, false_iff]
    omega

theorem plus_eq_error {a b : Word} {overflow : Overflow} :
    plus a b = .error overflow ↔ overflow = .add ∧ UInt64.size ≤ a.toNat + b.toNat := by
  unfold plus
  split
  · rename_i h
    simp only [reduceCtorEq, false_iff, not_and, Nat.not_le]
    exact fun _ => h
  · rename_i h
    simp only [Except.error.injEq, eq_comm]
    exact (and_iff_left (Nat.le_of_not_lt h)).symm

theorem minus_eq_error {a b : Word} {overflow : Overflow} :
    minus a b = .error overflow ↔ overflow = .sub ∧ a.toNat < b.toNat := by
  unfold minus
  split
  · rename_i h
    simp only [reduceCtorEq, false_iff, not_and, Nat.not_lt]
    exact fun _ => UInt64.le_iff_toNat_le.1 h
  · rename_i h
    rw [UInt64.le_iff_toNat_le, Nat.not_le] at h
    simp only [Except.error.injEq, eq_comm]
    exact (and_iff_left h).symm

theorem toNat_add_one {a : Word} (h : a.toNat + 1 < UInt64.size) : (a + 1).toNat = a.toNat + 1 := by
  rw [UInt64.toNat_add]
  exact Nat.mod_eq_of_lt h

theorem plus_one {a : Word} (h : a.toNat + 1 < UInt64.size) : plus a 1 = .ok (a + 1) :=
  plus_eq_ok.2 (toNat_add_one h)

end Word

end BlockFolding

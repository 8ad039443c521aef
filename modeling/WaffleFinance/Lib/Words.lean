import WaffleFinance.Lib.Refusal

/-!
# Machine words

Byte strings, words of 256 bits, and the arithmetic of fixed-width integers that refuses to
overflow.  The integers themselves are natural numbers and integers.
-/

namespace WaffleFinance.Lib

/-- A word of 256 bits. -/
abbrev Bytes32 := BitVec 256

/-- A byte string. -/
abbrev Bytes := List UInt8

variable {ε : Type}

/-- Addition of unsigned integers of `w` bits. -/
def checkedAdd (w : ℕ) (overflow : ε) (a b : ℕ) : Except ε ℕ :=
  if a + b < 2 ^ w then .ok (a + b) else .error overflow

@[simp] lemma checkedAdd_eq_ok {w a b c : ℕ} {overflow : ε} :
    checkedAdd w overflow a b = .ok c ↔ a + b < 2 ^ w ∧ a + b = c := by
  rw [checkedAdd]
  split_ifs with h
  · simp [h]
  · simp [h]

/-- Subtraction of unsigned integers. -/
def checkedSub (underflow : ε) (a b : ℕ) : Except ε ℕ :=
  if b ≤ a then .ok (a - b) else .error underflow

@[simp] lemma checkedSub_eq_ok {a b c : ℕ} {underflow : ε} :
    checkedSub underflow a b = .ok c ↔ b ≤ a ∧ a - b = c := by
  rw [checkedSub]
  split_ifs with h
  · simp [h]
  · simp [h]

/-- Addition of signed integers of `w` bits. -/
def checkedAddInt (w : ℕ) (overflow : ε) (a b : ℤ) : Except ε ℤ :=
  if -2 ^ (w - 1) ≤ a + b ∧ a + b < 2 ^ (w - 1) then .ok (a + b) else .error overflow

@[simp] lemma checkedAddInt_eq_ok {w : ℕ} {a b c : ℤ} {overflow : ε} :
    checkedAddInt w overflow a b = .ok c ↔
      (-2 ^ (w - 1) ≤ a + b ∧ a + b < 2 ^ (w - 1)) ∧ a + b = c := by
  rw [checkedAddInt]
  split_ifs with h
  · simp [h]
  · simp [h]

end WaffleFinance.Lib

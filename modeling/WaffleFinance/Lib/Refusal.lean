import Mathlib

/-!
# Computations that may be refused

A contract function is a chain of checks and writes, and the first check that fails
abandons the whole call.  Such a function is an `Except` computation.  This file has the
single check `failIf`, the inversion lemmas by which a proof takes a chain of checks apart
without unfolding it, and `Avoids`: certain errors do not occur.
-/

namespace WaffleFinance.Lib

variable {ε α β : Type}

/-- Refuse with `e` when `p` holds, and go on otherwise. -/
def failIf (p : Prop) [Decidable p] (e : ε) : Except ε Unit :=
  if p then .error e else .ok ()

lemma failIf_pos {p : Prop} [Decidable p] (h : p) (e : ε) : failIf p e = .error e := by
  simp [failIf, h]

lemma failIf_neg {p : Prop} [Decidable p] (h : ¬ p) (e : ε) : failIf p e = .ok () := by
  simp [failIf, h]

/-- A chain succeeds exactly when its first part does and the rest succeeds on its value. -/
lemma chain_eq_ok {first : Except ε α} {rest : α → Except ε β} {b : β} :
    (first >>= rest) = .ok b ↔ ∃ a, first = .ok a ∧ rest a = .ok b := by
  constructor
  · intro h
    rcases first with e | a
    · exact absurd h (by simp [bind, Except.bind])
    · exact ⟨a, rfl, h⟩
  · rintro ⟨a, rfl, h⟩
    exact h

@[simp] lemma ok_chain (a : α) (rest : α → Except ε β) : (Except.ok a >>= rest) = rest a := rfl

@[simp] lemma error_chain (e : ε) (rest : α → Except ε β) :
    (Except.error e >>= rest) = .error e := rfl

@[simp] lemma failIf_eq_ok {p : Prop} [Decidable p] {e : ε} {u : Unit} :
    failIf p e = .ok u ↔ ¬ p := by
  by_cases h : p
  · simp [failIf, h]
  · simp [failIf, h]

@[simp] lemma pure_eq_ok_iff {a b : α} : (pure a : Except ε α) = .ok b ↔ a = b :=
  ⟨fun h => Except.ok.inj h, fun h => congrArg Except.ok h⟩

/-! ### Errors that do not occur -/

/-- The computation is not refused for one of the reasons `bad`. -/
def Avoids (bad : ε → Prop) (x : Except ε α) : Prop := ∀ e, x = .error e → ¬ bad e

namespace Avoids

variable {bad : ε → Prop}

lemma of_ok {x : Except ε α} (h : ∃ a, x = .ok a) : Avoids bad x := by
  obtain ⟨a, rfl⟩ := h
  intro e he
  cases he

lemma of_error {e : ε} (h : ¬ bad e) : Avoids bad (.error e : Except ε α) := by
  rintro e' ⟨⟩
  exact h

lemma check {p : Prop} [Decidable p] {e : ε} (h : ¬ bad e) : Avoids bad (failIf p e) := by
  rw [failIf]
  split_ifs
  · exact of_error h
  · exact of_ok ⟨_, rfl⟩

lemma chain {first : Except ε α} {rest : α → Except ε β} (hfirst : Avoids bad first)
    (hrest : ∀ a, first = .ok a → Avoids bad (rest a)) : Avoids bad (first >>= rest) := by
  cases first with
  | error e => exact of_error (hfirst e rfl)
  | ok a => exact hrest a rfl

end Avoids

end WaffleFinance.Lib

import Mathlib

/-!
# Transactions with sequence numbers

An account has a sequence number.  A transaction that was handed to the network may be included at
any time later as long as its number is that of the account, which then goes up by one; it may also
never be included.  What keeps two transactions apart is their number alone.

`Spends` says that at most one transaction has been included, and that none of those that still wait
can be once there is one.
-/

namespace WaffleFinance.Lib

/-- The account and its transactions. -/
structure SequencedLedger (τ : Type*) where
  /-- The number that the next transaction must have. -/
  sequence : ℕ
  /-- What was handed over and may still be included. -/
  pool : List τ
  included : List τ

namespace SequencedLedger

variable {τ : Type*} (number : τ → ℕ) (L : SequencedLedger τ)

def new (sequence : ℕ) : SequencedLedger τ := ⟨sequence, [], []⟩

def hand (t : τ) : SequencedLedger τ := { L with pool := L.pool ++ [t] }

/-- A transaction is rejected for good. -/
def reject [DecidableEq τ] (t : τ) : SequencedLedger τ := { L with pool := L.pool.erase t }

/-- A transaction is included, if its number is right. -/
def confirm (i : ℕ) : SequencedLedger τ :=
  match L.pool[i]? with
  | none => L
  | some t =>
    if number t = L.sequence then
      { sequence := L.sequence + 1, pool := L.pool.eraseIdx i, included := L.included ++ [t] }
    else L

/-- Another transaction of the account is included. -/
def foreign : SequencedLedger τ := { L with sequence := L.sequence + 1 }

/-- The number can be used, and only while nothing has been included. -/
structure Usable (n : ℕ) : Prop where
  le : n ≤ L.sequence
  lt : L.included ≠ [] → n < L.sequence

/-- At most one transaction is included, and none after it. -/
structure Spends : Prop where
  single : L.included.length ≤ 1
  usable : ∀ t ∈ L.pool, L.Usable (number t)

variable {number L} {t : τ} {n : ℕ}

lemma Usable.foreign (h : L.Usable n) : L.foreign.Usable n :=
  ⟨h.le.trans (Nat.le_succ _), fun _ => Nat.lt_succ_of_le h.le⟩

/-- The number of the account itself, while nothing has been included. -/
lemma usable_sequence (h : L.included = []) : L.Usable L.sequence :=
  ⟨le_rfl, fun hne => absurd h hne⟩

lemma Spends.new (sequence : ℕ) : Spends number (SequencedLedger.new sequence) where
  single := Nat.zero_le _
  usable := by simp [SequencedLedger.new]

lemma Spends.hand (h : Spends number L) (ht : L.Usable (number t)) :
    Spends number (L.hand t) where
  single := h.single
  usable := fun u hu => by
    rcases List.mem_append.1 hu with hold | hnew
    · exact { h.usable u hold with }
    · rw [List.mem_singleton.1 hnew]
      exact { ht with }

lemma Spends.reject [DecidableEq τ] (h : Spends number L) (t : τ) :
    Spends number (L.reject t) where
  single := h.single
  usable := fun u hu => { h.usable u (List.mem_of_mem_erase hu) with }

lemma Spends.foreign (h : Spends number L) : Spends number L.foreign where
  single := h.single
  usable := fun u hu => (h.usable u hu).foreign

/-- What an inclusion does: nothing, or it is the first one. -/
lemma Spends.confirm_cases (h : Spends number L) (i : ℕ) :
    L.confirm number i = L ∨
      ∃ t ∈ L.pool, L.included = [] ∧
        L.confirm number i = ⟨L.sequence + 1, L.pool.eraseIdx i, [t]⟩ := by
  cases hi : L.pool[i]? with
  | none => exact Or.inl (by simp [SequencedLedger.confirm, hi])
  | some t =>
    by_cases hnumber : number t = L.sequence
    · right
      have hmem := List.mem_of_getElem? hi
      have hnone : L.included = [] := by
        by_contra hsome
        exact absurd ((h.usable t hmem).lt hsome) (by omega)
      exact ⟨t, hmem, hnone, by simp [SequencedLedger.confirm, hi, hnumber, hnone]⟩
    · exact Or.inl (by simp [SequencedLedger.confirm, hi, hnumber])

lemma Spends.confirm (h : Spends number L) (i : ℕ) : Spends number (L.confirm number i) := by
  rcases h.confirm_cases i with hsame | ⟨t, -, -, hfirst⟩
  · rw [hsame]
    exact h
  rw [hfirst]
  refine ⟨le_rfl, fun u hu => ?_⟩
  have hold := h.usable u ((List.eraseIdx_sublist _ _).subset hu)
  exact ⟨hold.le.trans (Nat.le_succ _), fun _ => Nat.lt_succ_of_le hold.le⟩

lemma Usable.confirm (hL : Spends number L) (h : L.Usable n) (i : ℕ) :
    (L.confirm number i).Usable n := by
  rcases hL.confirm_cases i with hsame | ⟨t, -, -, hfirst⟩
  · rw [hsame]
    exact h
  · rw [hfirst]
    exact ⟨h.le.trans (Nat.le_succ _), fun _ => Nat.lt_succ_of_le h.le⟩

/-- What has been included stays the only one. -/
lemma Spends.included_eq (h : Spends number L) (ht : L.included = [t]) (i : ℕ) :
    (L.confirm number i).included = [t] := by
  rcases h.confirm_cases i with hsame | ⟨u, -, hnone, -⟩
  · rw [hsame, ht]
  · rw [hnone] at ht
    cases ht

end SequencedLedger

end WaffleFinance.Lib

import Mathlib

/-!
# Totals of finite families and exact ledgers

Two things a contract that holds money is measured by: the total of what it owes, a sum over
a family of entries of which one call changes one or two, and the ledger of an asset, which
a transfer changes in two places without changing its total.
-/

namespace WaffleFinance.Lib

variable {ι α M : Type*} [DecidableEq ι] [AddCommMonoid M]

/-! ### Totals -/

/-- Replacing one entry of a family changes the total of a quantity read off the entries by
the new value less the old one.  An entry that is not counted must keep its value. -/
lemma sum_update_add {s : Finset ι} {i : ι} (g : α → M) (f : ι → α) (v : α)
    (hi : i ∈ s ∨ g v = g (f i)) :
    ∑ j ∈ s, g (Function.update f i v j) + g (f i) = ∑ j ∈ s, g (f j) + g v := by
  rcases hi with hi | hv
  · rw [← Finset.add_sum_erase s _ hi, ← Finset.add_sum_erase s (fun j => g (f j)) hi]
    have hrest : ∑ j ∈ s.erase i, g (Function.update f i v j) = ∑ j ∈ s.erase i, g (f j) := by
      refine Finset.sum_congr rfl fun j hj => ?_
      rw [Function.update_of_ne (Finset.ne_of_mem_erase hj)]
    rw [hrest, Function.update_self]
    abel
  have hsame : ∀ j ∈ s, g (Function.update f i v j) = g (f j) := by
    intro j _
    by_cases hj : j = i
    · rw [hj, Function.update_self, hv]
    · rw [Function.update_of_ne hj]
  rw [Finset.sum_congr rfl hsame, hv]

/-- What holds of every entry of a partial family, and of a new entry, holds of every entry after
the new one is put in. -/
lemma forall_some_of_update {P : ι → α → Prop} {f g : ι → Option α} {i : ι} {v : α}
    (hg : g = Function.update f i (some v)) (hf : ∀ j a, f j = some a → P j a) (hv : P i v) :
    ∀ j a, g j = some a → P j a := by
  rintro j a hj
  rw [hg] at hj
  by_cases hji : j = i
  · subst hji
    rw [Function.update_self] at hj
    obtain rfl := Option.some.inj hj
    exact hv
  · rw [Function.update_of_ne hji] at hj
    exact hf j a hj

/-! ### Ledgers -/

/-- An exact transfer of `n` from `src` to `dst`. -/
def move (b : ι → ℤ) (src dst : ι) (n : ℤ) : ι → ℤ :=
  fun a => b a - (if a = src then n else 0) + (if a = dst then n else 0)

variable {b : ι → ℤ} {src dst : ι}

lemma move_src (h : src ≠ dst) (n : ℤ) : move b src dst n src = b src - n := by
  simp [move, h]

lemma move_dst (h : src ≠ dst) (n : ℤ) : move b src dst n dst = b dst + n := by
  simp [move, h.symm]

@[simp] lemma move_self (b : ι → ℤ) (a : ι) (n : ℤ) : move b a a n = b := by
  funext x
  simp [move]

lemma move_of_ne {a : ι} (hs : a ≠ src) (hd : a ≠ dst) (n : ℤ) : move b src dst n a = b a := by
  simp [move, hs, hd]

/-- An exact transfer keeps the total of the ledger. -/
lemma sum_move [Fintype ι] (b : ι → ℤ) (src dst : ι) (n : ℤ) :
    ∑ a, move b src dst n a = ∑ a, b a := by
  simp [move, Finset.sum_add_distrib, Finset.sum_sub_distrib]

/-- Nobody but the source loses by an exact transfer of a non-negative amount. -/
lemma le_move {a : ι} {n : ℤ} (hn : 0 ≤ n) (ha : a ≠ src) : b a ≤ move b src dst n a := by
  have hdst : 0 ≤ (if a = dst then n else 0) := by split_ifs <;> omega
  rw [move, if_neg ha]
  omega

end WaffleFinance.Lib

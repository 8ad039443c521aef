import Mathlib

/-!
# A list with an index

A list whose elements can be found and removed in constant time: next to the list there is a map
that has, for every element, its place in the list counted from one, and zero for everything
else.  An element is removed by moving the last one into its place.

That the two belong together is one equivalence, `IndexedList.Consistent`, and the two operations
keep it.
-/

namespace WaffleFinance.Lib

/-- A list and a map from its elements to their places. -/
structure IndexedList (α : Type*) where
  list : List α
  index : α → ℕ

namespace IndexedList

variable {α : Type*}

/-- The place of an element is where the list has it. -/
def Consistent (l : IndexedList α) : Prop := ∀ i a, l.list[i]? = some a ↔ l.index a = i + 1

lemma consistent_empty : Consistent (⟨[], fun _ => 0⟩ : IndexedList α) := by
  intro i a
  simp

/-! ### What consistency says -/

namespace Consistent

variable {l : IndexedList α} (h : l.Consistent)

include h

lemma getElem? {a : α} (ha : l.index a ≠ 0) : l.list[l.index a - 1]? = some a :=
  (h _ a).2 (by omega)

lemma mem_iff {a : α} : a ∈ l.list ↔ l.index a ≠ 0 := by
  rw [List.mem_iff_getElem?]
  constructor
  · rintro ⟨i, hi⟩
    rw [(h i a).1 hi]
    omega
  · exact fun ha => ⟨_, h.getElem? ha⟩

lemma index_le {a : α} : l.index a ≤ l.list.length := by
  rcases Nat.eq_zero_or_pos (l.index a) with ha | ha
  · omega
  · obtain ⟨hlt, -⟩ := List.getElem?_eq_some_iff.1 (h.getElem? ha.ne')
    omega

/-- Two elements do not share a place. -/
lemma eq_of_index_eq {a b : α} (ha : l.index a ≠ 0)
    (hab : l.index a = l.index b) : a = b := by
  have hb := h.getElem? (hab ▸ ha)
  rw [← hab, h.getElem? ha] at hb
  exact Option.some.inj hb

lemma nodup : l.list.Nodup := by
  rw [List.nodup_iff_getElem?_ne_getElem?]
  intro i j hij hj heq
  obtain ⟨a, ha⟩ : ∃ a, l.list[j]? = some a := ⟨_, List.getElem?_eq_getElem hj⟩
  have hi := (h i a).1 (heq.trans ha)
  have hj := (h j a).1 ha
  omega

/-- The list is as long as there are elements with a place. -/
lemma length_eq : l.list.length = {a | l.index a ≠ 0}.ncard := by
  classical
  have hset : {a | l.index a ≠ 0} = (l.list.toFinset : Set α) := by
    ext a
    simp [h.mem_iff]
  rw [hset, Set.ncard_coe_finset, List.toFinset_card_of_nodup h.nodup]

end Consistent

/-! ### The operations -/

variable [DecidableEq α]

/-- Put an element at the end. -/
def push (l : IndexedList α) (x : α) : IndexedList α where
  list := l.list ++ [x]
  index := Function.update l.index x (l.list.length + 1)

/-- Remove an element, where `last` is the last one of the list. -/
def swapPop (l : IndexedList α) (x last : α) : IndexedList α :=
  if l.index x = l.list.length then
    { list := l.list.dropLast
      index := Function.update l.index x 0 }
  else
    { list := (l.list.set (l.index x - 1) last).dropLast
      index := Function.update (Function.update l.index last (l.index x)) x 0 }

namespace Consistent

variable {l : IndexedList α} {x last : α}

lemma push (h : l.Consistent) (hx : l.index x = 0) : (l.push x).Consistent := by
  intro i a
  show (l.list ++ [x])[i]? = some a ↔ Function.update l.index x (l.list.length + 1) a = i + 1
  rw [List.getElem?_append]
  by_cases ha : a = x
  · -- a new element has no other place than the last
    subst ha
    rw [Function.update_self]
    split_ifs with hi
    · simp only [h i a, hx]
      omega
    · rw [List.getElem?_singleton]
      split_ifs with hi' <;> simp <;> omega
  · rw [Function.update_of_ne ha, ← h i a]
    split_ifs with hi
    · rfl
    · rw [List.getElem?_singleton, List.getElem?_eq_none (not_lt.1 hi)]
      split_ifs <;> simp [Ne.symm ha]

/-- Removal of the last element. -/
lemma dropLast (h : l.Consistent) (hx : l.index x = l.list.length) :
    Consistent ⟨l.list.dropLast, Function.update l.index x 0⟩ := by
  intro i a
  show l.list.dropLast[i]? = some a ↔ Function.update l.index x 0 a = i + 1
  rw [List.getElem?_dropLast, Option.ite_none_right_eq_some, h i a]
  by_cases ha : a = x
  · subst ha
    rw [Function.update_self]
    omega
  rw [Function.update_of_ne ha]
  have hle := h.index_le (a := a)
  have hne : l.index a ≠ 0 → l.index a ≠ l.list.length := fun h0 heq =>
    ha (h.eq_of_index_eq h0 (heq.trans hx.symm))
  omega

/-- Removal of another element, into whose place the last one moves. -/
lemma set_dropLast (h : l.Consistent) (hx : l.index x ≠ 0) (hne : l.index x ≠ l.list.length)
    (hlast : l.index last = l.list.length) :
    Consistent ⟨(l.list.set (l.index x - 1) last).dropLast,
      Function.update (Function.update l.index last (l.index x)) x 0⟩ := by
  have hlen := h.index_le (a := x)
  have hslot : l.index x - 1 < l.list.length := by omega
  have hlx : last ≠ x := by
    rintro rfl
    exact hne hlast
  intro i a
  show (l.list.set (l.index x - 1) last).dropLast[i]? = some a ↔
    Function.update (Function.update l.index last (l.index x)) x 0 a = i + 1
  rw [List.getElem?_dropLast, Option.ite_none_right_eq_some, List.length_set,
    List.getElem?_set, if_pos hslot]
  by_cases ha : a = x
  · -- `x` is nowhere any more
    subst ha
    rw [Function.update_self]
    split_ifs with hi
    · simp [hlx]
    · rw [h i a, iff_false]
      omega
  · rw [Function.update_of_ne ha]
    by_cases hal : a = last
    · -- the last element is in the place of `x`
      subst hal
      rw [Function.update_self]
      split_ifs with hi
      · simp only [and_true]
        omega
      · rw [h i a]
        omega
    · rw [Function.update_of_ne hal]
      have hle := h.index_le (a := a)
      have hx' : l.index a ≠ 0 → l.index a ≠ l.index x := fun h0 heq =>
        ha (h.eq_of_index_eq h0 heq)
      have hlast' : l.index a ≠ 0 → l.index a ≠ l.list.length := fun h0 heq =>
        hal (h.eq_of_index_eq h0 (heq.trans hlast.symm))
      split_ifs with hi
      · simp only [Option.some.injEq, Ne.symm hal, and_false, false_iff]
        omega
      · rw [h i a]
        omega

/-- Removal keeps the list consistent, wherever the element is. -/
lemma swapPop (h : l.Consistent) (hx : l.index x ≠ 0)
    (hlast : l.list[l.list.length - 1]? = some last) : (l.swapPop x last).Consistent := by
  have hindex := (h _ last).1 hlast
  have hlen := h.index_le (a := x)
  rw [IndexedList.swapPop]
  split_ifs with hend
  · exact h.dropLast hend
  · exact h.set_dropLast hx hend (by omega)

/-- What is removed is gone, and nothing else. -/
lemma swapPop_index (h : l.Consistent) (hx : l.index x ≠ 0)
    (hlast : l.list[l.list.length - 1]? = some last) (a : α) :
    (l.swapPop x last).index a ≠ 0 ↔ l.index a ≠ 0 ∧ a ≠ x := by
  have hlast' : l.index last ≠ 0 := by
    rw [(h _ last).1 hlast]
    omega
  rw [IndexedList.swapPop]
  by_cases ha : a = x
  · subst ha
    split_ifs <;> simp
  split_ifs
  · simp [ha]
  by_cases hal : a = last
  · subst hal
    simp [ha, hx, hlast']
  · simp [ha, hal]

end Consistent

end IndexedList

end WaffleFinance.Lib

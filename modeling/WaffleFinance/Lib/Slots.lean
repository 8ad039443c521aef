import Mathlib

/-!
# Lists whose entries are replaced in place

Records that are never removed are a list, and a record is its place in it.  A step replaces the
entry at one place or adds one at the end.  The lemmas say what becomes of a lookup, of a number of
entries and of a column under the two.
-/

namespace WaffleFinance.Lib

variable {α β : Type*} {l : List α} {i j : ℕ} {a b c : α}

/-- After a replacement there is the new entry in its place and the old ones elsewhere. -/
lemma getElem?_set_cases (h : (l.set i b)[j]? = some c) :
    (j = i ∧ c = b) ∨ (j ≠ i ∧ l[j]? = some c) := by
  rw [List.getElem?_set] at h
  split at h
  · rename_i hij
    split at h
    · exact Or.inl ⟨hij.symm, (Option.some.inj h).symm⟩
    · cases h
  · rename_i hij
    exact Or.inr ⟨Ne.symm hij, h⟩

lemma getElem?_set_of_some (h : l[i]? = some a) (b : α) : (l.set i b)[i]? = some b := by
  obtain ⟨hlt, -⟩ := List.getElem?_eq_some_iff.1 h
  rw [List.getElem?_set_self hlt]

/-- After an addition there is the new entry at the end and the old ones before. -/
lemma getElem?_concat_cases (h : (l ++ [b])[j]? = some c) :
    (j = l.length ∧ c = b) ∨ l[j]? = some c := by
  rw [List.getElem?_append] at h
  split at h
  · exact Or.inr h
  rename_i hlt
  obtain ⟨hzero, hc⟩ := List.getElem?_eq_some_iff.1 h
  rw [List.length_singleton] at hzero
  refine Or.inl ⟨by omega, ?_⟩
  rw [← hc]
  simp

/-- The number of entries of a kind: less the old one and more the new one. -/
lemma countP_set_add (p : α → Bool) (h : l[i]? = some a) (b : α) :
    (l.set i b).countP p + (if p a then 1 else 0) = l.countP p + (if p b then 1 else 0) := by
  obtain ⟨hlt, rfl⟩ := List.getElem?_eq_some_iff.1 h
  rw [List.countP_set hlt]
  by_cases ha : p l[i] = true
  · have hpos : 0 < l.countP p := List.countP_pos_iff.2 ⟨l[i], List.getElem_mem hlt, ha⟩
    simp only [ha, if_true]
    omega
  · simp [ha]

/-- A column that the new entry shares with the old one stays. -/
lemma map_set_of_eq {f : α → β} (h : l[i]? = some a) (hab : f b = f a) :
    (l.set i b).map f = l.map f := by
  refine List.ext_getElem? fun j => ?_
  rw [List.getElem?_map, List.getElem?_map]
  by_cases hij : j = i
  · subst hij
    rw [getElem?_set_of_some h, h]
    simp [hab]
  · rw [List.getElem?_set_ne (Ne.symm hij)]

/-- Two entries that agree in a column without duplicates are one. -/
lemma eq_of_nodup_map {f : α → β} (hl : (l.map f).Nodup) (ha : l[i]? = some a)
    (hb : l[j]? = some b) (hab : f a = f b) : i = j := by
  obtain ⟨hi, rfl⟩ := List.getElem?_eq_some_iff.1 ha
  obtain ⟨hj, rfl⟩ := List.getElem?_eq_some_iff.1 hb
  have hi' : i < (l.map f).length := by simpa using hi
  have hj' : j < (l.map f).length := by simpa using hj
  have hcolumn : (l.map f)[i] = (l.map f)[j] := by simpa using hab
  exact (List.Nodup.getElem_inj_iff hl).1 hcolumn

end WaffleFinance.Lib

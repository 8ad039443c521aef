import Mathlib

/-!
# Maps that keep the order of insertion

A map whose entries are visited in the order in which their keys came in, as the maps of
JavaScript are.  A key occurs once; that is a field of the structure.  Storing under a key that
is there already keeps its place.

Every change to the values is one operation, `InsertionMap.mapValues`, and one equation,
`InsertionMap.get_mapValues`, says what it does to a lookup.
-/

namespace WaffleFinance.Lib

/-- A map with its entries in the order of insertion. -/
structure InsertionMap (κ ν : Type*) where
  entries : List (κ × ν)
  nodup : (entries.map Prod.fst).Nodup

namespace InsertionMap

variable {κ ν : Type*}

/-- The map without entries. -/
def empty : InsertionMap κ ν := ⟨[], List.nodup_nil⟩

def keys (m : InsertionMap κ ν) : List κ := m.entries.map Prod.fst

/-- The first entry, in the order of insertion, that satisfies `p`. -/
def first (m : InsertionMap κ ν) (p : κ → ν → Bool) : Option (κ × ν) :=
  m.entries.find? (fun e => p e.1 e.2)

variable {m : InsertionMap κ ν} {p : κ → ν → Bool}

lemma mem_of_first {e : κ × ν} (h : m.first p = some e) : e ∈ m.entries ∧ p e.1 e.2 = true := by
  unfold first at h
  have hp := List.find?_some h
  exact ⟨List.mem_of_find?_eq_some h, hp⟩

lemma keys_mapValues_entries (entries : List (κ × ν)) (f : κ → ν → ν) :
    (entries.map (fun e => (e.1, f e.1 e.2))).map Prod.fst = entries.map Prod.fst := by
  simp [List.map_map, Function.comp_def]

/-- Replace every value. -/
def mapValues (f : κ → ν → ν) (m : InsertionMap κ ν) : InsertionMap κ ν where
  entries := m.entries.map (fun e => (e.1, f e.1 e.2))
  nodup := (keys_mapValues_entries m.entries f).symm ▸ m.nodup

@[simp] lemma keys_mapValues (f : κ → ν → ν) (m : InsertionMap κ ν) :
    (m.mapValues f).keys = m.keys :=
  keys_mapValues_entries m.entries f

variable {k : κ}

lemma nodup_append (h : k ∉ m.keys) (v : ν) : ((m.entries ++ [(k, v)]).map Prod.fst).Nodup := by
  rw [List.map_append, List.nodup_append]
  refine ⟨m.nodup, List.nodup_singleton k, ?_⟩
  intro a ha b hb hab
  have hbk : b = k := by simpa using hb
  exact h (hbk ▸ hab ▸ ha)

variable [DecidableEq κ]

/-- The value under a key. -/
def get (m : InsertionMap κ ν) (k : κ) : Option ν :=
  (m.entries.find? (fun e => e.1 = k)).map Prod.snd

variable {v : ν}

lemma get_eq_some : m.get k = some v ↔ (k, v) ∈ m.entries := by
  constructor
  · intro h
    obtain ⟨⟨k', v'⟩, hfind, hv⟩ := Option.map_eq_some_iff.1 h
    have hk : k' = k := by simpa using List.find?_some hfind
    subst hk
    subst hv
    exact List.mem_of_find?_eq_some hfind
  · intro hmem
    cases hfind : m.entries.find? (fun e => e.1 = k) with
    | none =>
      have hnone := List.find?_eq_none.1 hfind (k, v) hmem
      simp at hnone
    | some e =>
      have hk : e.1 = k := by simpa using List.find?_some hfind
      -- two entries with one key are one entry
      have heq : e = (k, v) :=
        List.inj_on_of_nodup_map m.nodup (List.mem_of_find?_eq_some hfind) hmem hk
      simp [get, hfind, heq]

lemma get_eq_none : m.get k = none ↔ k ∉ m.keys := by
  rw [Option.eq_none_iff_forall_ne_some]
  simp only [ne_eq, get_eq_some, keys, List.mem_map, Prod.exists, exists_and_right,
    exists_eq_right, not_exists]

@[simp] lemma get_empty (k : κ) : (empty : InsertionMap κ ν).get k = none := rfl

@[simp] lemma get_mapValues (f : κ → ν → ν) (m : InsertionMap κ ν) (k : κ) :
    (m.mapValues f).get k = (m.get k).map (f k) := by
  cases h : m.get k with
  | none =>
    rw [get_eq_none] at h
    rw [Option.map_none, get_eq_none, keys_mapValues]
    exact h
  | some v =>
    rw [Option.map_some, get_eq_some]
    exact List.mem_map.2 ⟨(k, v), get_eq_some.1 h, rfl⟩

/-- Replace the value under one key, if there is one. -/
def update (m : InsertionMap κ ν) (k : κ) (f : ν → ν) : InsertionMap κ ν :=
  m.mapValues (fun k' v => if k' = k then f v else v)

@[simp] lemma get_update_self (m : InsertionMap κ ν) (k : κ) (f : ν → ν) :
    (m.update k f).get k = (m.get k).map f := by
  simp [update]

lemma get_update_of_ne (m : InsertionMap κ ν) {k' : κ} (h : k' ≠ k) (f : ν → ν) :
    (m.update k f).get k' = m.get k' := by
  simp [update, h]

lemma update_update (m : InsertionMap κ ν) (k : κ) (f g : ν → ν) :
    (m.update k f).update k g = m.update k (fun v => g (f v)) := by
  have hentries : ((m.update k f).update k g).entries =
      (m.update k (fun v => g (f v))).entries := by
    simp only [update, mapValues, List.map_map]
    refine List.map_congr_left fun e _ => ?_
    by_cases he : e.1 = k <;> simp [he]
  cases h : (m.update k f).update k g
  cases h' : m.update k (fun v => g (f v))
  simp_all

variable {f : ν → ν}

/-- Only the value that is there counts for an update. -/
lemma update_congr (h : m.get k = some v) {g : ν → ν} (hfg : f v = g v) :
    m.update k f = m.update k g := by
  have hentries : (m.update k f).entries = (m.update k g).entries := by
    refine List.map_congr_left fun e he => ?_
    by_cases hk : e.1 = k
    · have hget : m.get k = some e.2 := get_eq_some.2 (hk ▸ he)
      have hv : e.2 = v := Option.some.inj (hget.symm.trans h)
      simp [hk, hv, hfg]
    · simp [hk]
  cases hf : m.update k f
  cases hg : m.update k g
  simp_all

/-- A change of a value that does not count for the search. -/
lemma first_update (h : ∀ v, m.get k = some v → p k (f v) = p k v) :
    (m.update k f).first p = (m.first p).map fun e => (e.1, if e.1 = k then f e.2 else e.2) := by
  have hsame : ∀ e ∈ m.entries, p e.1 (if e.1 = k then f e.2 else e.2) = p e.1 e.2 := by
    intro e he
    by_cases hk : e.1 = k
    · subst hk
      rw [if_pos rfl]
      exact h e.2 (get_eq_some.2 he)
    · rw [if_neg hk]
  unfold first update mapValues
  rw [List.find?_map]
  congr 1
  exact List.find?_congr hsame

/-- An update under which the value stays the same. -/
lemma update_eq_self (h : ∀ v, m.get k = some v → f v = v) : m.update k f = m := by
  have hentries : (m.update k f).entries = m.entries := by
    refine (List.map_congr_left fun e he => ?_).trans (List.map_id m.entries)
    by_cases hk : e.1 = k
    · subst hk
      simp [h e.2 (get_eq_some.2 he)]
    · simp [hk]
  cases hm : m.update k f
  cases m
  simp_all

lemma update_id (m : InsertionMap κ ν) (k : κ) : m.update k (fun v => v) = m :=
  update_eq_self fun _ _ => rfl

/-- Store a value under a key. -/
def insert (m : InsertionMap κ ν) (k : κ) (v : ν) : InsertionMap κ ν :=
  if h : k ∈ m.keys then m.update k (fun _ => v) else ⟨m.entries ++ [(k, v)], nodup_append h v⟩

@[simp] lemma get_insert_self (m : InsertionMap κ ν) (k : κ) (v : ν) :
    (m.insert k v).get k = some v := by
  unfold insert
  split_ifs with h
  · obtain ⟨w, hw⟩ := Option.ne_none_iff_exists'.1 (mt get_eq_none.1 (not_not_intro h))
    rw [get_update_self, hw, Option.map_some]
  · rw [get_eq_some]
    simp

lemma get_insert_of_ne (m : InsertionMap κ ν) {k' : κ} (h : k' ≠ k) (v : ν) :
    (m.insert k v).get k' = m.get k' := by
  unfold insert
  split_ifs with hk
  · exact get_update_of_ne m h _
  · ext w
    rw [get_eq_some, get_eq_some]
    simp [h]

lemma get_insert (m : InsertionMap κ ν) (k : κ) (v : ν) :
    (m.insert k v).get = Function.update m.get k (some v) := by
  funext k'
  by_cases hk : k' = k
  · subst hk
    rw [get_insert_self, Function.update_self]
  · rw [get_insert_of_ne m hk, Function.update_of_ne hk]

/-- What is found after a value was stored is that value or was there before. -/
lemma eq_or_get_of_insert {k' : κ} {v' : ν} (h : (m.insert k v).get k' = some v') :
    (k' = k ∧ v' = v) ∨ m.get k' = some v' := by
  by_cases hk : k' = k
  · subst hk
    rw [get_insert_self] at h
    exact Or.inl ⟨rfl, (Option.some.inj h).symm⟩
  · rw [get_insert_of_ne m hk] at h
    exact Or.inr h

/-- Keep the entries that satisfy `p`. -/
def filter (m : InsertionMap κ ν) (p : κ → ν → Bool) : InsertionMap κ ν where
  entries := m.entries.filter fun e => p e.1 e.2
  nodup := m.nodup.sublist (List.filter_sublist.map _)

lemma get_filter_eq_some : (m.filter p).get k = some v ↔ m.get k = some v ∧ p k v = true := by
  rw [get_eq_some, get_eq_some]
  exact List.mem_filter

/-- Remove an entry. -/
def delete (m : InsertionMap κ ν) (k : κ) : InsertionMap κ ν := m.filter fun k' _ => k' ≠ k

lemma get_delete (m : InsertionMap κ ν) (k : κ) :
    (m.delete k).get = Function.update m.get k none := by
  funext k'
  ext v
  rw [delete, get_filter_eq_some]
  by_cases hk : k' = k
  · simp [hk]
  · simp [hk, Function.update_of_ne]

lemma get_of_delete {k' : κ} (h : (m.delete k).get k' = some v) : m.get k' = some v :=
  (get_filter_eq_some.1 h).1

end InsertionMap

end WaffleFinance.Lib

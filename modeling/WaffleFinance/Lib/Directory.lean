import WaffleFinance.Lib.InsertionMap

/-!
# A directory with a file for each entry

A store keeps its entries in memory and writes some of them to disk, each to a file of its own that
holds the key and the value.  The name of the file is computed from the key.  When the store is
opened it reads the files in the order in which the directory lists them, and the first file counts
for each key.

`Mirrors` says that the files are the entries that are to survive.  It is kept as long as the keys
have different file names.
-/

namespace WaffleFinance.Lib

variable {φ κ ν : Type*} [DecidableEq φ] [DecidableEq κ]

/-- The files by name, each with a key and its value. -/
abbrev Directory (φ κ ν : Type*) := InsertionMap φ (κ × ν)

namespace Directory

/-- A directory without files. -/
abbrev empty : Directory φ κ ν := InsertionMap.empty

def write (name : κ → φ) (d : Directory φ κ ν) (k : κ) (v : ν) : Directory φ κ ν :=
  d.insert (name k) (k, v)

def unlink (name : κ → φ) (d : Directory φ κ ν) (k : κ) : Directory φ κ ν := d.delete (name k)

/-- Read one file. -/
def loadFile (accepts : κ → ν → Bool) (d : Directory φ κ ν) (m : InsertionMap κ ν) (f : φ) :
    InsertionMap κ ν :=
  match d.get f with
  | none => m
  | some e => if accepts e.1 e.2 && (m.get e.1).isNone then m.insert e.1 e.2 else m

/-- Read the files of a listing. -/
def load (accepts : κ → ν → Bool) (d : Directory φ κ ν) (listing : List φ) : InsertionMap κ ν :=
  listing.foldl (d.loadFile accepts) .empty

variable {accepts : κ → ν → Bool} {d : Directory φ κ ν} {m : InsertionMap κ ν} {f : φ} {k : κ}
  {v : ν}

/-! ### Reading -/

lemma get_loadFile (h : (d.loadFile accepts m f).get k = some v) :
    m.get k = some v ∨ d.get f = some (k, v) ∧ accepts k v = true := by
  unfold loadFile at h
  split at h
  · exact Or.inl h
  rename_i e he
  split at h
  · rename_i haccepts
    rw [Bool.and_eq_true] at haccepts
    rcases InsertionMap.eq_or_get_of_insert h with ⟨rfl, rfl⟩ | hget
    · exact Or.inr ⟨he, haccepts.1⟩
    · exact Or.inl hget
  · exact Or.inl h

/-- What has been read stays. -/
lemma get_loadFile_of_get (h : m.get k = some v) : (d.loadFile accepts m f).get k = some v := by
  unfold loadFile
  split
  · exact h
  rename_i e he
  split
  · rename_i haccepts
    have hne : k ≠ e.1 := by
      rintro rfl
      simp [h] at haccepts
    rw [InsertionMap.get_insert_of_ne _ hne]
    exact h
  · exact h

/-- After a file was read there is a value for its key. -/
lemma isSome_loadFile (hfile : d.get f = some (k, v)) (haccepts : accepts k v = true) :
    ((d.loadFile accepts m f).get k).isSome = true := by
  cases hget : m.get k with
  | some w =>
    rw [get_loadFile_of_get hget]
    rfl
  | none => simp [loadFile, hfile, haccepts, hget]

/-- Everything that is read comes from a file. -/
lemma get_load {listing : List φ} (h : (d.load accepts listing).get k = some v) :
    ∃ f, d.get f = some (k, v) ∧ accepts k v = true := by
  induction listing using List.reverseRecOn with
  | nil => simp [load] at h
  | append_singleton listing f ih =>
    rw [load, List.foldl_append] at h
    rcases get_loadFile h with hget | hfile
    · exact ih hget
    · exact ⟨f, hfile⟩

lemma isSome_load {listing : List φ} (hf : f ∈ listing) (hfile : d.get f = some (k, v))
    (haccepts : accepts k v = true) : ((d.load accepts listing).get k).isSome = true := by
  induction listing using List.reverseRecOn with
  | nil => simp at hf
  | append_singleton listing g ih =>
    rw [load, List.foldl_append]
    rcases List.mem_append.1 hf with hmem | hmem
    · obtain ⟨w, hw⟩ := Option.isSome_iff_exists.1 (ih hmem)
      refine Option.isSome_iff_exists.2 ⟨w, ?_⟩
      exact get_loadFile_of_get hw
    · rw [List.mem_singleton] at hmem
      subst hmem
      exact isSome_loadFile hfile haccepts

/-! ### Several entries at once -/

section UpdateAll

variable {α : Type*} {key : α → κ} {value : α → ν} {xs : List α} {g : κ → Option ν}

/-- Several entries change, one after the other. -/
def updateAll (key : α → κ) (value : α → ν) (g : κ → Option ν) (xs : List α) : κ → Option ν :=
  xs.foldl (fun g x => Function.update g (key x) (some (value x))) g

lemma updateAll_of_notMem (hk : k ∉ xs.map key) : updateAll key value g xs k = g k := by
  induction xs generalizing g with
  | nil => rfl
  | cons x xs ih =>
    rw [List.map_cons, List.mem_cons, not_or] at hk
    rw [updateAll, List.foldl_cons]
    exact (ih hk.2).trans (Function.update_of_ne hk.1 ..)

lemma updateAll_of_mem (hxs : (xs.map key).Nodup) {x : α} (hx : x ∈ xs) :
    updateAll key value g xs (key x) = some (value x) := by
  induction xs generalizing g with
  | nil => cases hx
  | cons y xs ih =>
    rw [List.map_cons, List.nodup_cons] at hxs
    rcases List.mem_cons.1 hx with rfl | hmem
    · rw [updateAll, List.foldl_cons]
      exact (updateAll_of_notMem hxs.1).trans (Function.update_self ..)
    · exact ih hxs.2 hmem

end UpdateAll

/-! ### The files and the memory -/

/-- The keys are in `K`, and the files are the entries that are to be kept, each under its name. -/
structure Mirrors (name : κ → φ) (K : Set κ) (keep : ν → Prop) (m : κ → Option ν)
    (d : Directory φ κ ν) : Prop where
  key : ∀ k v, m k = some v → k ∈ K
  file : ∀ f e, d.get f = some e → f = name e.1 ∧ m e.1 = some e.2 ∧ keep e.2
  entry : ∀ k v, m k = some v → keep v → d.get (name k) = some (k, v)

namespace Mirrors

variable {name : κ → φ} {K : Set κ} {keep : ν → Prop} {m : κ → Option ν}

omit [DecidableEq κ] in
lemma empty : Mirrors name K keep (fun _ => none) (Directory.empty : Directory φ κ ν) where
  key := by simp
  file := by simp
  entry := by simp

/-- A change under a key of `K` brings in no other key. -/
lemma key_update {x : Option ν} (h : Mirrors name K keep m d) (hk : k ∈ K) (k' : κ) (v' : ν)
    (hget : Function.update m k x k' = some v') : k' ∈ K := by
  by_cases hkk : k' = k
  · rw [hkk]
    exact hk
  · rw [Function.update_of_ne hkk] at hget
    exact h.key k' v' hget

lemma write (h : Mirrors name K keep m d) (hname : Set.InjOn name K) (hk : k ∈ K)
    (hkeep : keep v) :
    Mirrors name K keep (Function.update m k (some v)) (d.write name k v) where
  key := h.key_update hk
  file f e hget := by
    by_cases hf : f = name k
    · subst hf
      rw [Directory.write, InsertionMap.get_insert_self] at hget
      obtain rfl := Option.some.inj hget
      exact ⟨rfl, Function.update_self .., hkeep⟩
    rw [Directory.write, InsertionMap.get_insert_of_ne _ hf] at hget
    obtain ⟨rfl, hmem, hkept⟩ := h.file f e hget
    have hne : e.1 ≠ k := fun heq => hf (by rw [heq])
    refine ⟨rfl, ?_, hkept⟩
    rw [Function.update_of_ne hne]
    exact hmem
  entry k' v' hget hkept := by
    by_cases hkk : k' = k
    · subst hkk
      rw [Function.update_self] at hget
      rw [← Option.some.inj hget]
      exact InsertionMap.get_insert_self ..
    · rw [Function.update_of_ne hkk] at hget
      have hne : name k' ≠ name k := fun heq => hkk (hname (h.key k' v' hget) hk heq)
      exact (InsertionMap.get_insert_of_ne _ hne _).trans (h.entry k' v' hget hkept)

lemma unlink (h : Mirrors name K keep m d) (hname : Set.InjOn name K) (hk : k ∈ K) :
    Mirrors name K keep (Function.update m k none) (d.unlink name k) where
  key := h.key_update hk
  file f e hget := by
    obtain ⟨hold, hf⟩ := InsertionMap.get_filter_eq_some.1 hget
    obtain ⟨rfl, hmem, hkept⟩ := h.file f e hold
    have hne : e.1 ≠ k := by
      rintro heq
      simp [heq] at hf
    refine ⟨rfl, ?_, hkept⟩
    rw [Function.update_of_ne hne]
    exact hmem
  entry k' v' hget hkept := by
    by_cases hkk : k' = k
    · subst hkk
      rw [Function.update_self] at hget
      cases hget
    · rw [Function.update_of_ne hkk] at hget
      have hne : name k' ≠ name k := fun heq => hkk (hname (h.key k' v' hget) hk heq)
      exact InsertionMap.get_filter_eq_some.2 ⟨h.entry k' v' hget hkept, by simpa using hne⟩

/-- An entry that is not on disk may change in memory. -/
lemma update {x : Option ν} (h : Mirrors name K keep m d) (hk : k ∈ K)
    (hbefore : ∀ v, m k = some v → ¬ keep v) (hafter : ∀ v, x = some v → ¬ keep v) :
    Mirrors name K keep (Function.update m k x) d where
  key := h.key_update hk
  file f e hget := by
    obtain ⟨hf, hmem, hkept⟩ := h.file f e hget
    have hne : e.1 ≠ k := fun heq => hbefore e.2 (heq ▸ hmem) hkept
    refine ⟨hf, ?_, hkept⟩
    rw [Function.update_of_ne hne]
    exact hmem
  entry k' v' hget hkept := by
    by_cases hkk : k' = k
    · subst hkk
      rw [Function.update_self] at hget
      exact absurd hkept (hafter v' hget)
    · rw [Function.update_of_ne hkk] at hget
      exact h.entry k' v' hget hkept

lemma writeAll {α : Type*} {key : α → κ} {value : α → ν} {xs : List α}
    (h : Mirrors name K keep m d) (hname : Set.InjOn name K) (hk : ∀ x ∈ xs, key x ∈ K)
    (hkeep : ∀ x ∈ xs, keep (value x)) :
    Mirrors name K keep (updateAll key value m xs)
      (xs.foldl (fun d x => Directory.write name d (key x) (value x)) d) := by
  induction xs generalizing m d with
  | nil => exact h
  | cons x xs ih =>
    refine ih (h.write hname (hk x List.mem_cons_self) (hkeep x List.mem_cons_self)) ?_ ?_
    · exact fun y hy => hk y (List.mem_cons_of_mem x hy)
    · exact fun y hy => hkeep y (List.mem_cons_of_mem x hy)

variable [DecidablePred keep]

/-- What is read is what was to be kept. -/
lemma get_load {listing : List φ} (h : Mirrors name K keep m d) (hlisting : listing.Perm d.keys)
    (haccepts : ∀ k v, m k = some v → keep v → accepts k v = true) :
    (d.load accepts listing).get = fun k => (m k).filter (keep ·) := by
  funext k
  ext v
  rw [Option.filter_eq_some_iff]
  constructor
  · intro hget
    obtain ⟨f, hfile, -⟩ := Directory.get_load hget
    obtain ⟨-, hmem, hkept⟩ := h.file f (k, v) hfile
    exact ⟨hmem, by simpa using hkept⟩
  · rintro ⟨hmem, hkept⟩
    have hfile := h.entry k v hmem (by simpa using hkept)
    have hlisted : name k ∈ listing := by
      rw [hlisting.mem_iff]
      by_contra hnot
      rw [← InsertionMap.get_eq_none, hfile] at hnot
      cases hnot
    obtain ⟨w, hw⟩ := Option.isSome_iff_exists.1
      (isSome_load hlisted hfile (haccepts k v hmem (by simpa using hkept)))
    -- the file that was read is the one of the key
    obtain ⟨f, hfile', -⟩ := Directory.get_load hw
    obtain ⟨rfl, -, -⟩ := h.file f (k, w) hfile'
    rw [hfile] at hfile'
    obtain ⟨-, rfl⟩ := Prod.mk.inj (Option.some.inj hfile')
    exact hw

/-- The same if everything is to be kept. -/
lemma get_load_of_forall {listing : List φ} (h : Mirrors name K keep m d) (hkeep : ∀ v, keep v)
    (hlisting : listing.Perm d.keys) (haccepts : ∀ k v, m k = some v → accepts k v = true) :
    (d.load accepts listing).get = m := by
  rw [h.get_load hlisting fun k v hget _ => haccepts k v hget]
  funext k
  cases m k <;> simp [hkeep]

/-- The store may be opened anew. -/
lemma load {listing : List φ} (h : Mirrors name K keep m d) (hlisting : listing.Perm d.keys)
    (haccepts : ∀ k v, m k = some v → keep v → accepts k v = true) :
    Mirrors name K keep (d.load accepts listing).get d := by
  rw [h.get_load hlisting haccepts]
  refine ⟨fun k v hget => ?_, fun f e hfile => ?_, fun k v hget hkept => ?_⟩
  · exact h.key k v (Option.filter_eq_some_iff.1 hget).1
  · obtain ⟨hf, hmem, hkept⟩ := h.file f e hfile
    exact ⟨hf, Option.filter_eq_some_iff.2 ⟨hmem, by simpa using hkept⟩, hkept⟩
  · exact h.entry k v (Option.filter_eq_some_iff.1 hget).1 hkept

end Mirrors

/-! ### Two keys with one file name -/

section Collision

variable {name : κ → φ} {k' : κ} {v' : ν}

omit [DecidableEq κ] in
lemma keys_collision (h : name k' = name k) :
    (((Directory.empty : Directory φ κ ν).write name k v).write name k' v').keys = [name k] := by
  simp [Directory.write, h, InsertionMap.insert, InsertionMap.empty, InsertionMap.keys,
    InsertionMap.update, InsertionMap.mapValues]

/-- The first of them is lost. -/
lemma get_load_collision (h : name k' = name k) (hne : k ≠ k') :
    ((((Directory.empty : Directory φ κ ν).write name k v).write name k' v').load accepts
      [name k]).get k = none := by
  rw [Option.eq_none_iff_forall_ne_some]
  intro w hw
  obtain ⟨f, hfile, -⟩ := Directory.get_load hw
  rcases InsertionMap.eq_or_get_of_insert hfile with ⟨-, heq⟩ | hfirst
  · exact hne (Prod.mk.inj heq).1
  rcases InsertionMap.eq_or_get_of_insert hfirst with ⟨rfl, -⟩ | hnone
  · rw [Directory.write, h, InsertionMap.get_insert_self] at hfile
    exact hne (Prod.mk.inj (Option.some.inj hfile)).1.symm
  · simp at hnone

/-- So a memory that has it is not what is found by reading the files. -/
lemma not_reloads {m : κ → Option ν} (accepts : κ → ν → Bool) (h : name k' = name k) (hne : k ≠ k')
    (hd : d = ((Directory.empty : Directory φ κ ν).write name k v).write name k' v')
    (hm : (m k).isSome = true) :
    ¬ ∀ listing : List φ, listing.Perm d.keys → (d.load accepts listing).get = m := by
  intro hreloads
  have hget := congrFun (hreloads [name k] (by rw [hd, keys_collision h])) k
  rw [hd, get_load_collision h hne] at hget
  rw [← hget] at hm
  cases hm

end Collision

end Directory

end WaffleFinance.Lib

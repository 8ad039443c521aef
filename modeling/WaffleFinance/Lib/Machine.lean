import Mathlib

/-!
# Machines whose calls may be refused

A machine has states and calls.  A call either succeeds and gives the next state, or it is
refused and the state is rolled back to what it was.  A run is a list of calls, taken one
after the other.  The file has the rules by which a property of single calls becomes one of whole
runs (`Machine.run_invariant`, `Machine.stateAt_timed`), and `Closing`: a sequence whose value can
only ever go from open to closed changes at most once.
-/

namespace WaffleFinance.Lib

/-- A machine: what a call does to a state, or why it is refused. -/
structure Machine (S C ε : Type*) where
  /-- Execute one call. -/
  exec : C → S → Except ε S

namespace Machine

variable {S C ε : Type*} (M : Machine S C ε)

/-- One call, with a refused one rolled back. -/
def step (s : S) (c : C) : S :=
  match M.exec c s with
  | .ok s' => s'
  | .error _ => s

/-- The state that a list of calls leads to. -/
def run (s : S) (cs : List C) : S := cs.foldl M.step s

/-- The state after the first `n` calls of a list. -/
def stateAt (s : S) (cs : List C) (n : ℕ) : S := M.run s (cs.take n)

variable {M} {s s' : S} {c : C} {cs : List C}

lemma step_of_ok (h : M.exec c s = .ok s') : M.step s c = s' := by
  simp [step, h]

lemma step_of_error {e : ε} (h : M.exec c s = .error e) : M.step s c = s := by
  simp [step, h]

/-- A call leaves the state as it is or succeeds. -/
lemma step_cases (M : Machine S C ε) (s : S) (c : C) :
    M.step s c = s ∨ ∃ s', M.exec c s = .ok s' ∧ M.step s c = s' := by
  cases h : M.exec c s with
  | error e => exact Or.inl (step_of_error h)
  | ok s' => exact Or.inr ⟨s', rfl, step_of_ok h⟩

lemma step_of_not_ok (h : ¬ ∃ s', M.exec c s = .ok s') : M.step s c = s := by
  rcases step_cases M s c with hstep | ⟨s', hok, -⟩
  · exact hstep
  · exact absurd ⟨s', hok⟩ h

@[simp] lemma run_nil (M : Machine S C ε) (s : S) : M.run s [] = s := rfl

lemma run_append (M : Machine S C ε) (s : S) (cs ds : List C) :
    M.run s (cs ++ ds) = M.run (M.run s cs) ds := by
  simp [run, List.foldl_append]

@[simp] lemma stateAt_zero (M : Machine S C ε) (s : S) (cs : List C) : M.stateAt s cs 0 = s := by
  simp [stateAt]

variable {n : ℕ}

lemma stateAt_succ (h : cs[n]? = some c) :
    M.stateAt s cs (n + 1) = M.step (M.stateAt s cs n) c := by
  rw [stateAt, stateAt, List.take_add_one, h, run_append]
  rfl

/-- Past the end of the list nothing changes any more. -/
lemma stateAt_succ_of_none (h : cs[n]? = none) : M.stateAt s cs (n + 1) = M.stateAt s cs n := by
  rw [stateAt, stateAt, List.take_add_one, h]
  simp

/-- The `n`-th call of a list is `c`, and it succeeds when its turn comes. -/
def Succeeds (M : Machine S C ε) (s : S) (cs : List C) (n : ℕ) (c : C) : Prop :=
  cs[n]? = some c ∧ M.exec c (M.stateAt s cs n) = .ok (M.stateAt s cs (n + 1))

/-- The next point of a run: nothing has changed, or a call has succeeded. -/
lemma stateAt_succ_cases (M : Machine S C ε) (s : S) (cs : List C) (n : ℕ) :
    M.stateAt s cs (n + 1) = M.stateAt s cs n ∨ ∃ c, M.Succeeds s cs n c := by
  cases hc : cs[n]? with
  | none => exact Or.inl (stateAt_succ_of_none hc)
  | some c =>
    rcases step_cases M (M.stateAt s cs n) c with h | ⟨s', hok, h⟩
    · exact Or.inl ((stateAt_succ hc).trans h)
    · refine Or.inr ⟨c, hc, ?_⟩
      rw [stateAt_succ hc, h]
      exact hok

lemma stateAt_succ_of_not_succeeds (h : ¬ ∃ c, M.Succeeds s cs n c) :
    M.stateAt s cs (n + 1) = M.stateAt s cs n :=
  (stateAt_succ_cases M s cs n).resolve_right h

/-! ### From single calls to runs -/

variable {I : S → Prop}

/-- What every successful call of a run preserves, the run preserves. -/
lemma run_invariant (hI : ∀ c ∈ cs, ∀ s s', I s → M.exec c s = .ok s' → I s') (hs : I s) :
    I (M.run s cs) := by
  induction cs generalizing s with
  | nil => exact hs
  | cons c cs ih =>
    refine ih (fun d hd => hI d (List.mem_cons_of_mem c hd)) ?_
    rcases step_cases M s c with h | ⟨s', hok, h⟩
    · rw [h]
      exact hs
    · rw [h]
      exact hI c List.mem_cons_self s s' hs hok

/-- The same at every point of a run. -/
lemma stateAt_invariant (hI : ∀ c ∈ cs, ∀ s s', I s → M.exec c s = .ok s' → I s') (hs : I s)
    (n : ℕ) : I (M.stateAt s cs n) :=
  run_invariant (fun c hc => hI c (List.mem_of_mem_take hc)) hs

/-- What every successful call between two points of a run preserves. -/
lemma stateAt_from {i j : ℕ} (hij : i ≤ j)
    (hI : ∀ n c, i ≤ n → n < j → M.Succeeds s cs n c → I (M.stateAt s cs n) →
      I (M.stateAt s cs (n + 1))) (hi : I (M.stateAt s cs i)) : I (M.stateAt s cs j) := by
  induction j, hij using Nat.le_induction with
  | base => exact hi
  | succ j hij ih =>
    have hj := ih fun n c hin hnj => hI n c hin (hnj.trans j.lt_succ_self)
    rcases stateAt_succ_cases M s cs j with hsame | ⟨c, hc⟩
    · rw [hsame]
      exact hj
    · exact hI j c hij j.lt_succ_self hc hj

/-- The same from the start on. -/
lemma stateAt_steps (hI : ∀ n c s', cs[n]? = some c → I (M.stateAt s cs n) →
      M.exec c (M.stateAt s cs n) = .ok s' → I s') (hs : I s) (n : ℕ) : I (M.stateAt s cs n) :=
  stateAt_from n.zero_le (fun n c _ _ hc h => hI n c _ hc.1 h hc.2) (by rwa [stateAt_zero])

/-- A property that counts the calls: one more call, refused or not, one more on the count. -/
lemma run_counted {I : ℕ → S → Prop} {N : ℕ} (hI : ∀ n s c, n < N → I n s → I (n + 1) (M.step s c))
    (hs : I n s) (cs : List C) (hN : n + cs.length ≤ N) : I (n + cs.length) (M.run s cs) := by
  induction cs generalizing n s with
  | nil => exact hs
  | cons c cs ih =>
    rw [List.length_cons] at hN ⊢
    have hnext := ih (hI n s c (by omega) hs) (by omega)
    rwa [show n + 1 + cs.length = n + (cs.length + 1) by omega] at hnext

/-- Calls that carry a clock which never goes back. -/
def Timed (clock : C → ℕ) (cs : List C) : Prop := cs.Pairwise (fun c d => clock c ≤ clock d)

/-- A property that speaks of the time.  It is kept while the clock advances, and every call of
the run keeps it at the call's own time; so it holds at the time of a call when the call is
made. -/
lemma stateAt_timed {clock : C → ℕ} {I : ℕ → S → Prop} (hadv : ∀ t t' s, t ≤ t' → I t s → I t' s)
    (hI : ∀ n c s', cs[n]? = some c → I (clock c) (M.stateAt s cs n) →
      M.exec c (M.stateAt s cs n) = .ok s' → I (clock c) s') (hcs : Timed clock cs) (hs : I 0 s)
    (hc : cs[n]? = some c) : I (clock c) (M.stateAt s cs n) := by
  induction n generalizing c with
  | zero =>
    rw [stateAt_zero]
    exact hadv _ _ _ (Nat.zero_le _) hs
  | succ n ih =>
    obtain ⟨hlt, hget⟩ := List.getElem?_eq_some_iff.1 hc
    have hprev : cs[n]? = some cs[n] := List.getElem?_eq_getElem (Nat.lt_of_succ_lt hlt)
    have hclock : clock cs[n] ≤ clock c := by
      rw [← hget]
      exact List.pairwise_iff_getElem.1 hcs n (n + 1) _ hlt (Nat.lt_succ_self n)
    refine hadv _ _ _ hclock ?_
    rw [stateAt_succ hprev]
    rcases step_cases M (M.stateAt s cs n) cs[n] with h | ⟨s', hok, h⟩
    · rw [h]
      exact ih hprev
    · rw [h]
      exact hI n _ s' hprev (ih hprev) hok

end Machine

/-! ### Closing at most once -/

/-- A sequence of which every step keeps the value or closes it: an open value becomes one that
is not open, and `R` holds of the step. -/
def Closing {α : Type*} (isOpen : α → Prop) (R : ℕ → α → α → Prop) (f : ℕ → α) : Prop :=
  ∀ n, f (n + 1) = f n ∨ isOpen (f n) ∧ ¬ isOpen (f (n + 1)) ∧ R n (f n) (f (n + 1))

namespace Closing

variable {α : Type*} {isOpen : α → Prop} {R : ℕ → α → α → Prop} {f : ℕ → α}

variable {n : ℕ}

/-- As long as it is open, the value is the first one. -/
lemma eq_of_open (h : Closing isOpen R f) (hn : isOpen (f n)) : f n = f 0 := by
  induction n with
  | zero => rfl
  | succ n ih =>
    rcases h n with hsame | ⟨-, hclosed, -⟩
    · rw [hsame] at hn ⊢
      exact ih hn
    · exact absurd hn hclosed

/-- A value that is not open any more was closed by one step. -/
lemma exists_of_closed (h : Closing isOpen R f) (h₀ : isOpen (f 0)) (hn : ¬ isOpen (f n)) :
    ∃ m < n, f m = f 0 ∧ f (m + 1) = f n ∧ R m (f 0) (f n) := by
  induction n with
  | zero => exact absurd h₀ hn
  | succ n ih =>
    rcases h n with hsame | ⟨hopen, -, hR⟩
    · rw [hsame] at hn ⊢
      obtain ⟨m, hm, hstep⟩ := ih hn
      exact ⟨m, hm.trans (Nat.lt_succ_self n), hstep⟩
    · have hfirst := h.eq_of_open hopen
      exact ⟨n, Nat.lt_succ_self n, hfirst, rfl, hfirst ▸ hR⟩

lemma of_ne (h : Closing isOpen R f) (hne : f (n + 1) ≠ f n) :
    isOpen (f n) ∧ ¬ isOpen (f (n + 1)) ∧ R n (f n) (f (n + 1)) :=
  (h n).resolve_left hne

/-- A closed value is kept for ever. -/
lemma eq_of_closed (h : Closing isOpen R f) {m : ℕ} (hmn : m ≤ n) (hm : ¬ isOpen (f m)) :
    f n = f m := by
  induction n, hmn using Nat.le_induction with
  | base => rfl
  | succ n _ ih =>
    rcases h n with hsame | ⟨hopen, -, -⟩
    · rw [hsame, ih]
    · rw [ih] at hopen
      exact absurd hopen hm

/-- The value changes at most once. -/
lemma change_unique (h : Closing isOpen R f) {m : ℕ} (hm : f (m + 1) ≠ f m) (hn : f (n + 1) ≠ f n) :
    m = n := by
  -- after the change at `a` there is none at `b`
  have absurd_of_lt : ∀ {a b : ℕ}, f (a + 1) ≠ f a → f (b + 1) ≠ f b → ¬ a < b := by
    intro a b ha hb hlt
    have hopen := (h.of_ne hb).1
    rw [h.eq_of_closed hlt (h.of_ne ha).2.1] at hopen
    exact (h.of_ne ha).2.1 hopen
  rcases lt_trichotomy m n with hlt | heq | hlt
  · exact absurd hlt (absurd_of_lt hm hn)
  · exact heq
  · exact absurd hlt (absurd_of_lt hn hm)

end Closing

end WaffleFinance.Lib

import WaffleFinance.Coordinator.OrderMachine
import WaffleFinance.Lib.Machine
import WaffleFinance.Lib.Refusal

/-!
# The keyed mutex

The calls of `runExclusive` with one key are served one after the other, as they came, whether or
not their callbacks throw.
-/

namespace WaffleFinance.Coordinator

open Lib

/-- How far a call with the mutex is: its `acquire` is resolved, or its callback is in progress,
which it is up to the `finally`. -/
inductive CallPhase where
  | granted
  | inProgress
  deriving DecidableEq

/-- A mutex.  The calls are numbered as they come; `active` are those that have it, and `started`
those whose callback was started, in this order. -/
structure Mutex where
  locked : Bool := false
  queue : List ℕ := []
  calls : ℕ := 0
  active : List (ℕ × CallPhase) := []
  started : List ℕ := []

/-- The code between two awaits. -/
inductive MutexStep where
  | runExclusive
  | start (i : ℕ)
  | finish (i : ℕ) (threw : Bool)

namespace Mutex

def put (m : Mutex) (i : ℕ) (p : CallPhase) : Mutex := { m with active := (i, p) :: m.active }

def acquire (m : Mutex) : Mutex :=
  if m.locked then { m with queue := m.queue ++ [m.calls], calls := m.calls + 1 }
  else { m with locked := true, calls := m.calls + 1 }.put m.calls .granted

def release (m : Mutex) : Mutex :=
  match m.queue with
  | next :: queue => { m with queue := queue }.put next .granted
  | [] => { m with locked := false }

/-- The code of a call goes on, if the call is so far. -/
def resume (m : Mutex) (i : ℕ) (p : CallPhase) : Except Unit Mutex :=
  if (i, p) ∈ m.active then .ok { m with active := m.active.erase (i, p) } else .error ()

/-- The `finally` does not ask whether the callback threw. -/
def exec (m : Mutex) : MutexStep → Except Unit Mutex
  | .runExclusive => .ok m.acquire
  | .start i => do
    let m ← m.resume i .granted
    return { m with started := m.started ++ [i] }.put i .inProgress
  | .finish i _ => do return (← m.resume i .inProgress).release

/-- What a mutex owes to its calls. -/
structure Served (m : Mutex) : Prop where
  /-- One callback at most is in progress. -/
  exclusive : m.active.length ≤ 1
  /-- The callbacks start in the order of the calls. -/
  inOrder : m.started = List.range m.started.length
  /-- No call is lost: it waits, has the mutex, or was started. -/
  accounted : ∀ i < m.calls, i ∈ m.queue ∨ (i, .granted) ∈ m.active ∨ i ∈ m.started
  /-- A new call has the mutex at once if nobody has it, and waits otherwise. -/
  called : ∃ m', m.exec .runExclusive = .ok m' ∧ m'.calls = m.calls + 1 ∧
    if m.active = [] then (m.calls, .granted) ∈ m'.active else m.calls ∈ m'.queue
  /-- A call that has the mutex can start its callback. -/
  starts : ∀ i, (i, .granted) ∈ m.active → ∃ m', m.exec (.start i) = .ok m' ∧
    (i, .inProgress) ∈ m'.active ∧ m'.started = m.started ++ [i]
  /-- The next call gets the mutex also after a callback that threw. -/
  next : ∀ i threw, (i, .inProgress) ∈ m.active → ∃ m', m.exec (.finish i threw) = .ok m' ∧
    (i + 1 < m.calls → (i + 1, .granted) ∈ m'.active)
  /-- A call waits for one before it. -/
  waits : ∀ j ∈ m.queue, ∃ i p, i < j ∧ (i, p) ∈ m.active

/-- The calls after `i` wait, `b` of them, and `k` callbacks were started. -/
def line (i b : ℕ) (active : List (ℕ × CallPhase)) (k : ℕ) : Mutex :=
  ⟨true, List.range' (i + 1) b, i + 1 + b, active, List.range k⟩

/-- It is free, or a call has it. -/
inductive Shape : Mutex → Prop where
  | free (n : ℕ) : Shape ⟨false, [], n, [], List.range n⟩
  | held (i b : ℕ) (p : CallPhase) : Shape (line i b [(i, p)] (if p = .granted then i else i + 1))

variable {m m' : Mutex} {i : ℕ} {p : CallPhase}

lemma Shape.resume (h : m.Shape) (hm : m.resume i p = .ok m') :
    ∃ b, m' = line i b [] (if p = .granted then i else i + 1) := by
  unfold Mutex.resume at hm
  split_ifs at hm with hmem
  cases hm
  cases h with
  | free n => cases hmem
  | held j b q =>
    cases List.mem_singleton.1 hmem
    exact ⟨b, by simp [line]⟩

lemma release_line (i b : ℕ) :
    (line i (b + 1) [] (i + 1)).release = line (i + 1) b [(i + 1, .granted)] (i + 1) := by
  rw [line, line, Nat.add_right_comm (i + 1) 1 b]
  rfl

lemma Shape.exec (h : m.Shape) {x : MutexStep} (hx : m.exec x = .ok m') : m'.Shape := by
  cases x with
  | runExclusive =>
    cases hx
    cases h with
    | free n => exact .held n 0 .granted
    | held i b p =>
      have hshape := Shape.held i (b + 1) p
      rwa [line, List.range'_concat, Nat.one_mul] at hshape
  | start i =>
    simp only [Mutex.exec, chain_eq_ok, pure_eq_ok_iff] at hx
    obtain ⟨m₁, hm, rfl⟩ := hx
    obtain ⟨b, rfl⟩ := h.resume hm
    have hshape := Shape.held i b .inProgress
    rwa [if_neg (by simp), line, List.range_succ] at hshape
  | finish i threw =>
    simp only [Mutex.exec, chain_eq_ok, pure_eq_ok_iff] at hx
    obtain ⟨m₁, hm, rfl⟩ := hx
    obtain ⟨b, rfl⟩ := h.resume hm
    cases b with
    | zero => exact .free (i + 1)
    | succ b =>
      show Shape (line i (b + 1) [] (i + 1)).release
      rw [release_line]
      exact .held (i + 1) b .granted

lemma resume_line (i b k : ℕ) (p : CallPhase) :
    (line i b [(i, p)] k).resume i p = .ok (line i b [] k) := by
  simp [Mutex.resume, line]

lemma Shape.accounted (h : m.Shape) (hi : i < m.calls) :
    i ∈ m.queue ∨ (i, .granted) ∈ m.active ∨ i ∈ m.started := by
  cases h with
  | free n => exact .inr (.inr (List.mem_range.2 hi))
  | held j b p =>
    have hcalls : i < j + 1 + b := hi
    by_cases hqueue : j + 1 ≤ i
    · exact .inl (List.mem_range'_1.2 ⟨hqueue, hcalls⟩)
    · cases p with
      | granted =>
        rcases (Nat.lt_succ_iff.1 (not_le.1 hqueue)).lt_or_eq with hlt | rfl
        · exact .inr (.inr (List.mem_range.2 hlt))
        · exact .inr (.inl (List.mem_singleton_self _))
      | inProgress => exact .inr (.inr (List.mem_range.2 (not_le.1 hqueue)))

lemma Shape.served (h : m.Shape) : m.Served := by
  refine ⟨?_, ?_, fun i hi => h.accounted hi, ⟨m.acquire, rfl, ?_⟩, fun i hi => ?_,
    fun i threw hi => ?_, fun j hj => ?_⟩
  · cases h <;> simp [line]
  · cases h <;> simp [line]
  · cases h with
    | free n => exact ⟨rfl, List.mem_singleton_self _⟩
    | held i b p => simp [acquire, line]
  · cases h with
    | free n => cases hi
    | held j b p =>
      cases List.mem_singleton.1 hi
      refine ⟨line i b [(i, .inProgress)] (i + 1), ?_, List.mem_singleton_self _,
        List.range_succ⟩
      show (line i b [(i, .granted)] i).exec (.start i) = _
      rw [Mutex.exec, resume_line, line, line, List.range_succ]
      rfl
  · cases h with
    | free n => cases hi
    | held j b p =>
      cases List.mem_singleton.1 hi
      refine ⟨(line i b [] (i + 1)).release, ?_, fun hlt => ?_⟩
      · show (line i b [(i, .inProgress)] (i + 1)).exec (.finish i threw) = _
        rw [Mutex.exec, resume_line]
        rfl
      · obtain ⟨b, rfl⟩ : ∃ b', b = b' + 1 := Nat.exists_eq_succ_of_ne_zero (by
          rintro rfl
          exact lt_irrefl _ hlt)
        rw [release_line]
        exact List.mem_singleton_self _
  · cases h with
    | free n => cases hj
    | held i b p => exact ⟨i, p, (List.mem_range'_1.1 hj).1, List.mem_singleton_self _⟩

end Mutex

/-- A key without a mutex gets a fresh one. -/
abbrev KeyedMutex := Text → Mutex

namespace KeyedMutex

def machine : Machine KeyedMutex (Text × MutexStep) Unit :=
  ⟨fun c s => do return Function.update s c.1 (← (s c.1).exec c.2)⟩

def after (steps : List (Text × MutexStep)) (n : ℕ) : KeyedMutex :=
  machine.stateAt (fun _ => {}) steps n

end KeyedMutex

/-- **The keyed mutex.**  The calls with a key are served in turn, and a step with another key
changes nothing for them. -/
theorem keyed_mutex (steps : List (Text × MutexStep)) (n : ℕ) (key : Text) :
    (KeyedMutex.after steps n key).Served ∧ ∀ (key' : Text) (x : MutexStep), key' ≠ key →
      KeyedMutex.machine.step (KeyedMutex.after steps n) (key', x) key =
        KeyedMutex.after steps n key := by
  have hupdate : ∀ {c s s'}, KeyedMutex.machine.exec c s = .ok s' →
      ∃ m, (s c.1).exec c.2 = .ok m ∧ Function.update s c.1 m = s' := by
    simp only [KeyedMutex.machine, chain_eq_ok, pure_eq_ok_iff]
    exact id
  constructor
  · refine Mutex.Shape.served (Machine.stateAt_invariant
      (I := fun s : KeyedMutex => ∀ key, (s key).Shape) ?_ (fun _ => .free 0) n key)
    intro c _ s s' h hexec key
    obtain ⟨m, hm, rfl⟩ := hupdate hexec
    by_cases hkey : key = c.1
    · subst hkey
      simpa using (h c.1).exec hm
    · simpa [hkey] using h key
  · intro key' x hne
    rcases Machine.step_cases KeyedMutex.machine (KeyedMutex.after steps n) (key', x) with
      h | ⟨s', hok, h⟩
    · rw [h]
    obtain ⟨m, -, rfl⟩ := hupdate hok
    rw [h, Function.update_of_ne hne.symm]

/-- Two calls with the key `a` and one with the key `b`.  The first callback throws, and the second
one is started after it. -/
theorem keyed_mutex_sample :
    let steps := [("a".toList, .runExclusive), ("a".toList, .runExclusive),
      ("b".toList, .runExclusive), ("a".toList, .start 0), ("b".toList, .start 0),
      ("a".toList, .finish 0 true), ("a".toList, .start 1)]
    (KeyedMutex.after steps 7 "a".toList).started = [0, 1] ∧
      (KeyedMutex.after steps 7 "a".toList).Served ∧
      (KeyedMutex.after steps 5 "b".toList).active = [(0, .inProgress)] :=
  ⟨by decide, (keyed_mutex _ 7 _).1, by decide⟩

end WaffleFinance.Coordinator

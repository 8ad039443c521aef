import Mathlib.Data.List.Count
import Mathlib.Data.List.Pairwise
import Mathlib.Logic.Function.Basic
import WaffleFinance.Lib.Machine
import WaffleFinance.Coordinator.OrderMachine

/-!
# The backlog

`BacklogScheduler` keeps a queue of jobs for each of four priorities.  A run goes through the
priorities from the highest to the lowest and takes jobs from each queue until it is empty; while a
job is under way, more can be put into the queues.

A run does not go back to a queue that it has left.  So a job of a higher priority that comes in
late waits while lower ones are started, and is still there when the run is over.
-/

namespace WaffleFinance.Coordinator

open Lib
open Function (update update_self update_of_ne)

inductive Priority where
  | liveEvent
  | replayJob
  | secretRecovery
  | staleCleanup
  deriving DecidableEq, Repr

namespace Priority

/-- The lower the number, the higher the priority. -/
def number : Priority → ℕ
  | liveEvent => 1
  | replayJob => 2
  | secretRecovery => 3
  | staleCleanup => 4

/-- Milliseconds after which a job of this class is given up. -/
def defaultTimeout : Priority → ℤ
  | liveEvent => 60000
  | replayJob => 120000
  | secretRecovery => 90000
  | staleCleanup => 60000

end Priority

def sortedPriorities : List Priority :=
  [.liveEvent, .replayJob, .secretRecovery, .staleCleanup]

structure ScheduledJob where
  name : Text
  priority : Priority
  timeoutMs : Option ℤ
  deriving DecidableEq

/-- The timeout of a job.  It has none if this is not positive. -/
def ScheduledJob.timeout (job : ScheduledJob) : ℤ :=
  job.timeoutMs.getD job.priority.defaultTimeout

structure BacklogOptions where
  /-- 0 for no bound. -/
  maxQueueDepth : ℕ
  singleStep : Bool

inductive PressureMode where
  | normal
  | restrained
  deriving DecidableEq

/-- A job that was accepted, with the number of those accepted before it. -/
structure BacklogEntry where
  ticket : ℕ
  job : ScheduledJob
  deriving DecidableEq

/-- A run that waits for the end of a job. -/
structure ActiveRun where
  entry : BacklogEntry
  /-- The priority that it is at, and those it has not come to. -/
  rest : List Priority
  total : ℕ

/-- The scheduler.  The last four fields are a record for the reader of the model: nothing in the
scheduler depends on them. -/
structure Backlog where
  queues : Priority → List BacklogEntry
  pressureMode : PressureMode
  active : List ActiveRun
  accepted : List BacklogEntry
  started : List BacklogEntry
  cleared : List BacklogEntry
  /-- What the runs have returned. -/
  returned : List ℕ

namespace Backlog

def empty : Backlog := ⟨fun _ => [], .normal, [], [], [], [], []⟩

/-- The jobs in the queues. -/
def waiting (s : Backlog) : List BacklogEntry := sortedPriorities.flatMap s.queues

variable (options : BacklogOptions) (s : Backlog)

/-- Whether a job is put into its queue. -/
def accepts (job : ScheduledJob) : Bool :=
  !(s.pressureMode = .restrained && job.priority = .staleCleanup) &&
    !(0 < options.maxQueueDepth && options.maxQueueDepth ≤ (s.queues job.priority).length)

def enqueue (job : ScheduledJob) : Backlog :=
  if s.accepts options job then
    { s with
      queues := Function.update s.queues job.priority
        (s.queues job.priority ++ [⟨s.accepted.length, job⟩])
      accepted := s.accepted ++ [⟨s.accepted.length, job⟩] }
  else s

def setPressureMode (mode : PressureMode) : Backlog := { s with pressureMode := mode }

def clear : Backlog := { s with queues := fun _ => [], cleared := s.cleared ++ s.waiting }

/-- A run from a priority on: start the next job, or return. -/
def resume (total : ℕ) : List Priority → Backlog
  | [] => { s with returned := s.returned ++ [total] }
  | p :: rest =>
    match s.queues p with
    | [] => resume total rest
    | e :: queue =>
      { s with
        queues := Function.update s.queues p queue
        active := s.active ++ [⟨e, p :: rest, total⟩]
        started := s.started ++ [e] }

def run : Backlog := s.resume 0 sortedPriorities

end Backlog

/-- How a job ends. -/
inductive JobOutcome where
  | success
  | failure
  | timedOut
  deriving DecidableEq

namespace Backlog

variable (options : BacklogOptions) (s : Backlog)

/-- The run whose job ends in this way. -/
def ending (i : ℕ) (outcome : JobOutcome) : Option ActiveRun :=
  s.active[i]?.filter fun a => outcome ≠ .timedOut || 0 < a.entry.job.timeout

/-- The job of a run has ended, and the run goes on at the same priority.  It makes no difference
to the scheduler how the job ended. -/
def proceed (i : ℕ) (outcome : JobOutcome) : Backlog :=
  match s.ending i outcome with
  | none => s
  | some a =>
    let s' := { s with active := s.active.eraseIdx i }
    if options.singleStep then { s' with returned := s'.returned ++ [a.total + 1] }
    else s'.resume (a.total + 1) a.rest

end Backlog

inductive BacklogEvent where
  | enqueue (job : ScheduledJob)
  | setPressureMode (mode : PressureMode)
  | clear
  | run
  /-- The job of the run at place `i` ends. -/
  | ended (i : ℕ) (outcome : JobOutcome)

def backlogMachine (options : BacklogOptions) : Machine Backlog BacklogEvent Unit where
  exec e s :=
    .ok <| match e with
      | .enqueue job => s.enqueue options job
      | .setPressureMode mode => s.setPressureMode mode
      | .clear => s.clear
      | .run => s.run
      | .ended i outcome => s.proceed options i outcome

/-- The scheduler after `n` events. -/
def backlogAt (options : BacklogOptions) (es : List BacklogEvent) (n : ℕ) : Backlog :=
  (backlogMachine options).stateAt .empty es n

/-! ### What always holds -/

/-- No job is lost or started twice, the queues are served in order, and they are bounded. -/
structure Accounted (options : BacklogOptions) (s : Backlog) : Prop where
  tickets : s.accepted.map BacklogEntry.ticket = List.range s.accepted.length
  counts : ∀ e, s.started.count e + s.cleared.count e + s.waiting.count e = s.accepted.count e
  queued : ∀ p, ∀ e ∈ s.queues p, e.job.priority = p ∧ e.ticket < s.accepted.length
  begun : ∀ e ∈ s.started, e.ticket < s.accepted.length
  order : ∀ p, (s.started.filter (fun e => e.job.priority = p) ++ s.queues p).Pairwise
    fun a b => a.ticket < b.ticket
  depth : 0 < options.maxQueueDepth → ∀ p, (s.queues p).length ≤ options.maxQueueDepth

namespace Backlog

variable {options : BacklogOptions} {s : Backlog}

lemma count_update (queues : Priority → List BacklogEntry) (p : Priority)
    (queue : List BacklogEntry) (e : BacklogEntry) :
    (sortedPriorities.flatMap (update queues p queue)).count e + (queues p).count e =
      (sortedPriorities.flatMap queues).count e + queue.count e := by
  cases p <;>
    simp [sortedPriorities, List.count_append, update] <;> omega

lemma resume_cases (s : Backlog) (total : ℕ) (ps : List Priority) :
    (s.resume total ps = { s with returned := s.returned ++ [total] } ∧
      ∀ p ∈ ps, s.queues p = []) ∨
    ∃ before p rest e queue, ps = before ++ p :: rest ∧ (∀ p' ∈ before, s.queues p' = []) ∧
      s.queues p = e :: queue ∧ s.resume total ps =
        { s with
          queues := update s.queues p queue
          active := s.active ++ [⟨e, p :: rest, total⟩]
          started := s.started ++ [e] } := by
  induction ps with
  | nil => exact Or.inl ⟨rfl, by simp⟩
  | cons p rest ih =>
    cases hqueue : s.queues p with
    | nil =>
      have hresume : s.resume total (p :: rest) = s.resume total rest := by
        simp [resume, hqueue]
      rw [hresume]
      rcases ih with ⟨hreturn, hempty⟩ | ⟨before, p', rest', e, queue, hsplit, hbefore, he, hs⟩
      · refine Or.inl ⟨hreturn, ?_⟩
        intro p' hp'
        rcases List.mem_cons.1 hp' with rfl | hp'
        · exact hqueue
        · exact hempty p' hp'
      refine Or.inr ⟨p :: before, p', rest', e, queue, by rw [hsplit]; rfl, ?_, he, hs⟩
      intro q hq
      rcases List.mem_cons.1 hq with rfl | hq
      · exact hqueue
      · exact hbefore q hq
    | cons e queue =>
      exact Or.inr ⟨[], p, rest, e, queue, rfl, by simp, hqueue, by simp [resume, hqueue]⟩

variable {s : Backlog} {p p' : Priority} {e e' : BacklogEntry} {queue : List BacklogEntry}

lemma mem_of_taken (hqueue : s.queues p = e :: queue) (h : e' ∈ update s.queues p queue p') :
    e' ∈ s.queues p' := by
  by_cases hp : p' = p
  · subst hp
    rw [update_self] at h
    rw [hqueue]
    exact List.mem_cons_of_mem e h
  · rwa [update_of_ne hp] at h

lemma mem_of_added (h : e' ∈ update s.queues p (s.queues p ++ [e]) p') :
    e' ∈ s.queues p' ∨ e' = e ∧ p' = p := by
  by_cases hp : p' = p
  · subst hp
    rw [update_self] at h
    exact (List.mem_append.1 h).imp_right fun he => ⟨List.mem_singleton.1 he, rfl⟩
  · rw [update_of_ne hp] at h
    exact Or.inl h

end Backlog

namespace Accounted

variable {options : BacklogOptions} {s : Backlog}

lemma empty (options : BacklogOptions) : Accounted options .empty where
  tickets := rfl
  counts e := by simp [Backlog.empty, Backlog.waiting, sortedPriorities]
  queued p e he := by cases he
  begun e he := by cases he
  order p := List.Pairwise.nil
  depth _ p := Nat.zero_le _

lemma enqueue (h : Accounted options s) (job : ScheduledJob) :
    Accounted options (s.enqueue options job) := by
  unfold Backlog.enqueue
  split
  · rename_i haccepts
    have hlength : (s.accepted ++ [(⟨s.accepted.length, job⟩ : BacklogEntry)]).length =
        s.accepted.length + 1 := by simp
    refine ⟨?_, fun e => ?_, fun p e he => ?_, fun e he => ?_, fun p => ?_, fun hbound p => ?_⟩
    · rw [List.map_append, h.tickets, hlength, List.range_succ]
      rfl
    · have hcount := Backlog.count_update s.queues job.priority
        (s.queues job.priority ++ [⟨s.accepted.length, job⟩]) e
      have hold := h.counts e
      simp only [Backlog.waiting, List.count_append] at hcount hold ⊢
      omega
    · rw [hlength]
      rcases Backlog.mem_of_added he with hold | ⟨rfl, rfl⟩
      · obtain ⟨hpriority, hlt⟩ := h.queued p e hold
        exact ⟨hpriority, hlt.trans (Nat.lt_succ_self _)⟩
      · exact ⟨rfl, Nat.lt_succ_self _⟩
    · rw [hlength]
      exact (h.begun e he).trans (Nat.lt_succ_self _)
    · dsimp only
      by_cases hp : p = job.priority
      · subst hp
        rw [update_self, ← List.append_assoc, List.pairwise_append]
        refine ⟨h.order _, List.pairwise_singleton _ _, fun a ha b hb => ?_⟩
        obtain rfl := List.mem_singleton.1 hb
        -- every ticket so far is smaller
        rcases List.mem_append.1 ha with ha | ha
        · exact h.begun a (List.mem_of_mem_filter ha)
        · exact (h.queued _ a ha).2
      · rw [update_of_ne hp]
        exact h.order p
    · dsimp only
      by_cases hp : p = job.priority
      · subst hp
        have hroom : (s.queues job.priority).length < options.maxQueueDepth := by
          simp only [Backlog.accepts, Bool.and_eq_true, Bool.not_eq_true', Bool.and_eq_false_iff,
            decide_eq_false_iff_not] at haccepts
          exact not_le.1 (haccepts.2.resolve_left (not_not.2 hbound))
        rw [update_self, List.length_append]
        exact hroom
      · rw [update_of_ne hp]
        exact h.depth hbound p
  · exact h

lemma clear (h : Accounted options s) : Accounted options s.clear where
  tickets := h.tickets
  counts e := by
    have hold := h.counts e
    have hnone : (Backlog.clear s).waiting = [] := by
      simp [Backlog.clear, Backlog.waiting, sortedPriorities]
    rw [hnone]
    show s.started.count e + (s.cleared ++ s.waiting).count e + ([] : List BacklogEntry).count e =
      s.accepted.count e
    rw [List.count_append, List.count_nil]
    omega
  queued p e he := by cases he
  begun := h.begun
  order p := by
    have hstarted := (List.pairwise_append.1 (h.order p)).1
    simpa [Backlog.clear] using hstarted
  depth _ p := Nat.zero_le _

/-- The next job is started. -/
lemma start (h : Accounted options s) {p : Priority} {e : BacklogEntry} {queue : List BacklogEntry}
    (hqueue : s.queues p = e :: queue) (active : List ActiveRun) :
    Accounted options { s with
      queues := update s.queues p queue
      active := active
      started := s.started ++ [e] } := by
  obtain ⟨hpriority, hticket⟩ := h.queued p e (by rw [hqueue]; exact List.mem_cons_self)
  refine ⟨h.tickets, fun e' => ?_, fun p' e' he' => ?_, fun e' he' => ?_, fun p' => ?_,
    fun hbound p' => ?_⟩
  · have hcount := Backlog.count_update s.queues p queue e'
    have hold := h.counts e'
    rw [hqueue] at hcount
    simp only [Backlog.waiting, List.count_append, List.count_cons, List.count_nil] at hcount hold ⊢
    omega
  · exact h.queued p' e' (Backlog.mem_of_taken hqueue he')
  · rcases List.mem_append.1 he' with he' | he'
    · exact h.begun e' he'
    · obtain rfl := List.mem_singleton.1 he'
      exact hticket
  · dsimp only
    by_cases hp : p' = p
    · subst hp
      have hmoved : (s.started ++ [e]).filter (fun e => e.job.priority = p') ++ queue =
          s.started.filter (fun e => e.job.priority = p') ++ s.queues p' := by
        rw [hqueue, List.filter_append]
        simp [hpriority]
      rw [update_self, hmoved]
      exact h.order p'
    · have hother : (s.started ++ [e]).filter (fun e => e.job.priority = p') =
          s.started.filter fun e => e.job.priority = p' := by
        rw [List.filter_append]
        simp [hpriority, Ne.symm hp]
      rw [update_of_ne hp, hother]
      exact h.order p'
  · dsimp only
    by_cases hp : p' = p
    · subst hp
      have hle := h.depth hbound p'
      rw [hqueue, List.length_cons] at hle
      rw [update_self]
      exact (Nat.le_succ _).trans hle
    · rw [update_of_ne hp]
      exact h.depth hbound p'

/-- The record of the runs does not matter. -/
lemma congr (h : Accounted options s) (active : List ActiveRun) (returned : List ℕ)
    (mode : PressureMode) :
    Accounted options
      { s with active := active, returned := returned, pressureMode := mode } :=
  ⟨h.tickets, h.counts, h.queued, h.begun, h.order, h.depth⟩

lemma resume (h : Accounted options s) (total : ℕ) (ps : List Priority) :
    Accounted options (s.resume total ps) := by
  rcases s.resume_cases total ps with ⟨hreturn, -⟩ | ⟨_, p, _, e, queue, -, -, hqueue, hstart⟩
  · rw [hreturn]
    exact h.congr s.active _ s.pressureMode
  · rw [hstart]
    exact h.start hqueue _

/-- One event. -/
lemma step (h : Accounted options s) (ev : BacklogEvent) :
    Accounted options ((backlogMachine options).step s ev) := by
  cases ev with
  | enqueue job => exact h.enqueue job
  | setPressureMode mode => exact h.congr s.active s.returned mode
  | clear => exact h.clear
  | run => exact h.resume 0 sortedPriorities
  | ended i outcome =>
    show Accounted options (s.proceed options i outcome)
    unfold Backlog.proceed
    split
    · exact h
    dsimp only
    split
    · exact h.congr (s.active.eraseIdx i) _ s.pressureMode
    · exact (h.congr (s.active.eraseIdx i) s.returned s.pressureMode).resume _ _

lemma backlogAt (options : BacklogOptions) (es : List BacklogEvent) (n : ℕ) :
    Accounted options (backlogAt options es n) := by
  refine Machine.stateAt_invariant ?_ (empty options) n
  intro ev _ s s' h hok
  cases hok
  exact h.step ev

end Accounted

/-! ### Where the runs are -/

namespace Priority

lemma mem_sortedPriorities (p : Priority) : p ∈ sortedPriorities := by
  cases p <;> decide

/-- The classes before and from a place on are those above it and the others. -/
lemma split_sortedPriorities {before later : List Priority} {p : Priority}
    (h : sortedPriorities = before ++ p :: later) (q : Priority) :
    (q ∈ before ↔ q.number < p.number) ∧ (q ∈ p :: later ↔ p.number ≤ q.number) := by
  have hsorted : sortedPriorities.Pairwise fun a b => a.number < b.number := by decide
  rw [h, List.pairwise_append] at hsorted
  obtain ⟨-, hlater, hacross⟩ := hsorted
  have hbelow : q ∈ before → q.number < p.number :=
    fun hq => hacross q hq p List.mem_cons_self
  have habove : q ∈ p :: later → p.number ≤ q.number := by
    intro hq
    rcases List.mem_cons.1 hq with rfl | hq
    · exact le_rfl
    · exact ((List.pairwise_cons.1 hlater).1 q hq).le
  have hmem := mem_sortedPriorities q
  rw [h, List.mem_append] at hmem
  constructor
  · refine ⟨hbelow, fun hlt => hmem.resolve_right fun hq => ?_⟩
    exact absurd (habove hq) (not_le.2 hlt)
  · refine ⟨habove, fun hle => hmem.resolve_left fun hq => ?_⟩
    exact absurd (hbelow hq) (not_lt.2 hle)

end Priority

/-- A run that waits for a job is at the priority of that job. -/
def ActiveRun.Placed (a : ActiveRun) : Prop :=
  ∃ before later, sortedPriorities = before ++ a.entry.job.priority :: later ∧
    a.rest = a.entry.job.priority :: later

namespace Backlog

variable {options : BacklogOptions} {s : Backlog}

lemma mem_waiting {e : BacklogEntry} : e ∈ s.waiting ↔ ∃ p, e ∈ s.queues p := by
  simp only [waiting, List.mem_flatMap]
  exact ⟨fun ⟨p, _, he⟩ => ⟨p, he⟩, fun ⟨p, he⟩ => ⟨p, p.mem_sortedPriorities, he⟩⟩

lemma waiting_eq_nil_iff : s.waiting = [] ↔ ∀ p, s.queues p = [] := by
  simp only [waiting, List.flatMap_eq_nil_iff]
  exact ⟨fun h p => h p p.mem_sortedPriorities, fun h p _ => h p⟩

lemma mem_of_ending {i : ℕ} {outcome : JobOutcome} {a : ActiveRun}
    (h : s.ending i outcome = some a) : a ∈ s.active :=
  List.mem_of_getElem? (Option.filter_eq_some_iff.1 h).1

lemma proceed_of_none (options : BacklogOptions) {i : ℕ} {outcome : JobOutcome}
    (h : s.ending i outcome = none) : s.proceed options i outcome = s := by
  simp [proceed, h]

/-- What an event does to the runs: nothing, or it ends one that takes one job at a time, or a run
goes on from some priority. -/
lemma step_cases (options : BacklogOptions) (s : Backlog) (ev : BacklogEvent) :
    let s' := (backlogMachine options).step s ev
    (s'.active = s.active ∧ s'.started = s.started ∧ s'.returned = s.returned ∧
      ∀ i outcome, ev = .ended i outcome → s.ending i outcome = none) ∨
    (options.singleStep = true ∧ s'.started = s.started ∧ s'.queues = s.queues ∧
      ∃ i, s'.active = s.active.eraseIdx i) ∨
    (ev = .run ∧ s' = s.resume 0 sortedPriorities) ∨
    ∃ i outcome a, ev = .ended i outcome ∧ s.ending i outcome = some a ∧
      options.singleStep = false ∧
      s' = { s with active := s.active.eraseIdx i }.resume (a.total + 1) a.rest := by
  cases ev with
  | enqueue job =>
    refine Or.inl ?_
    show (s.enqueue options job).active = _ ∧ (s.enqueue options job).started = _ ∧
      (s.enqueue options job).returned = _ ∧ _
    unfold enqueue
    split <;> exact ⟨rfl, rfl, rfl, nofun⟩
  | run => exact Or.inr (Or.inr (Or.inl ⟨rfl, rfl⟩))
  | ended i outcome =>
    have hstep : (backlogMachine options).step s (.ended i outcome) =
      s.proceed options i outcome := rfl
    dsimp only
    rw [hstep]
    cases hending : s.ending i outcome with
    | none =>
      rw [proceed_of_none options hending]
      refine Or.inl ⟨rfl, rfl, rfl, ?_⟩
      rintro _ _ ⟨⟩
      exact hending
    | some a =>
      cases hsingle : options.singleStep with
      | true =>
        refine Or.inr (Or.inl ⟨rfl, ?_⟩)
        have hreturn : s.proceed options i outcome =
            { s with
              active := s.active.eraseIdx i
              returned := s.returned ++ [a.total + 1] } := by
          simp [proceed, hending, hsingle]
        rw [hreturn]
        exact ⟨rfl, rfl, i, rfl⟩
      | false =>
        refine Or.inr (Or.inr (Or.inr ⟨i, outcome, a, rfl, hending, rfl, ?_⟩))
        simp [proceed, hending, hsingle]
  | _ => exact Or.inl ⟨rfl, rfl, rfl, nofun⟩

end Backlog

/-- The books are right, and every run is at the priority of its job. -/
structure Sited (options : BacklogOptions) (s : Backlog) : Prop where
  accounted : Accounted options s
  placed : ∀ a ∈ s.active, a.Placed

namespace Sited

variable {options : BacklogOptions} {s : Backlog}

lemma mem_waiting_iff (h : Sited options s) {e : BacklogEntry} :
    e ∈ s.waiting ↔ e ∈ s.queues e.job.priority := by
  rw [Backlog.mem_waiting]
  refine ⟨fun ⟨p, he⟩ => ?_, fun he => ⟨_, he⟩⟩
  rw [(h.accounted.queued p e he).1]
  exact he

lemma queues_eq_nil (h : Sited options s) {q : Priority}
    (hnone : ∀ e ∈ s.waiting, q.number ≤ e.job.priority.number) (p : Priority)
    (hp : p.number < q.number) : s.queues p = [] := by
  refine List.eq_nil_iff_forall_not_mem.2 fun e he => ?_
  have hle := hnone e (Backlog.mem_waiting.2 ⟨p, he⟩)
  rw [(h.accounted.queued p e he).1] at hle
  exact absurd hle (not_le.2 hp)

lemma placed_resume (h : Sited options s) (total : ℕ) {before ps : List Priority}
    (hsplit : sortedPriorities = before ++ ps) : ∀ a ∈ (s.resume total ps).active, a.Placed := by
  rcases s.resume_cases total ps with
    ⟨hreturn, -⟩ | ⟨before', p, later, e, queue, hps, -, hqueue, hstart⟩
  · rw [hreturn]
    exact h.placed
  rw [hstart]
  intro a ha
  rcases List.mem_append.1 ha with ha | ha
  · exact h.placed a ha
  obtain rfl := List.mem_singleton.1 ha
  have hpriority : e.job.priority = p :=
    (h.accounted.queued p e (by rw [hqueue]; exact List.mem_cons_self)).1
  refine ⟨before ++ before', later, ?_, by rw [hpriority]⟩
  rw [hsplit, hps, hpriority, List.append_assoc]

lemma eraseIdx (h : Sited options s) (i : ℕ) :
    Sited options { s with active := s.active.eraseIdx i } where
  accounted := h.accounted.congr (s.active.eraseIdx i) s.returned s.pressureMode
  placed a ha := h.placed a (List.mem_of_mem_eraseIdx ha)

lemma step (h : Sited options s) (ev : BacklogEvent) :
    Sited options ((backlogMachine options).step s ev) := by
  refine ⟨h.accounted.step ev, ?_⟩
  rcases Backlog.step_cases options s ev with
    ⟨hactive, -⟩ | ⟨-, -, -, i, hactive⟩ | ⟨-, hresume⟩ | ⟨i, outcome, a, -, hending, -, hresume⟩
  · rw [hactive]
    exact h.placed
  · rw [hactive]
    exact fun a ha => h.placed a (List.mem_of_mem_eraseIdx ha)
  · rw [hresume]
    exact h.placed_resume 0 (List.nil_append _).symm
  · obtain ⟨before, later, hsplit, hrest⟩ := h.placed a (Backlog.mem_of_ending hending)
    rw [hresume, hrest]
    exact (h.eraseIdx i).placed_resume _ hsplit

lemma backlogAt (options : BacklogOptions) (es : List BacklogEvent) (n : ℕ) :
    Sited options (backlogAt options es n) := by
  refine Machine.stateAt_invariant ?_ ⟨Accounted.empty options, fun a ha => by cases ha⟩ n
  intro ev _ s s' h hok
  cases hok
  exact h.step ev

end Sited

/-! ### The priorities -/

/-- A step that starts a job leaves none of a higher priority behind, and one in which a run that
drains the queues returns leaves no job at all. -/
structure InPriority (options : BacklogOptions) (s s' : Backlog) : Prop where
  started : s'.started = s.started ∨ ∃ e, s'.started = s.started ++ [e] ∧
    ∀ e' ∈ s'.waiting, e.job.priority.number ≤ e'.job.priority.number
  drained : options.singleStep = false → s'.returned ≠ s.returned → s'.waiting = []

lemma InPriority.congr {options : BacklogOptions} {s s₀ s' : Backlog}
    (h : InPriority options s s') (hstarted : s₀.started = s.started)
    (hreturned : s₀.returned = s.returned) : InPriority options s₀ s' := by
  refine ⟨?_, ?_⟩
  · rw [hstarted]
    exact h.started
  · rw [hreturned]
    exact h.drained

/-- When the job of a run that drains the queues ends, no job of a higher priority is waiting. -/
def Caught (options : BacklogOptions) (s : Backlog) : BacklogEvent → Prop
  | .ended i outcome => options.singleStep = false → ∀ a ∈ s.ending i outcome,
      ∀ e ∈ s.waiting, a.entry.job.priority.number ≤ e.job.priority.number
  | _ => True

namespace Sited

variable {options : BacklogOptions} {s : Backlog}

/-- A run that goes on from a priority respects the priorities if nothing waits above it. -/
lemma inPriority_resume (h : Sited options s) (total : ℕ) {before later : List Priority}
    {p : Priority} (hsplit : sortedPriorities = before ++ p :: later)
    (hnone : ∀ e ∈ s.waiting, p.number ≤ e.job.priority.number) :
    InPriority options s (s.resume total (p :: later)) := by
  have hempty : ∀ q, (q ∈ p :: later → s.queues q = []) → s.queues q = [] := by
    intro q hq
    rcases lt_or_ge q.number p.number with hlt | hle
    · exact h.queues_eq_nil hnone q hlt
    · exact hq (((Priority.split_sortedPriorities hsplit q).2).2 hle)
  rcases s.resume_cases total (p :: later) with
    ⟨hreturn, hrest⟩ | ⟨before', q, later', e, queue, hps, hskipped, hqueue, hstart⟩
  · -- the run returns: the queues from `p` on are empty
    rw [hreturn]
    exact ⟨Or.inl rfl, fun _ _ => Backlog.waiting_eq_nil_iff.2 fun q => hempty q (hrest q)⟩
  -- the run starts `e`, the first job of `q`
  have hsplit' : sortedPriorities = (before ++ before') ++ q :: later' := by
    rw [hsplit, hps, List.append_assoc]
  have hpriority : e.job.priority = q :=
    (h.accounted.queued q e (by rw [hqueue]; exact List.mem_cons_self)).1
  rw [hstart]
  refine ⟨Or.inr ⟨e, rfl, fun e' he' => ?_⟩, fun _ hchanged => absurd rfl hchanged⟩
  obtain ⟨p', hp'⟩ := Backlog.mem_waiting.1 he'
  rw [hpriority]
  replace hp' := Backlog.mem_of_taken hqueue hp'
  obtain rfl := (h.accounted.queued p' e' hp').1
  by_contra hlt
  -- a class above `q` is above `p`, or the run has found it empty
  have hbefore := (Priority.split_sortedPriorities hsplit' e'.job.priority).1.2 (not_le.1 hlt)
  rcases List.mem_append.1 hbefore with hb | hb
  · have habove := (Priority.split_sortedPriorities hsplit e'.job.priority).1.1 hb
    exact absurd (hnone e' (Backlog.mem_waiting.2 ⟨_, hp'⟩)) (not_le.2 habove)
  · rw [hskipped _ hb] at hp'
    cases hp'

/-- Only then, for a run that drains the queues. -/
lemma nothing_above (h : Sited options s) (hdrain : options.singleStep = false) (total : ℕ)
    {before later : List Priority} {p : Priority}
    (hsplit : sortedPriorities = before ++ p :: later)
    (hin : InPriority options s (s.resume total (p :: later))) :
    ∀ e ∈ s.waiting, p.number ≤ e.job.priority.number := by
  intro e' he'
  rcases s.resume_cases total (p :: later) with
    ⟨hreturn, -⟩ | ⟨before', q, later', e, queue, hps, -, hqueue, hstart⟩
  · rw [hreturn] at hin
    have hnone : s.waiting = [] := hin.drained hdrain (by simp)
    rw [hnone] at he'
    cases he'
  rw [hstart] at hin
  have hpq : p.number ≤ q.number :=
    (Priority.split_sortedPriorities hsplit q).2.1 (by rw [hps]; simp)
  have hpriority : e.job.priority = q :=
    (h.accounted.queued q e (by rw [hqueue]; exact List.mem_cons_self)).1
  by_cases hq : e'.job.priority = q
  · rw [hq]
    exact hpq
  -- it is in another queue than the job that starts, so it is still waiting
  rcases hin.started with hsame | ⟨e₁, he₁, hfirst⟩
  · simp at hsame
  have heq : e = e₁ := by simpa using he₁
  have hle := hfirst e' <| Backlog.mem_waiting.2 ⟨e'.job.priority, by
    dsimp only
    rw [update_of_ne hq]
    exact h.mem_waiting_iff.1 he'⟩
  rw [← heq, hpriority] at hle
  exact hpq.trans hle

/-- One event respects the priorities exactly if it comes when no job is late. -/
lemma inPriority_step_iff (h : Sited options s) (ev : BacklogEvent) :
    InPriority options s ((backlogMachine options).step s ev) ↔ Caught options s ev := by
  rcases Backlog.step_cases options s ev with
    ⟨-, hstarted, hreturned, hnone⟩ | ⟨hsingle, hstarted, -⟩ | ⟨rfl, hresume⟩ |
      ⟨i, outcome, a, rfl, hending, hdrain, hresume⟩
  · refine iff_of_true ⟨Or.inl hstarted, fun _ hchanged => absurd hreturned hchanged⟩ ?_
    cases ev with
    | ended i outcome =>
      intro _ a ha
      rw [hnone i outcome rfl] at ha
      exact absurd ha (Option.not_mem_none a)
    | _ => trivial
  · refine iff_of_true ⟨Or.inl hstarted, fun hdrain => ?_⟩ ?_
    · rw [hsingle] at hdrain
      cases hdrain
    · cases ev <;> simp [Caught, hsingle]
  · rw [hresume]
    refine iff_of_true (h.inPriority_resume 0 (List.nil_append _).symm fun e _ => ?_) trivial
    cases e.job.priority <;> decide
  · obtain ⟨before, later, hsplit, hrest⟩ := h.placed a (Backlog.mem_of_ending hending)
    rw [hresume, hrest]
    constructor
    · intro hin _ a' ha'
      obtain rfl : a = a' := Option.some_inj.1 (hending.symm.trans ha')
      exact (h.eraseIdx i).nothing_above hdrain _ hsplit (hin.congr rfl rfl)
    · intro hcaught
      exact ((h.eraseIdx i).inPriority_resume _ hsplit (hcaught hdrain a hending)).congr rfl rfl

end Sited

/-- The order in which a scheduler is to serve its jobs, at every point of a run. -/
structure Prioritised (options : BacklogOptions) (es : List BacklogEvent) : Prop where
  /-- An accepted job is started once, unless it was cleared or is still waiting. -/
  once : ∀ n, ∀ e ∈ (backlogAt options es n).accepted, (backlogAt options es n).started.count e +
    (backlogAt options es n).cleared.count e + (backlogAt options es n).waiting.count e = 1
  /-- No other job is started. -/
  accepted : ∀ n, ∀ e ∈ (backlogAt options es n).started, e ∈ (backlogAt options es n).accepted
  /-- The jobs of one priority are started in the order in which they came. -/
  order : ∀ n, (backlogAt options es n).started.Pairwise fun a b =>
    a.job.priority = b.job.priority → a.ticket < b.ticket
  depth : 0 < options.maxQueueDepth →
    ∀ n p, ((backlogAt options es n).queues p).length ≤ options.maxQueueDepth
  priority : ∀ n, InPriority options (backlogAt options es n) (backlogAt options es (n + 1))

namespace Accounted

variable {options : BacklogOptions} {s : Backlog}

lemma nodup_accepted (h : Accounted options s) : s.accepted.Nodup := by
  refine List.Nodup.of_map BacklogEntry.ticket ?_
  rw [h.tickets]
  exact List.nodup_range

lemma once (h : Accounted options s) {e : BacklogEntry} (he : e ∈ s.accepted) :
    s.started.count e + s.cleared.count e + s.waiting.count e = 1 := by
  rw [h.counts, List.count_eq_one_of_mem h.nodup_accepted he]

lemma mem_accepted (h : Accounted options s) {e : BacklogEntry} (he : e ∈ s.started) :
    e ∈ s.accepted := by
  have hcounts := h.counts e
  have hpos := List.count_pos_iff.2 he
  exact List.count_pos_iff.1 (by omega)

lemma order_started (h : Accounted options s) :
    s.started.Pairwise fun a b => a.job.priority = b.job.priority → a.ticket < b.ticket := by
  rw [List.pairwise_iff_forall_sublist]
  intro a b hsub heq
  have hclass := (List.pairwise_append.1 (h.order a.job.priority)).1
  have hfilter := hsub.filter fun e => e.job.priority = a.job.priority
  have hboth : [a, b].filter (fun e => e.job.priority = a.job.priority) = [a, b] := by
    simp [heq]
  rw [hboth] at hfilter
  exact List.pairwise_iff_forall_sublist.1 hclass hfilter

end Accounted

/-- A job that is accepted while runs are under way is not above the priority of any of them. -/
def Prompt (options : BacklogOptions) (s : Backlog) : BacklogEvent → Prop
  | .enqueue job => s.accepts options job = true →
      ∀ a ∈ s.active, a.entry.job.priority.number ≤ job.priority.number
  | _ => True

/-- No job is waiting above the priority of a run that is under way. -/
def Backlog.NothingLate (s : Backlog) : Prop :=
  ∀ a ∈ s.active, ∀ e ∈ s.waiting, a.entry.job.priority.number ≤ e.job.priority.number

namespace Backlog

variable {options : BacklogOptions} {s : Backlog}

lemma waiting_resume_subset (s : Backlog) (total : ℕ) (ps : List Priority) :
    (s.resume total ps).waiting ⊆ s.waiting := by
  intro e' he'
  rcases s.resume_cases total ps with ⟨hreturn, -⟩ | ⟨_, p, _, e, queue, -, -, hqueue, hstart⟩
  · rw [hreturn] at he'
    exact he'
  rw [hstart] at he'
  obtain ⟨p', hp'⟩ := mem_waiting.1 he'
  exact mem_waiting.2 ⟨p', mem_of_taken hqueue hp'⟩

lemma NothingLate.resume (h : s.NothingLate) {total : ℕ} {ps : List Priority}
    (hin : InPriority options s (s.resume total ps)) : (s.resume total ps).NothingLate := by
  intro a ha e' he'
  have hwaiting := waiting_resume_subset s total ps he'
  rcases s.resume_cases total ps with ⟨hreturn, -⟩ | ⟨_, p, _, e, queue, -, -, hqueue, hstart⟩
  · rw [hreturn] at ha
    exact h a ha e' hwaiting
  rcases hin.started with hsame | ⟨e₁, he₁, hfirst⟩
  · rw [hstart] at hsame
    simp at hsame
  have hle := hfirst e' he'
  rw [hstart] at ha he₁
  rcases List.mem_append.1 ha with ha | ha
  · exact h a ha e' hwaiting
  · obtain rfl := List.mem_singleton.1 ha
    obtain rfl : e = e₁ := by simpa using he₁
    exact hle

lemma NothingLate.enqueue (h : s.NothingLate) {job : ScheduledJob}
    (hprompt : Prompt options s (.enqueue job)) : (s.enqueue options job).NothingLate := by
  unfold Backlog.enqueue
  split
  · rename_i haccepts
    intro a ha e he
    obtain ⟨p, hp⟩ := mem_waiting.1 he
    rcases mem_of_added hp with hold | ⟨rfl, -⟩
    · exact h a ha e (mem_waiting.2 ⟨p, hold⟩)
    · exact hprompt haccepts a ha
  · exact h

lemma NothingLate.caught (h : s.NothingLate) (ev : BacklogEvent) : Caught options s ev := by
  cases ev with
  | ended i outcome => exact fun _ a ha => h a (mem_of_ending ha)
  | _ => trivial

lemma NothingLate.step (h : s.NothingLate) (hs : Sited options s) {ev : BacklogEvent}
    (hprompt : Prompt options s ev) : ((backlogMachine options).step s ev).NothingLate := by
  have hin := (hs.inPriority_step_iff ev).2 (h.caught ev)
  cases ev with
  | enqueue job => exact h.enqueue hprompt
  | setPressureMode mode => exact h
  | clear =>
    intro a _ e he
    obtain ⟨p, hp⟩ := mem_waiting.1 he
    cases hp
  | run => exact h.resume hin
  | ended i outcome =>
    have hless : ∀ (s' : Backlog) (j : ℕ), s'.queues = s.queues →
        s'.active = s.active.eraseIdx j → s'.NothingLate := by
      intro s' j hqueues hactive a ha e he
      rw [hactive] at ha
      rw [waiting, hqueues] at he
      exact h a (List.mem_of_mem_eraseIdx ha) e he
    rcases step_cases options s (.ended i outcome) with
      ⟨-, -, -, hnone⟩ | ⟨-, -, hqueues, j, hactive⟩ | ⟨⟨⟩, -⟩ | ⟨_, _, a, ⟨⟩, -, -, hresume⟩
    · show (s.proceed options i outcome).NothingLate
      rw [proceed_of_none options (hnone i outcome rfl)]
      exact h
    · exact hless _ j hqueues hactive
    · have hrun : InPriority options { s with active := s.active.eraseIdx i }
          ((backlogMachine options).step s (.ended i outcome)) := hin.congr rfl rfl
      rw [hresume] at hrun ⊢
      exact (hless { s with active := s.active.eraseIdx i } i rfl rfl).resume hrun

end Backlog

/-- The jobs of one class start in the order in which they were accepted, none is lost or started
twice and no queue is too long; the priorities are respected exactly in the runs in which a job
never ends while one of a higher priority is waiting. -/
theorem backlog_priority (options : BacklogOptions) (es : List BacklogEvent) :
    Prioritised options es ↔
      ∀ n ev, es[n]? = some ev → Caught options (backlogAt options es n) ev := by
  have hnext : ∀ n ev, es[n]? = some ev → backlogAt options es (n + 1) =
      (backlogMachine options).step (backlogAt options es n) ev :=
    fun n ev hev => Machine.stateAt_succ hev
  constructor
  · intro h n ev hev
    have hin := h.priority n
    rw [hnext n ev hev] at hin
    exact ((Sited.backlogAt options es n).inPriority_step_iff ev).1 hin
  · intro hcaught
    refine ⟨fun n e => (Accounted.backlogAt options es n).once,
      fun n e => (Accounted.backlogAt options es n).mem_accepted,
      fun n => (Accounted.backlogAt options es n).order_started,
      fun hbound n => (Accounted.backlogAt options es n).depth hbound, fun n => ?_⟩
    cases hev : es[n]? with
    | none =>
      have hsame : backlogAt options es (n + 1) = backlogAt options es n :=
        Machine.stateAt_succ_of_none hev
      rw [hsame]
      exact ⟨Or.inl rfl, fun _ hchanged => absurd rfl hchanged⟩
    | some ev =>
      rw [hnext n ev hev]
      exact ((Sited.backlogAt options es n).inPriority_step_iff ev).2 (hcaught n ev hev)

/-- So it is enough that no job comes in late. -/
theorem nothingLate_of_prompt {options : BacklogOptions} {es : List BacklogEvent}
    (hprompt : ∀ n ev, es[n]? = some ev → Prompt options (backlogAt options es n) ev) (n : ℕ) :
    (backlogAt options es n).NothingLate := by
  refine Machine.stateAt_steps ?_ (fun a ha => by cases ha) n
  intro n ev s' hev h hok
  cases hok
  exact h.step (Sited.backlogAt options es n) (hprompt n ev hev)

namespace Sample

def replayJob : ScheduledJob := ⟨"replay".toList, .replayJob, none⟩

def liveEvent : ScheduledJob := ⟨"live".toList, .liveEvent, none⟩

/-- An event comes in during the first of two replay jobs. -/
def lateEvent : List BacklogEvent :=
  [.enqueue replayJob, .enqueue replayJob, .run, .enqueue liveEvent, .ended 0 .success]

end Sample

open Sample in
/-- A replay job that comes in during an event is not late. -/
theorem nothingLate_of_prompt_sample : (backlogAt ⟨1000, false⟩
    [.enqueue liveEvent, .run, .enqueue replayJob, .ended 0 .success] 4).NothingLate := by
  refine nothingLate_of_prompt (fun n ev hev => ?_) 4
  rcases n with _ | _ | _ | _ | n <;> cases hev
  · exact fun _ a ha => absurd ha List.not_mem_nil
  · trivial
  · intro _ a ha
    obtain rfl := List.mem_singleton.1 ha
    decide
  · trivial

open Sample in
/-- The second replay job is started while the event is waiting. -/
theorem live_event_waits :
    (backlogAt ⟨1000, false⟩ lateEvent 4).started = [⟨0, replayJob⟩] ∧
      (backlogAt ⟨1000, false⟩ lateEvent 5).started =
        [⟨0, replayJob⟩, ⟨1, replayJob⟩] ∧
      (backlogAt ⟨1000, false⟩ lateEvent 5).waiting = [⟨2, liveEvent⟩] ∧
      ¬ Prioritised ⟨1000, false⟩ lateEvent := by
  have hbefore : (backlogAt ⟨1000, false⟩ lateEvent 4).started =
    [⟨0, replayJob⟩] := by decide
  have hafter : (backlogAt ⟨1000, false⟩ lateEvent 5).started =
    [⟨0, replayJob⟩, ⟨1, replayJob⟩] := by decide
  have hwaiting : (backlogAt ⟨1000, false⟩ lateEvent 5).waiting =
    [⟨2, liveEvent⟩] := by decide
  refine ⟨hbefore, hafter, hwaiting, fun h => ?_⟩
  rcases (h.priority 4).started with hsame | ⟨e, he, hfirst⟩
  · rw [hbefore, hafter] at hsame
    cases hsame
  rw [hbefore, hafter] at he
  cases he
  have hle := hfirst ⟨2, liveEvent⟩ (by rw [hwaiting]; exact List.mem_cons_self)
  exact absurd hle (by decide)

end WaffleFinance.Coordinator

import Mathlib

/-!
# The supervisor of the resolver

`Supervisor.run` starts the listeners, starts them again after an error, and ends when they end,
when `stop` is called, or when it gives up.  It drives a `ResolverLifecycle`, which throws where a
transition is not in its table.  While `run` waits, `stop` may be called.

`ResolverLifecycle.transition` ends by counting the transition with `lifecycleTransitionsCounter`,
which is declared nowhere.  So a transition that is allowed is made, and then it throws as well.
-/

namespace WaffleFinance.Resolver

/-- The states of the lifecycle, which are those of the supervisor too. -/
inductive LifecycleState where
  | idle
  | starting
  | running
  | pausing
  | paused
  | restarting
  | stopping
  | stopped
  | failed
  deriving DecidableEq

/-- `LIFECYCLE_TRANSITIONS`. -/
def lifecycleTransitions : LifecycleState → List LifecycleState
  | .idle => [.starting]
  | .starting => [.running, .stopping, .failed]
  | .running => [.pausing, .restarting, .stopping, .failed]
  | .pausing => [.paused, .stopping]
  | .paused => [.restarting, .stopping]
  | .restarting => [.starting, .stopping, .failed]
  | .stopping => [.stopped, .failed]
  | .stopped | .failed => []

/-- The errors that `run` and `stop` can end with. -/
inductive Thrown where
  /-- What `start` of the listeners has thrown: a `FatalError` or another error. -/
  | listener (fatal : Bool)
  | maxRestarts
  | invalidTransition (origin target : LifecycleState)
  | stateNotAllowed (state : LifecycleState)
  /-- The gauge of the metrics takes numbers, and it is given the name of a state. -/
  | typeError
  deriving DecidableEq

/-- The conditions of `validateTransition`. -/
def validateTransition (origin target : LifecycleState) : Option Thrown :=
  if origin ≠ .running ∧ target = .paused then some (.stateNotAllowed origin)
  else if origin = .failed ∧ target = .restarting then some (.stateNotAllowed origin)
  else if (origin = .stopped ∨ origin = .failed) ∧ target = .starting then
    some (.stateNotAllowed origin)
  else none

/-- `ResolverLifecycle.transition`: the state after it, and what it throws. -/
def transition (target state : LifecycleState) : LifecycleState × Option Thrown :=
  if target ∉ lifecycleTransitions state then (state, some (.invalidTransition state target))
  else
    match validateTransition state target with
    | some e => (state, some e)
    | none => (target, some .typeError)

/-- Where `run` is. -/
inductive Phase where
  | notCalled
  /-- It waits for the first start. -/
  | startup
  /-- It waits for a start in its loop. -/
  | loop
  | sleeping
  /-- It waits for the stop of a listener that has started late, in the loop or before it. -/
  | absorbing (inLoop : Bool)
  | settled (result : Except Thrown Unit)
  deriving DecidableEq

/-- What happens around a supervisor: its two methods are called, and what `run` waits for comes. -/
inductive Event where
  | run
  | stop
  | started (outcome : Except Bool Unit)
  | listenerStopped
  | woke

/-- The supervisor with its lifecycle.  The last three fields are not in the code: the calls of
`start`, whether a listener was started that has not been stopped, and what calls of `stop` have
thrown. -/
structure Supervisor where
  maxRestarts : ℕ
  isStopped : Bool
  state : LifecycleState
  restartCount : ℕ
  lifecycle : LifecycleState
  phase : Phase
  starts : ℕ
  listening : Bool
  stopErrors : List Thrown
  deriving DecidableEq

namespace Supervisor

def initial (maxRestarts : ℕ) : Supervisor :=
  ⟨maxRestarts, false, .idle, 0, .idle, .notCalled, 0, false, []⟩

/-- Set the state, make the transition, and go on with `next` unless it throws, else with
`caught`. -/
def enter (target : LifecycleState) (s : Supervisor) (next : Supervisor → Supervisor)
    (caught : Thrown → Supervisor → Supervisor) : Supervisor :=
  let made := transition target s.lifecycle
  let s := { s with state := target, lifecycle := made.1 }
  match made.2 with
  | none => next s
  | some e => caught e s

def settle (result : Except Thrown Unit) (s : Supervisor) : Supervisor :=
  { s with phase := .settled result }

def reject (e : Thrown) : Supervisor → Supervisor := settle (.error e)

/-- Call `start` of the listeners and wait. -/
def callStart (phase : Phase) (s : Supervisor) : Supervisor :=
  { s with phase := phase, starts := s.starts + 1 }

/-- The `catch` of the loop. -/
def recover (e : Thrown) (s : Supervisor) : Supervisor :=
  if s.isStopped then s.enter .stopped (settle (.ok ())) reject
  else if e = .listener true then s.enter .failed (reject e) reject
  else
    let s := { s with restartCount := s.restartCount + 1 }
    if s.maxRestarts < s.restartCount then s.enter .failed (reject .maxRestarts) reject
    else s.enter .restarting (fun s => { s with phase := .sleeping }) reject

/-- The first half of `absorbLateStartup`. -/
def absorb (inLoop : Bool) (caught : Thrown → Supervisor → Supervisor) (s : Supervisor) :
    Supervisor :=
  s.enter .stopping (fun s => { s with phase := .absorbing inLoop }) caught

/-- The head of the loop. -/
def proceed (s : Supervisor) : Supervisor :=
  if s.isStopped then s.enter .stopped (settle (.ok ())) reject else s.callStart .loop

/-- A start has come to its end. -/
def handleStarted (outcome : Except Bool Unit) (s : Supervisor) : Supervisor :=
  match s.phase, outcome with
  | .startup, .error fatal => s.enter .failed (reject (.listener fatal)) reject
  | .startup, .ok () =>
    let s := { s with listening := true }
    if s.isStopped then s.absorb false reject else s.enter .running proceed reject
  | .loop, .error fatal => recover (.listener fatal) s
  | .loop, .ok () =>
    let s := { s with listening := true }
    -- what is thrown here comes to the `catch` of the loop
    if s.isStopped then s.absorb true recover else s.enter .stopped (settle (.ok ())) recover
  | _, _ => s

/-- The second half of `absorbLateStartup`. -/
def handleListenerStopped (s : Supervisor) : Supervisor :=
  match s.phase with
  | .absorbing inLoop =>
    { s with listening := false }.enter .stopped (settle (.ok ()))
      (if inLoop then recover else reject)
  | _ => s

/-- The pause between two restarts is over. -/
def handleWoke (s : Supervisor) : Supervisor :=
  match s.phase with
  | .sleeping => if s.isStopped then s.proceed else s.enter .running proceed reject
  | _ => s

/-- The method `stop`. -/
def stop (s : Supervisor) : Supervisor :=
  if s.isStopped then s
  else { s with isStopped := true }.enter .stopping id fun e s =>
    { s with stopErrors := s.stopErrors ++ [e] }

/-- The method `run`, up to its first wait.  A supervisor is run once. -/
def run (s : Supervisor) : Supervisor :=
  match s.phase with
  | .notCalled => s.enter .starting (callStart .startup) reject
  | _ => s

def step (s : Supervisor) : Event → Supervisor
  | .run => s.run
  | .stop => s.stop
  | .started outcome => s.handleStarted outcome
  | .listenerStopped => s.handleListenerStopped
  | .woke => s.handleWoke

def after (maxRestarts : ℕ) (events : List Event) : Supervisor :=
  events.foldl step (initial maxRestarts)

end Supervisor

/-! ### The contract -/

/-- What is promised of a supervisor with a lifecycle. -/
structure Contract (s : Supervisor) : Prop where
  stop_safe : s.stopErrors = []
  result : ∀ e, s.phase = .settled (.error e) → (∃ fatal, e = .listener fatal) ∨ e = .maxRestarts
  starts : s.starts ≤ 1 + s.restartCount
  quiet : s.phase = .settled (.ok ()) → s.isStopped = true → s.listening = false
  states : ∀ r, s.phase = .settled r →
    (s.state = .stopped ∨ s.state = .failed) ∧ s.state = s.lifecycle

/-- An error that is not among those that `run` may end with. -/
def Thrown.Foreign (e : Thrown) : Prop := (∀ fatal, e ≠ .listener fatal) ∧ e ≠ .maxRestarts

lemma transition_throws (target state : LifecycleState) :
    ∃ e, (transition target state).2 = some e ∧ e.Foreign := by
  unfold transition
  split_ifs with h
  · cases hv : validateTransition state target with
    | none => exact ⟨.typeError, rfl, by simp [Thrown.Foreign]⟩
    | some e =>
      refine ⟨e, rfl, ?_⟩
      simp only [validateTransition] at hv
      split_ifs at hv <;> obtain rfl := Option.some.inj hv <;> simp [Thrown.Foreign]
  · exact ⟨.invalidTransition state target, rfl, by simp [Thrown.Foreign]⟩

namespace Supervisor

/-- `run` does not get past its first transition. -/
lemma phase_run {s : Supervisor} (h : s.phase = .notCalled) :
    ∃ e, s.run.phase = .settled (.error e) ∧ e.Foreign := by
  obtain ⟨e, he, hforeign⟩ := transition_throws .starting s.lifecycle
  refine ⟨e, ?_, hforeign⟩
  simp only [run, h, enter, he]
  rfl

lemma phase_stop (s : Supervisor) : s.stop.phase = s.phase := by
  unfold stop
  split_ifs with h
  · rfl
  · obtain ⟨e, he, -⟩ := transition_throws .stopping s.lifecycle
    simp only [enter, he]

/-- Where `run` does not wait for anything, only a call of `run` can change that. -/
lemma phase_step {s : Supervisor} {event : Event} (hevent : event ≠ .run)
    (h : s.phase = .notCalled ∨ ∃ r, s.phase = .settled r) : (s.step event).phase = s.phase := by
  cases event with
  | run => exact absurd rfl hevent
  | stop => exact s.phase_stop
  | started outcome =>
    rcases h with h | ⟨r, h⟩ <;> simp only [step, handleStarted, h]
  | listenerStopped =>
    rcases h with h | ⟨r, h⟩ <;> simp only [step, handleListenerStopped, h]
  | woke =>
    rcases h with h | ⟨r, h⟩ <;> simp only [step, handleWoke, h]

lemma phase_step_settled {s : Supervisor} {r : Except Thrown Unit} (h : s.phase = .settled r)
    (event : Event) : (s.step event).phase = .settled r := by
  cases event with
  | run => simp only [step, run, h]
  | _ => exact (phase_step (by simp) (.inr ⟨r, h⟩)).trans h

/-- Before it is run a supervisor stays so; once it is run it ends with a foreign error. -/
lemma phase_after (maxRestarts : ℕ) (events : List Event) :
    (after maxRestarts events).phase = .notCalled ∧ .run ∉ events ∨
      ∃ e, (after maxRestarts events).phase = .settled (.error e) ∧ e.Foreign := by
  induction events using List.reverseRecOn with
  | nil => exact .inl ⟨rfl, List.not_mem_nil⟩
  | append_singleton events event ih =>
    rw [after, List.foldl_append]
    rcases ih with ⟨hphase, hnot⟩ | ⟨e, hphase, hforeign⟩
    · by_cases hevent : event = .run
      · subst hevent
        exact .inr (phase_run hphase)
      · refine .inl ⟨(phase_step hevent (.inl hphase)).trans hphase, fun hmem => ?_⟩
        rcases List.mem_append.1 hmem with hin | hlast
        · exact hnot hin
        · exact hevent (List.mem_singleton.1 hlast).symm
    · exact .inr ⟨e, phase_step_settled hphase event, hforeign⟩

end Supervisor

/-- **The contract of the supervisor** is broken in every run: whatever the listeners do and
whenever `stop` is called, before or after `run`, a supervisor with a lifecycle rejects with an
error that is neither the listeners' nor about the restarts. -/
theorem supervisor_contract_broken (maxRestarts : ℕ) (before later : List Event) :
    ¬ Contract (Supervisor.after maxRestarts (before ++ .run :: later)) := by
  intro h
  rcases Supervisor.phase_after maxRestarts (before ++ .run :: later) with
    ⟨-, hnot⟩ | ⟨e, hphase, hlistener, hmax⟩
  · exact hnot (List.mem_append_right before List.mem_cons_self)
  · rcases h.result e hphase with ⟨fatal, rfl⟩ | rfl
    · exact hlistener fatal rfl
    · exact hmax rfl

/-- A supervisor that nobody stops, before its listeners have done anything. -/
theorem supervisor_rejects_at_once :
    (Supervisor.after 5 [.run]).phase = .settled (.error .typeError) ∧
      ¬ Contract (Supervisor.after 5 [.run]) := by
  refine ⟨by decide +kernel, fun h => ?_⟩
  rcases h.result .typeError (by decide +kernel) with ⟨fatal, he⟩ | he
  · cases he
  · cases he

end WaffleFinance.Resolver

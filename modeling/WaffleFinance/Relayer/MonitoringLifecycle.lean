import WaffleFinance.Relayer.ChainMonitoring

/-!
# The lifecycle of chain monitoring

When there is one set of pollers at most.  A start must not fail once it has begun to start pollers,
nor while an `onOrderStored` that relies on it is about to return; nothing may be stopped while a
start is under way or an `onOrderStored` has not returned; and no order may come while a stop waits.
Then the orchestrator is idle, without any poller, or it is active with one start, whose phase says
which pollers there are.
-/

namespace WaffleFinance.Relayer

open Lib

/-! ### The condition -/

namespace Orchestrator

/-- The call waits for a start that has failed. -/
def willThrow (s : Orchestrator) : Option ℕ → Bool
  | none => false
  | some k => s.starts[k]? = some (.settled false)

/-- No start is under way, and no call can return normally. -/
def MayStop (s : Orchestrator) : Prop :=
  (∀ phase ∈ s.starts, phase.isSettled = true) ∧ ∀ call ∈ s.calls, s.willThrow call = true

/-- Whether a start may go on in this way. -/
def MayAdvance (s : Orchestrator) (ok : Bool) : Option StartPhase → Prop
  | some .contractBlock => ok = true
  | some .listener => ok = true
  | some .failing => none ∉ s.calls
  | _ => True

/-- The condition on a step. -/
def Meets (s : Orchestrator) : MonitoringStep → Prop
  | .onOrderStored activeOrders _ => needsChainMonitoring activeOrders = true → s.stops = []
  | .reconcile now activeOrders =>
    s.chainMonitoringStarted = true →
      needsChainMonitoring (expireAbandonedOrders now activeOrders) = false → s.MayStop
  | .shutdown => s.chainMonitoringStarted = true → s.MayStop
  | .advance k ok => s.MayAdvance ok s.starts[k]?
  | .finishStop _ => True
  | .resume _ => True

instance decidableMayStop (s : Orchestrator) : Decidable s.MayStop :=
  inferInstanceAs (Decidable (_ ∧ _))

instance decidableMayAdvance (s : Orchestrator) (ok : Bool) (phase : Option StartPhase) :
    Decidable (s.MayAdvance ok phase) := by
  unfold MayAdvance
  split <;> infer_instance

instance decidableMeets (s : Orchestrator) (x : MonitoringStep) : Decidable (s.Meets x) :=
  match x with
  | .onOrderStored activeOrders _ =>
    inferInstanceAs (Decidable (needsChainMonitoring activeOrders = true → _))
  | .reconcile _ _ => inferInstanceAs (Decidable (s.chainMonitoringStarted = true → _))
  | .shutdown => inferInstanceAs (Decidable (s.chainMonitoringStarted = true → _))
  | .advance k ok => inferInstanceAs (Decidable (s.MayAdvance ok s.starts[k]?))
  | .finishStop _ => inferInstanceAs (Decidable True)
  | .resume _ => inferInstanceAs (Decidable True)

end Orchestrator

/-! ### The pollers of a start -/

namespace StartPhase

/-- The pollers that are live. -/
def pollers (k : ℕ) : StartPhase → List ChainPoller
  | contractBlock => [⟨k, .ethIncoming⟩, ⟨k, .stellarIncoming⟩]
  | contractHandle | listener | settled true =>
    [⟨k, .ethIncoming⟩, ⟨k, .stellarIncoming⟩, ⟨k, .contractEvents⟩]
  | _ => []

/-- Those that are in the list. -/
def listed (k : ℕ) : StartPhase → List ChainPoller
  | contractBlock | contractHandle | listener | settled true =>
    [⟨k, .ethIncoming⟩, ⟨k, .stellarIncoming⟩]
  | _ => []

/-- The contract poller once its handle is known. -/
def handle (k : ℕ) : StartPhase → Option ChainPoller
  | listener | settled true => some ⟨k, .contractEvents⟩
  | _ => none

lemma start_of_mem_pollers {k : ℕ} {phase : StartPhase} {p : ChainPoller}
    (h : p ∈ phase.pollers k) : p.start = k := by
  unfold pollers at h
  split at h <;> simp at h
  · rcases h with rfl | rfl <;> rfl
  all_goals rcases h with rfl | rfl | rfl <;> rfl

lemma nodup_pollers (k : ℕ) (phase : StartPhase) : (phase.pollers k).Nodup := by
  unfold pollers
  split <;> simp

lemma pollers_ne_nil {k : ℕ} {phase : StartPhase} (hsettled : phase.isSettled = true)
    (hphase : phase ≠ .settled false) : phase.pollers k ≠ [] := by
  cases phase with
  | settled ok =>
    cases ok with
    | true => simp [pollers]
    | false => exact absurd rfl hphase
  | _ => cases hsettled

end StartPhase

/-! ### Idle and active -/

namespace Orchestrator

/-- There are no pollers, and none will come. -/
structure Idle (s : Orchestrator) : Prop where
  live : s.live = []
  listed : s.chainPollers = []
  handle : s.escrowFactoryPoller = none
  settled : ∀ phase ∈ s.starts, phase.isSettled = true
  calls : ∀ call ∈ s.calls, s.willThrow call = true
  off : s.stops = [] → s.chainMonitoringStarted = false ∧ s.chainMonitoringPromise = none

/-- The last start has the pollers. -/
structure Active (s : Orchestrator) (old : List StartPhase) (phase : StartPhase) : Prop where
  starts : s.starts = old ++ [phase]
  settled : ∀ phase ∈ old, phase.isSettled = true
  going : phase ≠ .settled false
  started : s.chainMonitoringStarted = true
  stops : s.stops = []
  live : s.live = phase.pollers old.length
  listed : s.chainPollers = phase.listed old.length
  handle : s.escrowFactoryPoller = phase.handle old.length
  quiet : s.quiet = false
  calls : ∀ call ∈ s.calls, call = none ∨ call = some old.length ∨ s.willThrow call = true

/-- The invariant. -/
structure Sound (s : Orchestrator) : Prop where
  mode : s.Idle ∨ ∃ old phase, s.Active old phase
  returns : ∀ monitored ∈ s.returns, monitored = true

variable {s : Orchestrator} {old : List StartPhase} {phase : StartPhase}

lemma Sound.wellMonitored (h : s.Sound) : s.WellMonitored := by
  rcases h.mode with hidle | ⟨old, phase, hactive⟩
  · refine ⟨?_, ?_, fun _ => hidle.live, h.returns⟩
    · simp [hidle.live]
    · simp [hidle.live]
  refine ⟨fun p hp q hq => ?_, ?_, fun hquiet => ?_, h.returns⟩
  · rw [hactive.live] at hp hq
    rw [StartPhase.start_of_mem_pollers hp, StartPhase.start_of_mem_pollers hq]
  · rw [hactive.live]
    exact StartPhase.nodup_pollers _ _
  · rw [hactive.quiet] at hquiet
    cases hquiet

/-- While it is active a caller may return. -/
lemma Active.isMonitored (h : s.Active old phase) : s.isMonitored = true := by
  cases hsettled : phase.isSettled with
  | true =>
    have hlive : s.live ≠ [] := by
      rw [h.live]
      exact StartPhase.pollers_ne_nil hsettled h.going
    simp [Orchestrator.isMonitored, hlive]
  | false => simp [Orchestrator.isMonitored, h.starts, hsettled]

/-! ### Orders -/

lemma willThrow_append {starts : List StartPhase} {call : Option ℕ}
    (h : s.willThrow call = true) (hstarts : ∃ more, starts = s.starts ++ more) :
    willThrow { s with starts := starts } call = true := by
  obtain ⟨more, rfl⟩ := hstarts
  cases call with
  | none => cases h
  | some k =>
    simp only [willThrow, decide_eq_true_eq] at h ⊢
    rw [List.getElem?_append_left (List.getElem?_eq_some_iff.1 h).1]
    exact h

lemma Idle.beginStart (h : s.Idle) (hstops : s.stops = []) (ok : Bool) :
    Active { s.beginStart ok with calls := s.calls ++ [some s.starts.length] } s.starts
      (if ok then .block else .failing) where
  starts := rfl
  settled := h.settled
  going := by cases ok <;> simp
  started := rfl
  stops := hstops
  live := by cases ok <;> exact h.live
  listed := by cases ok <;> exact h.listed
  handle := by cases ok <;> exact h.handle
  quiet := rfl
  calls := fun call hcall => by
    rcases List.mem_append.1 hcall with hold | hnew
    · exact Or.inr (Or.inr (willThrow_append (h.calls call hold) ⟨_, rfl⟩))
    · exact Or.inr (Or.inl (List.mem_singleton.1 hnew))

lemma Sound.onOrderStored (h : s.Sound) {activeOrders : Orders}
    (hmeets : needsChainMonitoring activeOrders = true → s.stops = []) (ok : Bool) :
    (s.onOrderStored activeOrders ok).Sound := by
  cases hneeds : needsChainMonitoring activeOrders with
  | false =>
    rw [show s.onOrderStored activeOrders ok = s by simp [Orchestrator.onOrderStored, hneeds]]
    exact h
  | true =>
    have hstops := hmeets hneeds
    rcases h.mode with hidle | ⟨old, phase, hactive⟩
    · obtain ⟨hstarted, hpromise⟩ := hidle.off hstops
      rw [show s.onOrderStored activeOrders ok =
          { s.beginStart ok with calls := s.calls ++ [some s.starts.length] } by
        simp [Orchestrator.onOrderStored, hneeds, hstarted, hpromise]]
      exact ⟨Or.inr ⟨_, _, hidle.beginStart hstops ok⟩, h.returns⟩
    rw [show s.onOrderStored activeOrders ok = { s with calls := s.calls ++ [none] } by
      simp [Orchestrator.onOrderStored, hneeds, hactive.started]]
    refine ⟨Or.inr ⟨old, phase, { hactive with calls := fun call hcall => ?_ }⟩, h.returns⟩
    rcases List.mem_append.1 hcall with hold | hnew
    · exact hactive.calls call hold
    · exact Or.inl (List.mem_singleton.1 hnew)

/-! ### Starts -/

lemma advance_of_settled {k : ℕ} {phase : StartPhase} (h : s.starts[k]? = some phase)
    (hsettled : phase.isSettled = true) (ok : Bool) : s.advance k ok = s := by
  cases phase with
  | settled ok' => simp [advance, h]
  | _ => cases hsettled

/-- The last start goes on to another phase, with its pollers. -/
lemma Active.move (h : s.Active old phase) {s' : Orchestrator} {phase' : StartPhase}
    (hstarts : s'.starts = s.starts.set old.length phase') (hgoing : phase' ≠ .settled false)
    (hphase : phase.isSettled = false)
    (hstarted : s'.chainMonitoringStarted = s.chainMonitoringStarted)
    (hstops : s'.stops = s.stops) (hlive : s'.live = phase'.pollers old.length)
    (hlisted : s'.chainPollers = phase'.listed old.length)
    (hhandle : s'.escrowFactoryPoller = phase'.handle old.length)
    (hquiet : s'.quiet = s.quiet) (hcalls : s'.calls = s.calls) : s'.Active old phase' where
  starts := by
    rw [hstarts, h.starts]
    simp
  settled := h.settled
  going := hgoing
  started := hstarted.trans h.started
  stops := hstops.trans h.stops
  live := hlive
  listed := hlisted
  handle := hhandle
  quiet := hquiet.trans h.quiet
  calls := fun call hcall => by
    rw [hcalls] at hcall
    rcases h.calls call hcall with hnone | hlast | hthrow
    · exact Or.inl hnone
    · exact Or.inr (Or.inl hlast)
    · refine Or.inr (Or.inr ?_)
      cases call with
      | none => cases hthrow
      | some k =>
        simp only [willThrow, decide_eq_true_eq] at hthrow ⊢
        have hne : old.length ≠ k := by
          rintro rfl
          rw [h.starts] at hthrow
          simp at hthrow
          rw [hthrow] at hphase
          cases hphase
        rw [hstarts, List.getElem?_set_ne hne]
        exact hthrow

/-- The last start fails. -/
lemma Active.fail (h : s.Active old .failing) (hcalls : none ∉ s.calls) (quiet : Bool) :
    Idle { s with
      chainMonitoringStarted := false
      chainMonitoringPromise := none
      starts := s.starts.set old.length (.settled false)
      quiet := quiet } where
  live := h.live
  listed := h.listed
  handle := h.handle
  settled := fun phase hphase => by
    rw [h.starts] at hphase
    simp only [List.set_append_right _ _ le_rfl, Nat.sub_self, List.set_cons_zero,
      List.mem_append, List.mem_singleton] at hphase
    rcases hphase with hold | rfl
    · exact h.settled phase hold
    · rfl
  calls := fun call hcall => by
    cases call with
    | none => exact absurd hcall hcalls
    | some k =>
      simp only [willThrow, decide_eq_true_eq]
      by_cases hk : k = old.length
      · subst hk
        rw [h.starts]
        simp
      rcases h.calls _ hcall with hnone | hlast | hthrow
      · cases hnone
      · exact absurd (Option.some.inj hlast) hk
      · rw [List.getElem?_set_ne (Ne.symm hk)]
        simpa [willThrow] using hthrow
  off := fun _ => ⟨rfl, rfl⟩

lemma Sound.advance (h : s.Sound) {k : ℕ} {ok : Bool} (hmeets : s.MayAdvance ok s.starts[k]?) :
    (s.advance k ok).Sound := by
  cases hk : s.starts[k]? with
  | none =>
    rw [show s.advance k ok = s by simp [Orchestrator.advance, hk]]
    exact h
  | some phase =>
    by_cases hsettled : phase.isSettled = true
    · rw [advance_of_settled hk hsettled]
      exact h
    rcases h.mode with hidle | ⟨old, last, hactive⟩
    · exact absurd (hidle.settled phase (List.mem_of_getElem? hk)) hsettled
    -- only the last start is under way
    have hlast : k = old.length ∧ phase = last := by
      rw [hactive.starts] at hk
      rcases getElem?_concat_cases hk with hnew | hold
      · exact hnew
      · exact absurd (hactive.settled phase (List.mem_of_getElem? hold)) hsettled
    obtain ⟨rfl, rfl⟩ := hlast
    rw [hk] at hmeets
    have hopen : phase.isSettled = false := by simpa using hsettled
    cases phase with
    | settled ok' => exact absurd rfl hsettled
    | failing =>
      rw [Orchestrator.advance, hk]
      exact ⟨Or.inl (hactive.fail hmeets _), h.returns⟩
    | block =>
      rw [Orchestrator.advance, hk]
      cases ok with
      | true =>
        refine ⟨Or.inr ⟨old, .contractBlock, hactive.move rfl (by simp) hopen rfl rfl ?_ ?_
          hactive.handle rfl rfl⟩, h.returns⟩
        · simp [hactive.live, StartPhase.pollers]
        · simp [hactive.listed, StartPhase.listed]
      | false =>
        exact ⟨Or.inr ⟨old, .failing, hactive.move rfl (by simp) hopen rfl rfl hactive.live
          hactive.listed hactive.handle rfl rfl⟩, h.returns⟩
    | contractBlock =>
      rw [Orchestrator.advance, hk]
      obtain rfl : ok = true := hmeets
      refine ⟨Or.inr ⟨old, .contractHandle, hactive.move rfl (by simp) hopen rfl rfl ?_
        hactive.listed hactive.handle rfl rfl⟩, h.returns⟩
      simp [hactive.live, StartPhase.pollers]
    | contractHandle =>
      rw [Orchestrator.advance, hk]
      cases htest : s.testnet with
      | true =>
        exact ⟨Or.inr ⟨old, .listener, hactive.move (by simp) (by simp) hopen rfl rfl
          hactive.live hactive.listed rfl rfl rfl⟩, h.returns⟩
      | false =>
        exact ⟨Or.inr ⟨old, .settled true, hactive.move (by simp) (by simp) hopen rfl rfl
          hactive.live hactive.listed rfl rfl rfl⟩, h.returns⟩
    | listener =>
      rw [Orchestrator.advance, hk]
      obtain rfl : ok = true := hmeets
      exact ⟨Or.inr ⟨old, .settled true, hactive.move rfl (by simp) hopen rfl rfl
        hactive.live hactive.listed hactive.handle rfl rfl⟩, h.returns⟩

/-! ### Stops and returns -/

lemma Sound.stopChainMonitoring (h : s.Sound)
    (hmeets : s.chainMonitoringStarted = true → s.MayStop) : s.stopChainMonitoring.Sound := by
  cases hstarted : s.chainMonitoringStarted with
  | false =>
    rw [show s.stopChainMonitoring = s by simp [Orchestrator.stopChainMonitoring, hstarted]]
    exact h
  | true =>
    obtain ⟨hsettled, hcalls⟩ := hmeets hstarted
    have hlive : (s.live.filter fun p =>
        p ∉ s.chainPollers && some p ≠ s.escrowFactoryPoller) = [] := by
      rcases h.mode with hidle | ⟨old, phase, hactive⟩
      · simp [hidle.live]
      -- the start has succeeded, and the orchestrator knows all of its pollers
      have hphase : phase = .settled true := by
        have hlast := hsettled phase (by simp [hactive.starts])
        cases phase with
        | settled ok =>
          cases ok with
          | true => rfl
          | false => exact absurd rfl hactive.going
        | _ => cases hlast
      simp [hactive.live, hactive.listed, hactive.handle, hphase, StartPhase.pollers,
        StartPhase.listed, StartPhase.handle]
    rw [Orchestrator.stopChainMonitoring, if_pos hstarted]
    exact ⟨Or.inl ⟨hlive, rfl, rfl, hsettled, hcalls, by simp⟩, h.returns⟩

lemma Sound.finishStop (h : s.Sound) (i : ℕ) : (s.finishStop i).Sound := by
  unfold Orchestrator.finishStop
  split
  · exact h
  rename_i begun hi
  rcases h.mode with hidle | ⟨old, phase, hactive⟩
  · exact ⟨Or.inl { hidle with off := fun _ => ⟨rfl, rfl⟩ }, h.returns⟩
  · rw [hactive.stops] at hi
    cases hi

lemma Sound.resume (h : s.Sound) (i : ℕ) : (s.resume i).Sound := by
  unfold Orchestrator.resume
  split
  · exact h
  · -- it returns
    rename_i hi
    have hmem := List.mem_of_getElem? hi
    rcases h.mode with hidle | ⟨old, phase, hactive⟩
    · cases hidle.calls none hmem
    refine ⟨Or.inr ⟨old, phase, { hactive with calls := fun call hcall => ?_ }⟩,
      fun monitored hmonitored => ?_⟩
    · exact hactive.calls call ((List.eraseIdx_sublist _ _).subset hcall)
    · rcases List.mem_append.1 hmonitored with hold | hnew
      · exact h.returns monitored hold
      · rw [List.mem_singleton.1 hnew]
        exact hactive.isMonitored
  · rename_i k hi
    have hmem := List.mem_of_getElem? hi
    split
    · -- its start has succeeded
      rename_i hk
      rcases h.mode with hidle | ⟨old, phase, hactive⟩
      · have hthrow := hidle.calls (some k) hmem
        simp [willThrow, hk] at hthrow
      refine ⟨Or.inr ⟨old, phase, { hactive with calls := fun call hcall => ?_ }⟩, h.returns⟩
      rcases List.mem_or_eq_of_mem_set hcall with hold | rfl
      · exact hactive.calls call hold
      · exact Or.inl rfl
    · -- its start has failed
      refine ⟨?_, h.returns⟩
      rcases h.mode with hidle | ⟨old, phase, hactive⟩
      · exact Or.inl { hidle with
          calls := fun call hcall =>
            hidle.calls call ((List.eraseIdx_sublist _ _).subset hcall) }
      · exact Or.inr ⟨old, phase, { hactive with
          calls := fun call hcall =>
            hactive.calls call ((List.eraseIdx_sublist _ _).subset hcall) }⟩
    · exact h

/-! ### Runs -/

lemma Sound.step (h : s.Sound) {x : MonitoringStep} (hmeets : s.Meets x) : (s.step x).Sound := by
  cases x with
  | onOrderStored activeOrders ok => exact h.onOrderStored hmeets ok
  | reconcile now activeOrders =>
    simp only [Orchestrator.step, reconcileChainMonitoring]
    split
    · rename_i hstop
      simp only [Bool.and_eq_true, Bool.not_eq_true'] at hstop
      exact h.stopChainMonitoring fun _ => hmeets hstop.1 hstop.2
    · exact h
  | shutdown => exact h.stopChainMonitoring hmeets
  | advance k ok => exact h.advance hmeets
  | finishStop i => exact h.finishStop i
  | resume i => exact h.resume i

lemma Sound.initial (testnet : Bool) : (initial testnet).Sound where
  mode := Or.inl ⟨rfl, rfl, rfl, by simp [Orchestrator.initial], by simp [Orchestrator.initial],
    fun _ => ⟨rfl, rfl⟩⟩
  returns := by simp [Orchestrator.initial]

/-- In a run whose steps all meet the condition there is one set of pollers at most, none when it is
quiet, and no `onOrderStored` returns without any. -/
theorem chain_monitoring_lifecycle (testnet : Bool) (steps : List MonitoringStep)
    (hsteps : ∀ n x, steps[n]? = some x → (after testnet steps n).Meets x) (n : ℕ) :
    (after testnet steps n).WellMonitored := by
  have hsound : (after testnet steps n).Sound := by
    refine Machine.stateAt_steps (fun m x s' hx hs hok => ?_) (Sound.initial testnet) n
    cases hok
    exact hs.step (hsteps m x hx)
  exact hsound.wellMonitored

/-- An order in flight. -/
def someOrder : Orders :=
  InsertionMap.empty.insert [] ⟨none, .awaitingXlmPayment, none, none, none, none, none, none, none,
    0, none, none, none, none, none, none, none⟩

/-- Two orders come, the second while the first one waits for the start; then all is settled and the
pollers are stopped. -/
def twoOrders : List MonitoringStep :=
  [.onOrderStored someOrder true, .advance 0 true, .onOrderStored someOrder true, .advance 0 true,
    .resume 1, .advance 0 true, .advance 0 true, .resume 0, .resume 0, .reconcile 0 .empty,
    .finishStop 0]

theorem chain_monitoring_lifecycle_two_orders : (after true twoOrders 11).WellMonitored := by
  refine chain_monitoring_lifecycle true twoOrders (fun n x hx => ?_) 11
  have hall : ∀ n : Fin twoOrders.length, (after true twoOrders n).Meets (twoOrders.get n) := by
    decide +kernel
  obtain ⟨hlt, rfl⟩ := List.getElem?_eq_some_iff.1 hx
  exact hall ⟨n, hlt⟩

/-- A start that fails at the contract poller leaves two pollers behind, and the next one adds its
own; a start that is stopped goes on; and an order that comes while a stop waits is not watched. -/
theorem chain_monitoring_leaks :
    ¬ (after true [.onOrderStored someOrder true, .advance 0 true, .advance 0 false,
      .advance 0 true] 4).WellMonitored ∧
    ¬ (after true [.onOrderStored someOrder true, .advance 0 true, .advance 0 false,
      .advance 0 true, .onOrderStored someOrder true, .advance 1 true] 6).WellMonitored ∧
    ¬ (after true [.onOrderStored someOrder true, .shutdown, .finishStop 0,
      .advance 0 true] 4).WellMonitored ∧
    ¬ (after true [.onOrderStored someOrder true, .advance 0 true, .advance 0 true,
      .advance 0 true, .advance 0 true, .resume 0, .resume 0, .reconcile 0 .empty,
      .onOrderStored someOrder true, .resume 0] 10).WellMonitored := by
  refine ⟨fun h => ?_, fun h => ?_, fun h => ?_, fun h => ?_⟩
  · exact absurd h.quiet (by decide +kernel)
  · exact absurd h.oneSet (by decide +kernel)
  · exact absurd h.quiet (by decide +kernel)
  · exact absurd h.returns (by decide +kernel)

end Orchestrator

end WaffleFinance.Relayer

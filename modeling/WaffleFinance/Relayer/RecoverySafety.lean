import WaffleFinance.Relayer.Recovery

/-!
# Recovery is safe

What holds of the recovery service at every point of every run.  The invariant has three parts: the
requests and the submissions that are under way (`Tidy`), the statistics (`Counted`), and what the
orchestrator was asked and has answered (`Logged`).
-/

namespace WaffleFinance.Relayer

open Lib

/-! ### The invariant -/

/-- The orchestrator has succeeded, failed for good or thrown. -/
def IsFinalAnswer (answer : Option RecoveryResult) : Prop :=
  ∀ result ∈ answer, result.success = true ∨ result.errorType ≠ some .transient

structure RecoveryRequest.Sound (r : RecoveryRequest) : Prop where
  attempts : r.attempts ≤ maxRecoveryAttempts
  pending : r.status = .pending → r.attempts < maxRecoveryAttempts
  scheduled : r.status ≠ .pending → r.nextAttemptAt = none

/-- The orchestrator has given its last answer. -/
def RecoveryRequest.isConcluded (r : RecoveryRequest) : Bool :=
  r.status = .completed || r.status = .failed || r.status = .requiresReview

def RecoveryEvent.isInvocation (orderId : Text) : RecoveryEvent → Bool
  | invoked id _ _ => id = orderId
  | returned _ _ => false

lemma RecoveryEvent.orderId_of_isInvocation {orderId : Text} {e : RecoveryEvent}
    (h : e.isInvocation orderId = true) : e.orderId = orderId := by
  cases e with
  | invoked id now next =>
    show id = orderId
    simpa [isInvocation] using h
  | returned id answer => cases h

namespace RecoveryService

/-- The requests are of different orders, and those under way are in progress, each once. -/
structure Tidy (s : RecoveryService) : Prop where
  request : ∀ (k : ℕ) (r : RecoveryRequest), s.requests[k]? = some r → r.Sound
  orders : (s.requests.map RecoveryRequest.orderId).Nodup
  running : (s.running.map Submission.request).Nodup
  active : ∀ sub ∈ s.running, ∃ r : RecoveryRequest,
    s.requests[sub.request]? = some r ∧ r.status = .inProgress

/-- The statistics count the requests. -/
structure Counted (s : RecoveryService) : Prop where
  total : s.stats.totalRecoveries = s.requests.length
  successful : s.stats.successfulRecoveries = s.requests.countP fun r => r.status = .completed
  failed : s.stats.failedRecoveries =
    s.requests.countP fun r => r.status = .failed || r.status = .requiresReview
  pending : s.stats.pendingRecoveries = s.requests.countP RecoveryRequest.isActive

/-- There is no submission after the last answer. -/
def Stops (log : List RecoveryEvent) : Prop :=
  log.Pairwise fun earlier later => ∀ orderId answer, earlier = .returned orderId answer →
    IsFinalAnswer answer → later.isInvocation orderId = false

/-- The log belongs to the requests. -/
structure Logged (s : RecoveryService) : Prop where
  attempts : ∀ (k : ℕ) (r : RecoveryRequest), s.requests[k]? = some r →
    s.log.countP (RecoveryEvent.isInvocation r.orderId) = r.attempts
  known : ∀ e ∈ s.log, e.orderId ∈ s.requests.map RecoveryRequest.orderId
  timely : ∀ orderId now nextAttemptAt, .invoked orderId now nextAttemptAt ∈ s.log →
    ∃ time, nextAttemptAt = some time ∧ time ≤ now
  concluded : ∀ orderId answer, .returned orderId answer ∈ s.log → IsFinalAnswer answer →
    ∀ (k : ℕ) (r : RecoveryRequest), s.requests[k]? = some r → r.orderId = orderId →
      r.isConcluded = true
  stops : Stops s.log

variable {s : RecoveryService} {k : ℕ} {r : RecoveryRequest} {now : ℕ}

/-- All of it. -/
structure Sound (s : RecoveryService) : Prop where
  tidy : s.Tidy
  counted : s.Counted
  logged : s.Logged

lemma Stops.append {log : List RecoveryEvent} (h : Stops log) {e : RecoveryEvent}
    (he : ∀ orderId answer, .returned orderId answer ∈ log → IsFinalAnswer answer →
      e.isInvocation orderId = false) : Stops (log ++ [e]) := by
  refine List.pairwise_append.2 ⟨h, List.pairwise_singleton .., ?_⟩
  intro earlier hearlier later hlater
  rw [List.mem_singleton] at hlater
  subst hlater
  rintro orderId answer rfl hfinal
  exact he orderId answer hearlier hfinal

/-! ### A request that is due -/

/-- Only a pending request is due, and its time has come. -/
lemma of_isDue (h : r.Sound) (hdue : r.isDue now = true) :
    r.status = .pending ∧ ∃ time, r.nextAttemptAt = some time ∧ time ≤ now := by
  simp only [RecoveryRequest.isDue, Bool.and_eq_true, Bool.or_eq_true, decide_eq_true_eq] at hdue
  obtain ⟨⟨hstatus, htime⟩, -⟩ := hdue
  rw [Option.any_eq_true] at htime
  obtain ⟨time, hnext, hle⟩ := htime
  refine ⟨?_, time, hnext, by simpa using hle⟩
  by_contra hpending
  rw [h.scheduled hpending] at hnext
  cases hnext

/-! ### A request that is replaced -/

section Replace

variable {q : RecoveryRequest} (hget : s.requests[k]? = some r)

include hget

/-- The submissions under way are those from before, of other requests, and perhaps one of this. -/
lemma Tidy.replace (h : s.Tidy) (hid : q.orderId = r.orderId) (hsound : q.Sound)
    {running : List Submission} (hnodup : (running.map Submission.request).Nodup)
    (hactive : ∀ sub ∈ running, sub ∈ s.running ∧ sub.request ≠ k ∨
      sub.request = k ∧ q.status = .inProgress)
    (stats : RecoveryStats) (sweeps : List RecoverySweep) (log : List RecoveryEvent) :
    Tidy ⟨s.requests.set k q, stats, running, sweeps, log⟩ := by
  refine ⟨fun j r₁ hget' => ?_, map_set_of_eq hget hid ▸ h.orders, hnodup, fun sub hsub => ?_⟩
  · rcases getElem?_set_cases hget' with ⟨-, rfl⟩ | ⟨-, hold⟩
    · exact hsound
    · exact h.request j r₁ hold
  · rcases hactive sub hsub with ⟨hold, hne⟩ | ⟨rfl, hstatus⟩
    · obtain ⟨r₁, hget', hstatus⟩ := h.active sub hold
      exact ⟨r₁, (List.getElem?_set_ne hne.symm).trans hget', hstatus⟩
    · exact ⟨q, getElem?_set_of_some hget _, hstatus⟩

lemma Tidy.request_ne (h : s.Tidy) (hpending : r.status = .pending) {sub : Submission}
    (hsub : sub ∈ s.running) : sub.request ≠ k := by
  rintro rfl
  obtain ⟨r₁, hget', hstatus⟩ := h.active sub hsub
  rw [hget] at hget'
  rw [← Option.some.inj hget', hpending] at hstatus
  cases hstatus

lemma countP_replace {p : RecoveryRequest → Bool} (hp : p q = p r) :
    (s.requests.set k q).countP p = s.requests.countP p := by
  have hset := countP_set_add p hget q
  rw [hp] at hset
  omega

/-- A request without a last answer is replaced, and at most one event of it is logged. -/
lemma Logged.replace (h : s.Logged) (htidy : s.Tidy) (hid : q.orderId = r.orderId)
    (hopen : r.isConcluded = false) {e : Option RecoveryEvent}
    (he : ∀ x ∈ e, x.orderId = r.orderId)
    (hattempts : r.attempts + e.toList.countP (RecoveryEvent.isInvocation r.orderId) = q.attempts)
    (htime : ∀ orderId now next, .invoked orderId now next ∈ e →
      ∃ time, next = some time ∧ time ≤ now)
    (hfinal : ∀ orderId answer, .returned orderId answer ∈ e → IsFinalAnswer answer →
      q.isConcluded = true)
    (stats : RecoveryStats) (running : List Submission) (sweeps : List RecoverySweep) :
    Logged ⟨s.requests.set k q, stats, running, sweeps, s.log ++ e.toList⟩ := by
  have hunanswered : ∀ orderId answer, .returned orderId answer ∈ s.log → IsFinalAnswer answer →
      r.orderId ≠ orderId := by
    intro orderId answer hold hanswer heq
    rw [h.concluded orderId answer hold hanswer k r hget heq] at hopen
    cases hopen
  refine ⟨fun j r₁ hget' => ?_, fun x hx => ?_, fun orderId time next hx => ?_,
    fun orderId answer hx hanswer j r₁ hget' hid' => ?_, ?_⟩
  · rw [List.countP_append]
    rcases getElem?_set_cases hget' with ⟨-, rfl⟩ | ⟨hne, hold⟩
    · rw [hid, h.attempts k r hget, hattempts]
    rw [h.attempts j r₁ hold, List.countP_eq_zero.2, Nat.add_zero]
    intro x hx hinvoked
    have horder := he x (Option.mem_toList.1 hx)
    rw [RecoveryEvent.orderId_of_isInvocation hinvoked] at horder
    exact hne (eq_of_nodup_map htidy.orders hold hget horder)
  · show x.orderId ∈ (s.requests.set k q).map _
    rw [map_set_of_eq hget hid]
    rcases List.mem_append.1 hx with hold | hnew
    · exact h.known x hold
    · rw [he x (Option.mem_toList.1 hnew)]
      exact List.mem_map_of_mem (List.mem_of_getElem? hget)
  · rcases List.mem_append.1 hx with hold | hnew
    · exact h.timely orderId time next hold
    · exact htime orderId time next (Option.mem_toList.1 hnew)
  · rcases List.mem_append.1 hx with hold | hnew <;>
      rcases getElem?_set_cases hget' with ⟨-, rfl⟩ | ⟨hne, hget''⟩
    · exact absurd (hid.symm.trans hid') (hunanswered orderId answer hold hanswer)
    · exact h.concluded orderId answer hold hanswer j r₁ hget'' hid'
    · exact hfinal orderId answer (Option.mem_toList.1 hnew) hanswer
    · have horder : orderId = r.orderId := he _ (Option.mem_toList.1 hnew)
      exact absurd (eq_of_nodup_map htidy.orders hget'' hget (hid'.trans horder)) hne
  · cases e with
    | none => simpa using h.stops
    | some x =>
      refine h.stops.append fun orderId answer hold hanswer => ?_
      by_contra hinvoked
      have horder := RecoveryEvent.orderId_of_isInvocation (by simpa using hinvoked)
      exact hunanswered orderId answer hold hanswer ((he x rfl).symm.trans horder)

end Replace

/-! ### A submission -/

lemma isConcluded_of_pending (hpending : r.status = .pending) : r.isConcluded = false := by
  simp [RecoveryRequest.isConcluded, hpending]

section Start

variable (hget : s.requests[k]? = some r) (hpending : r.status = .pending) (sweep : Option ℕ)

include hget

lemma startAttempt_eq (now : ℕ) (sweep : Option ℕ) :
    s.startAttempt now k sweep =
      { s with
        requests := s.requests.set k (r.start now)
        running := s.running ++ [⟨k, sweep⟩]
        log := s.log ++ [.invoked r.orderId now r.nextAttemptAt] } := by
  simp [startAttempt, hget]

include hpending

lemma Sound.start (h : s.Sound) (htime : ∃ time, r.nextAttemptAt = some time ∧ time ≤ now) :
    (s.startAttempt now k sweep).Sound := by
  rw [startAttempt_eq hget]
  refine ⟨h.tidy.replace (q := r.start now) hget rfl ?_ ?_ (fun sub hsub => ?_) _ _ _,
    ⟨?_, ?_, ?_, ?_⟩,
    h.logged.replace (q := r.start now) hget h.tidy rfl (isConcluded_of_pending hpending)
      (e := some (.invoked r.orderId now r.nextAttemptAt)) ?_ ?_ ?_ ?_ _ _ _⟩
  · exact ⟨(h.tidy.request k r hget).pending hpending, by simp [RecoveryRequest.start],
      fun _ => rfl⟩
  · rw [List.map_append, List.nodup_append]
    refine ⟨h.tidy.running, List.nodup_singleton _, ?_⟩
    rintro a ha b hb rfl
    obtain ⟨sub, hsub, heq⟩ := List.mem_map.1 ha
    exact h.tidy.request_ne hget hpending hsub (heq.trans (List.mem_singleton.1 hb))
  · rcases List.mem_append.1 hsub with hold | hnew
    · exact Or.inl ⟨hold, h.tidy.request_ne hget hpending hold⟩
    · rw [List.mem_singleton.1 hnew]
      exact Or.inr ⟨rfl, rfl⟩
  · rw [List.length_set]
    exact h.counted.total
  -- a request that is submitted stays active
  · rw [countP_replace hget (by simp [RecoveryRequest.start, hpending])]
    exact h.counted.successful
  · rw [countP_replace hget (by simp [RecoveryRequest.start, hpending])]
    exact h.counted.failed
  · rw [countP_replace hget (by simp [RecoveryRequest.start, RecoveryRequest.isActive, hpending])]
    exact h.counted.pending
  · rintro x ⟨⟩
    rfl
  · simp [RecoveryEvent.isInvocation, RecoveryRequest.start]
  · rintro orderId now next ⟨⟩
    exact htime
  · rintro orderId answer ⟨⟩

end Start

/-- Where the runs are does not matter. -/
lemma Sound.withSweeps (h : s.Sound) (sweeps : List RecoverySweep) :
    Sound { s with sweeps := sweeps } :=
  ⟨{ h.tidy with }, { h.counted with }, { h.logged with }⟩

/-! ### A new request -/

/-- The service with one more request. -/
def addRequest (s : RecoveryService) (r : RecoveryRequest) : RecoveryService :=
  { s with
    requests := s.requests ++ [r]
    stats := { s.stats with
      pendingRecoveries := s.stats.pendingRecoveries + 1
      totalRecoveries := s.stats.totalRecoveries + 1 } }

lemma Sound.addRequest (h : s.Sound) (hsound : r.Sound) (hpending : r.status = .pending)
    (hattempts : r.attempts = 0)
    (hnew : r.orderId ∉ s.requests.map RecoveryRequest.orderId) : (s.addRequest r).Sound where
  tidy := by
    refine ⟨fun j r' hget' => ?_, ?_, h.tidy.running, fun sub hsub => ?_⟩
    · rcases getElem?_concat_cases hget' with ⟨-, rfl⟩ | hold
      · exact hsound
      · exact h.tidy.request j r' hold
    · show ((s.requests ++ [r]).map RecoveryRequest.orderId).Nodup
      rw [List.map_append, List.nodup_append]
      refine ⟨h.tidy.orders, List.nodup_singleton _, ?_⟩
      rintro a ha b hb rfl
      rw [List.mem_singleton.1 hb] at ha
      exact hnew ha
    · obtain ⟨r', hget', hstatus⟩ := h.tidy.active sub hsub
      obtain ⟨hlt, -⟩ := List.getElem?_eq_some_iff.1 hget'
      refine ⟨r', ?_, hstatus⟩
      show (s.requests ++ [r])[sub.request]? = some r'
      rw [List.getElem?_append_left hlt]
      exact hget'
  counted := by
    refine ⟨?_, ?_, ?_, ?_⟩
    · simp [RecoveryService.addRequest, h.counted.total]
    · simp [RecoveryService.addRequest, h.counted.successful, hpending]
    · simp [RecoveryService.addRequest, h.counted.failed, hpending]
    · simp [RecoveryService.addRequest, h.counted.pending, RecoveryRequest.isActive, hpending]
  logged := by
    refine ⟨fun j r' hget' => ?_, fun e he => ?_, h.logged.timely,
      fun orderId answer he hfinal j r' hget' hid => ?_, h.logged.stops⟩
    · rcases getElem?_concat_cases hget' with ⟨-, rfl⟩ | hold
      · -- nothing is known of the order so far
        rw [hattempts, List.countP_eq_zero]
        intro e he hinvoked
        refine hnew ?_
        rw [← RecoveryEvent.orderId_of_isInvocation hinvoked]
        exact h.logged.known e he
      · exact h.logged.attempts j r' hold
    · show e.orderId ∈ (s.requests ++ [r]).map RecoveryRequest.orderId
      rw [List.map_append]
      exact List.mem_append_left _ (h.logged.known e he)
    · rcases getElem?_concat_cases hget' with ⟨-, rfl⟩ | hold
      · have hknown := h.logged.known _ he
        rw [show RecoveryEvent.orderId (.returned orderId answer) = r'.orderId from hid.symm]
          at hknown
        exact absurd hknown hnew
      · exact h.logged.concluded orderId answer he hfinal j r' hold hid

lemma Sound.executeRecovery {s' : RecoveryService} {orderId status type random : Text}
    (h : s.Sound) (hok : s.executeRecovery now orderId status type random = .ok s') :
    s'.Sound := by
  unfold RecoveryService.executeRecovery at hok
  split at hok
  · cases hok
  split at hok
  · cases hok
  rename_i hfind
  cases hok
  have hnew : orderId ∉ s.requests.map RecoveryRequest.orderId := by
    intro hmem
    obtain ⟨r, hr, hid⟩ := List.mem_map.1 hmem
    exact absurd hid (by simpa using List.find?_eq_none.1 hfind r hr)
  have hadded := h.addRequest (r := newRequest now orderId type random)
    ⟨Nat.zero_le _, fun _ => Nat.succ_pos 4, fun hne => absurd rfl hne⟩ rfl rfl hnew
  refine hadded.start (r := newRequest now orderId type random) ?_ rfl none ⟨now, rfl, le_rfl⟩
  simp [RecoveryService.addRequest]

/-! ### A request that is cancelled -/

lemma Sound.cancel (h : s.Sound) (hget : s.requests[k]? = some r) (hpending : r.status = .pending)
    (now : ℕ) :
    Sound { s with
      requests := s.requests.set k (r.cancel now)
      stats := { s.stats with pendingRecoveries := s.stats.pendingRecoveries - 1 } } := by
  have hlogged := h.logged.replace (q := r.cancel now) hget h.tidy rfl
    (isConcluded_of_pending hpending) (e := none) (by simp) rfl (by simp) (by simp)
    { s.stats with pendingRecoveries := s.stats.pendingRecoveries - 1 } s.running s.sweeps
  refine ⟨h.tidy.replace (q := r.cancel now) hget rfl ?_ h.tidy.running
    (fun sub hsub => Or.inl ⟨hsub, h.tidy.request_ne hget hpending hsub⟩) _ _ _,
    ⟨?_, ?_, ?_, ?_⟩, by simpa using hlogged⟩
  · exact ⟨(h.tidy.request k r hget).attempts, by simp [RecoveryRequest.cancel], fun _ => rfl⟩
  · rw [List.length_set]
    exact h.counted.total
  · rw [countP_replace hget (by simp [RecoveryRequest.cancel, hpending])]
    exact h.counted.successful
  · rw [countP_replace hget (by simp [RecoveryRequest.cancel, hpending])]
    exact h.counted.failed
  · have hcount := countP_set_add RecoveryRequest.isActive hget (r.cancel now)
    simp only [RecoveryRequest.isActive, RecoveryRequest.cancel, hpending] at hcount
    have hstats := h.counted.pending
    show s.stats.pendingRecoveries - 1 = (s.requests.set k _).countP RecoveryRequest.isActive
    simp [RecoveryRequest.cancel] at hcount ⊢
    omega

lemma Sound.advance (h : s.Sound) (now j : ℕ) (status : Text) :
    (s.advance now j status).Sound := by
  unfold RecoveryService.advance
  split
  · exact h
  rename_i w hw
  split
  · exact h
  split
  · exact h
  rename_i r hget
  split
  · exact h.withSweeps _
  rename_i hdue
  obtain ⟨hpending, htime⟩ := of_isDue (h.tidy.request _ r hget) (by simpa using hdue)
  split
  · exact (h.cancel hget hpending now).withSweeps _
  · exact Sound.start (s := { s with sweeps := s.sweeps.set j { w with waiting := true } })
      hget hpending (some j) (h.withSweeps _) htime

/-! ### An answer -/

section Settle

variable {result : RecoveryResult} {backoff : ℕ}

/-- What an answer makes of a request: a success ends it, a transient failure may leave it pending,
and every other failure stops it. -/
lemma conclude_cases (r : RecoveryRequest) (now backoff : ℕ) (result : RecoveryResult) :
    (result.success = true ∧ r.conclude now backoff result =
      { r with updatedAt := now, chain := result.chain, status := .completed }) ∨
    (result.success = false ∧ r.isRetried result = true ∧ r.conclude now backoff result =
      { r with
        updatedAt := now, chain := result.chain, status := .pending
        nextAttemptAt := some (now + backoff) }) ∨
    (result.success = false ∧ r.isRetried result = false ∧
      ∃ status, (status = .failed ∨ status = .requiresReview) ∧ r.conclude now backoff result =
        { r with updatedAt := now, chain := result.chain, status := status }) := by
  have hsame : RecoveryRequest.isRetried { r with updatedAt := now, chain := result.chain } result =
      r.isRetried result := rfl
  unfold RecoveryRequest.conclude
  cases hsuccess : result.success with
  | true => exact Or.inl ⟨rfl, rfl⟩
  | false =>
    cases hretried : r.isRetried result with
    | true =>
      refine Or.inr (Or.inl ⟨rfl, rfl, ?_⟩)
      simp [hsame, hretried]
    | false =>
      refine Or.inr (Or.inr ⟨rfl, rfl, ?_⟩)
      simp only [hsame, hretried, Bool.false_eq_true, if_false]
      split
      · exact ⟨.failed, Or.inl rfl, rfl⟩
      · exact ⟨.requiresReview, Or.inr rfl, rfl⟩

lemma conclude_orderId : (r.conclude now backoff result).orderId = r.orderId := by
  obtain ⟨-, h⟩ | ⟨-, -, h⟩ | ⟨-, -, status, -, h⟩ := conclude_cases r now backoff result
  all_goals rw [h]

lemma conclude_attempts : (r.conclude now backoff result).attempts = r.attempts := by
  obtain ⟨-, h⟩ | ⟨-, -, h⟩ | ⟨-, -, status, -, h⟩ := conclude_cases r now backoff result
  all_goals rw [h]

lemma sound_conclude (h : r.Sound) (hstatus : r.status = .inProgress) :
    (r.conclude now backoff result).Sound := by
  have hnone : r.nextAttemptAt = none := h.scheduled (by simp [hstatus])
  obtain ⟨-, heq⟩ | ⟨-, hretried, heq⟩ | ⟨-, -, status, hstopped, heq⟩ :=
    conclude_cases r now backoff result
  · rw [heq]
    exact ⟨h.attempts, by simp, fun _ => hnone⟩
  · rw [heq]
    simp only [RecoveryRequest.isRetried, Bool.and_eq_true, decide_eq_true_eq] at hretried
    exact ⟨h.attempts, fun _ => hretried.2, by simp⟩
  · rw [heq]
    refine ⟨h.attempts, fun hpending => ?_, fun _ => hnone⟩
    rcases hstopped with rfl | rfl
    · cases hpending
    · cases hpending

lemma isConcluded_conclude {answer : Option RecoveryResult} (hfinal : IsFinalAnswer answer) :
    (r.conclude now backoff (answer.getD (thrownResult r.chain))).isConcluded = true := by
  obtain ⟨-, heq⟩ | ⟨hsuccess, hretried, -⟩ | ⟨-, -, status, hstopped, heq⟩ :=
    conclude_cases r now backoff (answer.getD (thrownResult r.chain))
  · rw [heq]
    rfl
  · simp only [RecoveryRequest.isRetried, Bool.and_eq_true, decide_eq_true_eq] at hretried
    cases answer with
    | none => simp [thrownResult] at hretried
    | some result =>
      rcases hfinal result rfl with hsucceeded | hlast
      · rw [Option.getD_some, hsucceeded] at hsuccess
        cases hsuccess
      · exact absurd hretried.1.2 hlast
  · rw [heq]
    rcases hstopped with rfl | rfl
    · rfl
    · rfl

variable {sub : Submission} (hsub : s.running[k]? = some sub)
  (hget : s.requests[sub.request]? = some r) (hstatus : r.status = .inProgress)

include hsub hget hstatus

lemma Tidy.settle (h : s.Tidy) (stats : RecoveryStats) (sweeps : List RecoverySweep)
    (log : List RecoveryEvent) :
    Tidy ⟨s.requests.set sub.request (r.conclude now backoff result), stats,
      s.running.eraseIdx k, sweeps, log⟩ := by
  refine h.replace hget conclude_orderId (sound_conclude (h.request _ r hget) hstatus) ?_
    (fun other hother => ?_) _ _ _
  · rw [← List.eraseIdx_map]
    exact h.running.eraseIdx k
  · -- another submission is of another request
    obtain ⟨i, hik, hi⟩ := List.mem_eraseIdx_iff_getElem?.1 hother
    exact Or.inl ⟨List.mem_of_getElem? hi, fun heq => hik (eq_of_nodup_map h.running hi hsub heq)⟩

omit hsub

lemma Counted.settle (h : s.Counted) (running : List Submission) (sweeps : List RecoverySweep)
    (log : List RecoveryEvent) :
    Counted ⟨s.requests.set sub.request (r.conclude now backoff result),
      s.concludeStats now r result (s.requests.set sub.request (r.conclude now backoff result)),
      running, sweeps, log⟩ := by
  have hset := fun p => countP_set_add p hget (r.conclude now backoff result)
  have hcompleted := hset fun r => r.status = .completed
  have hfailed := hset fun r => r.status = .failed || r.status = .requiresReview
  have hlength : (s.requests.set sub.request (r.conclude now backoff result)).length =
      s.requests.length := List.length_set
  obtain ⟨hsuccess, heq⟩ | ⟨hsuccess, hretried, heq⟩ |
      ⟨hsuccess, hretried, status, hstopped, heq⟩ := conclude_cases r now backoff result
  · simp only [heq, hstatus] at hcompleted hfailed
    refine ⟨?_, ?_, ?_, ?_⟩
    · simpa [concludeStats, hsuccess, hlength] using h.total
    · simpa [concludeStats, hsuccess, heq, h.successful] using hcompleted.symm
    · simpa [concludeStats, hsuccess, heq, h.failed] using hfailed.symm
    · simp [concludeStats]
  · simp only [heq, hstatus] at hcompleted hfailed
    refine ⟨?_, ?_, ?_, ?_⟩
    · simpa [concludeStats, hsuccess, hretried, hlength] using h.total
    · simpa [concludeStats, hsuccess, hretried, heq, h.successful] using hcompleted.symm
    · simpa [concludeStats, hsuccess, hretried, heq, h.failed] using hfailed.symm
    · simp [concludeStats]
  · have hnot : status ≠ .completed := by
      rcases hstopped with rfl | rfl
      · simp
      · simp
    simp only [heq, hstatus] at hcompleted hfailed
    refine ⟨?_, ?_, ?_, ?_⟩
    · simpa [concludeStats, hsuccess, hretried, hlength] using h.total
    · simpa [concludeStats, hsuccess, hretried, heq, h.successful, hnot] using hcompleted.symm
    · simpa [concludeStats, hsuccess, hretried, heq, h.failed, hstopped] using hfailed.symm
    · simp [concludeStats]

lemma Logged.settle (h : s.Logged) (htidy : s.Tidy) (answer : Option RecoveryResult)
    (stats : RecoveryStats) (running : List Submission) (sweeps : List RecoverySweep) :
    Logged ⟨s.requests.set sub.request
        (r.conclude now backoff (answer.getD (thrownResult r.chain))), stats, running, sweeps,
      s.log ++ [.returned r.orderId answer]⟩ := by
  refine h.replace hget htidy conclude_orderId (by simp [RecoveryRequest.isConcluded, hstatus])
    (e := some (.returned r.orderId answer)) ?_ ?_ ?_ ?_ _ _ _
  · rintro x ⟨⟩
    rfl
  · simp [RecoveryEvent.isInvocation, conclude_attempts]
  · rintro orderId now next ⟨⟩
  · rintro orderId answer' ⟨⟩ hfinal
    exact isConcluded_conclude hfinal

end Settle

lemma Sound.settle (h : s.Sound) (now k : ℕ) (answer : Option RecoveryResult) (backoff : ℕ) :
    (s.settle now k answer backoff).Sound := by
  unfold RecoveryService.settle
  split
  · exact h
  rename_i sub hsub
  split
  · exact h
  rename_i r hget
  obtain ⟨r', hget', hstatus⟩ := h.tidy.active sub (List.mem_of_getElem? hsub)
  rw [hget] at hget'
  cases hget'
  exact ⟨h.tidy.settle hsub hget hstatus _ _ _, h.counted.settle hget hstatus _ _ _,
    h.logged.settle hget hstatus h.tidy answer _ _ _⟩

/-! ### A whole run -/

lemma sound_initial : initial.Sound where
  tidy := ⟨by simp [initial], by simp [initial], by simp [initial], by simp [initial]⟩
  counted := ⟨rfl, rfl, rfl, rfl⟩
  logged :=
    ⟨by simp [initial], by simp [initial], by simp [initial], by simp [initial], List.Pairwise.nil⟩

lemma Sound.exec {s' : RecoveryService} (h : s.Sound) (c : RecoveryStep × ℕ)
    (hok : RecoveryService.exec c s = .ok s') : s'.Sound := by
  obtain ⟨c, now⟩ := c
  cases c with
  | execute orderId status type random => exact h.executeRecovery hok
  | process =>
    cases hok
    exact h.withSweeps _
  | advance sweep status =>
    cases hok
    exact h.advance now sweep status
  | settle k answer backoff =>
    cases hok
    exact h.settle now k answer backoff

lemma sound_after (steps : List (RecoveryStep × ℕ)) (n : ℕ) : (after steps n).Sound :=
  Machine.stateAt_invariant (M := machine) (fun c _ _ _ h hok => h.exec c hok) sound_initial n

lemma length_eq_countP (l : List RecoveryRequest) :
    l.length = l.countP (fun r => r.status = .completed) +
      l.countP (fun r => r.status = .failed || r.status = .requiresReview) +
      l.countP (fun r => r.status = .cancelled) + l.countP RecoveryRequest.isActive := by
  induction l with
  | nil => rfl
  | cons r l ih =>
    simp only [List.length_cons, List.countP_cons, RecoveryRequest.isActive, ih]
    obtain ⟨id, orderId, type, status, chain, updatedAt, attempts, last, next⟩ := r
    cases status <;> simp <;> omega

lemma Tidy.running_unique (h : s.Tidy) {sub sub' : Submission} {r' : RecoveryRequest} {i j : ℕ}
    (hi : s.running[i]? = some sub) (hj : s.running[j]? = some sub')
    (hr : s.requests[sub.request]? = some r) (hr' : s.requests[sub'.request]? = some r')
    (hid : r.orderId = r'.orderId) : i = j :=
  eq_of_nodup_map h.running hi hj (eq_of_nodup_map h.orders hr hr' hid)

end RecoveryService

open RecoveryService

/-- The service over every run: each order has at most one request, and the orchestrator is asked
for it at most five times, once at a time, not before the time that the request has, and not after
its last answer; and the statistics are right. -/
theorem recovery_executes_safely (steps : List (RecoveryStep × ℕ)) (n : ℕ) :
    ((after steps n).requests.map RecoveryRequest.orderId).Nodup ∧
    (∀ orderId, (after steps n).log.countP (RecoveryEvent.isInvocation orderId) ≤ 5) ∧
    (∀ (i j : ℕ) (sub sub' : Submission) (r r' : RecoveryRequest),
      (after steps n).running[i]? = some sub → (after steps n).running[j]? = some sub' →
      (after steps n).requests[sub.request]? = some r →
      (after steps n).requests[sub'.request]? = some r' → r.orderId = r'.orderId → i = j) ∧
    (∀ orderId now nextAttemptAt, .invoked orderId now nextAttemptAt ∈ (after steps n).log →
      ∃ time, nextAttemptAt = some time ∧ time ≤ now) ∧
    Stops (after steps n).log ∧
    (after steps n).stats.pendingRecoveries =
      (after steps n).requests.countP (fun r => r.status = .pending || r.status = .inProgress) ∧
    (after steps n).stats.totalRecoveries =
      (after steps n).stats.successfulRecoveries + (after steps n).stats.failedRecoveries +
        (after steps n).requests.countP (fun r => r.status = .cancelled) +
        (after steps n).stats.pendingRecoveries := by
  have hsound := sound_after steps n
  refine ⟨hsound.tidy.orders, fun orderId => ?_, ?_, hsound.logged.timely, hsound.logged.stops,
    hsound.counted.pending, ?_⟩
  · by_cases hknown : orderId ∈ (after steps n).requests.map RecoveryRequest.orderId
    · obtain ⟨r, hr, rfl⟩ := List.mem_map.1 hknown
      obtain ⟨k, hk⟩ := List.mem_iff_getElem?.1 hr
      rw [hsound.logged.attempts k r hk]
      exact (hsound.tidy.request k r hk).attempts
    · rw [List.countP_eq_zero.2]
      · exact Nat.zero_le 5
      · intro e he hinvoked
        refine hknown ?_
        rw [← RecoveryEvent.orderId_of_isInvocation hinvoked]
        exact hsound.logged.known e he
  · exact fun i j sub sub' r r' hi hj hr hr' hid => hsound.tidy.running_unique hi hj hr hr' hid
  · rw [hsound.counted.total, hsound.counted.successful, hsound.counted.failed,
      hsound.counted.pending]
    exact length_eq_countP _

end WaffleFinance.Relayer

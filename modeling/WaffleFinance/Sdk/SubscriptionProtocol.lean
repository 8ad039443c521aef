import WaffleFinance.Sdk.OrderSubscriber

/-!
# The protocol of a subscription

When a subscriber keeps to the protocol.  `Regular` says what an answer may show: an order is not
settled already in the first answer, the status is one that the subscriber knows to be terminal, and
the secret does not come together with the end.  After `stop` an answer shows nothing new (`Stale`),
a handler stops the subscriber only for the last event of an answer, and with `stopOnTerminal` off
no interval passes after the settlement.
-/

namespace WaffleFinance.Sdk

open Lib Coordinator SubscriptionEntry

/-! ### One more entry -/

namespace FollowsProtocol

variable {log : List SubscriptionEntry} {x : SubscriptionEntry}

lemma mem_observed_concat {record : PolledOrder} (h : record ∈ observed (log ++ [x])) :
    record ∈ observed log ∨ (x = .handled record ∧ .stopReturned ∉ log) := by
  by_cases hstop : .stopReturned ∈ log
  · left
    have hshort : ¬ (log.takeWhile (· ≠ .stopReturned)).length = log.length := by
      intro hlength
      have hall := List.takeWhile_eq_self_iff.1
        ((List.takeWhile_sublist _).eq_of_length hlength)
      exact absurd (hall _ hstop) (by simp)
    rw [observed, List.takeWhile_append, if_neg hshort] at h
    exact h
  · obtain ⟨y, hy, hrecord⟩ := List.mem_filterMap.1 h
    have hentry : y = .handled record := by
      cases y <;> simp_all [SubscriptionEntry.record]
    subst hentry
    rcases List.mem_append.1 ((List.takeWhile_sublist _).subset hy) with hold | hnew
    · left
      have hself : log.takeWhile (· ≠ .stopReturned) = log := by
        refine List.takeWhile_eq_self_iff.2 fun z hz => ?_
        have hne : z ≠ .stopReturned := fun heq => hstop (heq ▸ hz)
        simpa using hne
      rw [observed, hself]
      exact List.mem_filterMap.2 ⟨_, hold, rfl⟩
    · exact Or.inr ⟨(List.mem_singleton.1 hnew).symm, hstop⟩

/-- When an entry may come next. -/
lemma concat (h : FollowsProtocol log)
    (hchange : ∀ c, x.change = some c →
      ∀ last, (log.filterMap change).getLast? = some last → last.2 = c.1)
    (hsecret : x.isSecret = true → log.countP isSecret = 0)
    (hsettled : x.isSettled = true → log.countP isSettled = 0)
    (hpolled : x = .polled → log.countP isSettled = 0)
    (hemitted : x.isEmitted = true → .stopReturned ∉ log)
    (hhandled : ∀ record, x = .handled record → .stopReturned ∉ log →
      (record.secret.revealed = true → log.countP isSecret = 1) ∧
      (isTerminal record.status = true → log.countP isSettled = 1)) :
    FollowsProtocol (log ++ [x]) where
  chain := by
    rw [List.filterMap_append]
    cases hx : x.change with
    | none =>
      simp only [List.filterMap_cons, hx, List.filterMap_nil, List.append_nil]
      exact h.chain
    | some c =>
      simp only [List.filterMap_cons, hx, List.filterMap_nil]
      refine List.isChain_append.2 ⟨h.chain, List.isChain_singleton c, ?_⟩
      intro last hlast c' hc'
      rw [List.head?_cons, Option.mem_some_iff] at hc'
      subst hc'
      exact hchange c hx last hlast
  secret := by
    rw [List.countP_append, List.countP_singleton]
    split
    · rename_i hx
      rw [hsecret hx]
    · exact h.secret
  secretTold := by
    intro record hrecord hrevealed
    have hle : log.countP isSecret ≤ 1 := h.secret
    rw [List.countP_append, List.countP_singleton]
    rcases mem_observed_concat hrecord with hold | ⟨rfl, hstop⟩
    · have hone := h.secretTold record hold hrevealed
      split
      · rename_i hx
        rw [hsecret hx] at hone
        cases hone
      · exact hone
    · exact ((hhandled record rfl hstop).1 hrevealed)
  settled := by
    rw [List.countP_append, List.countP_singleton]
    split
    · rename_i hx
      rw [hsettled hx]
    · exact h.settled
  settledTold := by
    intro record hrecord hterminal
    rw [List.countP_append, List.countP_singleton]
    rcases mem_observed_concat hrecord with hold | ⟨rfl, hstop⟩
    · have hone := h.settledTold record hold hterminal
      split
      · rename_i hx
        rw [hsettled hx] at hone
        cases hone
      · exact hone
    · exact ((hhandled record rfl hstop).2 hterminal)
  finished := by
    refine List.pairwise_append.2 ⟨h.finished, List.pairwise_singleton .., ?_⟩
    intro a ha b hb hsettled' hpoll
    rw [List.mem_singleton.1 hb] at hpoll
    exact List.countP_eq_zero.1 (hpolled hpoll) a ha hsettled'
  silent := by
    refine List.pairwise_append.2 ⟨h.silent, List.pairwise_singleton .., ?_⟩
    rintro a ha b hb rfl
    rw [List.mem_singleton.1 hb]
    by_contra hx
    exact hemitted (by simpa using hx) ha

lemma nil : FollowsProtocol [] := by
  constructor <;> simp [observed]

lemma stopReturned (h : FollowsProtocol log) : FollowsProtocol (log ++ [.stopReturned]) := by
  refine h.concat ?_ ?_ ?_ ?_ ?_ ?_ <;> simp [change, isSecret, isSettled, isEmitted]

/-- An event that is not about the order. -/
lemma notice (h : FollowsProtocol log) (hstop : .stopReturned ∉ log) {e : SubscriptionEvent}
    (hchange : (emitted e).change = none) (hsecret : (emitted e).isSecret = false)
    (hsettled : (emitted e).isSettled = false) : FollowsProtocol (log ++ [.emitted e]) := by
  refine h.concat ?_ ?_ ?_ ?_ (fun _ => hstop) ?_ <;> simp [hchange, hsecret, hsettled]

end FollowsProtocol

namespace OrderSubscriber

variable {quits : SubscriptionEvent → Bool} {s : OrderSubscriber} {e : SubscriptionEvent}
  {record : PolledOrder}

/-! ### Stopping and telling -/

lemma farewell_follows (h : FollowsProtocol s.log) (hstop : .stopReturned ∉ s.log) :
    FollowsProtocol (s.log ++ s.farewell quits) := by
  have htold := (h.notice hstop (e := .stopped .manual) rfl rfl rfl).stopReturned
  unfold farewell
  split
  · split
    · simpa using htold.stopReturned
    · simpa using htold
  · exact h.stopReturned

@[simp] lemma changes_farewell :
    (s.farewell quits).filterMap change = [] := by
  unfold farewell
  split
  · split <;> rfl
  · rfl

@[simp] lemma secrets_farewell : (s.farewell quits).countP isSecret = 0 := by
  unfold farewell
  split
  · split <;> rfl
  · rfl

@[simp] lemma settlements_farewell : (s.farewell quits).countP isSettled = 0 := by
  unfold farewell
  split
  · split <;> rfl
  · rfl

@[simp] lemma stopReturned_mem_farewell : .stopReturned ∈ s.farewell quits := by
  unfold farewell
  split
  · split <;> simp
  · simp

section Emit

variable (quits s e)

lemma emit_eq_of_quits (h : quits e = true) :
    s.emit quits e = stop quits { s with log := s.log ++ [.emitted e] } := by
  simp [emit, h]

lemma emit_eq_of_not_quits (h : quits e = false) :
    s.emit quits e = { s with log := s.log ++ [.emitted e] } := by
  simp [emit, h]

@[simp] lemma lastStatus_emit : (s.emit quits e).lastStatus = s.lastStatus := by
  unfold emit
  split <;> rfl

@[simp] lemma lastSecretRevealed_emit :
    (s.emit quits e).lastSecretRevealed = s.lastSecretRevealed := by
  unfold emit
  split <;> rfl

@[simp] lemma stopOnTerminal_emit : (s.emit quits e).stopOnTerminal = s.stopOnTerminal := by
  unfold emit
  split <;> rfl

@[simp] lemma changes_emit :
    (s.emit quits e).log.filterMap change =
      s.log.filterMap change ++ (emitted e).change.toList := by
  unfold emit
  split <;> cases hc : (emitted e).change <;> simp [stop, hc]

@[simp] lemma secrets_emit :
    (s.emit quits e).log.countP isSecret =
      s.log.countP isSecret + if (emitted e).isSecret then 1 else 0 := by
  unfold emit
  split <;> simp [stop, List.countP_cons]

@[simp] lemma settlements_emit :
    (s.emit quits e).log.countP isSettled =
      s.log.countP isSettled + if (emitted e).isSettled then 1 else 0 := by
  unfold emit
  split <;> simp [stop, List.countP_cons]

lemma stopReturned_mem_emit :
    .stopReturned ∈ (s.emit quits e).log ↔ .stopReturned ∈ s.log ∨ quits e = true := by
  unfold emit
  split
  · rename_i h
    simp [stop, h]
  · rename_i h
    simp [h]

lemma timer_emit (h : s.timer = false) : (s.emit quits e).timer = false := by
  unfold emit
  split
  · rfl
  · exact h

variable {s e}

lemma going_emit (hgoing : .stopReturned ∉ s.log) (hquits : quits e = false) :
    .stopReturned ∉ (s.emit quits e).log := by
  rw [stopReturned_mem_emit, hquits]
  simpa using hgoing

/-- After a handler has called `stop` the subscriber is off. -/
lemma off_emit (hgoing : .stopReturned ∉ s.log) (hstop : .stopReturned ∈ (s.emit quits e).log) :
    (s.emit quits e).running = false ∧ (s.emit quits e).timer = false := by
  have hquits := ((stopReturned_mem_emit quits s e).1 hstop).resolve_left hgoing
  rw [emit_eq_of_quits quits s e hquits]
  exact ⟨rfl, rfl⟩

end Emit

lemma emit_follows (h : FollowsProtocol s.log) (hstop : .stopReturned ∉ s.log)
    (hchange : ∀ c, (emitted e).change = some c →
      ∀ last, (s.log.filterMap change).getLast? = some last → last.2 = c.1)
    (hsecret : (emitted e).isSecret = true → s.log.countP isSecret = 0)
    (hsettled : (emitted e).isSettled = true → s.log.countP isSettled = 0) :
    FollowsProtocol (s.emit quits e).log := by
  have htold : FollowsProtocol (s.log ++ [.emitted e]) :=
    h.concat hchange hsecret hsettled (by simp) (fun _ => hstop) (by simp)
  unfold emit
  split
  · exact @farewell_follows quits { s with log := s.log ++ [.emitted e] } htold
      (by simpa using hstop)
  · exact htold

/-! ### The condition -/

/-- The events that tell of the secret. -/
def revelation (s : OrderSubscriber) (record : PolledOrder) : List SubscriptionEvent :=
  if !s.lastSecretRevealed && record.secret.revealed then
    [.secretRevealed record.secret.preimage record.secret.revealedTx record]
  else []

/-- The events of an answer. -/
def announcements (s : OrderSubscriber) : PollAnswer → List SubscriptionEvent
  | .failed =>
    .error (s.consecutiveErrors + 1) ::
      if 0 < s.maxConsecutiveErrors ∧ s.maxConsecutiveErrors ≤ s.consecutiveErrors + 1 then
        [.stopped .maxErrors]
      else []
  | .notFound => [.error 0]
  | .order record =>
    match s.lastStatus with
    | none => s.revelation record
    | some last =>
      if last = record.status then s.revelation record
      else
        .statusChanged last record.status record ::
          if settles record.status then
            .settled record.status record ::
              if s.stopOnTerminal then [.stopped .terminal] else s.revelation record
          else s.revelation record

/-- The answer ends the subscription. -/
def ends (s : OrderSubscriber) (record : PolledOrder) : Bool :=
  s.stopOnTerminal && settles record.status && s.lastStatus.any (· ≠ record.status)

/-- The settlement has been told. -/
def hasSettled (s : OrderSubscriber) : Bool := s.log.any isSettled

/-- The secret has been told. -/
def hasTold (s : OrderSubscriber) : Bool := s.log.any isSecret

/-- The answer has nothing new. -/
def Stale (s : OrderSubscriber) : PollAnswer → Prop
  | .order record =>
    (∀ last ∈ s.lastStatus, last = record.status) ∧
      (record.secret.revealed = true → s.lastSecretRevealed = true)
  | _ => False

/-- A terminal status is not in the first answer, is one of those that the subscriber knows, and is
not left for another one; and the secret is not hidden again or shown first at the end. -/
def Regular (s : OrderSubscriber) : PollAnswer → Prop
  | .order record =>
    (isTerminal record.status = true → s.hasSettled = false →
      s.lastStatus ≠ none ∧ settles record.status = true) ∧
    (settles record.status = true → s.hasSettled = true → s.lastStatus = some record.status) ∧
    (record.secret.revealed = true → s.lastSecretRevealed = false →
      s.hasTold = s.ends record)
  | _ => True

/-- The condition on a step. -/
def Meets (s : OrderSubscriber) : SubscriberStep → Prop
  | .tick => s.hasSettled = true → s.stopOnTerminal = true
  | .answer answer quits =>
    s.requests ≠ 0 →
      (if .stopReturned ∈ s.log then s.Stale answer else s.Regular answer) ∧
        ∀ e ∈ (s.announcements answer).dropLast, quits e = false
  | .stop _ => True

instance decidableStale (s : OrderSubscriber) (answer : PollAnswer) :
    Decidable (s.Stale answer) :=
  match answer with
  | .failed => inferInstanceAs (Decidable False)
  | .notFound => inferInstanceAs (Decidable False)
  | .order record => inferInstanceAs (Decidable (_ ∧ (record.secret.revealed = true → _)))

instance decidableRegular (s : OrderSubscriber) (answer : PollAnswer) :
    Decidable (s.Regular answer) :=
  match answer with
  | .failed => inferInstanceAs (Decidable True)
  | .notFound => inferInstanceAs (Decidable True)
  | .order record => inferInstanceAs (Decidable ((isTerminal record.status = true → _) ∧ _))

instance decidableMeets (s : OrderSubscriber) (x : SubscriberStep) : Decidable (s.Meets x) :=
  match x with
  | .tick => inferInstanceAs (Decidable (s.hasSettled = true → _))
  | .answer _ _ => inferInstanceAs (Decidable (s.requests ≠ 0 → _))
  | .stop _ => inferInstanceAs (Decidable True)

/-! ### The invariant -/

structure Sound (s : OrderSubscriber) : Prop where
  follows : FollowsProtocol s.log
  last : ∀ c, (s.log.filterMap change).getLast? = some c → s.lastStatus = some c.2
  told : s.lastSecretRevealed = true → s.log.countP isSecret = 1
  unsettled : .stopReturned ∉ s.log → s.log.countP isSettled = 0 →
    ∀ status ∈ s.lastStatus, isTerminal status = false
  off : .stopReturned ∈ s.log → s.running = false ∧ s.timer = false
  finished : s.log.countP isSettled ≠ 0 → s.stopOnTerminal = true → s.timer = false

lemma hasSettled_eq_false : s.hasSettled = false ↔ s.log.countP isSettled = 0 := by
  simp [hasSettled, List.countP_eq_zero]

lemma hasTold_eq_false : s.hasTold = false ↔ s.log.countP isSecret = 0 := by
  simp [hasTold, List.countP_eq_zero]

/-- An answer in the middle: what is known when only the secret is left to tell. -/
structure Concluding (s : OrderSubscriber) (record : PolledOrder) : Prop where
  follows : FollowsProtocol s.log
  going : .stopReturned ∈ s.log → s.revelation record = []
  off : .stopReturned ∈ s.log → s.running = false ∧ s.timer = false
  last : ∀ c, (s.log.filterMap change).getLast? = some c → c.2 = record.status
  told : s.lastSecretRevealed = true → s.log.countP isSecret = 1
  untold : s.lastSecretRevealed = false → record.secret.revealed = true →
    s.log.countP isSecret = 0
  settled : isTerminal record.status = true → s.log.countP isSettled = 1
  finished : s.log.countP isSettled ≠ 0 → s.stopOnTerminal = true → s.timer = false

/-- The answer is dealt with. -/
lemma Sound.handle (h : Sound s)
    (hrecord : .stopReturned ∉ s.log →
      (record.secret.revealed = true → s.log.countP isSecret = 1) ∧
      (isTerminal record.status = true → s.log.countP isSettled = 1)) :
    Sound { s with log := s.log ++ [.handled record] } where
  follows := by
    refine h.follows.concat (by simp [change]) (by simp [isSecret]) (by simp [isSettled])
      (by simp) (by simp [isEmitted]) ?_
    rintro record' heq hstop
    cases heq
    exact hrecord hstop
  last := by simpa [change] using h.last
  told := by simpa [isSecret] using h.told
  unsettled := by simpa [isSettled] using h.unsettled
  off := by simpa using h.off
  finished := by simpa [isSettled] using h.finished

lemma Concluding.sound (h : Concluding s record) :
    Sound { s.conclude quits record with
      log := (s.conclude quits record).log ++ [.handled record] } := by
  have hterminal : s.log.countP isSettled = 0 → isTerminal record.status = false := by
    intro hzero
    by_contra hterminal
    have hone := h.settled (by simpa using hterminal)
    omega
  by_cases hnew : s.lastSecretRevealed = false ∧ record.secret.revealed = true
  · obtain ⟨hlast, hrevealed⟩ := hnew
    have hzero := h.untold hlast hrevealed
    set e : SubscriptionEvent :=
      .secretRevealed record.secret.preimage record.secret.revealedTx record with he
    have hgoing : .stopReturned ∉ s.log := by
      intro hstop
      have hnone := h.going hstop
      simp [revelation, hlast, hrevealed] at hnone
    have hconclude : s.conclude quits record =
        { s.emit quits e with lastStatus := some record.status, lastSecretRevealed := true } := by
      simp [conclude, hlast, hrevealed, he]
    have hchanges : (s.emit quits e).log.filterMap change = s.log.filterMap change := by
      simp [he, change]
    have hone : (s.emit quits e).log.countP isSecret = 1 := by
      simp [hzero, he, isSecret]
    have hsettled : (s.emit quits e).log.countP isSettled = s.log.countP isSettled := by
      simp [he, isSettled]
    rw [hconclude]
    refine Sound.handle ⟨?_, ?_, ?_, ?_, ?_, ?_⟩ ?_
    · exact emit_follows h.follows hgoing (by simp [he, change]) (fun _ => hzero)
        (by simp [he, isSettled])
    · intro c hc
      rw [hchanges] at hc
      rw [h.last c hc]
    · exact fun _ => hone
    · intro _ hnone status hstatus
      rw [hsettled] at hnone
      cases hstatus
      exact hterminal hnone
    · exact off_emit quits hgoing
    · intro hsome hstopOn
      rw [hsettled] at hsome
      exact timer_emit quits s e (h.finished hsome (by simpa using hstopOn))
    · intro _
      exact ⟨fun _ => hone, fun ht => hsettled.trans (h.settled ht)⟩
  · have hconclude : s.conclude quits record =
        { s with
          lastStatus := some record.status, lastSecretRevealed := record.secret.revealed } := by
      have hcond : (!s.lastSecretRevealed && record.secret.revealed) = false := by
        simpa using hnew
      simp [conclude, hcond]
    have htold : record.secret.revealed = true → s.log.countP isSecret = 1 := by
      intro hrevealed
      exact h.told (by simpa [hrevealed] using hnew)
    rw [hconclude]
    refine Sound.handle ⟨h.follows, ?_, htold, ?_, h.off, h.finished⟩
      fun _ => ⟨htold, h.settled⟩
    · intro c hc
      rw [h.last c hc]
    · intro _ hnone status hstatus
      cases hstatus
      exact hterminal hnone

/-! ### An answer -/

section Observe

variable (h : Sound s) (hgoing : .stopReturned ∉ s.log) (hregular : s.Regular (.order record))

include h hgoing hregular

/-- Nothing has changed, or it is the first answer. -/
lemma Sound.concluding_same (hsame : ∀ last ∈ s.lastStatus, last = record.status) :
    Concluding s record where
  follows := h.follows
  going := fun hstop => absurd hstop hgoing
  off := h.off
  last := fun c hc => hsame c.2 (h.last c hc)
  told := h.told
  untold := fun hlast hrevealed => by
    rw [← hasTold_eq_false, hregular.2.2 hrevealed hlast, ends]
    cases hstatus : s.lastStatus with
    | none => simp
    | some last => simp [hsame last hstatus]
  settled := fun hterminal => by
    by_contra hone
    have hzero : s.log.countP isSettled = 0 := by
      have := h.follows.settled
      omega
    obtain ⟨hsome, -⟩ := hregular.1 hterminal (hasSettled_eq_false.2 hzero)
    obtain ⟨last, hlast⟩ := Option.ne_none_iff_exists'.1 hsome
    have hnot := h.unsettled hgoing hzero last hlast
    rw [hsame last hlast, hterminal] at hnot
    cases hnot
  finished := h.finished

variable {last : OrderStatus} (hlast : s.lastStatus = some last)

include hlast

omit hregular in
lemma Sound.statusChanged_follows :
    FollowsProtocol (s.emit quits (.statusChanged last record.status record)).log := by
  refine emit_follows h.follows hgoing ?_ (by simp [isSecret]) (by simp [isSettled])
  intro c hc c' hc'
  have hlast' := h.last c' hc'
  rw [hlast] at hlast'
  cases hc
  exact (Option.some.inj hlast').symm

/-- A change to a status that does not settle the order. -/
lemma Sound.concluding_changed (hsettles : settles record.status = false)
    (hquits : s.revelation record ≠ [] →
      quits (.statusChanged last record.status record) = false) :
    Concluding (s.emit quits (.statusChanged last record.status record)) record where
  follows := h.statusChanged_follows hgoing hlast
  going := fun hstop => by
    by_contra hsome
    exact going_emit quits hgoing (hquits (by simpa [revelation] using hsome)) hstop
  off := off_emit quits hgoing
  last := by simp [change]
  told := by simpa [isSecret] using h.told
  untold := fun hsecret hrevealed => by
    rw [lastSecretRevealed_emit] at hsecret
    have htold : s.hasTold = false := by
      rw [hregular.2.2 hrevealed hsecret, ends]
      simp [hsettles]
    simpa [isSecret] using hasTold_eq_false.1 htold
  settled := fun hterminal => by
    by_contra hone
    have hzero : s.log.countP isSettled = 0 := by
      have := h.follows.settled
      simp [isSettled] at hone
      omega
    obtain ⟨-, hyes⟩ := hregular.1 hterminal (hasSettled_eq_false.2 hzero)
    rw [hsettles] at hyes
    cases hyes
  finished := fun hsome hstop =>
    timer_emit quits s _ (h.finished (by simpa [isSettled] using hsome) (by simpa using hstop))

variable (hne : last ≠ record.status) (hsettles : settles record.status = true)

include hne hsettles

omit h hgoing in
lemma unsettled_of_regular : s.log.countP isSettled = 0 := by
  by_contra hsome
  have hsettled : s.hasSettled = true := by
    by_contra hfalse
    exact hsome (hasSettled_eq_false.1 (by simpa using hfalse))
  have hstatus := hregular.2.1 hsettles hsettled
  rw [hlast] at hstatus
  exact hne (Option.some.inj hstatus)

lemma Sound.settled_follows
    (hquits : quits (.statusChanged last record.status record) = false) :
    FollowsProtocol ((s.emit quits (.statusChanged last record.status record)).emit quits
      (.settled record.status record)).log := by
  refine emit_follows (h.statusChanged_follows hgoing hlast) (going_emit quits hgoing hquits)
    (by simp [change]) (by simp [isSecret]) fun _ => ?_
  simpa [isSettled] using unsettled_of_regular hregular hlast hne hsettles

lemma Sound.concluding_settled (hstay : s.stopOnTerminal = false)
    (hquits : quits (.statusChanged last record.status record) = false)
    (hquits' : s.revelation record ≠ [] → quits (.settled record.status record) = false) :
    Concluding ((s.emit quits (.statusChanged last record.status record)).emit quits
      (.settled record.status record)) record where
  follows := h.settled_follows hgoing hregular hlast hne hsettles hquits
  going := fun hstop => by
    by_contra hsome
    have hquit := hquits' (by simpa [revelation] using hsome)
    exact going_emit quits (going_emit quits hgoing hquits) hquit hstop
  off := off_emit quits (going_emit quits hgoing hquits)
  last := by simp [change]
  told := by simpa [isSecret] using h.told
  untold := fun hsecret hrevealed => by
    simp only [lastSecretRevealed_emit] at hsecret
    have htold : s.hasTold = false := by
      rw [hregular.2.2 hrevealed hsecret, ends]
      simp [hstay]
    simpa [isSecret] using hasTold_eq_false.1 htold
  settled := fun _ => by
    simp [isSettled, unsettled_of_regular hregular hlast hne hsettles]
  finished := fun _ hstop => by
    simp [hstay] at hstop

/-- The subscriber ends with the settlement. -/
lemma Sound.ended (hend : s.stopOnTerminal = true)
    (hquits : quits (.statusChanged last record.status record) = false)
    (hquits' : quits (.settled record.status record) = false) :
    Sound { s.observe quits record with
      log := (s.observe quits record).log ++ [.handled record] } := by
  have hzero := unsettled_of_regular hregular hlast hne hsettles
  set u := (s.emit quits (.statusChanged last record.status record)).emit quits
    (.settled record.status record) with hu
  have hobserve : s.observe quits record =
      emit quits { u with lastStatus := some record.status, timer := false, running := false }
        (.stopped .terminal) := by
    simp [OrderSubscriber.observe, hlast, hne, hsettles, hend, stopDueToReason, hu]
  have hgone : .stopReturned ∉ u.log := going_emit quits (going_emit quits hgoing hquits) hquits'
  have hsettled : u.log.countP isSettled = 1 := by
    simp [hu, isSettled, hzero]
  have hsecrets : u.log.countP isSecret = s.log.countP isSecret := by
    simp [hu, isSecret]
  rw [hobserve]
  refine Sound.handle ⟨?_, ?_, ?_, ?_, ?_, ?_⟩ ?_
  · exact emit_follows (h.settled_follows hgoing hregular hlast hne hsettles hquits) hgone
      (by simp [change]) (by simp [isSecret]) (by simp [isSettled])
  · intro c hc
    simp [change, hu] at hc
    simp [← hc]
  · intro hsecret
    have hsecret' : s.lastSecretRevealed = true := by simpa [hu] using hsecret
    simpa [isSecret, hsecrets] using h.told hsecret'
  · intro _ hnone
    simp [isSettled, hsettled] at hnone
  · exact off_emit quits hgone
  · exact fun _ _ => timer_emit quits _ _ rfl
  · intro _
    refine ⟨fun hrevealed => ?_, fun _ => by simp [isSettled, hsettled]⟩
    have hone : s.log.countP isSecret = 1 := by
      cases hsecret : s.lastSecretRevealed with
      | true => exact h.told hsecret
      | false =>
        have htold := hregular.2.2 hrevealed hsecret
        have hends : s.ends record = true := by
          simp [ends, hend, hsettles, hlast, hne]
        have hsome : s.log.countP isSecret ≠ 0 := by
          intro hnone
          rw [hasTold_eq_false.2 hnone, hends] at htold
          cases htold
        have := h.follows.secret
        omega
    simpa [isSecret, hsecrets] using hone

end Observe

lemma Sound.observe (h : Sound s) (hgoing : .stopReturned ∉ s.log)
    (hregular : s.Regular (.order record))
    (hquits : ∀ e ∈ (s.announcements (.order record)).dropLast, quits e = false) :
    Sound { s.observe quits record with
      log := (s.observe quits record).log ++ [.handled record] } := by
  cases hlast : s.lastStatus with
  | none =>
    rw [show s.observe quits record = s.conclude quits record by
      simp [OrderSubscriber.observe, hlast]]
    exact (h.concluding_same hgoing hregular (by simp [hlast])).sound
  | some last =>
    by_cases hsame : last = record.status
    · rw [show s.observe quits record = s.conclude quits record by
        simp [OrderSubscriber.observe, hlast, hsame]]
      exact (h.concluding_same hgoing hregular (by simp [hlast, hsame])).sound
    simp only [announcements, hlast, hsame, if_false] at hquits
    cases hsettles : settles record.status with
    | false =>
      rw [show s.observe quits record =
          (s.emit quits (.statusChanged last record.status record)).conclude quits record by
        simp [OrderSubscriber.observe, hlast, hsame, hsettles]]
      refine (h.concluding_changed hgoing hregular hlast hsettles fun hsome => ?_).sound
      refine hquits _ ?_
      simp [hsettles, List.dropLast_cons_of_ne_nil hsome]
    | true =>
      rw [hsettles, if_pos rfl] at hquits
      have hfirst := hquits (.statusChanged last record.status record) (by simp)
      cases hend : s.stopOnTerminal with
      | true =>
        exact h.ended hgoing hregular hlast hsame hsettles hend hfirst
          (hquits _ (by simp [hend]))
      | false =>
        rw [show s.observe quits record =
            ((s.emit quits (.statusChanged last record.status record)).emit quits
              (.settled record.status record)).conclude quits record by
          simp [OrderSubscriber.observe, hlast, hsame, hsettles, hend]]
        refine (h.concluding_settled hgoing hregular hlast hsame hsettles hend hfirst
          fun hsome => ?_).sound
        refine hquits _ ?_
        simp [hend, List.dropLast_cons_of_ne_nil hsome]

/-- After `stop` an answer changes what is known, at most. -/
lemma Sound.observe_stale (h : Sound s) (hstop : .stopReturned ∈ s.log)
    (hstale : s.Stale (.order record)) :
    Sound { s.observe quits record with
      log := (s.observe quits record).log ++ [.handled record] } := by
  obtain ⟨hstatus, hsecret⟩ := hstale
  have hconclude : s.conclude quits record =
      { s with
        lastStatus := some record.status, lastSecretRevealed := record.secret.revealed } := by
    have hcond : (!s.lastSecretRevealed && record.secret.revealed) = false := by
      cases hrevealed : record.secret.revealed with
      | false => simp
      | true => simp [hsecret hrevealed]
    simp [conclude, hcond]
  have hobserve : s.observe quits record = s.conclude quits record := by
    cases hlast : s.lastStatus with
    | none => simp [OrderSubscriber.observe, hlast]
    | some last => simp [OrderSubscriber.observe, hlast, hstatus last hlast]
  rw [hobserve, hconclude]
  refine Sound.handle ⟨h.follows, fun c hc => ?_, fun hrevealed => h.told (hsecret hrevealed),
    fun hgoing => absurd hstop hgoing, h.off, h.finished⟩ fun hgoing => absurd hstop hgoing
  rw [hstatus c.2 (h.last c hc)]

/-- An event that is not about the order. -/
lemma Sound.notice (h : Sound s) (hgoing : .stopReturned ∉ s.log)
    (hchange : (emitted e).change = none) (hsecret : (emitted e).isSecret = false)
    (hsettled : (emitted e).isSettled = false) : Sound (s.emit quits e) where
  follows := emit_follows h.follows hgoing (by simp [hchange]) (by simp [hsecret])
    (by simp [hsettled])
  last := by simpa [hchange] using h.last
  told := by simpa [hsecret] using h.told
  unsettled := fun _ hnone status hstatus => by
    rw [lastStatus_emit] at hstatus
    exact h.unsettled hgoing (by simpa [hsettled] using hnone) status hstatus
  off := off_emit quits hgoing
  finished := fun hsome hstop =>
    timer_emit quits s e (h.finished (by simpa [hsettled] using hsome) (by simpa using hstop))

/-! ### Steps and runs -/

lemma Sound.receive (h : Sound s) {answer : PollAnswer}
    (hanswer : if .stopReturned ∈ s.log then s.Stale answer else s.Regular answer)
    (hquits : ∀ e ∈ (s.announcements answer).dropLast, quits e = false) :
    Sound (s.receive quits answer) := by
  cases answer with
  | order record =>
    have hreset : Sound { s with consecutiveErrors := 0 } := { h with }
    split at hanswer
    · rename_i hstop
      exact hreset.observe_stale hstop hanswer
    · rename_i hgoing
      exact hreset.observe hgoing hanswer hquits
  | notFound =>
    have hreset : Sound { s with consecutiveErrors := 0 } := { h with }
    split at hanswer
    · exact hanswer.elim
    · rename_i hgoing
      exact hreset.notice hgoing rfl rfl rfl
  | failed =>
    have hcounted : Sound { s with consecutiveErrors := s.consecutiveErrors + 1 } := { h with }
    split at hanswer
    · exact hanswer.elim
    rename_i hgoing
    set u := emit quits { s with consecutiveErrors := s.consecutiveErrors + 1 }
      (.error (s.consecutiveErrors + 1)) with hu
    have hsound : Sound u := hcounted.notice hgoing rfl rfl rfl
    by_cases hmax : 0 < s.maxConsecutiveErrors ∧ s.maxConsecutiveErrors ≤ s.consecutiveErrors + 1
    · have hquit := hquits (.error (s.consecutiveErrors + 1)) (by simp [announcements, hmax])
      have hplain : u = { s with
          consecutiveErrors := s.consecutiveErrors + 1
          log := s.log ++ [.emitted (.error (s.consecutiveErrors + 1))] } := by
        rw [hu, emit_eq_of_not_quits _ _ _ hquit]
      have hreceive : s.receive quits .failed = u.stopDueToReason quits .maxErrors := by
        simp [OrderSubscriber.receive, ← hu, hplain, hmax]
      have hgone : .stopReturned ∉ u.log := by
        rw [hplain]
        simpa using hgoing
      have hoff : Sound { u with timer := false, running := false } :=
        { hsound with off := fun _ => ⟨rfl, rfl⟩, finished := fun _ _ => rfl }
      rw [hreceive]
      exact hoff.notice hgone rfl rfl rfl
    · have hreceive : s.receive quits .failed = u := by
        have hsame : u.maxConsecutiveErrors = s.maxConsecutiveErrors ∧
            u.consecutiveErrors = s.consecutiveErrors + 1 := by
          rw [hu]
          unfold emit
          split <;> exact ⟨rfl, rfl⟩
        simp only [OrderSubscriber.receive, ← hu, hsame.1, hsame.2, if_neg hmax]
      rw [hreceive]
      exact hsound

lemma Sound.stop (h : Sound s) : Sound (s.stop quits) where
  follows := by
    by_cases hstop : .stopReturned ∈ s.log
    · have hfarewell : s.farewell quits = [.stopReturned] := by
        simp [farewell, (h.off hstop).1]
      show FollowsProtocol (s.log ++ s.farewell quits)
      rw [hfarewell]
      exact h.follows.stopReturned
    · exact farewell_follows h.follows hstop
  last := by simpa [OrderSubscriber.stop] using h.last
  told := by simpa [OrderSubscriber.stop] using h.told
  unsettled := fun hgoing => absurd (by simp [OrderSubscriber.stop]) hgoing
  off := fun _ => ⟨rfl, rfl⟩
  finished := fun _ _ => rfl

lemma Sound.tick (h : Sound s) (hmeets : s.Meets .tick) : Sound (s.step .tick) := by
  by_cases htimer : s.timer = true
  · have hgoing : .stopReturned ∉ s.log := by
      intro hstop
      rw [(h.off hstop).2] at htimer
      cases htimer
    have hzero : s.log.countP isSettled = 0 := by
      by_contra hsome
      have hsettled : s.hasSettled = true := by
        by_contra hfalse
        exact hsome (hasSettled_eq_false.1 (by simpa using hfalse))
      rw [h.finished hsome (hmeets hsettled)] at htimer
      cases htimer
    rw [show s.step .tick = s.poll by simp [OrderSubscriber.step, htimer]]
    refine ⟨h.follows.concat (by simp [change]) (by simp [isSecret]) (by simp [isSettled])
      (fun _ => hzero) (by simp [isEmitted]) (by simp), ?_, ?_, ?_, ?_, ?_⟩
    · simpa [poll, change] using h.last
    · simpa [poll, isSecret] using h.told
    · simpa [poll, isSettled] using h.unsettled
    · simpa [poll] using h.off
    · simpa [poll, isSettled] using h.finished
  · rw [show s.step .tick = s by simp [OrderSubscriber.step, htimer]]
    exact h

lemma Sound.step (h : Sound s) {x : SubscriberStep} (hmeets : s.Meets x) : Sound (s.step x) := by
  cases x with
  | tick => exact h.tick hmeets
  | stop quits => exact h.stop
  | answer answer quits =>
    by_cases hrequests : s.requests = 0
    · rw [show s.step (.answer answer quits) = s by simp [OrderSubscriber.step, hrequests]]
      exact h
    rw [show s.step (.answer answer quits) =
        OrderSubscriber.receive quits { s with requests := s.requests - 1 } answer by
      simp [OrderSubscriber.step, hrequests]]
    obtain ⟨hanswer, hquits⟩ := hmeets hrequests
    have hless : Sound { s with requests := s.requests - 1 } := { h with }
    refine hless.receive ?_ ?_
    · cases answer <;> exact hanswer
    · cases answer <;> exact hquits

lemma Sound.start (stopOnTerminal : Bool) (maxConsecutiveErrors : ℕ) :
    Sound ((new stopOnTerminal maxConsecutiveErrors).start quits) := by
  have hbefore : Sound { (new stopOnTerminal maxConsecutiveErrors).poll with
      running := true, timer := true } := by
    refine ⟨?_, ?_, ?_, ?_, ?_, ?_⟩
    · exact FollowsProtocol.nil.concat (by simp) (by simp) (by simp) (by simp) (by simp)
        (by simp)
    all_goals simp [poll, new, change, isSecret, isSettled]
  exact hbefore.notice (by simp [poll, new]) rfl rfl rfl

/-- In a run whose steps all meet the condition the subscriber keeps to the protocol. -/
theorem subscription_follows_protocol (stopOnTerminal : Bool) (maxConsecutiveErrors : ℕ)
    (quits : SubscriptionEvent → Bool) (steps : List SubscriberStep)
    (hsteps : ∀ n x, steps[n]? = some x →
      (after stopOnTerminal maxConsecutiveErrors quits steps n).Meets x) (n : ℕ) :
    FollowsProtocol (after stopOnTerminal maxConsecutiveErrors quits steps n).log := by
  have hsound : Sound (after stopOnTerminal maxConsecutiveErrors quits steps n) := by
    refine Machine.stateAt_steps (fun m x s' hx hs hok => ?_) (Sound.start _ _) n
    cases hok
    exact hs.step (hsteps m x hx)
  exact hsound.follows

/-- An answer without the secret. -/
def plain (status : OrderStatus) : PollAnswer := .order ⟨status, ⟨false, none, none⟩⟩

/-- An answer with the secret. -/
def shown (status : OrderStatus) : PollAnswer := .order ⟨status, ⟨true, none, none⟩⟩

/-- No handler stops the subscriber. -/
def nobody : SubscriptionEvent → Bool := fun _ => false

/-- A swap that is watched from its beginning to its end. -/
def watchedSwap : List SubscriberStep :=
  [.answer (plain .announced) nobody, .tick, .answer .failed nobody, .tick,
    .answer (plain .srcLocked) nobody, .tick, .answer (shown .secretRevealed) nobody, .tick,
    .answer (shown .completed) nobody]

theorem subscription_follows_protocol_swap :
    FollowsProtocol (after true 5 nobody watchedSwap 9).log := by
  refine subscription_follows_protocol true 5 nobody watchedSwap (fun n x hx => ?_) 9
  have hall : ∀ n : Fin watchedSwap.length,
      (after true 5 nobody watchedSwap n).Meets (watchedSwap.get n) := by
    decide +kernel
  obtain ⟨hlt, rfl⟩ := List.getElem?_eq_some_iff.1 hx
  exact hall ⟨n, hlt⟩

/-- The settlement is not told when the first answer shows it or when the order was cancelled, the
secret is not told when it is shown first at the end, and an answer that comes after `stop` is
told. -/
theorem subscription_breaks_protocol :
    ¬ FollowsProtocol (after true 5 nobody [.answer (plain .completed) nobody] 1).log ∧
    ¬ FollowsProtocol (after true 5 nobody
      [.answer (plain .announced) nobody, .tick, .answer (plain .cancelled) nobody] 3).log ∧
    ¬ FollowsProtocol (after true 5 nobody
      [.answer (plain .srcLocked) nobody, .tick, .answer (shown .completed) nobody] 3).log ∧
    ¬ FollowsProtocol (after true 5 nobody
      [.answer (plain .announced) nobody, .tick, .stop nobody,
        .answer (plain .srcLocked) nobody] 4).log := by
  refine ⟨fun h => ?_, fun h => ?_, fun h => ?_, fun h => ?_⟩
  · exact absurd (h.settledTold ⟨.completed, ⟨false, none, none⟩⟩ (by decide +kernel) rfl)
      (by decide +kernel)
  · exact absurd (h.settledTold ⟨.cancelled, ⟨false, none, none⟩⟩ (by decide +kernel) rfl)
      (by decide +kernel)
  · exact absurd (h.secretTold ⟨.completed, ⟨true, none, none⟩⟩ (by decide +kernel) rfl)
      (by decide +kernel)
  · exact absurd h.silent (by decide +kernel)

end OrderSubscriber

end WaffleFinance.Sdk

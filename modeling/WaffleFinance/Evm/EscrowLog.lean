import WaffleFinance.Evm.EscrowSettlement

/-!
# The log of an order

An indexer follows an order by the events `OrderCreated`, `OrderClaimed` and `OrderRefunded`.
It expects to see the creation first and at most one of the other two after it.

The existence check of `claimOrder` and `refundOrder` stands inside the branch for orders that
are not funded.  The status of untouched storage is `Funded`, so a call on an id that was never
given out does not get to it (`log_wellFormed_iff`).
-/

namespace WaffleFinance.Evm

open Lib

variable {P : Platform}

/-- The stages in the life of an order that the log announces. -/
inductive Stage where
  | created
  | claimed
  | refunded
deriving DecidableEq, Repr

/-- The stage of the order `id` that an event announces. -/
def Event.stage (id : ℕ) : Event → Option Stage
  | .orderCreated orderId _ _ _ _ _ _ _ => if orderId = id then some .created else none
  | .orderClaimed orderId _ _ _ _ => if orderId = id then some .claimed else none
  | .orderRefunded orderId _ _ _ => if orderId = id then some .refunded else none
  | _ => none

/-- The life of the order `id` as the log tells it. -/
def State.lifecycle (s : State P) (id : ℕ) : List Stage := s.events.filterMap (Event.stage id)

/-- A log as an indexer expects it. -/
def LogWellFormed (l : List Stage) : Prop :=
  l <+: [.created, .claimed] ∨ l <+: [.created, .refunded]

/-- The stages that lead to a status. -/
def OrderStatus.stages : OrderStatus → List Stage
  | .funded => [.created]
  | .claimed => [.created, .claimed]
  | .refunded => [.created, .refunded]

lemma OrderStatus.logWellFormed_stages (st : OrderStatus) : LogWellFormed st.stages := by
  cases st with
  | funded => exact .inl ⟨[.claimed], rfl⟩
  | claimed => exact .inl ⟨[], rfl⟩
  | refunded => exact .inr ⟨[], rfl⟩

/-! ### What an outcome adds to the log -/

lemma State.lifecycle_eq (s : State P) (id : ℕ) :
    s.lifecycle id = s.log.filterMap (Event.stage id) := by
  rw [State.lifecycle, State.log, List.filterMap_filter]
  refine List.filterMap_congr fun e _ => ?_
  cases e <;> rfl

lemma filterMap_stage_notices (id : ℕ) (ps : List Payout) :
    (ps.flatMap Payout.notice).filterMap (Event.stage id) = [] := by
  rw [List.filterMap_eq_nil_iff]
  intro e he
  obtain ⟨p, -, hp⟩ := List.mem_flatMap.1 he
  unfold Payout.notice at hp
  split_ifs at hp
  · rw [List.mem_singleton.1 hp]
    rfl
  · cases hp

variable {s s' : State P}

lemma Undisturbed.lifecycle (h : Undisturbed s s') (id : ℕ) : s'.lifecycle id = s.lifecycle id := by
  rw [State.lifecycle_eq, h.log, State.lifecycle_eq]

variable {now : ℕ}

lemma Created.lifecycle {msg : Msg P} {a : CreateArgs} (h : Created now msg a s s') (id : ℕ) :
    s'.lifecycle id = s.lifecycle id ++ if s.nextOrderId = id then [.created] else [] := by
  rw [State.lifecycle_eq, h.log, List.filterMap_append, State.lifecycle_eq]
  by_cases hid : s.nextOrderId = id
  · simp [createdEvent, Event.stage, hid]
  · simp [createdEvent, Event.stage, hid]

variable {orderId : ℕ}

lemma Settled.lifecycle {o : Order} {ps : List Payout} {e : Event} (h : Settled orderId o ps e s s')
    (id : ℕ) : s'.lifecycle id = s.lifecycle id ++ (e.stage id).toList := by
  rw [State.lifecycle_eq, h.log, List.filterMap_append, List.filterMap_append,
    filterMap_stage_notices, List.append_nil, State.lifecycle_eq]
  cases he : e.stage id with
  | none => simp [he]
  | some st => simp [he]

lemma Withdrew.lifecycle {caller : Address} (h : Withdrew caller s s') (id : ℕ) :
    s'.lifecycle id = s.lifecycle id := by
  rw [State.lifecycle_eq, h.log, List.filterMap_append, State.lifecycle_eq]
  simp [Event.stage]

/-! ### When every call aims at an order that exists -/

/-- The log of every order tells its status, and there is none for an order that does not
exist. -/
structure Told (s : State P) : Prop where
  created : ∀ id ∈ s.createdIds, s.lifecycle id = (s.orders id).status.stages
  uncreated : ∀ id ∉ s.createdIds, s.lifecycle id = []

lemma Told.logWellFormed (h : Told s) (id : ℕ) : LogWellFormed (s.lifecycle id) := by
  by_cases hid : id ∈ s.createdIds
  · rw [h.created id hid]
    exact OrderStatus.logWellFormed_stages _
  · rw [h.uncreated id hid]
    exact .inl (List.nil_prefix)

lemma Told.congr (h : Told s) (hids : s'.createdIds = s.createdIds) (horders : s'.orders = s.orders)
    (hlife : ∀ id, s'.lifecycle id = s.lifecycle id) : Told s' := by
  constructor
  · intro id hid
    rw [hlife, horders]
    exact h.created id (hids ▸ hid)
  · intro id hid
    rw [hlife]
    exact h.uncreated id (hids ▸ hid)

/-- A settlement of an order that exists. -/
lemma Settled.told {o : Order} {ps : List Payout} {e : Event} (h : Settled orderId o ps e s s')
    (hs : Told s) (hid : orderId ∈ s.createdIds) (hfunded : (s.orders orderId).status = .funded)
    (he : e.createdId = none)
    (hstage : [Stage.created] ++ (e.stage orderId).toList = o.status.stages)
    (hother : ∀ id, id ≠ orderId → e.stage id = none) : Told s' := by
  constructor
  · intro id hmem
    rw [h.createdIds he] at hmem
    rw [h.lifecycle, h.orders, hs.created id hmem]
    by_cases hne : id = orderId
    · subst hne
      rw [Function.update_self, hfunded]
      exact hstage
    · rw [Function.update_of_ne hne, hother id hne]
      simp
  · intro id hmem
    rw [h.createdIds he] at hmem
    have hne : id ≠ orderId := fun heq => hmem (heq ▸ hid)
    rw [h.lifecycle, hs.uncreated id hmem, hother id hne]
    rfl

/-- Every outcome of a call that does not aim at an unknown id keeps the log told. -/
lemma Outcome.told {k : ℕ} {a : Action P} (h : Outcome now a s s') (hk : k + 1 < 2 ^ 256)
    (hd : Disciplined k s) (hs : Told s) (ha : ∀ id, a.target = some id → id ∈ s.createdIds) :
    Told s' := by
  cases h with
  | quiet _ hu => exact hs.congr hu.createdIds hu.orders hu.lifecycle
  | created hc =>
    have hfresh := hd.nextOrderId_fresh hk
    constructor
    · intro id hid
      rw [hc.createdIds, List.mem_append, List.mem_singleton] at hid
      rw [hc.lifecycle, hc.orders]
      rcases hid with hid | rfl
      · have hne : id ≠ s.nextOrderId := fun heq => hfresh (heq ▸ hid)
        rw [hs.created id hid, if_neg hne.symm, List.append_nil, Function.update_of_ne hne]
      · rw [hs.uncreated _ hfresh, if_pos rfl, Function.update_self]
        rfl
    · intro id hid
      rw [hc.createdIds, List.mem_append, List.mem_singleton, not_or] at hid
      rw [hc.lifecycle, hs.uncreated id hid.1, if_neg (Ne.symm hid.2)]
      rfl
  | @claimed _ orderId _ _ _ _ _ _ _ _ hchecks _ hset =>
    exact hset.told hs (ha orderId rfl) (claimChecks_eq_ok.1 hchecks).1 rfl
      (by simp [Event.stage, Order.claim, OrderStatus.stages])
      (fun id hid => by simp [Event.stage, Ne.symm hid])
  | @refunded _ orderId _ _ _ _ _ _ _ hchecks _ hset =>
    exact hset.told hs (ha orderId rfl) (refundChecks_eq_ok.1 hchecks).1 rfl
      (by simp [Event.stage, Order.refund, OrderStatus.stages])
      (fun id hid => by simp [Event.stage, Ne.symm hid])
  | withdrawn hw => exact hs.congr hw.createdIds hw.orders hw.lifecycle

namespace History

variable (h : History P) (d : Deployment)

/-- Every claim and every refund aims at an id that `createOrder` has returned before. -/
def AimsAtCreated : Prop :=
  ∀ n c id, h.calls[n]? = some c → c.2.target = some id → id ∈ (h.stateAt d n).createdIds

/-- Every claim and every refund of an id that `createOrder` has not returned yet reverts with
`OrderNotFound`, and so emits nothing. -/
def RefusesUnknown : Prop :=
  ∀ n c id, h.calls[n]? = some c → c.2.target = some id → id ∉ (h.stateAt d n).createdIds →
    exec c.1 c.2 (h.stateAt d n) = .error .orderNotFound

variable {h d}

lemma AimsAtCreated.told (ha : h.AimsAtCreated d) (n : ℕ) : Told (h.stateAt d n) := by
  induction n with
  | zero => exact ⟨by simp [stateAt, deploy, State.createdIds, State.log], fun _ _ => rfl⟩
  | succ n ih =>
    rcases h.stateAt_succ_cases d n with hsame | ⟨c, k, hcall, hk, hd, -, hout⟩
    · exact hsame ▸ ih
    · exact hout.told hk hd ih fun id => ha n c id hcall

/-! ### When a call aims at an unknown id -/

/-- If calls on unknown ids are refused, then nothing is ever written for an unknown id. -/
lemma RefusesUnknown.untouched (hr : h.RefusesUnknown d) (n : ℕ) :
    ∀ id ∉ (h.stateAt d n).createdIds, (h.stateAt d n).orders id = {} := by
  induction n with
  | zero => exact fun _ _ => rfl
  | succ n ih =>
    rcases h.stateAt_succ_cases d n with hsame | ⟨c, k, hcall, hk, hd, hok, hout⟩
    · rw [hsame]
      exact ih
    intro id hid
    have hid' : id ∉ (h.stateAt d n).createdIds := fun hmem => hid (hout.mem_createdIds hmem)
    -- the call did not aim at this id: it would have been refused
    have ht : c.2.target ≠ some id := by
      intro ht
      rw [hr n c id hcall ht hid'] at hok
      cases hok
    rw [(hout.frame hk hd (fun hmem => absurd hmem hid) ht).1]
    exact ih id hid'

end History

lemma claimOrder_untouched {caller : Caller P} {preimage : Bytes} {first second : Callee P}
    (hg : s.guard = P.guard.notEntered) (ho : s.orders orderId = {}) :
    claimOrder now caller orderId preimage first second s = .error .expired := by
  simp only [claimOrder, nonReentrantBefore_notEntered hg, ok_chain, ho, claimChecks, if_true,
    failIf_pos (Nat.zero_le now), error_chain]

lemma refundOrder_untouched {k : ℕ} {caller : Caller P} {first second : Callee P}
    (hd : Disciplined k s) (hk : k < 2 ^ 256) (hs : Solvent s) (h₁ : first.Quiet)
    (ho : s.orders orderId = {}) :
    refundOrder now caller orderId first second s ≠ .error .orderNotFound := by
  rcases Nat.eq_zero_or_pos now with rfl | hpos
  · simp only [refundOrder, nonReentrantBefore_notEntered hd.guard, ok_chain, ho, refundChecks,
      if_true, failIf_pos (Nat.zero_le 0), error_chain]
    simp
  -- it goes through
  obtain ⟨s', hok⟩ := (refundOrder_ok_iff hs hd hk h₁ now orderId caller second).2
    ⟨by rw [ho]; exact refundChecks_eq_ok.2 ⟨rfl, hpos⟩, .inl (by rw [ho])⟩
  rw [hok]
  simp

/-- **The log.**  In a history the log of every order is well formed and every call on an
unknown id is refused as such, exactly when no call aims at an unknown id. -/
theorem log_wellFormed_iff (h : History P) (d : Deployment) :
    ((∀ n id, LogWellFormed ((h.stateAt d n).lifecycle id)) ∧ h.RefusesUnknown d) ↔
      h.AimsAtCreated d := by
  constructor
  · rintro ⟨-, hr⟩ n c id hcall ht
    by_contra hid
    have hrefused := hr n c id hcall ht hid
    have huntouched := hr.untouched n id hid
    obtain ⟨k, hk, -, hd⟩ := h.disciplined d n
    obtain ⟨now, a⟩ := c
    cases a with
    | claimOrder caller orderId preimage inner₁ ok₁ inner₂ ok₂ =>
      obtain rfl : orderId = id := Option.some.inj ht
      rw [exec, claimOrder_untouched hd.guard huntouched] at hrefused
      cases hrefused
    | refundOrder caller orderId inner₁ ok₁ inner₂ ok₂ =>
      obtain rfl : orderId = id := Option.some.inj ht
      rw [exec] at hrefused
      exact refundOrder_untouched hd hk (h.solvent d n) (quiet_execAll now inner₁ ok₁) huntouched
        hrefused
    | _ => cases ht
  · intro ha
    exact ⟨fun n id => (ha.told n).logWellFormed id,
      fun n c id hcall ht hid => absurd (ha n c id hcall ht) hid⟩

/-- A refund of the order `1` before there is one, and its creation. -/
def Sample.earlyRefund : History .sample where
  calls :=
    [(1, .refundOrder bob 1 [] true [] true),
     (1000, .createOrder ⟨alice, 13⟩ (args 0) replies [] true)]
  timed := by simp [Machine.Timed]
  short := by simp

open Sample in
/-- A refund of an unknown order goes through and is logged, so that the log of the order starts
with its refund; and a claim of an unknown order is refused for another reason. -/
theorem refund_logged_before_creation :
    (earlyRefund.stateAt deployment 0).createdIds = [] ∧
      (earlyRefund.stateAt deployment 1).events = [.orderRefunded 1 2 0 0] ∧
      (earlyRefund.stateAt deployment 2).lifecycle 1 = [.refunded, .created] ∧
      ¬ LogWellFormed ((earlyRefund.stateAt deployment 2).lifecycle 1) ∧
      exec 1 (.claimOrder bob 1 secret [] true [] true)
        (earlyRefund.stateAt deployment 0) = .error .expired := by
  refine ⟨by decide +kernel, by decide +kernel, by decide +kernel, ?_, rfl⟩
  unfold LogWellFormed
  decide +kernel

end WaffleFinance.Evm

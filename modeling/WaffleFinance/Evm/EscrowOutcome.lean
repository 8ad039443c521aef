import WaffleFinance.Evm.EscrowCalls

/-!
# What a call to the escrow does

A call from outside that does not revert has one of the effects that `Outcome` lists.  Each effect
is a structure that says all that happened to the state, so that the proofs about runs split on
`Outcome` and do not look at the functions again.
-/

namespace WaffleFinance.Evm

open Lib
open State (record emit setPending log setHeld)

variable {P : Platform}

/-! ### Payouts -/

namespace Payout

/-- The ETH that left the escrow by this payout. -/
def pushed (p : Payout) : ℕ := if p.channel = .pushed then p.amount else 0

/-- The credit that the account `a` got by this payout. -/
def credit (p : Payout) (a : Address) : ℕ :=
  if p.channel = .deferred ∧ p.recipient = a then p.amount else 0

/-- The amount of the token `t` that left the escrow by this payout. -/
def tokens (P : Platform) (p : Payout) (t : Address) : ℕ :=
  if p.channel = .transferred ∧ p.token = t ∧ p.recipient ≠ P.self then p.amount else 0

/-- The event that announces a deferred payout. -/
def notice (p : Payout) : List Event :=
  if p.channel = .deferred then [.payoutDeferred p.orderId p.recipient p.amount] else []

/-- ETH is pushed or credited, tokens are transferred. -/
def WellRouted (p : Payout) : Prop := p.channel = .transferred ↔ p.token ≠ 0

end Payout

/-- The state after a list of payouts. -/
structure Paid (ps : List Payout) (s s' : State P) : Prop where
  orders : s'.orders = s.orders
  nextOrderId : s'.nextOrderId = s.nextOrderId
  minSafetyDeposit : s'.minSafetyDeposit = s.minSafetyDeposit
  guard : s'.guard = s.guard
  payouts : s'.payouts = s.payouts ++ ps
  balance : s'.balance + (ps.map Payout.pushed).sum = s.balance
  pending : ∀ a, s'.pendingWithdrawals a = s.pendingWithdrawals a + (ps.map (·.credit a)).sum
  log : s'.log = s.log ++ ps.flatMap Payout.notice
  spent : Spent (fun t => (ps.map (·.tokens P t)).sum) s s'

namespace Paid

lemma append {ps qs : List Payout} {s₁ s₂ s₃ : State P} (h : Paid ps s₁ s₂)
    (h' : Paid qs s₂ s₃) : Paid (ps ++ qs) s₁ s₃ := by
  refine ⟨h'.orders.trans h.orders, h'.nextOrderId.trans h.nextOrderId,
    h'.minSafetyDeposit.trans h.minSafetyDeposit, h'.guard.trans h.guard, ?_, ?_, ?_, ?_, ?_⟩
  · rw [h'.payouts, h.payouts, List.append_assoc]
  · rw [List.map_append, List.sum_append, ← h.balance, ← h'.balance]
    omega
  · intro a
    rw [List.map_append, List.sum_append, h'.pending a, h.pending a, add_assoc]
  · rw [h'.log, h.log, List.flatMap_append, List.append_assoc]
  · simp only [List.map_append, List.sum_append]
    exact h.spent.trans h'.spent

end Paid

/-- A callee that leaves the money alone while a guarded function is running. -/
def Callee.Quiet (c : Callee P) : Prop :=
  ∀ s : State P, s.guard = P.guard.entered → Undisturbed s (c.reenter s)

lemma quiet_execAll (now : ℕ) (as : List (Action P)) (ok : Bool) :
    Callee.Quiet (⟨execAll now as, ok⟩ : Callee P) :=
  fun _ hs => execAll_undisturbed now as hs

variable {callee : Callee P} {s : State P}

lemma callValue_cases (recipient : Address) (amount : ℕ) (hc : callee.Quiet)
    (hs : s.guard = P.guard.entered) :
    (callValue recipient amount callee s = (false, s)) ∨
      (∃ s', callValue recipient amount callee s = (true, s') ∧ amount ≤ s.balance ∧
        recipient ≠ P.self ∧ callee.ok = true ∧
        Undisturbed { s with balance := s.balance - amount } s') := by
  unfold callValue
  split_ifs with hbal hself hok
  · exact Or.inl rfl
  · -- the escrow's own `receive` rejects the payment
    exact Or.inl rfl
  · exact Or.inr ⟨_, rfl, by omega, hself, hok, hc _ hs⟩
  · exact Or.inl rfl

variable {recipient : Address} {amount orderId : ℕ} {s' : State P}

lemma payoutNative_paid (hc : callee.Quiet) (hs : s.guard = P.guard.entered)
    (h : payoutNative recipient amount orderId callee s = .ok s') :
    ∃ ch, ch ≠ Channel.transferred ∧ Paid [⟨orderId, 0, recipient, amount, ch⟩] s s' := by
  unfold payoutNative at h
  rcases callValue_cases recipient amount hc hs with
    hv | ⟨s₁, hv, hle, -, -, hu⟩
  · -- the push failed: the amount is credited
    rw [hv] at h
    simp only [Bool.false_eq_true, if_false, chain_eq_ok, checkedAdd_eq_ok, pure_eq_ok_iff] at h
    obtain ⟨credit, ⟨-, rfl⟩, rfl⟩ := h
    refine ⟨.deferred, by simp, rfl, rfl, rfl, rfl, rfl, ?_, ?_, ?_, ?_⟩
    · simp [Payout.pushed, record, emit, setPending]
    · intro a
      by_cases ha : a = recipient
      · subst ha
        simp [Payout.credit, record, emit, setPending]
      · simp [Payout.credit, record, emit, setPending, ha, Ne.symm ha]
    · simp [log, record, emit, setPending, Payout.notice,
        Event.isRegistry]
    · refine ⟨fun _ => le_rfl, fun t _ => ?_⟩
      simp [Payout.tokens, record, emit, setPending]
  · -- the push went through, after the recipient's code had run
    rw [hv] at h
    simp only [if_true, pure_eq_ok_iff] at h
    subst h
    refine ⟨.pushed, by simp, hu.orders, hu.nextOrderId, hu.minSafetyDeposit, hu.guard, ?_, ?_,
      ?_, ?_, ?_⟩
    · simp [record, hu.payouts]
    · have hb := hu.balance
      simp only [record, Payout.pushed, List.map_cons, List.map_nil, List.sum_cons,
        List.sum_nil, if_true] at hb ⊢
      omega
    · intro a
      simp [record, hu.pending, Payout.credit]
    · have hl := hu.log
      simpa [record, log, Payout.notice] using hl
    · refine ⟨hu.spent.given, fun t ht => ?_⟩
      simpa [record, Payout.tokens] using hu.spent.held t ht

/-- A token transfer changes the holdings and nothing else on top of what the token's code does;
of an exact token it takes the amount. -/
lemma safeTransfer_ok {token : Address}
    (h : safeTransfer token recipient amount callee s = .ok s') :
    ∃ held, s' = { callee.reenter s with held := held } ∧
      ∀ t, P.exact t → held t + (if token = t ∧ recipient ≠ P.self then amount else 0)
        = (callee.reenter s).held t := by
  simp only [safeTransfer, chain_eq_ok, failIf_eq_ok, exists_const] at h
  obtain ⟨-, h⟩ := h
  split_ifs at h with hx
  · -- an exact token moves the amount, any other may do as it likes
    simp only [chain_eq_ok, failIf_eq_ok, exists_const, pure_eq_ok_iff] at h
    obtain ⟨hge, rfl⟩ := h
    refine ⟨_, rfl, fun t _ => ?_⟩
    by_cases ht : token = t
    · subst ht
      rw [Function.update_self, if_pos ⟨rfl, hx.2⟩]
      omega
    · rw [Function.update_of_ne (Ne.symm ht), if_neg (fun hh => ht hh.1), add_zero]
  · rw [pure_eq_ok_iff] at h
    refine ⟨_, h.symm, fun t ht => ?_⟩
    have hne : ¬ (token = t ∧ recipient ≠ P.self) := fun hh => hx ⟨hh.1 ▸ ht, hh.2⟩
    rw [if_neg hne, add_zero]

lemma payout_paid {token : Address} (hc : callee.Quiet) (hs : s.guard = P.guard.entered)
    (h : payout token recipient amount orderId callee s = .ok s') :
    ∃ ch, Payout.WellRouted ⟨orderId, token, recipient, amount, ch⟩ ∧
      Paid [⟨orderId, token, recipient, amount, ch⟩] s s' := by
  unfold payout at h
  split_ifs at h with htoken
  · subst htoken
    obtain ⟨ch, hch, hp⟩ := payoutNative_paid hc hs h
    exact ⟨ch, by simp [Payout.WellRouted, hch], hp⟩
  simp only [chain_eq_ok, pure_eq_ok_iff] at h
  obtain ⟨s₁, hs₁, rfl⟩ := h
  obtain ⟨held, rfl, hheld⟩ := safeTransfer_ok hs₁
  have hu := hc s hs
  refine ⟨.transferred, by simp [Payout.WellRouted, htoken], hu.orders, hu.nextOrderId,
    hu.minSafetyDeposit, hu.guard, ?_, ?_, ?_, ?_, ?_⟩
  · simp [record, hu.payouts]
  · simp [record, Payout.pushed, hu.balance]
  · intro a
    simp [record, Payout.credit, hu.pending]
  · simpa [record, log, Payout.notice] using hu.log
  · refine ⟨hu.spent.given, fun t ht => ?_⟩
    have h₁ := hu.spent.held t ht
    have h₂ := hheld t ht
    simp only [record, Payout.tokens, List.map_cons, List.map_nil, List.sum_cons,
      List.sum_nil, true_and]
    omega

/-- The payouts that settle an order: its amount to the recipient, and its safety deposit, when
there is one, to the caller. -/
structure Settlement (orderId : ℕ) (o : Order) (recipient caller : Address)
    (ps : List Payout) : Prop where
  routed : ∀ p ∈ ps, p.WellRouted
  shape : ∃ ch ch', ps = ⟨orderId, o.token, recipient, o.amount, ch⟩ ::
    (if 0 < o.safetyDeposit then [⟨orderId, 0, caller, o.safetyDeposit, ch'⟩] else [])

variable {first second : Callee P}

lemma payoutBoth_paid {o : Order} {caller : Address} (h₁ : first.Quiet) (h₂ : second.Quiet)
    (hs : s.guard = P.guard.entered)
    (h : payoutBoth o recipient caller orderId first second s = .ok s') :
    ∃ ps, Settlement orderId o recipient caller ps ∧ Paid ps s s' := by
  simp only [payoutBoth, chain_eq_ok] at h
  obtain ⟨s₁, hs₁, h⟩ := h
  obtain ⟨ch, hch, hp⟩ := payout_paid h₁ hs hs₁
  -- the deposit is only paid where there is one
  split_ifs at h with hd
  · obtain ⟨ch', hch', hp'⟩ := payout_paid h₂ (hp.guard.trans hs) h
    refine ⟨_, ⟨?_, ch, ch', by rw [if_pos hd]; rfl⟩, hp.append hp'⟩
    intro p hmem
    simp only [List.cons_append, List.nil_append, List.mem_cons, List.not_mem_nil,
      or_false] at hmem
    rcases hmem with rfl | rfl
    · exact hch
    · exact hch'
  · rw [pure_eq_ok_iff] at h
    subst h
    refine ⟨_, ⟨?_, ch, ch, by rw [if_neg hd]⟩, hp⟩
    intro p hmem
    rw [List.mem_singleton] at hmem
    subst hmem
    exact hch

/-! ### Effects -/

/-- The order that `createOrder` writes. -/
def newOrder (now : ℕ) (sender : Address) (a : CreateArgs) : Order where
  sender := sender
  beneficiary := a.beneficiary
  refundAddress := a.refundAddress
  token := a.token
  amount := a.amount
  safetyDeposit := a.safetyDeposit
  hashlock := a.hashlock
  timelock := now % 2 ^ 64 + a.timelockSeconds
  createdAt := now % 2 ^ 64

/-- The event that announces a new order. -/
def createdEvent (orderId : ℕ) (o : Order) : Event :=
  .orderCreated orderId o.sender o.beneficiary o.token o.amount o.safetyDeposit o.hashlock
    o.timelock

/-- The ETH that an order keeps in the escrow while it is funded. -/
def Order.eth (o : Order) : ℕ :=
  if o.token = 0 then o.amount + o.safetyDeposit else o.safetyDeposit

/-- An order was created. -/
structure Created (now : ℕ) (msg : Msg P) (a : CreateArgs) (s s' : State P) : Prop where
  checks : createChecks s.minSafetyDeposit a = .ok ()
  value : msg.value = (newOrder now msg.sender a).eth
  orders : s'.orders =
    Function.update s.orders s.nextOrderId (newOrder now msg.sender a)
  nextOrderId : s'.nextOrderId = (s.nextOrderId + 1) % 2 ^ 256
  minSafetyDeposit : s'.minSafetyDeposit = s.minSafetyDeposit
  guard : s'.guard = s.guard
  pending : s'.pendingWithdrawals = s.pendingWithdrawals
  payouts : s'.payouts = s.payouts
  balance : s'.balance = s.balance + msg.value
  balance_lt : s'.balance < 2 ^ 256
  log : s'.log = s.log ++ [createdEvent s.nextOrderId (newOrder now msg.sender a)]
  held : ∀ t, P.exact t →
    s.held t + (if a.token = t ∧ t ≠ 0 then a.amount else 0) ≤ s'.held t

/-- The order `orderId` was settled: it became `o`, the payouts `ps` were made and the event `e`
was emitted. -/
structure Settled (orderId : ℕ) (o : Order) (ps : List Payout) (e : Event) (s s' : State P) :
    Prop where
  orders : s'.orders = Function.update s.orders orderId o
  nextOrderId : s'.nextOrderId = s.nextOrderId
  minSafetyDeposit : s'.minSafetyDeposit = s.minSafetyDeposit
  guard : s'.guard = s.guard
  payouts : s'.payouts = s.payouts ++ ps
  balance : s'.balance + (ps.map Payout.pushed).sum = s.balance
  pending : ∀ a, s'.pendingWithdrawals a = s.pendingWithdrawals a + (ps.map (·.credit a)).sum
  log : s'.log = s.log ++ ps.flatMap Payout.notice ++ [e]
  spent : Spent (fun t => (ps.map (·.tokens P t)).sum) s s'

/-- The caller was paid the credit it had. -/
structure Withdrew (caller : Address) (s s' : State P) : Prop where
  credit_ne : s.pendingWithdrawals caller ≠ 0
  orders : s'.orders = s.orders
  nextOrderId : s'.nextOrderId = s.nextOrderId
  minSafetyDeposit : s'.minSafetyDeposit = s.minSafetyDeposit
  guard : s'.guard = s.guard
  pending : s'.pendingWithdrawals = Function.update s.pendingWithdrawals caller 0
  payouts : s'.payouts = s.payouts
  balance : s'.balance + s.pendingWithdrawals caller = s.balance
  log : s'.log = s.log ++ [.withdrawn caller (s.pendingWithdrawals caller)]
  held : ∀ t, P.exact t → s.held t ≤ s'.held t

/-- The order after a claim. -/
def Order.claim (P : Platform) (o : Order) (now : ℕ) (preimage : Bytes) : Order :=
  { o with
    status := .claimed
    finalisedAt := now % 2 ^ 64
    preimageKeccak := P.keccak256 preimage }

/-- The order after a refund. -/
def Order.refund (o : Order) (now : ℕ) : Order :=
  { o with status := .refunded, finalisedAt := now % 2 ^ 64 }

/-- The functions behind the guard. -/
def Action.guarded : Action P → Bool
  | .createOrder .. | .claimOrder .. | .refundOrder .. | .withdraw .. => true
  | _ => false

/-- What a call from outside that does not revert has done. -/
inductive Outcome (now : ℕ) : Action P → State P → State P → Prop where
  | quiet {a : Action P} {s s' : State P} : a.guarded = false → Undisturbed s s' →
      Outcome now a s s'
  | created {msg : Msg P} {args : CreateArgs} {replies : CreateReplies}
      {inner : List (Action P)} {ok : Bool} {s s' : State P} : Created now msg args s s' →
      Outcome now (.createOrder msg args replies inner ok) s s'
  | claimed {caller : Caller P} {orderId : ℕ} {preimage : Bytes} {inner₁ inner₂ : List (Action P)}
      {ok₁ ok₂ : Bool} {s s' : State P} {ps : List Payout} :
      claimChecks P now (s.orders orderId) preimage = .ok () →
      Settlement orderId (s.orders orderId) (s.orders orderId).beneficiary caller ps →
      Settled orderId ((s.orders orderId).claim P now preimage) ps
        (.orderClaimed orderId caller (bytesToBytes32 preimage) (s.orders orderId).amount
          (s.orders orderId).safetyDeposit) s s' →
      Outcome now (.claimOrder caller orderId preimage inner₁ ok₁ inner₂ ok₂) s s'
  | refunded {caller : Caller P} {orderId : ℕ} {inner₁ inner₂ : List (Action P)}
      {ok₁ ok₂ : Bool} {s s' : State P} {ps : List Payout} :
      refundChecks now (s.orders orderId) = .ok () →
      Settlement orderId (s.orders orderId) (s.orders orderId).refundAddress caller ps →
      Settled orderId ((s.orders orderId).refund now) ps
        (.orderRefunded orderId caller (s.orders orderId).amount
          (s.orders orderId).safetyDeposit) s s' →
      Outcome now (.refundOrder caller orderId inner₁ ok₁ inner₂ ok₂) s s'
  | withdrawn {caller : Caller P} {inner : List (Action P)} {ok : Bool} {s s' : State P} :
      Withdrew caller s s' → Outcome now (.withdraw caller inner ok) s s'

/-! ### The functions have these effects -/

/-- What `createOrder` takes: the value of the call is the ETH of the order, and an exact token
has brought the amount. -/
lemma pullFunds_ok {value : ℕ} {a : CreateArgs} {r : CreateReplies} {pull : Callee P}
    (hc : pull.Quiet) (hs : s.guard = P.guard.entered) (h : pullFunds value a r pull s = .ok s')
    (now : ℕ) (sender : Address) :
    value = (newOrder now sender a).eth ∧ ∃ s₁ held, Undisturbed s s₁ ∧
      s' = { s₁ with held := held } ∧
      ∀ t, P.exact t → held t = s₁.held t + if a.token = t ∧ t ≠ 0 then a.amount else 0 := by
  by_cases htoken : a.token = 0
  · -- ETH has come with the call
    rw [pullFunds, if_pos htoken] at h
    simp only [chain_eq_ok, checkedAdd_eq_ok, failIf_eq_ok, exists_const, pure_eq_ok_iff,
      not_not] at h
    obtain ⟨total, ⟨-, htotal⟩, hvalue, rfl⟩ := h
    refine ⟨by simp [Order.eth, newOrder, htoken, hvalue, htotal], s, s.held, Undisturbed.refl s,
      rfl, fun t _ => ?_⟩
    rw [if_neg fun hh => hh.2 (hh.1 ▸ htoken), add_zero]
  · rw [pullFunds, if_neg htoken] at h
    simp only [chain_eq_ok, failIf_eq_ok, exists_const, not_not, safeTransferFrom] at h
    obtain ⟨hvalue, -, allowed, -, -, balance, -, -, -, h⟩ := h
    have hu := hc s hs
    refine ⟨by simp [Order.eth, newOrder, htoken, hvalue], pull.reenter s, ?_⟩
    split_ifs at h with hx
    · -- the token is exact: the pull comes on top of what the token's code has done
      rw [pure_eq_ok_iff] at h
      refine ⟨_, hu, h.symm, fun t _ => ?_⟩
      by_cases htt : a.token = t
      · subst htt
        rw [Function.update_self, if_pos ⟨rfl, htoken⟩]
      · rw [Function.update_of_ne (Ne.symm htt), if_neg (fun hh => htt hh.1), add_zero]
    · rw [pure_eq_ok_iff] at h
      refine ⟨_, hu, h.symm, fun t ht => ?_⟩
      have hne : ¬ (a.token = t ∧ t ≠ 0) := fun hh => hx (hh.1 ▸ ht)
      rw [if_neg hne, add_zero]

lemma log_after_emit (s : State P) {e : Event} (he : e.isRegistry = false) :
    (nonReentrantAfter (s.emit e)).log = s.log ++ [e] := by
  simp [log, nonReentrantAfter, emit, he]

variable {now : ℕ}

/-- `createOrder` returns the id that the counter stood at, and creates that order. -/
lemma createOrder_created {msg : Msg P} {a : CreateArgs} {r : CreateReplies} {pull : Callee P}
    (hc : pull.Quiet) (hs : s.guard = P.guard.notEntered)
    (h : createOrder now msg a r pull s = .ok (orderId, s')) :
    orderId = s.nextOrderId ∧ Created now msg a s s' := by
  simp only [createOrder, chain_eq_ok, pure_eq_ok_iff, acceptValue, checkedAdd_eq_ok] at h
  obtain ⟨_, ⟨balance, ⟨hlt, rfl⟩, rfl⟩, s₁, hbefore, ⟨⟩, hchecks, ⟨⟩, -, s₂, hpull, tl, ⟨-, rfl⟩,
    h⟩ := h
  rw [nonReentrantBefore_notEntered (by exact hs)] at hbefore
  cases hbefore
  obtain ⟨hvalue, s₂, held, hu, rfl, hheld⟩ := pullFunds_ok hc rfl hpull now msg.sender
  obtain ⟨rfl, rfl⟩ := Prod.mk.inj h
  have hbal : s₂.balance = s.balance + msg.value := hu.balance
  refine ⟨hu.nextOrderId, hchecks, hvalue, ?_, ?_, hu.minSafetyDeposit, ?_, hu.pending, hu.payouts,
    hbal, hbal ▸ hlt, ?_, fun t ht => ?_⟩
  · show Function.update s₂.orders s₂.nextOrderId _ = _
    rw [hu.orders, hu.nextOrderId]
    rfl
  · show (s₂.nextOrderId + 1) % 2 ^ 256 = _
    rw [hu.nextOrderId]
  · show P.guard.nonReentrantAfter s₂.guard = s.guard
    rw [hu.guard, P.guard.after_entered, hs]
  · have hlog : s₂.log = s.log := hu.log
    have hid : s₂.nextOrderId = s.nextOrderId := hu.nextOrderId
    rw [log_after_emit _ rfl]
    show s₂.log ++ [_] = _
    rw [hlog]
    simp only [hid]
    rfl
  · show s.held t + _ ≤ held t
    rw [hheld t ht]
    exact Nat.add_le_add_right (hu.held t ht) _

/-- The common end of `claimOrder` and `refundOrder`. -/
lemma settle_settled {o o' : Order} {caller : Address} {e : Event} (h₁ : first.Quiet)
    (h₂ : second.Quiet) (hs : s.guard = P.guard.notEntered) (he : e.isRegistry = false)
    (h : payoutBoth o recipient caller orderId first second
      (State.setOrder { s with guard := P.guard.entered } orderId o') = .ok s') :
    ∃ ps, Settlement orderId o recipient caller ps ∧
      Settled orderId o' ps e s (nonReentrantAfter (s'.emit e)) := by
  obtain ⟨ps, hps, hp⟩ := payoutBoth_paid h₁ h₂ rfl h
  refine ⟨ps, hps, hp.orders, hp.nextOrderId, hp.minSafetyDeposit, ?_, hp.payouts, hp.balance,
    hp.pending, ?_, hp.spent.given, hp.spent.held⟩
  · show P.guard.nonReentrantAfter s'.guard = s.guard
    rw [hp.guard, hs]
    exact P.guard.after_entered
  · rw [log_after_emit _ he, hp.log]
    rfl

variable {caller : Caller P}

lemma claimOrder_settled {preimage : Bytes} (h₁ : first.Quiet) (h₂ : second.Quiet)
    (hs : s.guard = P.guard.notEntered)
    (h : claimOrder now caller orderId preimage first second s = .ok s') :
    claimChecks P now (s.orders orderId) preimage = .ok () ∧
      ∃ ps, Settlement orderId (s.orders orderId) (s.orders orderId).beneficiary caller ps ∧
        Settled orderId ((s.orders orderId).claim P now preimage) ps
          (.orderClaimed orderId caller (bytesToBytes32 preimage) (s.orders orderId).amount
            (s.orders orderId).safetyDeposit) s s' := by
  simp only [claimOrder, nonReentrantBefore_notEntered hs, ok_chain, chain_eq_ok,
    pure_eq_ok_iff] at h
  obtain ⟨⟨⟩, hchecks, s₂, hpay, rfl⟩ := h
  exact ⟨hchecks, settle_settled h₁ h₂ hs rfl hpay⟩

lemma refundOrder_settled (h₁ : first.Quiet) (h₂ : second.Quiet) (hs : s.guard = P.guard.notEntered)
    (h : refundOrder now caller orderId first second s = .ok s') :
    refundChecks now (s.orders orderId) = .ok () ∧
      ∃ ps, Settlement orderId (s.orders orderId) (s.orders orderId).refundAddress caller ps ∧
        Settled orderId ((s.orders orderId).refund now) ps
          (.orderRefunded orderId caller (s.orders orderId).amount
            (s.orders orderId).safetyDeposit) s s' := by
  simp only [refundOrder, nonReentrantBefore_notEntered hs, ok_chain, chain_eq_ok,
    pure_eq_ok_iff] at h
  obtain ⟨⟨⟩, hchecks, s₂, hpay, rfl⟩ := h
  exact ⟨hchecks, settle_settled h₁ h₂ hs rfl hpay⟩

lemma withdraw_withdrew (hc : callee.Quiet) (hs : s.guard = P.guard.notEntered)
    (h : withdraw caller callee s = .ok (amount, s')) :
    amount = s.pendingWithdrawals caller ∧ Withdrew caller s s' := by
  simp only [withdraw, nonReentrantBefore_notEntered hs, ok_chain, chain_eq_ok, failIf_eq_ok,
    exists_const, pure_eq_ok_iff] at h
  obtain ⟨hne, hok, h⟩ := h
  obtain ⟨rfl, rfl⟩ := Prod.mk.inj h
  rcases callValue_cases caller (s.pendingWithdrawals caller)
    (s := setPending { s with guard := P.guard.entered } caller 0) hc rfl with
    hv | ⟨s₂, hv, hle, -, -, hu⟩
  · -- a push that fails reverts the call
    exact absurd (by rw [hv]) hok
  rw [hv]
  refine ⟨rfl, hne, hu.orders, hu.nextOrderId, hu.minSafetyDeposit, ?_, hu.pending, hu.payouts,
    ?_, ?_, hu.held⟩
  · show P.guard.nonReentrantAfter s₂.guard = s.guard
    rw [hu.guard, hs]
    exact P.guard.after_entered
  · have hb : s₂.balance = s.balance - s.pendingWithdrawals caller := hu.balance
    have hle' : s.pendingWithdrawals caller ≤ s.balance := hle
    show s₂.balance + s.pendingWithdrawals caller = s.balance
    omega
  · rw [log_after_emit _ rfl, hu.log]
    rfl

/-- **Every call from outside has one of the listed effects**, unless it reverts. -/
theorem exec_outcome {a : Action P} (hs : s.guard = P.guard.notEntered)
    (h : exec now a s = .ok s') : Outcome now a s s' := by
  cases a with
  | tokens gift anything =>
    rw [exec] at h
    cases h
    exact .quiet rfl (driftTokens_undisturbed gift anything s)
  | receive msg =>
    rw [exec] at h
    cases h
  | setResolverRegistry caller newRegistry =>
    rw [exec] at h
    exact .quiet rfl (setResolverRegistry_undisturbed h)
  | createOrder msg args replies inner ok =>
    rw [exec] at h
    cases hc : createOrder now msg args replies ⟨execAll now inner, ok⟩ s with
    | error e =>
      rw [hc] at h
      cases h
    | ok r =>
      rw [hc] at h
      cases h
      exact .created (createOrder_created (quiet_execAll now inner ok) hs hc).2
  | claimOrder caller orderId preimage inner₁ ok₁ inner₂ ok₂ =>
    rw [exec] at h
    obtain ⟨hchecks, ps, hps, hset⟩ :=
      claimOrder_settled (quiet_execAll now inner₁ ok₁) (quiet_execAll now inner₂ ok₂) hs h
    exact .claimed hchecks hps hset
  | refundOrder caller orderId inner₁ ok₁ inner₂ ok₂ =>
    rw [exec] at h
    obtain ⟨hchecks, ps, hps, hset⟩ :=
      refundOrder_settled (quiet_execAll now inner₁ ok₁) (quiet_execAll now inner₂ ok₂) hs h
    exact .refunded hchecks hps hset
  | withdraw caller inner ok =>
    rw [exec] at h
    cases hw : withdraw caller ⟨execAll now inner, ok⟩ s with
    | error e =>
      rw [hw] at h
      cases h
    | ok r =>
      rw [hw] at h
      cases h
      exact .withdrawn (withdraw_withdrew (quiet_execAll now inner ok) hs hw).2
  | _ =>
    rw [exec] at h
    exact .quiet rfl (ownershipCall_undisturbed h)

/-- A call from outside ends with the guard open again. -/
lemma Outcome.guard {a : Action P} (h : Outcome now a s s') : s'.guard = s.guard := by
  cases h with
  | quiet _ hu => exact hu.guard
  | created hc => exact hc.guard
  | claimed _ _ hset => exact hset.guard
  | refunded _ _ hset => exact hset.guard
  | withdrawn hw => exact hw.guard

end WaffleFinance.Evm

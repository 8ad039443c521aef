import WaffleFinance.Evm.EscrowSolvency

/-!
# Settlement cannot be blocked

A payout in ETH never reverts in a solvent escrow: a push that fails becomes a credit, and the
credit cannot overflow because the escrow holds the ETH it stands for.  So a claim or a refund
goes through exactly when its checks pass and, for an order in tokens, the token contract lets
the transfer happen (`claimOrder_ok_iff`, `refundOrder_ok_iff`).
-/

namespace WaffleFinance.Evm

open Lib

variable {P : Platform}

/-! ### When the payouts of a settlement go through -/

/-- The escrow can settle the order `o`: no credit overflows by its ETH, and it has the
tokens. -/
structure Covered (o : Order) (s : State P) : Prop where
  credit : ∀ a, s.pendingWithdrawals a + o.eth < 2 ^ 256
  tokens : o.token ≠ 0 → P.exact o.token → o.amount ≤ s.held o.token

lemma State.pending_le_sum (s : State P) (a : Address) :
    s.pendingWithdrawals a ≤ ∑ b, s.pendingWithdrawals b :=
  Finset.single_le_sum (fun _ _ => Nat.zero_le _) (Finset.mem_univ a)

variable {orderId : ℕ} {s : State P}

/-- A solvent escrow can settle every order that is funded. -/
lemma Solvent.covered {k : ℕ} (hs : Solvent s) (hd : Disciplined k s) (hk : k < 2 ^ 256)
    (hfunded : (s.orders orderId).status = .funded) : Covered (s.orders orderId) s := by
  have hword := hs.word
  have heth := hs.eth
  rcases hd.mem_orderIds_or_blank hk orderId with hmem | hblank
  · have hle := Finset.single_le_sum (f := fun id => (s.orders id).ethOwed)
      (fun _ _ => Nat.zero_le _) hmem
    rw [Order.ethOwed_of_funded hfunded] at hle
    refine ⟨fun a => ?_, fun htoken hx => ?_⟩
    · have := s.pending_le_sum a
      omega
    · have hle := Finset.single_le_sum
        (f := fun id => (s.orders id).tokenOwed (s.orders orderId).token)
        (fun _ _ => Nat.zero_le _) hmem
      rw [Order.tokenOwed_of_funded hfunded, if_pos rfl] at hle
      exact hle.trans (hs.tokens _ htoken hx)
  · -- an order that was never created locks nothing
    have hzero : (s.orders orderId).eth = 0 :=
      (Order.ethOwed_of_funded hfunded).symm.trans hblank.ethOwed
    refine ⟨fun a => ?_, fun htoken _ => ?_⟩
    · have := s.pending_le_sum a
      omega
    · obtain ⟨st, t, -, ho⟩ := hblank
      exact absurd (by rw [ho]) htoken

variable {recipient : Address}

lemma payoutNative_ok {amount : ℕ} (orderId : ℕ) (callee : Callee P)
    (h : s.pendingWithdrawals recipient + amount < 2 ^ 256) :
    ∃ s', payoutNative recipient amount orderId callee s = .ok s' := by
  have hfail : (callValue recipient amount callee s).1 = false →
      (callValue recipient amount callee s).2 = s := by
    unfold callValue receive
    split_ifs <;> simp
  unfold payoutNative
  cases hcall : (callValue recipient amount callee s).1 with
  | true =>
    simp only [hcall, if_true]
    exact ⟨_, rfl⟩
  | false =>
    simp only [hcall, Bool.false_eq_true, if_false, hfail hcall, checkedAdd, if_pos h, ok_chain]
    exact ⟨_, rfl⟩

lemma safeTransfer_ok_iff {token : Address} (recipient : Address) {amount : ℕ} {callee : Callee P}
    (hc : callee.Quiet) (hs : s.guard = P.guard.entered)
    (hheld : P.exact token → amount ≤ s.held token) :
    (∃ s', safeTransfer token recipient amount callee s = .ok s') ↔ callee.ok = true := by
  cases hok : callee.ok with
  | false => simp [safeTransfer, hok, failIf_pos]
  | true =>
    simp only [iff_true, safeTransfer, hok, Bool.true_eq_false, failIf_neg not_false, ok_chain]
    split_ifs with hx
    · have hge : ¬ (callee.reenter s).held token < amount := by
        have := hheld hx.1
        have := (hc s hs).held token hx.1
        omega
      rw [failIf_neg hge, ok_chain]
      exact ⟨_, rfl⟩
    · exact ⟨_, rfl⟩

variable {first : Callee P}

/-- The payouts of an order that the escrow can settle go through, unless the order is in
tokens and the token contract reverts. -/
lemma payoutBoth_ok_iff {o : Order} {caller : Address} {second : Callee P} (h₁ : first.Quiet)
    (hs : s.guard = P.guard.entered) (hcov : Covered o s) :
    (∃ s', payoutBoth o recipient caller orderId first second s = .ok s') ↔
      o.token = 0 ∨ first.ok = true := by
  -- the second payout is always possible after the first
  have hsecond : ∀ s₁, payout o.token recipient o.amount orderId first s = .ok s₁ →
      ∃ s₂, (if 0 < o.safetyDeposit then payout 0 caller o.safetyDeposit orderId second s₁
        else pure s₁) = .ok s₂ := by
    intro s₁ hs₁
    split_ifs with hd
    · obtain ⟨ch, hch, hpaid⟩ := payout_paid h₁ hs hs₁
      refine payoutNative_ok orderId second ?_
      rw [hpaid.pending]
      have hcredit := hcov.credit caller
      have hle : Payout.credit ⟨orderId, o.token, recipient, o.amount, ch⟩ caller
          + o.safetyDeposit ≤ o.eth := by
        have hroute : ch = .transferred ↔ o.token ≠ 0 := hch
        unfold Payout.credit Order.eth
        split_ifs with hdef htoken <;> simp_all
      simp only [List.map_cons, List.map_nil, List.sum_cons, List.sum_nil]
      omega
    · exact ⟨s₁, rfl⟩
  have hfirst : (∃ s', payoutBoth o recipient caller orderId first second s = .ok s') ↔
      ∃ s₁, payout o.token recipient o.amount orderId first s = .ok s₁ := by
    simp only [payoutBoth, chain_eq_ok]
    constructor
    · rintro ⟨s', s₁, hs₁, -⟩
      exact ⟨s₁, hs₁⟩
    · rintro ⟨s₁, hs₁⟩
      obtain ⟨s₂, hs₂⟩ := hsecond s₁ hs₁
      exact ⟨s₂, s₁, hs₁, hs₂⟩
  rw [hfirst]
  by_cases htoken : o.token = 0
  · have hcredit := hcov.credit recipient
    simp only [htoken, true_or, iff_true, payout, if_true]
    refine payoutNative_ok orderId first ?_
    rw [Order.eth, if_pos htoken] at hcredit
    omega
  rw [← safeTransfer_ok_iff recipient h₁ hs (hcov.tokens htoken)]
  simp only [htoken, false_or, payout, if_false, chain_eq_ok, pure_eq_ok_iff]
  constructor
  · rintro ⟨_, s₁, hs₁, -⟩
    exact ⟨s₁, hs₁⟩
  · rintro ⟨s₁, hs₁⟩
    exact ⟨_, s₁, hs₁, rfl⟩

/-- The common end of `claimOrder` and `refundOrder`, entered with the order already written. -/
lemma settle_ok_iff {o : Order} (o' : Order) {caller : Address} {second : Callee P}
    (h₁ : first.Quiet) (hcov : Covered o s) :
    (∃ s', payoutBoth o recipient caller orderId first second
      (State.setOrder { s with guard := P.guard.entered } orderId o') = .ok s') ↔
      o.token = 0 ∨ first.ok = true :=
  payoutBoth_ok_iff h₁ rfl ⟨hcov.credit, hcov.tokens⟩

/-- **A claim goes through** exactly when its checks pass, unless the order is in tokens and the
token contract reverts. -/
theorem claimOrder_ok_iff {k : ℕ} (hs : Solvent s) (hd : Disciplined k s) (hk : k < 2 ^ 256)
    (h₁ : first.Quiet) (now orderId : ℕ) (caller : Caller P) (preimage : Bytes) (second : Callee P)
    :
    (∃ s', claimOrder now caller orderId preimage first second s = .ok s') ↔
      claimChecks P now (s.orders orderId) preimage = .ok () ∧
        ((s.orders orderId).token = 0 ∨ first.ok = true) := by
  simp only [claimOrder, nonReentrantBefore_notEntered hd.guard, ok_chain, chain_eq_ok,
    pure_eq_ok_iff]
  constructor
  · rintro ⟨s', ⟨⟩, hchecks, s₁, hpay, -⟩
    have hcov := hs.covered hd hk (claimChecks_eq_ok.1 hchecks).1
    exact ⟨hchecks, (settle_ok_iff _ h₁ hcov).1 ⟨s₁, hpay⟩⟩
  · rintro ⟨hchecks, hok⟩
    have hcov := hs.covered hd hk (claimChecks_eq_ok.1 hchecks).1
    obtain ⟨s₁, hpay⟩ := (settle_ok_iff _ h₁ hcov).2 hok
    exact ⟨_, (), hchecks, s₁, hpay, rfl⟩

/-- **A refund goes through** exactly when its checks pass, unless the order is in tokens and
the token contract reverts. -/
theorem refundOrder_ok_iff {k : ℕ} (hs : Solvent s) (hd : Disciplined k s) (hk : k < 2 ^ 256)
    (h₁ : first.Quiet) (now orderId : ℕ) (caller : Caller P) (second : Callee P) :
    (∃ s', refundOrder now caller orderId first second s = .ok s') ↔
      refundChecks now (s.orders orderId) = .ok () ∧
        ((s.orders orderId).token = 0 ∨ first.ok = true) := by
  simp only [refundOrder, nonReentrantBefore_notEntered hd.guard, ok_chain, chain_eq_ok,
    pure_eq_ok_iff]
  constructor
  · rintro ⟨s', ⟨⟩, hchecks, s₁, hpay, -⟩
    have hcov := hs.covered hd hk (refundChecks_eq_ok.1 hchecks).1
    exact ⟨hchecks, (settle_ok_iff _ h₁ hcov).1 ⟨s₁, hpay⟩⟩
  · rintro ⟨hchecks, hok⟩
    have hcov := hs.covered hd hk (refundChecks_eq_ok.1 hchecks).1
    obtain ⟨s₁, hpay⟩ := (settle_ok_iff _ h₁ hcov).2 hok
    exact ⟨_, (), hchecks, s₁, hpay, rfl⟩

/-! ### The windows of an order -/

/-- All the checks of `claimOrder`. -/
def claimAdmits (now orderId : ℕ) (preimage : Bytes) (s : State P) : Except Error Unit := do
  let s ← nonReentrantBefore s
  claimChecks P now (s.orders orderId) preimage

/-- All the checks of `refundOrder`. -/
def refundAdmits (now orderId : ℕ) (s : State P) : Except Error Unit := do
  let s ← nonReentrantBefore s
  refundChecks now (s.orders orderId)

/-- A funded order can be claimed with its preimage or be refunded, and not both, at every time
except the second of its timelock. -/
theorem claim_xor_refund_iff {s : State P} (h : Reachable s) {id : ℕ}
    (hfunded : (s.orders id).status = .funded) {preimage : Bytes} (hlen : preimage.length = 32)
    (hdigest : P.sha256 preimage = (s.orders id).hashlock ∨
      P.keccak256 preimage = (s.orders id).hashlock) (now : ℕ) :
    Xor (claimAdmits now id preimage s = .ok ()) (refundAdmits now id s = .ok ()) ↔
      now ≠ (s.orders id).timelock := by
  obtain ⟨d, h, n, rfl⟩ := h
  obtain ⟨k, -, -, hd⟩ := h.disciplined d n
  have hclaim : claimAdmits now id preimage (h.stateAt d n) = .ok () ↔
      now < ((h.stateAt d n).orders id).timelock := by
    rw [claimAdmits, nonReentrantBefore_notEntered hd.guard, ok_chain, claimChecks_eq_ok]
    simp only [hfunded, hlen, hdigest, true_and, and_true]
  have hrefund : refundAdmits now id (h.stateAt d n) = .ok () ↔
      ((h.stateAt d n).orders id).timelock < now := by
    rw [refundAdmits, nonReentrantBefore_notEntered hd.guard, ok_chain, refundChecks_eq_ok]
    simp only [hfunded, true_and]
  rw [hclaim, hrefund, xor_def]
  omega

open Sample in
/-- The sample order, locked until `1300`, before that time. -/
theorem claim_xor_refund_sample :
    Xor (claimAdmits 1299 1 secret (history.stateAt deployment 1) = .ok ())
      (refundAdmits 1299 1 (history.stateAt deployment 1) = .ok ()) :=
  (claim_xor_refund_iff ⟨deployment, history, 1, rfl⟩ (by decide +kernel)
    (by decide) (.inl (by decide +kernel)) 1299).2 (by decide +kernel)

open Sample in
/-- At the second of its timelock the sample order is funded, and a claim with its preimage is
refused as expired while a refund is refused as not expired. -/
theorem neither_claim_nor_refund_at_timelock :
    let s := history.stateAt deployment 1
    1 ∈ s.createdIds ∧ (s.orders 1).status = .funded ∧ (s.orders 1).timelock = 1300 ∧
      secret.length = 32 ∧ Platform.sample.sha256 secret = (s.orders 1).hashlock ∧
      claimAdmits 1300 1 secret s = .error .expired ∧
      refundAdmits 1300 1 s = .error .notExpired := by
  refine ⟨by decide +kernel, by decide +kernel, by decide +kernel, by decide, by decide +kernel,
    rfl, rfl⟩

/-! ### Credits -/

/-- The amount that an event announces as deferred to the account `a`. -/
def Event.deferredTo (a : Address) : Event → ℕ
  | .payoutDeferred _ recipient amount => if recipient = a then amount else 0
  | _ => 0

/-- The amount that an event announces as withdrawn by the account `a`. -/
def Event.withdrawnBy (a : Address) : Event → ℕ
  | .withdrawn recipient amount => if recipient = a then amount else 0
  | _ => 0

/-- All that was ever deferred to the account `a`. -/
def State.deferredTo (s : State P) (a : Address) : ℕ := (s.log.map (Event.deferredTo a)).sum

/-- All that the account `a` ever withdrew. -/
def State.withdrawnBy (s : State P) (a : Address) : ℕ := (s.log.map (Event.withdrawnBy a)).sum

/-- The credit of every account is what was deferred to it less what it withdrew. -/
def CreditsAccounted (s : State P) : Prop :=
  ∀ a, s.pendingWithdrawals a + s.withdrawnBy a = s.deferredTo a

lemma sum_deferredTo_notices (a : Address) (ps : List Payout) :
    ((ps.flatMap Payout.notice).map (Event.deferredTo a)).sum = (ps.map (·.credit a)).sum := by
  induction ps with
  | nil => rfl
  | cons p ps ih =>
    rw [List.flatMap_cons, List.map_append, List.sum_append, ih, List.map_cons, List.sum_cons]
    congr 1
    unfold Payout.notice Payout.credit
    by_cases hch : p.channel = .deferred
    · simp [hch, Event.deferredTo]
    · simp [hch]

lemma sum_withdrawnBy_notices (a : Address) (ps : List Payout) :
    ((ps.flatMap Payout.notice).map (Event.withdrawnBy a)).sum = 0 := by
  induction ps with
  | nil => rfl
  | cons p ps ih =>
    rw [List.flatMap_cons, List.map_append, List.sum_append, ih]
    unfold Payout.notice
    split_ifs <;> simp [Event.withdrawnBy]

variable {s' : State P}

lemma CreditsAccounted.of_log (h : CreditsAccounted s) (es : List Event)
    (hlog : s'.log = s.log ++ es)
    (hes : ∀ a, s'.pendingWithdrawals a + (es.map (Event.withdrawnBy a)).sum
      = s.pendingWithdrawals a + (es.map (Event.deferredTo a)).sum) : CreditsAccounted s' := by
  intro a
  have hold := h a
  have hnew := hes a
  simp only [State.withdrawnBy, State.deferredTo, hlog, List.map_append, List.sum_append]
    at hold ⊢
  omega

lemma Outcome.creditsAccounted {k now : ℕ} {a : Action P} (_ : k + 1 < 2 ^ 256)
    (_ : Disciplined k s) (hs : CreditsAccounted s) (h : Outcome now a s s') :
    CreditsAccounted s' := by
  -- a settlement credits what its notices announce
  have hsettled : ∀ {orderId o ps e}, Settled orderId o ps e s s' →
      (∀ b, e.deferredTo b = 0) → (∀ b, e.withdrawnBy b = 0) → CreditsAccounted s' := by
    intro orderId o ps e hset hdef hwit
    refine hs.of_log (ps.flatMap Payout.notice ++ [e]) (by rw [hset.log]; simp) fun b => ?_
    simp only [List.map_append, List.sum_append, sum_deferredTo_notices, sum_withdrawnBy_notices,
      List.map_cons, List.map_nil, List.sum_cons, List.sum_nil, hdef, hwit, hset.pending b]
    omega
  cases h with
  | quiet _ hu =>
    exact hs.of_log [] (by rw [hu.log]; simp) fun b => by simp [hu.pending]
  | created hc =>
    exact hs.of_log _ hc.log fun b => by
      simp [hc.pending, createdEvent, Event.withdrawnBy, Event.deferredTo]
  | claimed _ _ hset | refunded _ _ hset => exact hsettled hset (fun _ => rfl) (fun _ => rfl)
  | @withdrawn caller _ _ _ _ hw =>
    refine hs.of_log _ hw.log fun b => ?_
    rw [hw.pending]
    by_cases hb : b = caller
    · subst hb
      simp [Event.withdrawnBy, Event.deferredTo]
    · simp [Event.withdrawnBy, Event.deferredTo, hb, Ne.symm hb]

lemma History.creditsAccounted (h : History P) (d : Deployment) (n : ℕ) :
    CreditsAccounted (h.stateAt d n) := by
  obtain ⟨-, -, -, -, hs⟩ :=
    h.invariant d (fun _ => rfl : CreditsAccounted (deploy d)) Outcome.creditsAccounted n
  exact hs

lemma Outcome.withdraw_of_pending_lt {now : ℕ} {c : Action P} (h : Outcome now c s s') {a : Address}
    (hlt : s'.pendingWithdrawals a < s.pendingWithdrawals a) :
    ∃ (caller : Caller P) (inner : List (Action P)) (ok : Bool),
      c = .withdraw caller inner ok ∧ caller.1 = a := by
  cases h with
  | quiet _ hu => exact absurd hlt (by rw [hu.pending]; omega)
  | created hc => exact absurd hlt (by rw [hc.pending]; omega)
  | claimed _ _ hset | refunded _ _ hset => exact absurd hlt (by rw [hset.pending]; omega)
  | @withdrawn caller inner ok _ _ hw =>
    refine ⟨caller, inner, ok, rfl, ?_⟩
    by_contra hne
    rw [hw.pending, Function.update_of_ne (Ne.symm hne)] at hlt
    omega

lemma withdraw_ok {caller : Caller P} {callee : Callee P} (hg : s.guard = P.guard.notEntered)
    (hpos : s.pendingWithdrawals caller ≠ 0) (hle : s.pendingWithdrawals caller ≤ s.balance)
    (hok : callee.ok = true) :
    ∃ s', withdraw caller callee s = .ok (s.pendingWithdrawals caller, s') := by
  have hcall : (callValue caller (s.pendingWithdrawals caller) callee
      (State.setPending { s with guard := P.guard.entered } caller 0)).1 = true := by
    unfold callValue
    rw [if_neg (by simpa [State.setPending] using hle), if_neg caller.2, if_pos hok]
  simp only [withdraw, nonReentrantBefore_notEntered hg, ok_chain, failIf_neg hpos, hcall,
    Bool.true_eq_false, failIf_neg not_false]
  exact ⟨_, rfl⟩

/-! ### The result -/

/-- What is known of every state between two calls. -/
lemma Reachable.sound (h : Reachable s) :
    ∃ k < 2 ^ 256, Disciplined k s ∧ Solvent s ∧ CreditsAccounted s := by
  obtain ⟨d, h, n, rfl⟩ := h
  obtain ⟨k, hk, -, hd⟩ := h.disciplined d n
  exact ⟨k, hk, hd, h.solvent d n, h.creditsAccounted d n⟩

/-- **Settlement cannot be blocked.**  Whatever the code at the recipients does, a funded order
in ETH is claimed by every claim with a preimage before its timelock and refunded by every
refund after it.  A credit is what was deferred to the account less what the account withdrew,
only a withdrawal by the account itself decreases it, and the escrow has the ETH for it. -/
theorem settlement_cannot_be_blocked {s : State P} (h : Reachable s) :
    (∀ id ∈ s.createdIds, (s.orders id).status = .funded → (s.orders id).token = 0 →
      ∀ (now : ℕ) (caller : Caller P) (inner₁ inner₂ : List (Action P)) (ok₁ ok₂ : Bool),
        (∀ preimage : Bytes, now < (s.orders id).timelock → preimage.length = 32 →
          (P.sha256 preimage = (s.orders id).hashlock ∨
            P.keccak256 preimage = (s.orders id).hashlock) →
          ∃ s', exec now (.claimOrder caller id preimage inner₁ ok₁ inner₂ ok₂) s = .ok s' ∧
            (s'.orders id).status = .claimed) ∧
        ((s.orders id).timelock < now →
          ∃ s', exec now (.refundOrder caller id inner₁ ok₁ inner₂ ok₂) s = .ok s' ∧
            (s'.orders id).status = .refunded)) ∧
    ∀ a : Address,
      s.pendingWithdrawals a + s.withdrawnBy a = s.deferredTo a ∧
      (∀ c : ℕ × Action P,
        ((escrow P).step s c).pendingWithdrawals a < s.pendingWithdrawals a →
        ∃ (caller : Caller P) (inner : List (Action P)) (ok : Bool),
          c.2 = .withdraw caller inner ok ∧ caller.1 = a) ∧
      s.pendingWithdrawals a ≤ s.balance ∧
      ∀ (now : ℕ) (caller : Caller P) (inner : List (Action P)), caller.1 = a →
        s.pendingWithdrawals a ≠ 0 →
        ∃ s', withdraw caller ⟨execAll now inner, true⟩ s = .ok (s.pendingWithdrawals a, s') := by
  obtain ⟨k, hk, hd, hs, hcredits⟩ := h.sound
  have hle : ∀ a, s.pendingWithdrawals a ≤ s.balance := by
    intro a
    have hsum := s.pending_le_sum a
    have heth := hs.eth
    omega
  refine ⟨?_, fun a => ⟨hcredits a, ?_, hle a, ?_⟩⟩
  · intro id _ hfunded htoken now caller inner₁ inner₂ ok₁ ok₂
    have hq₁ := quiet_execAll (P := P) now inner₁ ok₁
    have hq₂ := quiet_execAll (P := P) now inner₂ ok₂
    constructor
    · intro preimage hnow hlen hdigest
      have hchecks : claimChecks P now (s.orders id) preimage = .ok () :=
        claimChecks_eq_ok.2 ⟨hfunded, hnow, hlen, hdigest⟩
      obtain ⟨s', hs'⟩ := (claimOrder_ok_iff hs hd hk hq₁ now id caller preimage
        ⟨execAll now inner₂, ok₂⟩).2 ⟨hchecks, .inl htoken⟩
      obtain ⟨-, ps, -, hset⟩ := claimOrder_settled hq₁ hq₂ hd.guard hs'
      exact ⟨s', by rw [exec]; exact hs', by rw [hset.orders, Function.update_self]; rfl⟩
    · intro hnow
      obtain ⟨s', hs'⟩ := (refundOrder_ok_iff hs hd hk hq₁ now id caller
        ⟨execAll now inner₂, ok₂⟩).2
        ⟨refundChecks_eq_ok.2 ⟨hfunded, hnow⟩, .inl htoken⟩
      obtain ⟨-, ps, -, hset⟩ := refundOrder_settled hq₁ hq₂ hd.guard hs'
      exact ⟨s', by rw [exec]; exact hs', by rw [hset.orders, Function.update_self]; rfl⟩
  · intro c hlt
    rcases Machine.step_cases (escrow P) s c with hstep | ⟨s', hok, hstep⟩
    · exact absurd hlt (by rw [hstep]; omega)
    · rw [hstep] at hlt
      exact (exec_outcome hd.guard hok).withdraw_of_pending_lt hlt
  · rintro now caller inner rfl hpos
    exact withdraw_ok hd.guard hpos (hle _) rfl

open Sample in
/-- The sample order in ETH: its beneficiary's code reverts and both recipients try to withdraw
in the middle of the claim, and the claim goes through. -/
theorem settlement_cannot_be_blocked_sample :
    ∃ s', exec 1200 (.claimOrder bob 1 secret [.withdraw bob [] true] false
        [.withdraw bob [] true] true)
        (history.stateAt deployment 1) = .ok s' ∧
      (s'.orders 1).status = .claimed :=
  ((settlement_cannot_be_blocked ⟨deployment, history, 1, rfl⟩).1 1
    (by decide +kernel) (by decide +kernel) (by decide +kernel) 1200 bob _ _ _ _).1
    secret (by decide +kernel) (by decide) (.inl (by decide +kernel))

end WaffleFinance.Evm

import WaffleFinance.Soroban.HtlcSettlement

/-!
# Orders of the Soroban contract can be settled

While the instance is live, whether a claim or a refund of a funded order goes through is decided
by the mode of the contract and by the clock alone: the contract always has what the settlement
takes.  The lifetime of the instance is not that of an order, and may end before it.  While the
contract is paused nothing moves.
-/

namespace WaffleFinance.Soroban.Htlc

open Lib

variable {E : Env}

/-! ### The transfers go through -/

lemma locked_nonneg {s : State} (hs : Sound E s) (asset : Address) (id : ℕ) :
    0 ≤ locked asset (s.order? id) := by
  cases ho : s.order? id with
  | none => exact le_rfl
  | some o =>
    obtain ⟨hamount, hdeposit⟩ := hs.amounts id o ho
    simp only [locked]
    split_ifs
    · omega
    · exact le_rfl

/-- The contract has what a funded order locks. -/
lemma Sound.covers {s : State} (hs : Sound E s) {id : ℕ} {o : Order} (ho : s.order? id = some o)
    (hfunded : o.status = .funded) (hx : E.exact o.asset) :
    o.amount + o.safetyDeposit ≤ s.balances o.asset E.self := by
  have hone : locked o.asset (s.order? id) ≤ s.totalLocked o.asset :=
    Finset.single_le_sum (f := fun id => locked o.asset (s.order? id))
      (fun id _ => locked_nonneg hs o.asset id) (hs.mem_orderIds ho)
  rw [ho, locked_of_funded hfunded, if_pos rfl] at hone
  exact hone.trans (hs.covered o.asset hx)

/-- Both transfers of a settlement go through where the contract has what they take. -/
lemma settleOrder_exists {orderId : ℕ} {o : Order} (recipient caller : Address)
    {first second : Reply E Unit} {s : State} (hfirst : first.result = some ())
    (hsecond : second.result = some ()) (hamount : 0 < o.amount) (hdeposit : 0 ≤ o.safetyDeposit)
    (hcov : E.exact o.asset → o.amount + o.safetyDeposit ≤ s.balances o.asset E.self) :
    ∃ s', settleOrder orderId o recipient caller first second s = .ok s' := by
  obtain ⟨b₁, htransfer₁⟩ := tokenTransfer_out_ok (b := s.balances) Error.callFailed recipient
    hfirst hamount.le fun hx => by have := hcov hx; omega
  obtain ⟨b₂, htransfer₂⟩ := tokenTransfer_out_ok (b := b₁) Error.callFailed caller hsecond hdeposit
    fun hx => by
      -- the first transfer has taken the amount and no more
      have hleft := (Flow.of_transfer_out htransfer₁).le o.asset hx
      have htotal := hcov hx
      rw [if_pos rfl] at hleft
      omega
  simp only [settleOrder, settleTransfer, htransfer₁, ok_chain, pure_bind]
  by_cases hpos : 0 < o.safetyDeposit
  · simp only [if_pos hpos, State.record, htransfer₂, ok_chain, pure_bind]
    exact ⟨_, rfl⟩
  · rw [if_neg hpos]
    exact ⟨_, rfl⟩

/-! ### When a settlement succeeds -/

section Settle

variable {s : State} {inv : Invocation E} {orderId : ℕ} {entry : Entry} {caller : Address}
  {first second : Reply E Unit}

lemma Sound.settleOrder_exists (hs : Sound E s) (recipient : Address)
    (hentry : s.orders orderId = some entry) (hfirst : first.result = some ())
    (hsecond : second.result = some ()) (hfunded : entry.order.status = .funded) :
    ∃ s', settleOrder orderId entry.order recipient caller first second s = .ok s' := by
  have horder : s.order? orderId = some entry.order := by simp [State.order?, hentry]
  obtain ⟨hamount, hdeposit⟩ := hs.amounts orderId entry.order horder
  exact Htlc.settleOrder_exists recipient caller hfirst hsecond hamount hdeposit
    (hs.covers horder hfunded)

/-- A claim of an order whose entry is live succeeds when the caller authorises it, the contract
is live and the checks on the order pass. -/
lemma claimOrder_ok_iff (hs : Sound E s) (hentry : s.orders orderId = some entry)
    (hlive : inv.sequence ≤ entry.liveUntil) (hfirst : first.result = some ())
    (hsecond : second.result = some ()) (preimage : Bytes) :
    (∃ s', claimOrder inv orderId preimage caller first second s = .ok s') ↔
      inv.auth caller = true ∧ s.mode = .live ∧
        claimChecks E inv.timestamp entry.order preimage = .ok () := by
  constructor
  · rintro ⟨s', hok⟩
    obtain ⟨hmode, hauth, o, hchecks, hset, -⟩ := claimOrder_settled hok
    have hfound := hset.found
    simp only [State.order?, hentry, Option.map_some, Option.some.injEq] at hfound
    exact ⟨hauth, hmode, hfound ▸ hchecks⟩
  · rintro ⟨hauth, hmode, hchecks⟩
    obtain ⟨s₁, hsettle⟩ := hs.settleOrder_exists entry.order.beneficiary hentry hfirst hsecond
      (claimChecks_eq_ok.1 hchecks).1
    simp only [claimOrder, requireInitialised, requireCurrentSchema, requireAuth, chain_eq_ok,
      failIf_eq_ok, exists_const, requireCreateClaimAllowed_eq_ok, loadOrder_eq_ok,
      pure_eq_ok_iff, Bool.not_eq_false]
    exact ⟨_, hs.admin, by simp [hs.schema], hauth, hmode, entry, ⟨hentry, hlive⟩, (), hchecks,
      s₁, hsettle, rfl⟩

/-- A refund of an order whose entry is live succeeds when the caller authorises it, the contract
is not paused and the checks on the order pass. -/
lemma refundOrder_ok_iff (hs : Sound E s) (hentry : s.orders orderId = some entry)
    (hlive : inv.sequence ≤ entry.liveUntil) (hfirst : first.result = some ())
    (hsecond : second.result = some ()) :
    (∃ s', refundOrder inv orderId caller first second s = .ok s') ↔
      inv.auth caller = true ∧ s.mode ≠ .paused ∧
        refundChecks inv.timestamp entry.order = .ok () := by
  constructor
  · rintro ⟨s', hok⟩
    obtain ⟨hmode, hauth, o, hchecks, hset, -⟩ := refundOrder_settled hok
    have hfound := hset.found
    simp only [State.order?, hentry, Option.map_some, Option.some.injEq] at hfound
    exact ⟨hauth, hmode, hfound ▸ hchecks⟩
  · rintro ⟨hauth, hmode, hchecks⟩
    obtain ⟨s₁, hsettle⟩ := hs.settleOrder_exists entry.order.refundAddress hentry hfirst hsecond
      (refundChecks_eq_ok.1 hchecks).1
    simp only [refundOrder, requireInitialised, requireCurrentSchema, requireAuth,
      requireRefundAllowed, chain_eq_ok, failIf_eq_ok, exists_const, loadOrder_eq_ok,
      pure_eq_ok_iff, Bool.not_eq_false]
    exact ⟨_, hs.admin, by simp [hs.schema], hauth, hmode, entry, ⟨hentry, hlive⟩, (), hchecks,
      s₁, hsettle, rfl⟩

end Settle

/-! ### Modes -/

/-- A contract that is not live stays in its mode or goes live. -/
lemma Outcome.mode {inv : Invocation E} {a : Action E} {s s' : State} (h : Outcome inv a s s')
    (hs : s.mode ≠ .live) : s'.mode = s.mode ∨ s'.mode = .live := by
  cases h with
  | untouched hu =>
    rcases hu.mode with hsame | hallows
    · exact .inl hsame
    · -- of the permitted changes only those to `Live` start elsewhere
      cases hm : s.mode <;> cases hm' : s'.mode <;> simp_all [ContractMode.allows]
  | created hc => exact .inl hc.mode_eq
  | claimed _ _ _ hset => exact .inl hset.mode_eq
  | refunded _ _ _ hset => exact .inl hset.mode_eq

/-- **Settlement is available.**  In a reachable state, take a funded order whose entry is live, a
caller that authorises the call, and a token contract that makes every transfer for which there is
enough.  While the instance is live, a live contract lets exactly one of a claim with the preimage
and a refund succeed, the claim up to the timelock.  In maintenance only the refund remains, in a
paused contract neither.  These two modes are only ever left to go live. -/
theorem settlement_available {s : State} (h : Reachable E s) :
    (∀ (orderId : ℕ) (entry : Entry), s.orders orderId = some entry →
      entry.order.status = .funded →
      ∀ (inv : Invocation E) (caller : Address) (preimage : Bytes) (first second : Reply E Unit),
        inv.sequence ≤ s.instanceLiveUntil → inv.sequence ≤ entry.liveUntil →
        inv.auth caller = true → E.sha256 preimage = entry.order.hashlock →
        first.result = some () → second.result = some () →
        let claimed := ∃ s', exec inv (.claimOrder orderId preimage caller first second) s = .ok s'
        let refunded := ∃ s', exec inv (.refundOrder orderId caller first second) s = .ok s'
        (s.mode = .live →
          Xor claimed refunded ∧ (claimed ↔ inv.timestamp ≤ entry.order.timelock)) ∧
        (s.mode = .maintenance →
          (refunded ↔ entry.order.timelock < inv.timestamp) ∧ ¬ claimed) ∧
        (s.mode = .paused → ¬ claimed ∧ ¬ refunded)) ∧
    (∀ (inv : Invocation E) (a : Action E) (s' : State), exec inv a s = .ok s' →
      s.mode ≠ .live → s'.mode = s.mode ∨ s'.mode = .live) := by
  refine ⟨?_, fun inv a s' hok => (exec_outcome hok).mode⟩
  intro orderId entry hentry hfunded inv caller preimage first second hinstance hlive hauth hhash
    hfirst hsecond claimed refunded
  have hclaim : claimed ↔ s.mode = .live ∧ inv.timestamp ≤ entry.order.timelock := by
    show (∃ s', exec inv (.claimOrder orderId preimage caller first second) s = .ok s') ↔ _
    rw [exec_of_live hinstance, dispatch, claimOrder_ok_iff h.sound hentry hlive hfirst hsecond,
      claimChecks_eq_ok]
    simp [hauth, hfunded, hhash]
  have hrefund : refunded ↔ s.mode ≠ .paused ∧ entry.order.timelock < inv.timestamp := by
    show (∃ s', exec inv (.refundOrder orderId caller first second) s = .ok s') ↔ _
    rw [exec_of_live hinstance, dispatch, refundOrder_ok_iff h.sound hentry hlive hfirst hsecond,
      refundChecks_eq_ok]
    simp [hauth, hfunded]
  -- live, in maintenance, paused
  refine ⟨fun hmode => ?_, fun hmode => ?_, fun hmode => ?_⟩
  · have hc : claimed ↔ inv.timestamp ≤ entry.order.timelock := by simp [hclaim, hmode]
    have hr : refunded ↔ ¬ inv.timestamp ≤ entry.order.timelock := by simp [hrefund, hmode]
    refine ⟨?_, hc⟩
    rw [hc, hr, xor_def]
    tauto
  · simp [hclaim, hrefund, hmode]
  · simp [hclaim, hrefund, hmode]

/-- The first sample order can be claimed in the second of its timelock. -/
theorem settlement_available_sample :
    ∃ s', exec (E := Sample.env 0) (Sample.signedBy 2 1300) (.claimOrder 1 Sample.secret Sample.bob
      (Sample.quiet ()) (Sample.quiet ())) (Sample.history.stateAt 1) = .ok s' := by
  have hentry : (Sample.history.stateAt 1).orders 1
      = some ⟨newOrder 1 1000 .token Sample.args, 302675⟩ := by decide +kernel
  have hlive := ((settlement_available ⟨Sample.history, 1, rfl⟩).1 1 _ hentry rfl
    (Sample.signedBy 2 1300) Sample.bob Sample.secret (Sample.quiet ()) (Sample.quiet ())
    (by decide +kernel) (by decide) (by decide) rfl rfl rfl).1 (by decide +kernel)
  exact hlive.2.2 (by decide)

open Soroban.Sample in
/-- An order that is created when the instance has fourteen days to live, which is too much for an
extension. -/
def Sample.late : List (Invocation (env 0) × Action (env 0)) :=
  [(signedBy 1 1728000,
    .createOrder { args with timelockSeconds := 86400 } (quiet true) (quiet ()))]

lemma Sample.timed_late : Machine.Timed (fun c => c.1.timestamp) late := by
  simp [Machine.Timed, late]

def Sample.outlived : History (Sample.env 0) := ⟨start, initialised_start, late, timed_late⟩

open Soroban.Sample in
/-- The entry of the order outlives the instance, and then it can neither be claimed nor be
refunded. -/
theorem archived_instance_blocks_settlement :
    let s := Sample.outlived.stateAt 1
    let inv : Invocation (env 0) := signedBy 1 3240005
    (s.orders 1).map (fun e => (e.order.status, e.order.timelock)) = some (.funded, 1814400) ∧
      (s.orders 1).map Entry.liveUntil = some 669600 ∧ inv.sequence = 648001 ∧ s.mode = .live ∧
      exec inv (.claimOrder 1 Sample.secret alice (quiet ()) (quiet ())) s = .error .archived ∧
      exec inv (.refundOrder 1 alice (quiet ()) (quiet ())) s = .error .archived := by
  have harchived : (Sample.outlived.stateAt 1).instanceLiveUntil < 648001 := by decide +kernel
  refine ⟨by decide +kernel, by decide +kernel, rfl, by decide +kernel, ?_, ?_⟩
  · rw [exec, failIf_pos ⟨rfl, harchived⟩]
    rfl
  · rw [exec, failIf_pos ⟨rfl, harchived⟩]
    rfl

variable (E) in
/-- Nothing was ordered, settled or paid, and the contract has what it had of every exact token. -/
structure Frozen (s s' : State) : Prop where
  order : s'.order? = s.order?
  payouts : s'.payouts = s.payouts
  held : ∀ asset, E.exact asset → s.balances asset E.self ≤ s'.balances asset E.self

lemma Outcome.frozen {inv : Invocation E} {a : Action E} {s s' : State} (h : Outcome inv a s s')
    (hs : s.mode = .paused) : Frozen E s s' := by
  cases h with
  | untouched hu => exact ⟨hu.order, hu.payouts, fun asset hx => by simpa using hu.flow.le asset hx⟩
  | created hc => simp [hc.mode] at hs
  | claimed hlive => simp [hlive] at hs
  | refunded hmode => exact absurd hs hmode

/-- **A paused contract is frozen**, whatever calls are made, as long as it stays paused. -/
theorem frozen_while_paused (h : History E) (m k : ℕ)
    (hpaused : ∀ i < k, (h.stateAt (m + i)).mode = .paused) :
    Frozen E (h.stateAt m) (h.stateAt (m + k)) := by
  induction k with
  | zero => exact ⟨rfl, rfl, fun _ _ => le_rfl⟩
  | succ k ih =>
    have hfrozen := ih fun i hi => hpaused i (by omega)
    rcases h.stateAt_succ_cases (m + k) with hsame | ⟨c, -, hout⟩
    · rwa [← Nat.add_assoc, hsame]
    · have hstep := hout.frozen (hpaused k (by omega))
      exact ⟨hstep.order.trans hfrozen.order, hstep.payouts.trans hfrozen.payouts,
        fun asset hx => (hfrozen.held asset hx).trans (hstep.held asset hx)⟩

open Soroban.Sample in
/-- The contract is paused before the first order is claimed. -/
def Sample.pausing : List (Invocation (env 0) × Action (env 0)) :=
  [(signedBy 1 1000, .createOrder args (quiet true) (quiet ())),
   (signedBy 1 1000, .setMode .paused),
   (signedBy 2 1300, .claimOrder 1 secret bob (quiet ()) (quiet ()))]

lemma Sample.timed_pausing : Machine.Timed (fun c => c.1.timestamp) pausing := by
  simp [Machine.Timed, pausing, Soroban.Sample.signedBy]

def Sample.paused : History (Sample.env 0) := ⟨start, initialised_start, pausing, timed_pausing⟩

theorem frozen_while_paused_sample :
    ((Sample.paused.stateAt 2).order? 1).isSome = true ∧
      (Sample.paused.stateAt 3).order? = (Sample.paused.stateAt 2).order? := by
  refine ⟨by decide +kernel, (frozen_while_paused Sample.paused 2 1 fun i hi => ?_).order⟩
  obtain rfl := Nat.lt_one_iff.1 hi
  decide +kernel

end WaffleFinance.Soroban.Htlc

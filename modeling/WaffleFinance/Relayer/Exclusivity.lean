import WaffleFinance.Relayer.Runs

/-!
# One payout for a payment

A Stellar payment to the relayer may be paid for with ETH by two routes, be locked in an HTLC by
the poller, or be sent back.  It should be used once.

The two routes are kept apart by the ledger of consumed payments, and refunds are not paid at all.
The poller does not look at the ledger, so it can fund an HTLC for a payment that a route has used
or will use, and after a restart or a tick that has failed it can take up its own payments again.
-/

namespace WaffleFinance.Relayer

open Lib

/-- The payout uses the payment.  A refund uses the transaction. -/
def Payout.onAccountOf (key : PaymentKey) : Payout → Bool
  | .ethTransfer d .. => d.key = key
  | .ethHtlc m .. => m.key = key
  | .xlmRefund refund .. => refund.stellarTxHash = some key.stellarTxHash

/-- The payment for which the handler that waits may still pay out. -/
def Query.account : Query → Option PaymentKey
  | .coordinator d | .ethBalance d | .ethSend d _ => some d.key
  | .htlcBalance m | .htlcCreate m _ => some m.key
  | _ => none

section

variable {q : Query}

lemma account_of_plain (h : q.plain = true) : q.account = none := by
  cases q <;> simp_all [Query.plain, Query.account]

lemma account_of_deal {d : Deal} (h : q.deal = some d) : q.account = some d.key := by
  cases q <;> simp_all [Query.deal, Query.account]

lemma account_of_found {m : Match} (h : q.found = some m) : q.account = some m.key := by
  cases q <;> simp_all [Query.found, Query.account]

lemma deal_or_found_of_account {key : PaymentKey} (h : q.account = some key) :
    (∃ d, q.deal = some d ∧ d.key = key) ∨ ∃ m, q.found = some m ∧ m.key = key := by
  cases q <;> simp_all [Query.account, Query.deal, Query.found]

end

/-! ### The condition -/

/-- No HTLC has been funded for the payment, and none is about to be. -/
def Unfunded (key : PaymentKey) (s : State) (qs : Multiset Query) : Prop :=
  (∀ m wei txHash, .ethHtlc m wei txHash ∈ s.payouts → m.key ≠ key) ∧
    ∀ q ∈ qs, ∀ m, q.found = some m → m.key ≠ key

/-- Nothing has been paid out for the payment, and nothing is about to be. -/
def Untouched (key : PaymentKey) (s : State) (qs : Multiset Query) : Prop :=
  (∀ x ∈ s.payouts, x.onAccountOf key = false) ∧ ∀ q ∈ qs, q.account ≠ some key

/-- A route takes up a payment that the poller has not used, and the poller one that nobody has
used. -/
def FirstTaker (c : Config) : Option RelayerCause → State → Multiset Query → Prop
  | some (.answer (.fetchPayment r) fetched), s, qs => ∀ network key p,
      c.stellarAccount network = some key →
      verifyIncomingStellarPayment key r.expectedSourceAccount fetched = .ok p →
        s.proofLedger r.stellarTxHash = none → Unfunded ⟨r.stellarTxHash, p.op⟩ s qs
  | some (.answer (.memo p) (some (some memo))), s, qs => ∀ orderId order,
      memoPrefix.isPrefixOf memo = true →
      orderForMemo memo s.activeOrders = some (orderId, order) →
        amountVerified p.op.amount order.stellarAmount = true →
          Untouched ⟨p.transactionHash, p.op.id⟩ s qs
  | _, _, _ => True

/-! ### The invariant -/

/-- How many payouts have been made for the payment. -/
def Core.paid (k : Core) (key : PaymentKey) : ℕ := k.payouts.countP (Payout.onAccountOf key)

/-- How many payouts may still be made for the payment. -/
def underWay (qs : Multiset Query) (key : PaymentKey) : ℕ :=
  qs.countP (fun q => q.account = some key)

@[simp] lemma underWay_zero (key : PaymentKey) : underWay 0 key = 0 := rfl

@[simp] lemma underWay_add (qs qs' : Multiset Query) (key : PaymentKey) :
    underWay (qs + qs') key = underWay qs key + underWay qs' key :=
  Multiset.countP_add ..

@[simp] lemma underWay_singleton (q : Query) (key : PaymentKey) :
    underWay {q} key = if q.account = some key then 1 else 0 := by
  rw [underWay, ← Multiset.cons_zero, Multiset.countP_cons]
  simp

/-- For each payment there is at most one payout that has been made or may still be. -/
def Once (k : Core) (qs : Multiset Query) : Prop :=
  ∀ key, k.paid key + underWay qs key ≤ 1

namespace Once

variable {c : Config} {k k' : Core} {qs ans : Multiset Query} {o : Option Query}

/-- No payment is taken up.  What has been paid for is not under way any more. -/
lemma step (h : Once k (ans + qs))
    (hle : ∀ key, k'.paid key + underWay (o.toList : Multiset Query) key ≤
      k.paid key + underWay ans key) : Once k' ((o.toList : Multiset Query) + qs) := by
  intro key
  have hone := h key
  have hkey := hle key
  rw [underWay_add] at hone ⊢
  omega

/-- A turn that does not pay and goes on with no payment. -/
lemma idle (h : Once k (ans + qs)) (hpayouts : k'.payouts = k.payouts)
    (ho : ∀ q, o = some q → q.account = none) : Once k' ((o.toList : Multiset Query) + qs) := by
  refine h.step fun key => ?_
  have hzero : underWay (o.toList : Multiset Query) key = 0 :=
    countP_asked_eq_zero fun q hq => by simp [ho q hq]
  rw [hzero, Core.paid, hpayouts, Core.paid]
  omega

/-- The handler goes on with its payment. -/
lemma goesOn {q q' : Query} {reply : Reply q}
    (h : Once k ((.answer q reply : RelayerCause).answered + qs)) (hq : q'.account = q.account) :
    Once k (((some q').toList : Multiset Query) + qs) := by
  refine h.step fun key => ?_
  have hq' : underWay ((some q').toList : Multiset Query) key = _ := underWay_singleton q' key
  rw [hq', Cause.answered, underWay_singleton, hq]

/-- The handler pays. -/
lemma pay {q : Query} {reply : Reply q} {x : Payout}
    (h : Once k ((.answer q reply : RelayerCause).answered + qs))
    (hx : ∀ key, x.onAccountOf key = true → q.account = some key)
    (hpayouts : k'.payouts = k.payouts ++ [x]) (ho : ∀ q, o = some q → q.account = none) :
    Once k' ((o.toList : Multiset Query) + qs) := by
  refine h.step fun key => ?_
  have hzero : underWay (o.toList : Multiset Query) key = 0 :=
    countP_asked_eq_zero fun q hq => by simp [ho q hq]
  rw [hzero, Cause.answered, underWay_singleton, Core.paid, hpayouts, List.countP_append,
    ← Core.paid]
  by_cases hkey : x.onAccountOf key = true
  · simp [hkey, hx key hkey]
  · simp [hkey]

/-- A payment is taken up of which nobody has made use. -/
lemma take (h : Once k (ans + qs)) {q : Query} {key : PaymentKey}
    (hpayouts : k'.payouts = k.payouts) (hq : q.account = some key)
    (hpaid : ∀ x ∈ k.payouts, x.onAccountOf key = false)
    (hunder : ∀ q ∈ qs, q.account ≠ some key) :
    Once k' (((some q).toList : Multiset Query) + qs) := by
  have hpaid : k.paid key = 0 := by
    rw [Core.paid, List.countP_eq_zero]
    intro x hx
    simp [hpaid x hx]
  have hunder : underWay qs key = 0 := Multiset.countP_eq_zero.2 hunder
  intro key'
  have hsingle : underWay ((some q).toList : Multiset Query) key' = _ := underWay_singleton q key'
  rw [underWay_add, hsingle, Core.paid, hpayouts, ← Core.paid]
  by_cases hkey : key = key'
  · subst hkey
    rw [if_pos hq, hpaid, hunder]
  rw [if_neg (by rw [hq]; simpa using hkey)]
  have hone := h key'
  rw [underWay_add] at hone
  omega

end Once

variable {s : State} {qs : Multiset Query}

/-- What a route has not consumed yet and the poller has not funded is untouched. -/
lemma untouched_of_unfunded {c : Config} {key : PaymentKey} (haccounts : Accounts c s.core qs)
    (hfresh : s.proofLedger key.stellarTxHash = none) (h : Unfunded key s qs) :
    Untouched key s qs := by
  -- a deal with this payment would have consumed it
  have hdeal {d : Deal} (hd : d ∈ s.core.taken) : d.key ≠ key := by
    rintro rfl
    exact haccounts.consumed d hd hfresh
  constructor
  · intro x hx
    cases x with
    | ethTransfer d wei txHash =>
      have hne := hdeal (haccounts.released _ hx d rfl)
      simpa [Payout.onAccountOf] using hne
    | ethHtlc m wei txHash => simpa [Payout.onAccountOf] using h.1 m wei txHash hx
    | xlmRefund refund stroops txHash =>
      have hnone := haccounts.noRefund _ hx
      simp [Payout.isRefund] at hnone
  · intro q hq haccount
    rcases deal_or_found_of_account haccount with ⟨d, hd, hkey⟩ | ⟨m, hm, hkey⟩
    · exact hdeal (haccounts.pending q hq d hd) hkey
    · exact h.2 q hq m hm hkey

lemma Untouched.of_add {key : PaymentKey} {ans : Multiset Query} (h : Untouched key s (ans + qs)) :
    Untouched key s qs :=
  ⟨h.1, fun q hq => h.2 q (Multiset.mem_add.2 (Or.inr hq))⟩

/-- Every turn in which a payment is taken up for the first time keeps to one payout. -/
lemma Once.turn {c : Config} {cause : RelayerCause} {o : Option Query} {k : Core}
    (haccounts : Accounts c s.core (cause.answered + qs))
    (h : Once s.core (cause.answered + qs))
    (hfirst : FirstTaker c (some cause) s (cause.answered + qs))
    (hturn : Turn c cause s o k) : Once k ((o.toList : Multiset Query) + qs) := by
  have hplain {o : Option Query} (ho : Plain o) (q) (hq : o = some q) : q.account = none :=
    account_of_plain (ho q hq)
  cases hturn with
  | idle hcause ho | relabelled _ _ _ _ _ ho | fundingEnded _ _ _ _ ho =>
    exact h.idle rfl (hplain ho)
  | asked req r | claimed req refund hfree => exact h.idle rfl (by rintro q ⟨rfl⟩; rfl)
  | received req r order reqNet _ _ _ _ ho =>
    rcases ho with rfl | ⟨rfl, -⟩
    · exact h.idle rfl (hplain plain_none)
    · exact h.idle rfl (by rintro q ⟨rfl⟩; rfl)
  | consumed r key p entry hkey hverify hfresh ho =>
    rcases ho with rfl | ⟨rfl, -⟩
    · obtain ⟨network, hkey⟩ := hkey
      have huntouched := untouched_of_unfunded haccounts hfresh
        (hfirst network key p hkey hverify hfresh)
      exact h.take rfl rfl huntouched.1 huntouched.of_add.2
    · exact h.idle rfl (hplain plain_none)
  | advanced q' d hq hq' => exact h.goesOn (by rw [account_of_deal hq, account_of_deal hq'])
  | sent d wei txHash | funded m wei txHash =>
    exact h.pay (fun key hkey => by simpa [Payout.onAccountOf, Query.account] using hkey) rfl
      (by rintro q ⟨rfl⟩; rfl)
  | sentXlmToEth d wei txHash =>
    exact h.pay (fun key hkey => by simpa [Payout.onAccountOf, Query.account] using hkey) rfl
      (hplain plain_none)
  | matched p memo orderId order hpays htag horder ho =>
    rcases ho with ⟨rfl, hamount⟩ | ho
    · have huntouched := hfirst orderId order htag horder hamount
      exact h.take rfl rfl huntouched.1 huntouched.of_add.2
    · exact h.idle rfl (hplain ho)
  | funding q' m hq hq' => exact h.goesOn (by rw [account_of_found hq, account_of_found hq'])
  | _ => exact h.idle rfl (hplain plain_none)

/-- An answer that nobody hears. -/
lemma Once.lose {c : Config} {q : Query} {r : Reply q} (haccounts : Accounts c s.core (q ::ₘ qs))
    (h : Once s.core (q ::ₘ qs)) : Once (effect q r s).core qs := by
  have hnone (q : Query) (hq : none = some q) : q.account = none := by cases hq
  rw [← answered_add q r] at h
  rw [← asked_none qs]
  cases q with
  | ethSend d wei | htlcCreate m wei =>
    cases r with
    | none => exact h.idle rfl hnone
    | some txHash =>
      exact h.pay (fun key hkey => by simpa [Payout.onAccountOf, Query.account] using hkey) rfl
        hnone
  | submitRefund refund stroops fee =>
    have hquiet := haccounts.quiet _ (Multiset.mem_cons_self _ _)
    simp [Query.submitsRefund] at hquiet
  | _ => exact h.idle rfl hnone

lemma turnsKeep_once (c : Config) : TurnsKeep c (FirstTaker c) Once where
  turn := Once.turn
  crash {s s' qs} haccounts h _ horphaned := by
    have hlost := horphaned.preserves (I := fun s qs => Accounts c s.core qs ∧ Once s.core qs)
      (fun hI => ⟨hI.1.lose, hI.2.lose hI.1⟩) ⟨haccounts, h⟩
    exact hlost.2

/-! ### One payout -/

/-- At most one payout is made for a payment, in every run in which whoever takes up a payment is
the first to do so. -/
theorem paid_once {c : Config} {es : List (Event Query Reply Request)}
    (hes : EachStep c (FirstTaker c) es) (n : ℕ) (key : PaymentKey) :
    (pool c es n).state.payouts.countP (Payout.onAccountOf key) ≤ 1 := by
  have hinitial : Once State.initial.core 0 := by
    intro key
    simp [Core.paid, State.core, State.initial]
  have honce := (relayer_invariant (turnsKeep_once c) hinitial hes n).2 key
  exact (Nat.le_add_right _ _).trans honce

open Sample in
/-- Two routes are asked about a payment that nobody has used, and one of them pays for it. -/
theorem paid_once_settled :
    EachStep config (FirstTaker config) settled ∧
      (pool config settled 9).state.payouts =
        [.ethTransfer deal 500000000000000000 ['e']] ∧
      ∀ key, (pool config settled 9).state.payouts.countP
        (Payout.onAccountOf key) ≤ 1 := by
  have hes : EachStep config (FirstTaker config) settled := by
    refine eachStep_settled ?_
    intro n cause hn
    match n, hn with
    | 0, rfl | 1, rfl | 2, rfl | 3, rfl | 6, rfl | 7, rfl | 8, rfl => exact True.intro
    | 4, rfl =>
      have hpayouts : (pool config settled 4).state.payouts = [] := by decide +kernel
      have hpending : ∀ q ∈ (pool config settled 4).asked, q.found = none := by
        decide +kernel
      intro network key p _ _ _
      refine ⟨by simp [hpayouts], fun q hq m hm => ?_⟩
      cases (hpending q hq).symm.trans hm
    | 5, rfl =>
      -- the payment was consumed meanwhile
      have hconsumed : (pool config settled 5).state.proofLedger ['h'] ≠ none := by
        decide +kernel
      exact fun network key p _ _ hfresh => absurd hfresh hconsumed
  exact ⟨hes, by decide +kernel, paid_once hes 9⟩

/-- The poller funds an HTLC for the payment of an order; then the user asks `/xlm-to-eth` for the
ETH of the same payment. -/
def Sample.usedTwice : List (Event Query Reply Request) :=
  [.start (.create order), respond, .start .pollTick, respond, .start .pollTick, respond, respond,
    respond, respond, respond, respond, .start (.xlmToEth claim), respond, respond, respond,
    respond]

theorem paid_twice :
    (pool Sample.config Sample.usedTwice 16).state.payouts.countP
      (Payout.onAccountOf ⟨['h'], 1⟩) = 2 := by
  decide +kernel

end WaffleFinance.Relayer

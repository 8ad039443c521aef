import WaffleFinance.Relayer.Runs

/-!
# Payments that are consumed and not paid for

No handler takes a consumed payment up again.  When the handler that has consumed it ends, ETH has
been sent, or a refund is in the ledger, or the order should be one that the watchdog will find.

`/api/orders/process` does not write the hash into the order, so that the watchdog does not see the
order if the handler stops later.  `/api/orders/xlm-to-eth` does.  But it takes an order without a
direction, which the watchdog does not look at, and payments of anybody; the next request overwrites
what it wrote, another handler may end the order, and the orders do not survive a restart.  Nothing
else goes wrong (`none_stranded`).
-/

namespace WaffleFinance.Relayer

open Lib Lib.Cause RelayerCause
open Multiset (countP_add mem_add countP_cons mem_cons mem_cons_of_mem mem_cons_self mem_singleton)

/-! ### Where a consumed payment may be -/

/-- ETH has been sent. -/
def Core.Sent (k : Core) (d : Deal) : Prop := ∃ x ∈ k.payouts, x.deal = some d

/-- The watchdog regards the order as awaiting ETH for this payment. -/
structure Order.Watched (order : Order) (stellarTxHash : Text) (account : Option Text) : Prop where
  awaiting : isXlmToEthAwaitingEth order = true
  hash : order.stellarTxHash = some stellarTxHash
  address : order.stellarAddress = account

def Core.Watches (k : Core) (orderId stellarTxHash : Text) (account : Option Text) : Prop :=
  ∃ order, k.orders.get orderId = some order ∧ order.Watched stellarTxHash account

/-- ETH has been sent, or a refund is committed or ambiguous, or the watchdog knows the order with
the payment and the payer. -/
def Core.Safe (k : Core) (d : Deal) : Prop :=
  k.Sent d ∨ (∃ e, k.refunds d.release.orderId = some e ∧ e ≠ .inFlight) ∨
    k.Watches d.release.orderId d.release.stellarTxHash (some d.payment.source)

/-! ### The condition -/

/-- The release that the handler works on. -/
def Query.release : Query → Option Release
  | .fetchPayment r => some r
  | .coordinator d | .ethBalance d | .ethSend d _ => some d.release
  | _ => none

/-- A handler of `/xlm-to-eth` works on the order. -/
def Query.worksOn (orderId : Text) (q : Query) : Bool :=
  q.release.any fun r => r.route = .xlmToEth && r.orderId = orderId

/-- A handler of `/xlm-to-eth` works on the order, or has consumed a payment for it and not sent
the ETH. -/
def Busy (k : Core) (qs : Multiset Query) (orderId : Text) : Prop :=
  (∃ q ∈ qs, q.worksOn orderId = true) ∨
    ∃ d ∈ k.taken, d.release.route = .xlmToEth ∧ d.release.orderId = orderId ∧ ¬ k.Sent d

/-- The turn may write into the order what the watchdog looks at: it creates the order, `/process`
completes it, or `/xlm-to-eth` writes the hash of a payment. -/
def RelayerCause.Touches (s : State) (orderId : Text) (cause : RelayerCause) : Prop :=
  RelayerCause.newOrderId s.now cause = some orderId ∨
    RelayerCause.completes cause = some orderId ∨
    ∃ req stellarTxHash order, cause = .start (.xlmToEth req) ∧
      req.Received s orderId stellarTxHash order

/-- `/xlm-to-eth` is asked about an order that has a direction; if the request has left out the
account, the payment comes from the account of the order; and `/process` is not stopped once it has
consumed a payment. -/
def Proceeds (c : Config) : RelayerCause → State → Prop
  | .start (.xlmToEth req), s => ∀ orderId stellarTxHash order,
      req.Received s orderId stellarTxHash order → order.direction ≠ none
  | .start _, _ => True
  | .answer (.fetchPayment r) fetched, s => ∀ network key p, c.stellarAccount network = some key →
      verifyIncomingStellarPayment key r.expectedSourceAccount fetched = .ok p →
      s.proofLedger r.stellarTxHash = none →
        (r.route = .process → Deal.Releasable ⟨r, p⟩) ∧
        (r.route = .xlmToEth → given r.expectedSourceAccount = none →
          ∀ order, s.activeOrders.get r.orderId = some order →
            order.stellarAddress = some p.source)
  | .answer q reply, _ => ∀ d, q.deal = some d → d.release.route = .process →
      Favourable c q reply

/-- Moreover nobody writes into an order that is busy, and there is no crash while a payment is
consumed and the ETH not sent. -/
def Undisturbed (c : Config) : Option RelayerCause → State → Multiset Query → Prop
  | some cause, s, qs => Proceeds c cause s ∧
      ∀ orderId, RelayerCause.Touches s orderId cause → ¬ Busy s.core qs orderId
  | none, s, _ => ∀ d ∈ s.taken, s.core.Sent d

/-! ### Orders that are watched -/

/-- An order that is watched stays so. -/
def KeepsWatch (orders orders' : Orders) (orderId : Text) : Prop :=
  ∀ order stellarTxHash account, orders.get orderId = some order →
    order.Watched stellarTxHash account →
      ∃ order', orders'.get orderId = some order' ∧ order'.Watched stellarTxHash account

lemma keepsWatch_refl (orders : Orders) (orderId : Text) : KeepsWatch orders orders orderId :=
  fun order _ _ horder h => ⟨order, horder, h⟩

section

variable {orders orders' : Orders} {orderId : Text}

lemma keepsWatch_of_get_eq (h : orders'.get orderId = orders.get orderId) :
    KeepsWatch orders orders' orderId :=
  fun order _ _ horder hwatched => ⟨order, h.trans horder, hwatched⟩

lemma keepsWatch_of_map {f : Order → Order}
    (hf : ∀ order stellarTxHash account, Order.Watched order stellarTxHash account →
      Order.Watched (f order) stellarTxHash account)
    (h : orders'.get orderId = (orders.get orderId).map f) : KeepsWatch orders orders' orderId := by
  intro order stellarTxHash account horder hwatched
  exact ⟨f order, by rw [h, horder, Option.map_some], hf order _ _ hwatched⟩

variable {order : Order} {stellarTxHash : Text} {account : Option Text}

/-- A status that is not one of the three final ones. -/
lemma Order.Watched.withStatus (h : order.Watched stellarTxHash account) {status : Status}
    (hsent : status ≠ .ethTxSent) (hcompleted : status ≠ .completed)
    (hrefunded : status ≠ .refunded) :
    Order.Watched { order with status := status } stellarTxHash account := by
  obtain ⟨hdirection, hhash, htx, hat, -⟩ := isXlmToEthAwaitingEth_iff.1 h.awaiting
  exact ⟨isXlmToEthAwaitingEth_iff.2 ⟨hdirection, hhash, htx, hat, hsent, hcompleted, hrefunded⟩,
    h.hash, h.address⟩

lemma watched_watchdogFailed (now : ℕ) (h : order.Watched stellarTxHash account) :
    (order.watchdogFailed now).Watched stellarTxHash account :=
  ⟨h.awaiting, h.hash, h.address⟩

lemma watched_expireAbandoned (now : ℕ) (h : order.Watched stellarTxHash account) :
    (order.expireAbandoned now).Watched stellarTxHash account := by
  unfold Order.expireAbandoned
  split
  · exact h.withStatus (by simp) (by simp) (by simp)
  · exact h

lemma keepsWatch_update {f : Order → Order}
    (hf : ∀ order stellarTxHash account, Order.Watched order stellarTxHash account →
      Order.Watched (f order) stellarTxHash account) (other : Text) :
    KeepsWatch orders (orders.update orderId f) other := by
  by_cases hid : other = orderId
  · subst hid
    exact keepsWatch_of_map hf (InsertionMap.get_update_self ..)
  · exact keepsWatch_of_get_eq (InsertionMap.get_update_of_ne _ hid f)

lemma keepsWatch_stamped (h : Stamped orders orders') (orderId : Text) :
    KeepsWatch orders orders' orderId := by
  rcases h orderId with hsame | ⟨now, hstamp⟩
  · exact keepsWatch_of_get_eq hsame
  · exact keepsWatch_of_map (fun _ _ _ => watched_watchdogFailed now) hstamp

lemma keepsWatch_expired (now : ℕ) (orders : Orders) (orderId : Text) :
    KeepsWatch orders (expireAbandonedOrders now orders) orderId :=
  keepsWatch_of_map (fun _ _ _ => watched_expireAbandoned now) (InsertionMap.get_mapValues ..)

/-- No order has been refunded. -/
def AllUnrefunded (orders : Orders) : Prop :=
  ∀ orderId order, orders.get orderId = some order → order.Unrefunded

namespace AllUnrefunded

variable {orders : Orders}

lemma mapValues (h : AllUnrefunded orders) {f : Text → Order → Order}
    (hf : ∀ orderId order, order.Unrefunded → (f orderId order).Unrefunded) :
    AllUnrefunded (orders.mapValues f) := by
  intro orderId order' horder'
  rw [InsertionMap.get_mapValues] at horder'
  obtain ⟨order, horder, rfl⟩ := Option.map_eq_some_iff.1 horder'
  exact hf orderId order (h orderId order horder)

lemma update (h : AllUnrefunded orders) {orderId : Text} {f : Order → Order}
    (hf : ∀ order, order.Unrefunded → (f order).Unrefunded) :
    AllUnrefunded (orders.update orderId f) := by
  refine h.mapValues fun orderId' order horder => ?_
  split
  · exact hf order horder
  · exact horder

lemma insert (h : AllUnrefunded orders) {orderId : Text} {order : Order}
    (horder : order.Unrefunded) : AllUnrefunded (orders.insert orderId order) := by
  intro orderId' order' horder'
  rcases InsertionMap.eq_or_get_of_insert horder' with ⟨-, rfl⟩ | hold
  · exact horder
  · exact h orderId' order' hold

lemma stamped (h : AllUnrefunded orders) {orders' : Orders} (hstamped : Stamped orders orders') :
    AllUnrefunded orders' := by
  intro orderId order' horder'
  rcases hstamped orderId with hsame | ⟨now, hstamp⟩
  · exact h orderId order' (hsame ▸ horder')
  · rw [hstamp] at horder'
    obtain ⟨order, horder, rfl⟩ := Option.map_eq_some_iff.1 horder'
    exact h orderId order horder

lemma expired (h : AllUnrefunded orders) (now : ℕ) :
    AllUnrefunded (expireAbandonedOrders now orders) := by
  refine h.mapValues fun _ order horder => ?_
  unfold Order.expireAbandoned
  split <;> exact horder

end AllUnrefunded

/-! ### The invariant -/

/-- The order is watched for the payment that is about to be verified, with the account that the
request has named. -/
def Core.Holds (k : Core) (r : Release) : Prop :=
  ∃ account, k.Watches r.orderId r.stellarTxHash account ∧
    ∀ a, given r.expectedSourceAccount = some a → account = some a

/-- Each payment that is consumed is somewhere.  For `/xlm-to-eth` its order is watched until the
ETH is sent, and no two payments have the same order; for `/process` the handler goes on until the
ETH is sent. -/
structure Kept (k : Core) (qs : Multiset Query) : Prop where
  unrefunded : AllUnrefunded k.orders
  single : ∀ orderId, qs.countP (fun q => q.worksOn orderId = true) ≤ 1
  verifying : ∀ q ∈ qs, ∀ r, q.verifies = some r → r.route = .xlmToEth → k.Holds r ∧
    ∀ d ∈ k.taken, d.release.route = .xlmToEth → d.release.orderId = r.orderId → k.Sent d
  releasing : ∀ q ∈ qs, ∀ d, q.deal = some d → d.release.route = .xlmToEth →
    ∀ d' ∈ k.taken, d'.release.route = .xlmToEth → d'.release.orderId = d.release.orderId →
      k.Sent d' ∨ d' = d
  owed : ∀ d ∈ k.taken, d.release.route = .xlmToEth → k.Sent d ∨
    k.Watches d.release.orderId d.release.stellarTxHash (some d.payment.source)
  processing : ∀ d ∈ k.taken, d.release.route = .process →
    (∃ q ∈ qs, q.deal = some d) ∨ k.Sent d

section

variable {k k' : Core} {qs ans : Multiset Query}

variable {d : Deal}

lemma Core.Sent.mono (h : k.Sent d) (hsub : k.payouts ⊆ k'.payouts) : k'.Sent d := by
  obtain ⟨x, hx, hd⟩ := h
  exact ⟨x, hsub hx, hd⟩

lemma Core.Watches.mono {orderId stellarTxHash : Text} {account : Option Text}
    (h : k.Watches orderId stellarTxHash account)
    (hwatch : KeepsWatch k.orders k'.orders orderId) :
    k'.Watches orderId stellarTxHash account := by
  obtain ⟨order, horder, hwatched⟩ := h
  exact hwatch order _ _ horder hwatched

lemma Core.Holds.mono {r : Release} (h : k.Holds r)
    (hwatch : KeepsWatch k.orders k'.orders r.orderId) : k'.Holds r := by
  obtain ⟨account, hwatches, hgiven⟩ := h
  exact ⟨account, hwatches.mono hwatch, hgiven⟩

/-- The payment comes from the account that the order has: the one that was named and verified, or
without one by assumption. -/
lemma Core.Holds.watches {r : Release} (h : k.Holds r) {p : VerifiedStellarPayment}
    (hverified : ∀ a, given r.expectedSourceAccount = some a → p.source = a)
    (hunnamed : given r.expectedSourceAccount = none →
      ∀ order, k.orders.get r.orderId = some order → order.stellarAddress = some p.source) :
    k.Watches r.orderId r.stellarTxHash (some p.source) := by
  obtain ⟨account, ⟨order, horder, hwatched⟩, hgiven⟩ := h
  refine ⟨order, horder, hwatched.awaiting, hwatched.hash, ?_⟩
  cases hexpected : given r.expectedSourceAccount with
  | none => exact hunnamed hexpected order horder
  | some a => rw [hwatched.address, hgiven a hexpected, hverified a hexpected]

variable {q : Query}

lemma worksOn_of_verifies {r : Release} (h : q.verifies = some r) (hroute : r.route = .xlmToEth) :
    q.worksOn r.orderId = true := by
  cases q <;> simp_all [Query.verifies, Query.worksOn, Query.release]

lemma worksOn_of_deal (h : q.deal = some d) (hroute : d.release.route = .xlmToEth) :
    q.worksOn d.release.orderId = true := by
  cases q <;> simp_all [Query.deal, Query.worksOn, Query.release]

lemma release_of_deal (h : q.deal = some d) : q.release = some d.release := by
  cases q <;> simp_all [Query.deal, Query.release]

lemma verifies_of_found {m : Match} (h : q.found = some m) : q.verifies = none := by
  cases q <;> simp_all [Query.found, Query.verifies]

lemma verifies_of_deal (h : q.deal = some d) : q.verifies = none := by
  cases q <;> simp_all [Query.deal, Query.verifies]

/-- A change that does no harm to the payments that are consumed. -/
structure Harmless (k k' : Core) (qs : Multiset Query) : Prop where
  taken : k'.taken = k.taken
  payouts : k.payouts ⊆ k'.payouts
  unrefunded : AllUnrefunded k'.orders
  verifying : ∀ q ∈ qs, ∀ r, q.verifies = some r → r.route = .xlmToEth →
    KeepsWatch k.orders k'.orders r.orderId
  owed : ∀ d ∈ k.taken, d.release.route = .xlmToEth → k'.Sent d ∨
    KeepsWatch k.orders k'.orders d.release.orderId

namespace Kept

lemma change (h : Kept k qs) (hk : Harmless k k' qs) : Kept k' qs where
  unrefunded := hk.unrefunded
  single := h.single
  verifying q hq r hr hroute := by
    obtain ⟨hholds, hsent⟩ := h.verifying q hq r hr hroute
    refine ⟨hholds.mono (hk.verifying q hq r hr hroute), ?_⟩
    rw [hk.taken]
    exact fun d hd hd' hid => (hsent d hd hd' hid).mono hk.payouts
  releasing q hq d hd hroute := by
    rw [hk.taken]
    exact fun d' hd' hroute' hid =>
      (h.releasing q hq d hd hroute d' hd' hroute' hid).imp_left (·.mono hk.payouts)
  owed d hd hroute := by
    rw [hk.taken] at hd
    rcases hk.owed d hd hroute with hsent | hwatch
    · exact Or.inl hsent
    · exact (h.owed d hd hroute).imp (·.mono hk.payouts) (·.mono hwatch)
  processing d hd hroute := by
    rw [hk.taken] at hd
    exact (h.processing d hd hroute).imp_right (·.mono hk.payouts)

/-- A handler ends.  If it is one of `/process` it has sent the ETH. -/
lemma drop (h : Kept k (ans + qs))
    (hgone : ∀ q ∈ ans, ∀ d, q.deal = some d → d.release.route = .process → k.Sent d) :
    Kept k qs where
  unrefunded := h.unrefunded
  single orderId := by
    have hle := h.single orderId
    rw [countP_add] at hle
    omega
  verifying q hq := h.verifying q (mem_add.2 (Or.inr hq))
  releasing q hq := h.releasing q (mem_add.2 (Or.inr hq))
  owed := h.owed
  processing d hd hroute := by
    rcases h.processing d hd hroute with ⟨q, hq, hqd⟩ | hsent
    · rcases mem_add.1 hq with hq | hq
      · exact Or.inr (hgone q hq d hqd hroute)
      · exact Or.inl ⟨q, hq, hqd⟩
    · exact Or.inr hsent

/-- A query of a handler that has consumed no payment and will release none for `/xlm-to-eth`. -/
def Aside (o : Option Query) : Prop :=
  ∀ q, o = some q → q.deal = none ∧ ∀ r, q.verifies = some r → r.route = .process

variable {q : Query}

lemma worksOn_of_aside (hdeal : q.deal = none)
    (hverifies : ∀ r, q.verifies = some r → r.route = .process) (orderId : Text) :
    q.worksOn orderId = false := by
  cases q <;> simp_all [Query.deal, Query.verifies, Query.worksOn, Query.release]

variable {o : Option Query}

lemma ask (h : Kept k qs) (ho : Aside o) :
    Kept k ((o.toList : Multiset Query) + qs) where
  unrefunded := h.unrefunded
  single orderId := by
    have hzero : (o.toList : Multiset Query).countP (fun q => q.worksOn orderId = true) = 0 :=
      countP_asked_eq_zero fun q hq => by
        simp [worksOn_of_aside (ho q hq).1 (ho q hq).2 orderId]
    rw [countP_add, hzero, zero_add]
    exact h.single orderId
  verifying q hq r hr hroute := by
    rcases mem_asked.1 hq with hq | hq
    · have hprocess := (ho q hq).2 r hr
      rw [hroute] at hprocess
      cases hprocess
    · exact h.verifying q hq r hr hroute
  releasing q hq d hd := by
    rcases mem_asked.1 hq with hq | hq
    · rw [(ho q hq).1] at hd
      cases hd
    · exact h.releasing q hq d hd
  owed := h.owed
  processing d hd hroute :=
    (h.processing d hd hroute).imp_left fun ⟨q, hq, hqd⟩ => ⟨q, mem_asked.2 (Or.inr hq), hqd⟩

/-- No two handlers of `/xlm-to-eth` work on one order. -/
lemma not_both {q' : Query} {orderId : Text} (h : Kept k (q ::ₘ qs)) (hq : q.worksOn orderId = true)
    (hmem : q' ∈ qs) : q'.worksOn orderId ≠ true := by
  intro hq'
  have hle := h.single orderId
  rw [countP_cons, if_pos hq] at hle
  have hpos : 0 < qs.countP (fun q => q.worksOn orderId = true) :=
    Multiset.countP_pos.2 ⟨q', hmem, hq'⟩
  omega

/-- `/xlm-to-eth` begins to work on an order that is not busy. -/
lemma verify (h : Kept k qs) {r : Release} (hholds : k.Holds r)
    (hfree : ¬ Busy k qs r.orderId) : Kept k (.fetchPayment r ::ₘ qs) where
  unrefunded := h.unrefunded
  single orderId := by
    rw [countP_cons]
    by_cases hid : r.orderId = orderId
    · have hzero : qs.countP (fun q => q.worksOn orderId = true) = 0 := by
        rw [Multiset.countP_eq_zero]
        intro q hq hworks
        exact hfree (Or.inl ⟨q, hq, hid ▸ hworks⟩)
      rw [hzero]
      split <;> omega
    · rw [if_neg (by simp [Query.worksOn, Query.release, hid])]
      exact h.single orderId
  verifying q hq r' hr' hroute' := by
    rcases mem_cons.1 hq with rfl | hq
    · cases hr'
      refine ⟨hholds, fun d hd hd' hid => ?_⟩
      by_contra hsent
      exact hfree (Or.inr ⟨d, hd, hd', hid, hsent⟩)
    · exact h.verifying q hq r' hr' hroute'
  releasing q hq d hd := by
    rcases mem_cons.1 hq with rfl | hq
    · cases hd
    · exact h.releasing q hq d hd
  owed := h.owed
  processing d hd hroute :=
    (h.processing d hd hroute).imp_left fun ⟨q, hq, hqd⟩ => ⟨q, mem_cons_of_mem hq, hqd⟩

/-- A handler goes on with its deal. -/
lemma goOn {q' : Query} {d : Deal} (h : Kept k (q ::ₘ qs)) (hq : q.deal = some d)
    (hq' : q'.deal = some d) : Kept k (q' ::ₘ qs) where
  unrefunded := h.unrefunded
  single orderId := by
    have hworks : q'.worksOn orderId = q.worksOn orderId := by
      rw [Query.worksOn, Query.worksOn, release_of_deal hq, release_of_deal hq']
    have hle := h.single orderId
    rwa [countP_cons, ← hworks, ← countP_cons] at hle
  verifying q₁ hq₁ r hr := by
    rcases mem_cons.1 hq₁ with rfl | hq₁
    · rw [verifies_of_deal hq'] at hr
      cases hr
    · exact h.verifying q₁ (mem_cons_of_mem hq₁) r hr
  releasing q₁ hq₁ d₁ hd₁ := by
    rcases mem_cons.1 hq₁ with rfl | hq₁
    · obtain rfl := Option.some.inj (hq'.symm.trans hd₁)
      exact h.releasing q (mem_cons_self q qs) d hq
    · exact h.releasing q₁ (mem_cons_of_mem hq₁) d₁ hd₁
  owed := h.owed
  processing d₁ hd₁ hroute := by
    refine (h.processing d₁ hd₁ hroute).imp_left ?_
    rintro ⟨q₁, hq₁, hqd⟩
    rcases mem_cons.1 hq₁ with rfl | hq₁
    · obtain rfl := Option.some.inj (hq.symm.trans hqd)
      exact ⟨q', mem_cons_self q' qs, hq'⟩
    · exact ⟨q₁, mem_cons_of_mem hq₁, hqd⟩

/-- A payment is consumed. -/
lemma consume {r : Release} {p : VerifiedStellarPayment} (h : Kept k (.fetchPayment r ::ₘ qs))
    (hverified : ∀ a, given r.expectedSourceAccount = some a → p.source = a)
    (hunnamed : r.route = .xlmToEth → given r.expectedSourceAccount = none →
      ∀ order, k.orders.get r.orderId = some order → order.stellarAddress = some p.source)
    (htaken : k'.taken = k.taken ++ [⟨r, p⟩]) (hpayouts : k'.payouts = k.payouts)
    (horders : k'.orders = k.orders) : Kept k' (.coordinator ⟨r, p⟩ ::ₘ qs) := by
  have hsent {d : Deal} (hd : k.Sent d) : k'.Sent d := hd.mono (hpayouts ▸ List.Subset.refl _)
  have hwatch (orderId : Text) : KeepsWatch k.orders k'.orders orderId :=
    horders ▸ keepsWatch_refl k.orders orderId
  have hcases {d : Deal} (hd : d ∈ k'.taken) : d ∈ k.taken ∨ d = ⟨r, p⟩ := by
    simpa [htaken] using hd
  have hself := mem_cons_self (Query.fetchPayment r) qs
  constructor
  case unrefunded => exact horders ▸ h.unrefunded
  case single =>
    intro orderId
    have hle := h.single orderId
    rw [countP_cons] at hle ⊢
    exact hle
  case verifying =>
    intro q hq r' hr' hroute
    rcases mem_cons.1 hq with rfl | hq
    · cases hr'
    obtain ⟨hr, hall⟩ := h.verifying q (mem_cons_of_mem hq) r' hr' hroute
    refine ⟨hr.mono (hwatch _), fun d hd hd' hid => ?_⟩
    rcases hcases hd with hold | rfl
    · exact hsent (hall d hold hd' hid)
    · exact absurd (hid ▸ worksOn_of_verifies hr' hroute)
        (h.not_both (worksOn_of_verifies rfl hd') hq)
  case releasing =>
    intro q hq d hd hroute d' hd' hroute' hid
    rcases mem_cons.1 hq with rfl | hq
    · cases hd
      rcases hcases hd' with hold | rfl
      · exact Or.inl (hsent ((h.verifying _ hself r rfl hroute).2 d' hold hroute' hid))
      · exact Or.inr rfl
    rcases hcases hd' with hold | rfl
    · exact (h.releasing q (mem_cons_of_mem hq) d hd hroute d' hold hroute' hid).imp_left
        hsent
    · exact absurd (hid ▸ worksOn_of_deal hd hroute)
        (h.not_both (worksOn_of_verifies rfl hroute') hq)
  case owed =>
    intro d hd hroute
    rcases hcases hd with hold | rfl
    · exact (h.owed d hold hroute).imp hsent (·.mono (hwatch _))
    · have hholds := (h.verifying _ hself r rfl hroute).1
      exact Or.inr ((hholds.watches hverified (hunnamed hroute)).mono (hwatch _))
  case processing =>
    intro d hd hroute
    rcases hcases hd with hold | rfl
    · rcases h.processing d hold hroute with ⟨q, hq, hqd⟩ | hold
      · rcases mem_cons.1 hq with rfl | hq
        · cases hqd
        · exact Or.inl ⟨q, mem_cons_of_mem hq, hqd⟩
      · exact Or.inr (hsent hold)
    · exact Or.inl ⟨_, mem_cons_self _ _, rfl⟩

lemma step (h : Kept k (ans + qs)) (hk : Harmless k k' (ans + qs))
    (hgone : ∀ q ∈ ans, ∀ d, q.deal = some d → d.release.route = .process → k'.Sent d)
    (ho : Aside o) : Kept k' ((o.toList : Multiset Query) + qs) :=
  ((h.change hk).drop hgone).ask ho

lemma aside_plain (ho : Plain o) : Aside o := by
  intro q hq
  have hplain := ho q hq
  cases q <;> simp_all [Query.plain, Query.deal, Query.verifies]

lemma aside_some (hdeal : q.deal = none) (hverifies : ∀ r, q.verifies = some r → r.route = .process)
    : Aside (some q) := by
  rintro _ ⟨rfl⟩
  exact ⟨hdeal, hverifies⟩

end Kept

lemma harmless_of_watch (htaken : k'.taken = k.taken)
    (hpayouts : k.payouts ⊆ k'.payouts) (hunrefunded : AllUnrefunded k'.orders)
    (hwatch : ∀ orderId, KeepsWatch k.orders k'.orders orderId) : Harmless k k' qs :=
  ⟨htaken, hpayouts, hunrefunded, fun _ _ _ _ _ => hwatch _, fun _ _ _ => Or.inr (hwatch _)⟩

/-- Only an order that is not busy is written into. -/
lemma harmless_of_free {orderId : Text} (htaken : k'.taken = k.taken)
    (hpayouts : k'.payouts = k.payouts) (hunrefunded : AllUnrefunded k'.orders)
    (hfree : ¬ Busy k qs orderId)
    (hothers : ∀ other, other ≠ orderId → k'.orders.get other = k.orders.get other) :
    Harmless k k' qs where
  taken := htaken
  payouts := hpayouts ▸ List.Subset.refl _
  unrefunded := hunrefunded
  verifying q hq r hr hroute := by
    refine keepsWatch_of_get_eq (hothers _ ?_)
    rintro rfl
    exact hfree (Or.inl ⟨q, hq, worksOn_of_verifies hr hroute⟩)
  owed d hd hroute := by
    by_cases hsent : k.Sent d
    · exact Or.inl (hsent.mono (hpayouts ▸ List.Subset.refl _))
    · refine Or.inr (keepsWatch_of_get_eq (hothers _ ?_))
      rintro rfl
      exact hfree (Or.inr ⟨d, hd, hroute, rfl, hsent⟩)

end

/-! ### Turns -/

section

variable {c : Config} {cause : RelayerCause} {s : State} {qs : Multiset Query}

/-- The turn ends no handler that has consumed a payment. -/
def RelayerCause.NoDeal (cause : RelayerCause) : Prop :=
  ∀ q ∈ cause.answered, q.deal = none

lemma noDeal_start (r : Request) : RelayerCause.NoDeal (.start r) := by
  intro q hq
  simp [answered] at hq

lemma noDeal_answer {q : Query} {reply : Reply q} (h : q.deal = none) :
    RelayerCause.NoDeal (.answer q reply) := by
  intro q' hq'
  rw [answered, mem_singleton] at hq'
  exact hq' ▸ h

lemma noDeal_of_plain (h : plain cause = true) : RelayerCause.NoDeal cause := by
  rcases cause with r | ⟨q, reply⟩
  · exact noDeal_start r
  · refine noDeal_answer ?_
    cases q <;> simp_all [plain, Query.plain, Query.deal]

lemma noDeal_of_newOrderId {now : ℕ} {orderId : Text}
    (h : newOrderId now cause = some orderId) : RelayerCause.NoDeal cause := by
  rcases cause with r | ⟨q, reply⟩
  · exact noDeal_start r
  · refine noDeal_answer ?_
    cases q <;> simp_all [newOrderId, Query.deal]

lemma noDeal_of_processes {orderId : Text} (h : processes cause = some orderId) :
    RelayerCause.NoDeal cause := by
  rcases cause with r | ⟨q, reply⟩
  · exact noDeal_start r
  · refine noDeal_answer ?_
    cases q <;> simp_all [processes, Query.deal]

variable {k : Core}

lemma RelayerCause.NoDeal.gone (h : RelayerCause.NoDeal cause) :
    ∀ q ∈ answered cause, ∀ d, q.deal = some d → d.release.route = .process →
      k.Sent d := by
  intro q hq d hd
  rw [h q hq] at hd
  cases hd

variable {d : Deal}

/-- A handler with a deal ends.  If it is one of `/process` it has sent the ETH. -/
lemma gone_of_deal {q : Query} {reply : Reply q} (hq : q.deal = some d)
    (hsent : d.release.route = .process → k.Sent d) :
    ∀ q' ∈ (.answer q reply : RelayerCause).answered, ∀ d', q'.deal = some d' →
      d'.release.route = .process → k.Sent d' := by
  intro q' hq' d' hd' hroute
  rw [answered, mem_singleton] at hq'
  subst hq'
  obtain rfl := Option.some.inj (hq.symm.trans hd')
  exact hsent hroute

variable {o : Option Query}

/-- A turn that leaves the orders alone, or does only what the watchdog does not mind. -/
lemma Kept.quiet (h : Kept s.core (answered cause + qs))
    (hcause : RelayerCause.NoDeal cause) (hunrefunded : AllUnrefunded k.orders)
    (hwatch : ∀ orderId, KeepsWatch s.activeOrders k.orders orderId) (htaken : k.taken = s.taken)
    (hpayouts : k.payouts = s.payouts) (ho : Kept.Aside o) :
    Kept k ((o.toList : Multiset Query) + qs) :=
  h.step (harmless_of_watch htaken (hpayouts ▸ List.Subset.refl _) hunrefunded hwatch)
    hcause.gone ho

lemma Kept.idle (h : Kept s.core (answered cause + qs))
    (hcause : RelayerCause.NoDeal cause) (horders : k.orders = s.activeOrders)
    (htaken : k.taken = s.taken) (hpayouts : k.payouts = s.payouts) (ho : Kept.Aside o) :
    Kept k ((o.toList : Multiset Query) + qs) :=
  h.quiet hcause (horders ▸ h.unrefunded)
    (fun orderId => horders ▸ keepsWatch_refl s.activeOrders orderId) htaken hpayouts ho

/-- What `/xlm-to-eth` writes makes the order one that is watched. -/
lemma watched_receiveXlm {order : Order} {r : Release} (now : ℕ)
    (reqNet : Network) (hdirection : order.direction = some .xlmToEth)
    (hunrefunded : order.Unrefunded) (hsent : order.status ≠ .ethTxSent)
    (hcompleted : order.status ≠ .completed) (hrefunded : order.status ≠ .refunded)
    (hhash : given (some r.stellarTxHash) = some r.stellarTxHash) :
    (order.receiveXlm now reqNet r).Watched r.stellarTxHash
      (given r.expectedSourceAccount <|> order.stellarAddress) := by
  refine ⟨isXlmToEthAwaitingEth_iff.2
    ⟨hdirection, ?_, ?_, ?_, hsent, hcompleted, hrefunded⟩, rfl, rfl⟩
  · show given (some r.stellarTxHash) ≠ none
    rw [hhash]
    simp
  · show given order.refundTxHash = none
    rw [hunrefunded.1]
    rfl
  · show order.refundedAt.any (· ≠ 0) = false
    rw [hunrefunded.2]
    rfl

lemma Proceeds.favourable {q : Query} {reply : Reply q} (h : Proceeds c (.answer q reply) s)
    (hd : q.deal = some d) (hroute : d.release.route = .process) : Favourable c q reply := by
  cases q with
  | coordinator | ethBalance | ethSend => exact h d hd hroute
  | _ => cases hd

lemma Core.sent_append {wei : ℕ} {txHash : Text} {orders : Orders} :
    Core.Sent { k with
      orders := orders
      payouts := k.payouts ++ [.ethTransfer d wei txHash] } d :=
  ⟨_, List.mem_append_right _ (List.mem_singleton_self _), rfl⟩

/-- `/xlm-to-eth` sends the ETH.  The order is not watched any more, but there is no other payment
for it. -/
lemma Kept.harmless_sent {wei : ℕ} (txHash : Text) (h : Kept s.core (.ethSend d wei ::ₘ qs))
    (hroute : d.release.route = .xlmToEth) :
    Harmless s.core { s.core with
      orders := s.activeOrders.update d.release.orderId
        fun o => { o with status := .ethTxSent, ethTxHash := txHash }
      payouts := s.payouts ++ [.ethTransfer d wei txHash] } (.ethSend d wei ::ₘ qs) where
  taken := rfl
  payouts := List.subset_append_left ..
  unrefunded := h.unrefunded.update fun _ horder => horder
  verifying q hq r hr hroute' := by
    refine keepsWatch_of_get_eq (InsertionMap.get_update_of_ne _ ?_ _)
    intro hid
    rcases mem_cons.1 hq with rfl | hq
    · cases hr
    · exact h.not_both (worksOn_of_deal rfl hroute) hq (hid ▸ worksOn_of_verifies hr hroute')
  owed d' hd' hroute' := by
    by_cases hid : d'.release.orderId = d.release.orderId
    · left
      rcases h.releasing _ (mem_cons_self _ _) d rfl hroute d' hd' hroute' hid with
        hsent | rfl
      · exact hsent.mono (List.subset_append_left ..)
      · exact Core.sent_append
    · exact Or.inr (keepsWatch_of_get_eq (InsertionMap.get_update_of_ne _ hid _))

/-- `/xlm-to-eth` begins to work on an order. -/
lemma Kept.receive {req : XlmToEthRequest} {r : Release} {order : Order} {reqNet : Network}
    (h : Kept s.core qs) (hproceeds : Proceeds c (.start (.xlmToEth req)) s)
    (hfree : ¬ Busy s.core qs r.orderId)
    (hreceived : req.Received s r.orderId r.stellarTxHash order)
    (ho : o = none ∨ o = some (.fetchPayment r) ∧ order.direction ≠ some .ethToXlm ∧
      order.status ≠ .ethTxSent ∧ order.status ≠ .completed ∧ order.status ≠ .refunded) :
    Kept { s.core with
      orders := s.activeOrders.update r.orderId (Order.receiveXlm s.now reqNet r) }
      ((o.toList : Multiset Query) + qs) := by
  have horder := hreceived.found
  have hkept : Kept { s.core with
      orders := s.activeOrders.update r.orderId (Order.receiveXlm s.now reqNet r) } qs :=
    h.change (harmless_of_free rfl rfl (h.unrefunded.update fun _ h => h) hfree
      fun other hother => InsertionMap.get_update_of_ne _ hother _)
  rcases ho with rfl | ⟨rfl, hnotEth, hsent, hcompleted, hrefunded⟩
  · rw [asked_none]
    exact hkept
  rw [asked_some]
  have hdirection : order.direction = some .xlmToEth := by
    have hnone := hproceeds r.orderId r.stellarTxHash order hreceived
    rcases hd : order.direction with _ | _ | _ <;> simp_all
  have hwatched := watched_receiveXlm s.now reqNet hdirection (h.unrefunded _ _ horder) hsent
    hcompleted hrefunded (given_eq_some hreceived.hash ▸ hreceived.hash)
  refine hkept.verify ⟨_, ⟨_, ?_, hwatched⟩, fun a ha => ?_⟩ hfree
  · exact (InsertionMap.get_update_self ..).trans (by rw [horder]; rfl)
  · rw [ha]
    rfl

/-- Every turn that is not disturbed keeps the payments. -/
lemma Kept.turn (h : Kept s.core (answered cause + qs))
    (hallowed : Undisturbed c (some cause) s (answered cause + qs))
    (hturn : Turn c cause s o k) : Kept k ((o.toList : Multiset Query) + qs) := by
  obtain ⟨hproceeds, hfree⟩ := hallowed
  have hnone : Kept.Aside none := Kept.aside_plain plain_none
  cases hturn with
  | idle hcause ho => exact h.idle (noDeal_of_plain hcause) rfl rfl rfl (aside_plain ho)
  | stored i order hid hstellar heth hnew =>
    exact h.step (harmless_of_free rfl rfl (h.unrefunded.insert hnew)
      (hfree i.orderId (Or.inl hid)) fun other hother => InsertionMap.get_insert_of_ne _ hother _)
      (noDeal_of_newOrderId hid).gone hnone
  | asked req r order hroute =>
    exact h.idle (noDeal_start _) rfl rfl rfl
      (aside_some rfl fun _ hr => Option.some.inj hr ▸ hroute)
  | received req r order reqNet hroute hreceived _ _ ho =>
    rw [answered, zero_add] at h hfree
    have hbusy := hfree r.orderId (Or.inr (Or.inr ⟨req, r.stellarTxHash, order, rfl, hreceived⟩))
    exact h.receive hproceeds hbusy hreceived ho
  | consumed r key p entry hkey hverify hfresh ho =>
    rw [answered_add] at h
    obtain ⟨network, hkey⟩ := hkey
    obtain ⟨hprocess, hunnamed⟩ := hproceeds network key p hkey hverify hfresh
    have hconsumed : Kept { s.core with
        proofs := Function.update s.proofLedger r.stellarTxHash (some entry)
        taken := s.taken ++ [⟨r, p⟩] } (.coordinator ⟨r, p⟩ ::ₘ qs) :=
      h.consume (fun _ ha => source_of_verified hverify ha) hunnamed rfl rfl rfl
    rcases ho with rfl | ⟨rfl, hreleasable⟩
    · rw [asked_some]
      exact hconsumed
    · rw [asked_none]
      rw [← answered_add (.coordinator ⟨r, p⟩) true] at hconsumed
      exact hconsumed.drop (gone_of_deal rfl fun hroute => absurd (hprocess hroute) hreleasable)
  | advanced q' d hq hq' =>
    rw [answered_add] at h
    rw [asked_some]
    exact h.goOn hq hq'
  | gaveUp d hq hreply =>
    refine h.step (harmless_of_watch rfl (List.Subset.refl _) h.unrefunded
      (keepsWatch_refl s.activeOrders)) (gone_of_deal hq fun hroute => ?_) hnone
    exact absurd (hproceeds.favourable hq hroute) (hreply hroute)
  | sent d wei txHash hroute =>
    exact h.step (harmless_of_watch rfl (List.subset_append_left ..) h.unrefunded
      (keepsWatch_refl s.activeOrders)) (gone_of_deal rfl fun _ => Core.sent_append)
      (aside_some rfl (fun r hr => by cases hr))
  | sentXlmToEth d wei txHash hroute =>
    rw [answered_add] at h
    have hharmless := h.harmless_sent txHash hroute
    rw [← answered_add (.ethSend d wei) (some txHash)] at h hharmless
    exact h.step hharmless (gone_of_deal rfl fun _ => Core.sent_append) hnone
  | relabelled orderId f hcause hf hstays ho =>
    have hunrefunded : AllUnrefunded (s.activeOrders.update orderId f) :=
      h.unrefunded.update hf.unrefunded
    rcases hstays with hcompletes | hstays
    · exact h.step (harmless_of_free rfl rfl hunrefunded
        (hfree orderId (Or.inr (Or.inl hcompletes)))
        fun other hother => InsertionMap.get_update_of_ne _ hother _)
        (noDeal_of_processes hcause).gone (aside_plain ho)
    refine h.quiet (noDeal_of_processes hcause) hunrefunded (keepsWatch_update ?_) rfl rfl
      (aside_plain ho)
    intro order stellarTxHash account hwatched
    obtain ⟨hawaiting, hhash⟩ := hstays order hwatched.awaiting
    exact ⟨hawaiting, hhash.trans hwatched.hash,
      (hf.stellarAddress order).trans hwatched.address⟩
  | matched p memo orderId order hpays htag horder ho =>
    refine h.idle (noDeal_answer rfl) rfl rfl rfl ?_
    rcases ho with ⟨rfl, -⟩ | ho
    · exact aside_some rfl (fun r hr => by cases hr)
    · exact aside_plain ho
  | funding q' m hq hq' =>
    refine h.idle (noDeal_answer (deal_of_found hq)) rfl rfl rfl (aside_some (deal_of_found hq') ?_)
    intro r hr
    rw [verifies_of_found hq'] at hr
    cases hr
  | funded m wei txHash =>
    exact h.step (harmless_of_watch rfl (List.subset_append_left ..) h.unrefunded
      (keepsWatch_refl s.activeOrders)) (noDeal_answer rfl).gone
      (aside_some rfl (fun r hr => by cases hr))
  | fundingEnded m status hq hstatus ho =>
    refine h.quiet (noDeal_answer ?_) (h.unrefunded.update fun _ horder => horder)
      (keepsWatch_update ?_) rfl rfl (aside_plain ho)
    · rcases hq with hq | rfl
      · exact deal_of_found hq
      · rfl
    · intro order stellarTxHash account hwatched
      rcases hstatus with rfl | rfl <;>
        exact hwatched.withStatus (by simp) (by simp) (by simp)
  | claimed req refund hfree =>
    exact h.idle (noDeal_start _) rfl rfl rfl (aside_some rfl (fun r hr => by cases hr))
  | stamped orders hstamped =>
    exact h.quiet (noDeal_start _) (h.unrefunded.stamped hstamped) (keepsWatch_stamped hstamped)
      rfl rfl hnone
  | expired =>
    exact h.quiet (noDeal_start _) (h.unrefunded.expired s.now)
      (keepsWatch_expired s.now s.activeOrders) rfl rfl hnone
  | _ => exact h.idle (noDeal_answer rfl) rfl rfl rfl hnone

end

lemma sent_of_orphaned {c : Config} {qs : Multiset Query} {s s' : State}
    (h : (relayer c).Orphaned qs s s') :
    s'.taken = s.taken ∧ s.payouts ⊆ s'.payouts := by
  refine h.preserves (I := fun s' _ => s'.taken = s.taken ∧ s.payouts ⊆ s'.payouts) ?_
    ⟨rfl, List.Subset.refl _⟩
  rintro q r s₁ _ ⟨htaken, hpayouts⟩
  show (effect q r s₁).taken = s.taken ∧ s.payouts ⊆ (effect q r s₁).payouts
  unfold effect
  split
  · exact ⟨htaken, List.subset_append_of_subset_left _ hpayouts⟩
  · exact ⟨htaken, List.subset_append_of_subset_left _ hpayouts⟩
  · exact ⟨htaken, List.subset_append_of_subset_left _ hpayouts⟩
  · exact ⟨htaken, hpayouts⟩

lemma kept_restart {s : State} (h : ∀ d ∈ s.taken, s.core.Sent d) : Kept s.restart.core 0 := by
  refine ⟨?_, by simp, by simp, by simp, fun d hd _ => Or.inl (h d hd),
    fun d hd _ => Or.inr (h d hd)⟩
  intro orderId order horder
  cases horder

lemma turnsKeep_kept (c : Config) : TurnsKeep c (Undisturbed c) Kept where
  turn _ := Kept.turn
  crash {s s' qs} _ _ hsent horphaned := by
    obtain ⟨htaken, hpayouts⟩ := sent_of_orphaned horphaned
    refine kept_restart fun d hd => ?_
    rw [htaken] at hd
    exact (hsent d hd).mono hpayouts

lemma Kept.safe {k : Core} {qs : Multiset Query} (h : Kept k qs) {d : Deal} (hd : d ∈ k.taken) :
    (∃ q ∈ qs, q.deal = some d) ∨ k.Safe d := by
  cases hroute : d.release.route with
  | process => exact (h.processing d hd hroute).imp_right Or.inl
  | xlmToEth => exact Or.inr ((h.owed d hd hroute).imp_right Or.inr)

/-! ### No payment is stranded -/

/-- In every run that is not disturbed, and in every state of it: of each payment that is marked as
consumed it is known who has consumed it, and either that handler is still at work, or ETH was
sent, or a refund is in the ledger, or the watchdog knows the order with the hash of the payment
and the account it came from. -/
theorem none_stranded {c : Config} {es : List (Event Query Reply Request)}
    (hes : EachStep c (Undisturbed c) es) (n : ℕ) :
    (∀ stellarTxHash, (pool c es n).state.proofLedger stellarTxHash ≠ none →
      ∃ d ∈ (pool c es n).state.taken, d.release.stellarTxHash = stellarTxHash) ∧
    ∀ d ∈ (pool c es n).state.taken,
      (∃ q ∈ (pool c es n).pending, q.deal = some d) ∨ (pool c es n).state.core.Safe d := by
  have hinitial : Kept State.initial.core 0 := by
    refine ⟨?_, by simp, by simp, by simp, ?_, ?_⟩ <;>
      simp [State.initial, State.core, AllUnrefunded]
  obtain ⟨haccounts, hkept⟩ := relayer_invariant (turnsKeep_kept c) hinitial hes n
  exact ⟨haccounts.marked, fun d hd => hkept.safe hd⟩

end

namespace Sample

lemma not_busy {n : ℕ} (htaken : (pool config settled n).state.taken = [])
    (hasked : ∀ q ∈ (pool config settled n).asked, q.release = none) (orderId : Text) :
    ¬ Busy (pool config settled n).state.core (pool config settled n).pending orderId := by
  rintro (⟨q, hq, hworks⟩ | ⟨d, hd, -⟩)
  · rw [Query.worksOn, hasked q hq] at hworks
    cases hworks
  · have hmem : d ∈ (pool config settled n).state.taken := hd
    rw [htaken] at hmem
    cases hmem

lemma not_touches {q : Query} {s : State} {core : Core} {qs : Multiset Query}
    (hnew : newOrderId s.now (heard q) = none)
    (hcompletes : completes (heard q) = none) (orderId : Text)
    (h : RelayerCause.Touches s orderId (heard q)) : ¬ Busy core qs orderId := by
  rcases h with h | h | ⟨req, stellarTxHash, order, h, -⟩
  · rw [hnew] at h
    cases h
  · rw [hcompletes] at h
    cases h
  · cases h

end Sample

open Sample in
/-- The run in which an order is created and settled is not disturbed. -/
theorem none_stranded_settled :
    EachStep config (Undisturbed config) settled ∧
      (pool config settled 9).state.taken = [deal] ∧
      ∀ d ∈ (pool config settled 9).state.taken,
        (∃ q ∈ (pool config settled 9).pending, q.deal = some d) ∨
          (pool config settled 9).state.core.Safe d := by
  have hes : EachStep config (Undisturbed config) settled := by
    refine eachStep_settled ?_
    intro n cause hn
    match n, hn with
    | 0, rfl => exact ⟨True.intro, fun orderId _ => not_busy rfl (by decide +kernel) orderId⟩
    | 1, rfl =>
      refine ⟨fun d hd => (by cases hd), fun orderId _ => ?_⟩
      exact not_busy (by decide +kernel) (by decide +kernel) orderId
    | 2, rfl =>
      refine ⟨?_, fun orderId _ => not_busy (by decide +kernel) (by decide +kernel) orderId⟩
      intro orderId stellarTxHash order hreceived
      obtain rfl : Sample.orderId = orderId := Option.some.inj hreceived.id
      have hdirection : ((pool config settled 2).state.activeOrders.get
          orderId).map Order.direction = some (some .xlmToEth) := by decide +kernel
      rw [hreceived.found, Option.map_some, Option.some.injEq] at hdirection
      simp [hdirection]
    | 3, rfl =>
      refine ⟨True.intro, fun orderId htouches => ?_⟩
      rcases htouches with h | h | ⟨req, stellarTxHash, order, h, -⟩ <;> cases h
    | 4, rfl =>
      refine ⟨fun network key p _ _ _ => ⟨?_, ?_⟩, not_touches rfl rfl⟩
      · intro hroute
        cases hroute
      · intro _ hnone
        cases hnone
    | 5, rfl =>
      have hconsumed : (pool config settled 5).state.proofLedger ['h'] ≠ none := by
        decide +kernel
      exact ⟨fun network key p _ _ hfresh => absurd hfresh hconsumed, not_touches rfl rfl⟩
    | 6, rfl | 7, rfl | 8, rfl =>
      refine ⟨?_, not_touches rfl rfl⟩
      rintro d ⟨rfl⟩ hroute
      cases hroute
  exact ⟨hes, by decide +kernel, (none_stranded hes 9).2⟩

namespace Sample

/-- The coordinator cannot be reached. -/
def refuse : Event Query Reply Request :=
  .answer 0 fun q => match q with
    | .coordinator _ => false
    | q => kind (memoOf orderId) q

/-- `/process` consumes the payment of an order and then stops. -/
def stopped : List (Event Query Reply Request) :=
  [.start (.create order), respond,
    .start (.process { orderId := some orderId, stellarTxHash := some ['h'] }), respond, refuse]

end Sample

open Sample in
theorem payment_stranded :
    ∃ d ∈ (pool config stopped 5).state.taken,
      (¬ ∃ q ∈ (pool config stopped 5).pending, q.deal = some d) ∧
        ¬ (pool config stopped 5).state.core.Safe d := by
  have hasked : (pool config stopped 5).asked = [] := by decide +kernel
  have hpayouts : (pool config stopped 5).state.payouts = [] := by decide +kernel
  have hledger : (pool config stopped 5).state.refundLedger orderId =
      none := by decide +kernel
  have hhash : ((pool config stopped 5).state.activeOrders.get orderId).map
      Order.stellarTxHash = some none := by decide +kernel
  refine ⟨{ deal with release := { release with route := .process } },
    by decide +kernel, ?_, ?_⟩
  · rw [Pool.pending, hasked]
    rintro ⟨q, hq, -⟩
    cases hq
  · rintro (⟨x, hx, -⟩ | ⟨e, he, -⟩ | ⟨order, horder, hwatched⟩)
    · have hmem : x ∈ (pool config stopped 5).state.payouts := hx
      rw [hpayouts] at hmem
      cases hmem
    · cases hledger.symm.trans he
    · have hget : (pool config stopped 5).state.activeOrders.get orderId =
          some order := horder
      rw [hget, Option.map_some, hwatched.hash] at hhash
      cases hhash

end WaffleFinance.Relayer

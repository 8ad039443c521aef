import WaffleFinance.Relayer.Poller

/-!
# The relayer as a server

Requests, ticks of the watchdog and of the poller, the minutely clean-up and the passing of time
all start a process; the processes run interleaved, and a crash loses them all together with the
map of orders.

What a process can do in one turn is listed once, in `Turn`: every handler keeps to it
(`code_meets`), and the invariants of the relayer are proved by cases on it.  As no refund is ever
paid, the ledger of refunds never has anything but claims (`Calm`), and then every attempt at a
refund ends as it began; only a manual refund holds its claim while it waits.
-/

namespace WaffleFinance.Relayer

open Lib Process RefundLedger

/-! ### The server -/

/-- What can be started. -/
inductive Request where
  | create (req : CreateRequest)
  | process (req : ProcessRequest)
  | xlmToEth (req : XlmToEthRequest)
  | manualRefund (req : ManualRefundRequest)
  | watchdogTick
  | pollTick
  | reconcile
  /-- Time passes. -/
  | clock (now : ℕ)

def code (c : Config) : Request → Task (Option Response)
  | .create req => do
    let res ← create c req
    pure (some res)
  | .process req => do
    let res ← process c req
    pure (some res)
  | .xlmToEth req => do
    let res ← xlmToEth c req
    pure (some res)
  | .manualRefund req => do
    let res ← manualRefund c req
    pure (some res)
  | .watchdogTick => do
    watchdogTick c
    pure none
  | .pollTick => do
    pollTick c
    pure none
  | .reconcile => do
    reconcileChainMonitoring
    pure none
  | .clock now => do
    modify fun s => { s with now := now }
    pure none

def relayer (c : Config) : System State Query Reply Request (Option Response) where
  code := code c
  effect := effect
  restart := State.restart

/-! ### Turns -/

/-- The part of the state that the properties are about: without the clock and the poller. -/
structure Core where
  orders : Orders
  refunds : RefundLedger
  proofs : StellarProofLedger
  issued : List Issued
  taken : List Deal
  matched : List MatchNote
  payouts : List Payout

def State.core (s : State) : Core where
  orders := s.activeOrders
  refunds := s.refundLedger
  proofs := s.proofLedger
  issued := s.issued
  taken := s.taken
  matched := s.matched
  payouts := s.payouts

/-- The deal of a handler that has not sent ETH yet. -/
def Query.deal : Query → Option Deal
  | .coordinator d => some d
  | .ethBalance d => some d
  | .ethSend d _ => some d
  | _ => none

/-- The match for which no HTLC is funded yet. -/
def Query.found : Query → Option Match
  | .htlcBalance m => some m
  | .htlcCreate m _ => some m
  | _ => none

/-- Queries on nobody's account. -/
def Query.plain : Query → Bool
  | .prices .. | .xlmBalance _ | .xlmSend _ | .latestLedger | .payments _ | .memo _ => true
  | _ => false

/-- The turn ends the process or leaves it at a plain query. -/
def Plain (o : Option Query) : Prop := ∀ q, o = some q → q.plain = true

abbrev RelayerCause := Cause Query Reply Request

namespace RelayerCause

/-- Nothing has been taken up yet. -/
def plain : RelayerCause → Bool
  | .start _ => true
  | .answer (.fetchPayment _) _ => true
  | .answer q _ => q.plain

/-- The id of the order that the turn may store. -/
def newOrderId (now : ℕ) : RelayerCause → Option Text
  | .start (.create req) => some (orderIdOf now req.random)
  | .answer (.prices orderId _) _ => some orderId
  | _ => none

/-- The id of the order for which the turn may issue a memo. -/
def issuesMemo : RelayerCause → Option Text
  | .answer (.prices orderId .xlmToEth) (some _) => some orderId
  | _ => none

/-- The order that `/api/orders/process` may give a new status. -/
def processes : RelayerCause → Option Text
  | .start (.process req) => given req.orderId
  | .answer (.ethConfirm d _) _ => some d.release.orderId
  | .answer (.xlmBalance orderId) _ => some orderId
  | .answer (.xlmSend orderId) _ => some orderId
  | _ => none

/-- The order that `/api/orders/process` may mark as completed. -/
def completes : RelayerCause → Option Text
  | .answer (.ethConfirm d _) _ => some d.release.orderId
  | .answer (.xlmSend orderId) _ => some orderId
  | _ => none

end RelayerCause

/-- The order and the payment are such that ETH can be released at all. -/
def Deal.Releasable (d : Deal) : Prop := d.release.routeValid = true ∧ ∃ wei, d.wei = .ok wei

/-- The answer lets the handler of a deal go on. -/
def Favourable (c : Config) : (q : Query) → Reply q → Prop
  | .coordinator d, safe => safe = true ∧ d.release.authorized c = true
  | .ethBalance d, balance => ∃ b, balance = some b ∧ ∀ wei, d.wei = .ok wei → wei + gasCost ≤ b
  | .ethSend .., txHash => txHash ≠ none
  | _, _ => True

/-- The request to `/xlm-to-eth` is complete, names a payment that is not consumed, and is for this
order: the handler writes into the order. -/
structure XlmToEthRequest.Received (req : XlmToEthRequest) (s : State)
    (orderId stellarTxHash : Text) (order : Order) : Prop where
  id : given req.orderId = some orderId
  hash : given req.stellarTxHash = some stellarTxHash
  address : given req.ethAddress ≠ none
  fresh : s.proofLedger stellarTxHash = none
  found : s.activeOrders.get orderId = some order

/-- Nothing of a refund is noted in the order. -/
def Order.Unrefunded (o : Order) : Prop := o.refundTxHash = none ∧ o.refundedAt = none

/-- A change of an order that leaves alone whose it is, and is neither a refund nor makes it wait
for XLM. -/
structure Order.Relabels (f : Order → Order) : Prop where
  stellarAddress : ∀ o, (f o).stellarAddress = o.stellarAddress
  ethAddress : ∀ o, (f o).ethAddress = o.ethAddress
  unrefunded : ∀ o, o.Unrefunded → (f o).Unrefunded
  status : ∀ o, (f o).status ≠ .awaitingXlmPayment

/-- The watchdog sees the order as before. -/
def Order.StaysAwaiting (f : Order → Order) : Prop :=
  ∀ o, isXlmToEthAwaitingEth o = true →
    isXlmToEthAwaitingEth (f o) = true ∧ (f o).stellarTxHash = o.stellarTxHash

/-- Some orders have been stamped with a failure of the watchdog. -/
def Stamped (orders orders' : Orders) : Prop :=
  ∀ orderId, orders'.get orderId = orders.get orderId ∨
    ∃ now, orders'.get orderId = (orders.get orderId).map (Order.watchdogFailed now)

/-- What a turn does: its cause, the state before, the query it ends with and the state after. -/
inductive Turn (c : Config) : RelayerCause → State → Option Query → Core → Prop
  | idle {cause s o} (hcause : RelayerCause.plain cause = true) (ho : Plain o) :
      Turn c cause s o s.core
  | stored {cause s} (i : Issued) (order : Order)
      (hid : RelayerCause.newOrderId s.now cause = some i.orderId)
      (hstellar : order.stellarAddress = some i.stellarAddress)
      (heth : order.ethAddress = some i.ethAddress) (hnew : order.Unrefunded)
      (hmemo : i.memo = none ∨ i.memo = some (memoOf i.orderId) ∧
        RelayerCause.issuesMemo cause = some i.orderId ∧ c.enableMockMode = false)
      (hawaiting : order.status = .awaitingXlmPayment → i.memo ≠ none) :
      Turn c cause s none { s.core with
        orders := s.activeOrders.insert i.orderId order
        issued := s.issued ++ [i] }
  /-- `/process` asks for the payment of an order. -/
  | asked {s} (req : ProcessRequest) (r : Release) (order : Order) (hroute : r.route = .process)
      (hid : given req.orderId = some r.orderId)
      (horder : s.activeOrders.get r.orderId = some order)
      (hsource : r.expectedSourceAccount = (order.stellarAddress <|> req.stellarAddress))
      (hgiven : given r.expectedSourceAccount ≠ none)
      (heth : r.ethAddress = (order.ethAddress <|> req.ethAddress)) :
      Turn c (.start (.process req)) s (some (.fetchPayment r)) s.core
  /-- `/xlm-to-eth` writes into the order, and may ask for the payment. -/
  | received {s o} (req : XlmToEthRequest) (r : Release) (order : Order) (reqNet : Network)
      (hroute : r.route = .xlmToEth)
      (hreceived : req.Received s r.orderId r.stellarTxHash order)
      (hsource : r.expectedSourceAccount = req.stellarAddress)
      (heth : r.ethAddress = given req.ethAddress)
      (ho : o = none ∨ o = some (.fetchPayment r) ∧ order.direction ≠ some .ethToXlm ∧
        order.status ≠ .ethTxSent ∧ order.status ≠ .completed ∧ order.status ≠ .refunded) :
      Turn c (.start (.xlmToEth req)) s o { s.core with
        orders := s.activeOrders.update r.orderId (Order.receiveXlm s.now reqNet r) }
  | consumed {s o fetched} (r : Release) (key : Text) (p : VerifiedStellarPayment)
      (entry : ConsumedProof) (hkey : ∃ network, c.stellarAccount network = some key)
      (hverify : verifyIncomingStellarPayment key r.expectedSourceAccount fetched = .ok p)
      (hfresh : s.proofLedger r.stellarTxHash = none)
      (ho : o = some (.coordinator ⟨r, p⟩) ∨ o = none ∧ ¬ Deal.Releasable ⟨r, p⟩) :
      Turn c (.answer (.fetchPayment r) fetched) s o { s.core with
        proofs := Function.update s.proofLedger r.stellarTxHash (some entry)
        taken := s.taken ++ [⟨r, p⟩] }
  | advanced {s q reply} (q' : Query) (d : Deal) (hq : q.deal = some d) (hq' : q'.deal = some d) :
      Turn c (.answer q reply) s (some q') s.core
  | gaveUp {s q reply} (d : Deal) (hq : q.deal = some d)
      (hreply : d.release.route = .process → ¬ Favourable c q reply) :
      Turn c (.answer q reply) s none s.core
  | sent {s} (d : Deal) (wei : ℕ) (txHash : Text) (hroute : d.release.route = .process) :
      Turn c (.answer (.ethSend d wei) (some txHash)) s (some (.ethConfirm d txHash))
        { s.core with payouts := s.payouts ++ [.ethTransfer d wei txHash] }
  | sentXlmToEth {s} (d : Deal) (wei : ℕ) (txHash : Text) (hroute : d.release.route = .xlmToEth) :
      Turn c (.answer (.ethSend d wei) (some txHash)) s none { s.core with
        orders := s.activeOrders.update d.release.orderId
          fun o => { o with status := .ethTxSent, ethTxHash := txHash }
        payouts := s.payouts ++ [.ethTransfer d wei txHash] }
  | relabelled {cause s o} (orderId : Text) (f : Order → Order)
      (hcause : RelayerCause.processes cause = some orderId) (hf : Order.Relabels f)
      (hstays : RelayerCause.completes cause = some orderId ∨ Order.StaysAwaiting f)
      (ho : Plain o) :
      Turn c cause s o { s.core with orders := s.activeOrders.update orderId f }
  | unconfirmed {s reply} (d : Deal) (txHash : Text) :
      Turn c (.answer (.ethConfirm d txHash) reply) s none s.core
  | matched {s o} (p : PaymentRecord) (memo orderId : Text) (order : Order)
      (hpays : p.op.paysTo c.relayerStellarPublic = true)
      (htag : memoPrefix.isPrefixOf memo = true)
      (horder : orderForMemo memo s.activeOrders = some (orderId, order))
      (ho : o = some (.htlcBalance ⟨p, orderId, order.ethAddress⟩) ∧
        amountVerified p.op.amount order.stellarAmount = true ∨ Plain o) :
      Turn c (.answer (.memo p) (some (some memo))) s o
        { s.core with matched := s.matched ++ [⟨p, memo, orderId⟩] }
  | funding {s q reply} (q' : Query) (m : Match) (hq : q.found = some m)
      (hq' : q'.found = some m) : Turn c (.answer q reply) s (some q') s.core
  | funded {s} (m : Match) (wei : ℕ) (txHash : Text) :
      Turn c (.answer (.htlcCreate m wei) (some txHash)) s (some (.htlcWait m))
        { s.core with payouts := s.payouts ++ [.ethHtlc m wei txHash] }
  | fundingEnded {s o q reply} (m : Match) (status : Status)
      (hq : q.found = some m ∨ q = .htlcWait m)
      (hstatus : status = .ethHtlcFailed ∨ status = .ethHtlcCreated) (ho : Plain o) :
      Turn c (.answer q reply) s o { s.core with
        orders := s.activeOrders.update m.orderId fun o => { o with status := status } }
  | claimed {s} (req : ManualRefundRequest) (refund : Refund)
      (hfree : s.refundLedger refund.orderId = none) :
      Turn c (.start (.manualRefund req)) s (some (.fetchRefunded refund)) { s.core with
        refunds := Function.update s.refundLedger refund.orderId (some .inFlight) }
  | unclaimed {s reply} (refund : Refund) :
      Turn c (.answer (.fetchRefunded refund) reply) s none { s.core with
        refunds := Function.update s.refundLedger refund.orderId none }
  | stamped {s} (orders : Orders) (h : Stamped s.activeOrders orders) :
      Turn c (.start .watchdogTick) s none { s.core with orders := orders }
  | expired {s} : Turn c (.start .reconcile) s none { s.core with
        orders := expireAbandonedOrders s.now s.activeOrders }

/-- The ledger of refunds holds claims only. -/
def Calm (s : State) : Prop :=
  ∀ orderId, s.refundLedger orderId = none ∨ s.refundLedger orderId = some .inFlight

/-- A manual refund holds its claim while it waits. -/
def ready : Option Query → State → Prop
  | some (.fetchRefunded refund), s => Calm s ∧ s.refundLedger refund.orderId = some .inFlight
  | _, s => Calm s

def contract (c : Config) : Contract State Query Reply Request where
  ready := ready
  turn := fun cause s o s' => Turn c cause s o s'.core

/-! ### Every handler keeps to the turns -/

/-- The process, in a turn with this cause that began in `s₀` and has come to `s`, keeps to the
contract. -/
abbrev Keeps (c : Config) {α : Type} (t : Task α) (cause : RelayerCause) (s₀ s : State) : Prop :=
  t.Meets (relayer c) (contract c) (contract c).Ends cause s₀ s

section

variable {c : Config} {α : Type} {cause : RelayerCause} {s₀ s : State}

variable {post : RelayerCause → State → Unit → State → Prop} {orderId : Text} {f : Order → Order}

lemma meets_updateOrder :
    (updateOrder orderId f).Meets (relayer c) (contract c) post cause s₀ s ↔
      post cause s₀ () { s with activeOrders := s.activeOrders.update orderId f } := Iff.rfl

lemma meets_updateRefunds {f : RefundLedger → RefundLedger} :
    (updateRefunds f).Meets (relayer c) (contract c) post cause s₀ s ↔
      post cause s₀ () { s with refundLedger := f s.refundLedger } := Iff.rfl

lemma plain_none : Plain none := by simp [Plain]

lemma plain_some {q : Query} (h : q.plain = true) : Plain (some q) := by simp [Plain, h]

lemma ends_idle (hcause : RelayerCause.plain cause = true) (a : α) :
    (contract c).Ends cause s a s :=
  Turn.idle hcause plain_none

@[simp] lemma core_ensureChainMonitoring (s : State) : s.ensureChainMonitoring.core = s.core := by
  unfold State.ensureChainMonitoring
  split <;> rfl

variable {order : Order}

lemma keeps_storeActiveOrder {ethAddress stellarAddress : Text} {memo : Option Text}
    (res : Response) (hnew : order.Unrefunded)
    (hid : RelayerCause.newOrderId s.now cause = some orderId)
    (hmemo : memo = none ∨ memo = some (memoOf orderId) ∧
      RelayerCause.issuesMemo cause = some orderId ∧ c.enableMockMode = false)
    (hawaiting : order.status = .awaitingXlmPayment → memo ≠ none) :
    Keeps c (do
      storeActiveOrder orderId ethAddress stellarAddress memo order
      pure res) cause s s := by
  let i : Issued := ⟨orderId, stellarAddress, ethAddress, memo⟩
  let order' : Order := { order with ethAddress := ethAddress, stellarAddress := stellarAddress }
  have hturn : Turn c cause s none { s.core with
      orders := s.activeOrders.insert orderId order'
      issued := s.issued ++ [i] } :=
    Turn.stored i order' hid rfl rfl hnew hmemo hawaiting
  unfold Keeps storeActiveOrder
  rw [meets_bind, meets_bind]
  show Turn c cause s none (State.core (if _ then _ else _))
  split
  · rw [core_ensureChainMonitoring]
    exact hturn
  · exact hturn

lemma keeps_createEthToXlm (req : CreateRequest) (ethAddress stellarAddress : Text)
    (amount : Numeral) (hid : orderId = orderIdOf s.now req.random) :
    Keeps c (createEthToXlm c req orderId ethAddress stellarAddress amount)
      (.start (.create req)) s s := by
  have hnew : RelayerCause.newOrderId s.now (.start (.create req)) = some orderId := by
    rw [hid]
    rfl
  unfold Keeps createEthToXlm
  dsimp only
  split
  · exact ends_idle rfl _
  split
  · split
    · rw [meets_bind, meets_read]
      exact keeps_storeActiveOrder _ ⟨rfl, rfl⟩ hnew (Or.inl rfl) (by simp)
    · rw [meets_bind, meets_query]
      refine ⟨Turn.idle rfl (plain_some rfl), ?_⟩
      intro r s' _
      split
      · exact ends_idle rfl _
      · rw [meets_bind, meets_read]
        exact keeps_storeActiveOrder _ ⟨rfl, rfl⟩ rfl (Or.inl rfl) (by simp)
  · rw [meets_bind, meets_read]
    exact keeps_storeActiveOrder _ ⟨rfl, rfl⟩ hnew (Or.inl rfl) (by simp)

lemma keeps_createXlmToEth (orderId ethAddress stellarAddress : Text) (amount : Numeral)
    (hcause : RelayerCause.plain cause = true) :
    Keeps c (createXlmToEth c orderId ethAddress stellarAddress amount) cause s s := by
  unfold Keeps createXlmToEth
  rw [meets_bind, meets_query]
  refine ⟨Turn.idle hcause (plain_some rfl), ?_⟩
  intro r s' _
  split
  · exact ends_idle rfl _
  split
  · exact ends_idle rfl _
  rw [meets_bind, meets_read]
  split
  · exact keeps_storeActiveOrder _ ⟨rfl, rfl⟩ rfl (Or.inl rfl) (by simp)
  · rename_i hmock
    exact keeps_storeActiveOrder _ ⟨rfl, rfl⟩ rfl (Or.inr ⟨rfl, rfl, by simpa using hmock⟩)
      (by simp)

lemma keeps_create (req : CreateRequest) : Keeps c (create c req) (.start (.create req)) s s := by
  unfold Keeps create
  split
  · split
    · exact ends_idle rfl _
    · split
      · exact ends_idle rfl _
      · rw [meets_bind, meets_read]
        split
        · exact keeps_createEthToXlm req _ _ _ rfl
        · exact keeps_createXlmToEth _ _ _ _ rfl
        · exact ends_idle rfl _
  · exact ends_idle rfl _

/-! #### The release routes -/

lemma ends_gaveUp {q : Query} {reply : Reply q} {d : Deal} (hq : q.deal = some d)
    (hreply : d.release.route = .process → ¬ Favourable c q reply) (a : α) :
    (contract c).Ends (.answer q reply) s a s :=
  Turn.gaveUp d hq hreply

/-- `/process` marks the order as completed. -/
lemma turn_completed (hcause : RelayerCause.processes cause = some orderId)
    (hcompletes : RelayerCause.completes cause = some orderId) (hf : Order.Relabels f) :
    (contract c).turn cause s none { s with activeOrders := s.activeOrders.update orderId f } :=
  Turn.relabelled orderId f hcause hf (Or.inl hcompletes) plain_none

/-- `/process` gives the order a status of an order from Ethereum. -/
lemma turn_relabelled {o : Option Query} (hcause : RelayerCause.processes cause = some orderId)
    (hf : Order.Relabels f) (hstays : Order.StaysAwaiting f) (ho : Plain o) :
    (contract c).turn cause s o { s with activeOrders := s.activeOrders.update orderId f } :=
  Turn.relabelled orderId f hcause hf (Or.inr hstays) ho

variable {fetched : Fetched}

/-- Consume the payment, and go on with `t` if this is the first time. -/
lemma keeps_consumeProof {d : Deal} {t : Task Response} {refusal : Response}
    (ht : ∀ entry, s.proofLedger d.release.stellarTxHash = none →
      Keeps c t (.answer (.fetchPayment d.release) fetched) s { s with
        proofLedger := Function.update s.proofLedger d.release.stellarTxHash (some entry)
        taken := s.taken ++ [d] }) :
    Keeps c (do if ← consumeProof d then t else pure refusal)
      (.answer (.fetchPayment d.release) fetched) s s := by
  unfold Keeps consumeProof
  rw [meets_bind, meets_bind, meets_read]
  dsimp only
  rw [meets_bind, meets_modify, meets_pure]
  cases hconsumed : s.proofLedger d.release.stellarTxHash with
  | none =>
    rw [StellarProofLedger.consume_of_none hconsumed]
    exact ht _ hconsumed
  | some e =>
    rw [StellarProofLedger.consume_of_some hconsumed]
    exact ends_idle rfl _

/-- `/process` after it has consumed the payment. -/
lemma keeps_settleProcess {r : Release} {p : VerifiedStellarPayment} {key : Text}
    (entry : ConsumedProof) (hroute : r.route = .process)
    (hkey : ∃ network, c.stellarAccount network = some key)
    (hverify : verifyIncomingStellarPayment key r.expectedSourceAccount fetched = .ok p)
    (hfresh : s.proofLedger r.stellarTxHash = none) :
    Keeps c (settleProcess c ⟨r, p⟩) (.answer (.fetchPayment r) fetched) s { s with
      proofLedger := Function.update s.proofLedger r.stellarTxHash (some entry)
      taken := s.taken ++ [⟨r, p⟩] } := by
  have hconsumed (o) := Turn.consumed (c := c) (o := o) r key p entry hkey hverify hfresh
  unfold Keeps settleProcess
  split
  · rename_i refusal hwei
    refine hconsumed none (Or.inr ⟨rfl, ?_⟩)
    rintro ⟨-, wei, hok⟩
    rw [hwei] at hok
    cases hok
  rename_i wei hwei
  split
  · rename_i hvalid
    refine hconsumed none (Or.inr ⟨rfl, ?_⟩)
    rintro ⟨hok, -⟩
    simp [hok] at hvalid
  rw [meets_bind, meets_query]
  refine ⟨hconsumed _ (Or.inl rfl), ?_⟩
  intro safe s _
  split
  · rename_i hsafe
    exact ends_gaveUp rfl (fun _ hfav => by simp [hfav.1] at hsafe) _
  split
  · rename_i hauth
    exact ends_gaveUp rfl (fun _ hfav => by simp [hfav.2] at hauth) _
  rw [meets_bind, meets_query]
  refine ⟨Turn.advanced _ ⟨r, p⟩ rfl rfl, ?_⟩
  intro balance s _
  split
  · refine ends_gaveUp rfl ?_ _
    rintro - ⟨b, hb, -⟩
    cases hb
  rename_i balance
  split
  · rename_i hlow
    refine ends_gaveUp rfl ?_ _
    rintro - ⟨b, hb, hle⟩
    cases hb
    have := hle wei hwei
    omega
  rw [meets_bind, meets_query]
  refine ⟨Turn.advanced _ ⟨r, p⟩ rfl rfl, ?_⟩
  intro sent s _
  split
  · refine ends_gaveUp rfl ?_ _
    intro _ hfav
    exact hfav rfl
  rename_i txHash
  rw [meets_bind, meets_query]
  refine ⟨Turn.sent ⟨r, p⟩ wei txHash hroute, ?_⟩
  intro receipt s _
  split
  · exact Turn.unconfirmed ⟨r, p⟩ txHash
  · exact turn_completed rfl rfl ⟨fun _ => rfl, fun _ => rfl, fun _ => id, by simp⟩

lemma keeps_processXlmToEth {req : ProcessRequest} {orderNet : Network} {r : Release}
    (hroute : r.route = .process) (hid : given req.orderId = some r.orderId)
    (horder : s.activeOrders.get r.orderId = some order)
    (hsource : r.expectedSourceAccount = (order.stellarAddress <|> req.stellarAddress))
    (heth : r.ethAddress = (order.ethAddress <|> req.ethAddress)) :
    Keeps c (processXlmToEth c orderNet r) (.start (.process req)) s s := by
  unfold Keeps processXlmToEth
  split
  · exact ends_idle rfl _
  rw [meets_bind, meets_read]
  split
  · exact ends_idle rfl _
  split
  · exact ends_idle rfl _
  rename_i relayerPubkey hkey
  split
  · exact ends_idle rfl _
  rename_i hgiven
  rw [meets_bind, meets_query]
  refine ⟨Turn.asked req r order hroute hid horder hsource ?_ heth, ?_⟩
  · simpa using hgiven
  · intro fetched s _
    split
    · exact ends_idle rfl _
    rename_i payment hverify
    refine keeps_consumeProof (d := ⟨r, payment⟩) ?_
    intro entry hfresh
    exact keeps_settleProcess entry hroute ⟨_, hkey⟩ hverify hfresh

/-! #### Orders from Ethereum -/

lemma keeps_processEthToXlm (req : ProcessRequest) :
    Keeps c (processEthToXlm c orderId order) (.start (.process req)) s s := by
  unfold Keeps processEthToXlm
  extract_lets network
  split
  · exact ends_idle rfl _
  rw [meets_bind, meets_query]
  refine ⟨Turn.idle rfl (plain_some rfl), ?_⟩
  intro balance s _
  split
  · exact ends_idle rfl _
  split
  · exact ends_idle rfl _
  rw [meets_bind, meets_query]
  refine ⟨Turn.idle rfl (plain_some rfl), ?_⟩
  intro sent s _
  split
  · exact ends_idle rfl _
  · exact turn_completed rfl rfl ⟨fun _ => rfl, fun _ => rfl, fun _ => id, by simp⟩

lemma staysAwaiting_of_status {status : Status} {ethTxHash : Order → Option Text}
    (hf : ∀ o, f o = { o with status := status, ethTxHash := ethTxHash o })
    (hsent : status ≠ .ethTxSent) (hcompleted : status ≠ .completed)
    (hrefunded : status ≠ .refunded) : Order.StaysAwaiting f := by
  intro o ho
  obtain ⟨hdirection, hhash, htx, hat, -⟩ := isXlmToEthAwaitingEth_iff.1 ho
  rw [hf]
  exact ⟨isXlmToEthAwaitingEth_iff.2
    ⟨hdirection, hhash, htx, hat, hsent, hcompleted, hrefunded⟩, rfl⟩

lemma turn_transferFailed (hcause : RelayerCause.processes cause = some orderId) :
    (contract c).turn cause s none { s with
      activeOrders := s.activeOrders.update orderId
        fun o => { o with status := .stellarTransferFailed } } := by
  refine turn_relabelled hcause ⟨fun _ => rfl, fun _ => rfl, fun _ => id, by simp⟩ ?_ plain_none
  exact staysAwaiting_of_status (fun _ => rfl) (by simp) (by simp) (by simp)

/-- The order has just been marked as deployed. -/
lemma keeps_processEscrowToStellar {req : ProcessRequest} (hid : given req.orderId = some orderId)
    (res : Response) :
    Keeps c (do
      updateOrder orderId fun o => { o with status := .escrowDeployed, ethTxHash := req.txHash }
      processEscrowToStellar c orderId order
      pure res) (.start (.process req)) s s := by
  unfold Keeps processEscrowToStellar
  dsimp only
  rw [meets_bind, meets_updateOrder, meets_bind]
  split
  · rw [meets_updateOrder]
    dsimp only
    rw [InsertionMap.update_update]
    refine turn_relabelled hid ⟨fun _ => rfl, fun _ => rfl, fun _ => id, by simp⟩ ?_ plain_none
    exact staysAwaiting_of_status (fun _ => rfl) (by simp) (by simp) (by simp)
  rw [meets_bind, meets_query]
  refine ⟨turn_relabelled hid ⟨fun _ => rfl, fun _ => rfl, fun _ => id, by simp⟩ ?_
    (plain_some rfl), ?_⟩
  · exact staysAwaiting_of_status (fun _ => rfl) (by simp) (by simp) (by simp)
  · intro balance s _
    split
    · exact turn_transferFailed rfl
    · exact turn_transferFailed rfl
    · split
      · exact turn_transferFailed rfl
      · split
        · exact turn_transferFailed rfl
        · rw [meets_bind, meets_query]
          refine ⟨Turn.idle rfl (plain_some rfl), ?_⟩
          intro sent s _
          split
          · exact turn_transferFailed rfl
          · exact turn_completed rfl rfl ⟨fun _ => rfl, fun _ => rfl, fun _ => id, by simp⟩

lemma keeps_process (req : ProcessRequest) :
    Keeps c (process c req) (.start (.process req)) s s := by
  unfold Keeps process
  split
  · exact ends_idle rfl _
  rename_i orderId hid
  rw [meets_bind, meets_read]
  split
  · exact ends_idle rfl _
  rename_i order horder
  split
  · exact keeps_processEscrowToStellar hid _
  split
  · exact keeps_processXlmToEth rfl hid horder rfl rfl
  · exact keeps_processEthToXlm req
  · exact ends_idle rfl _

/-! #### Refunds -/

/-- With the claim of the caller in the ledger, `refundXlmToUser` sees a duplicate. -/
lemma meets_refundXlmToUser {args : RefundXlmArgs}
    {post : RelayerCause → State → Except RefundError RefundXlmResult → State → Prop}
    (hargs : args.feeBumpCapStroops ≠ 0 ∧ args.ledger = true)
    (h : s.refundLedger args.refund.orderId = some .inFlight) :
    (refundXlmToUser args).Meets (relayer c) (contract c) post cause s₀ s ↔
      post cause s₀ (.error .duplicate) s := by
  unfold refundXlmToUser
  rw [if_neg hargs.1, meets_bind, meets_read]
  simp only [hargs.2, if_true, h]
  rw [meets_pure]

lemma keeps_inlineRefund {relayerPubkey : Text} {d : Deal} (hcalm : Calm s)
    (h : (contract c).turn cause s₀ none s) :
    Keeps c (inlineRefund relayerPubkey d) cause s₀ s := by
  unfold Keeps inlineRefund
  dsimp only
  split
  · exact h
  rw [meets_bind, meets_read]
  rcases hcalm d.release.orderId with hentry | hentry
  · rw [claim_of_none hentry, if_neg (by simp), meets_bind, meets_updateRefunds,
      meets_bind, meets_refundXlmToUser (by simp)]
    · rw [meets_bind, meets_read]
      dsimp only
      rw [meets_bind, meets_updateRefunds]
      dsimp only
      rw [claim_of_none hentry, release_claimed hentry]
      exact h
    · simp [claim_of_none hentry]
  · rw [claim_of_some hentry, if_pos rfl]
    simp only [hentry]
    exact h

/-- `/xlm-to-eth` after it has consumed the payment. -/
lemma keeps_settleXlmToEth {r : Release} {p : VerifiedStellarPayment} {key : Text}
    (entry : ConsumedProof) (hroute : r.route = .xlmToEth)
    (hkey : ∃ network, c.stellarAccount network = some key)
    (hverify : verifyIncomingStellarPayment key r.expectedSourceAccount fetched = .ok p)
    (hfresh : s.proofLedger r.stellarTxHash = none) :
    Keeps c (settleXlmToEth c key ⟨r, p⟩) (.answer (.fetchPayment r) fetched) s { s with
      proofLedger := Function.update s.proofLedger r.stellarTxHash (some entry)
      taken := s.taken ++ [⟨r, p⟩] } := by
  have hconsumed (o) := Turn.consumed (c := c) (o := o) r key p entry hkey hverify hfresh
  -- wherever the handler stops, its route is not `/process`
  have hgaveUp {q : Query} {reply : Reply q} {s : State} (hq : q.deal = some ⟨r, p⟩) :
      (contract c).turn (.answer q reply) s none s :=
    Turn.gaveUp ⟨r, p⟩ hq (fun h => by simp [hroute] at h)
  unfold Keeps settleXlmToEth
  split
  · rename_i hvalid
    refine hconsumed none (Or.inr ⟨rfl, ?_⟩)
    rintro ⟨hok, -⟩
    simp [hok] at hvalid
  rw [meets_bind, meets_query]
  refine ⟨hconsumed _ (Or.inl rfl), ?_⟩
  intro safe s _
  split
  · exact hgaveUp rfl
  split
  · exact hgaveUp rfl
  rw [meets_bind, meets_query]
  refine ⟨Turn.advanced _ ⟨r, p⟩ rfl rfl, ?_⟩
  intro balance s hcalm
  split
  · exact keeps_inlineRefund hcalm (hgaveUp rfl)
  split
  · exact hgaveUp rfl
  rename_i wei hwei
  split
  · exact hgaveUp rfl
  rw [meets_bind, meets_query]
  refine ⟨Turn.advanced _ ⟨r, p⟩ rfl rfl, ?_⟩
  intro sent s hcalm
  split
  · exact keeps_inlineRefund hcalm (hgaveUp rfl)
  · rename_i txHash
    exact Turn.sentXlmToEth ⟨r, p⟩ wei txHash hroute

lemma keeps_xlmToEth (req : XlmToEthRequest) :
    Keeps c (xlmToEth c req) (.start (.xlmToEth req)) s s := by
  unfold Keeps xlmToEth
  dsimp only
  split
  · rename_i orderId stellarTxHash ethAddress hid hhash heth
    rw [meets_bind, meets_read]
    split
    · exact ends_idle rfl _
    rename_i hconsumed
    split
    · exact ends_idle rfl _
    rename_i order horder
    let r : Release := ⟨.xlmToEth, orderId, stellarTxHash, req.stellarAddress,
      some ethAddress, order.direction, order.exchangeRate⟩
    have hreceived (o) := Turn.received (c := c) (o := o) req r order
      (req.networkMode.getD c.defaultNetwork) rfl
      ⟨hid, hhash, by simp [heth], by simpa [StellarProofLedger.isConsumed] using hconsumed,
        horder⟩ rfl heth.symm
    rw [meets_bind, meets_updateOrder]
    split
    · exact hreceived none (Or.inl rfl)
    split
    · exact hreceived none (Or.inl rfl)
    rename_i hdirection
    split
    · exact hreceived none (Or.inl rfl)
    rename_i hsettled
    split
    · exact hreceived none (Or.inl rfl)
    rename_i hterminal
    split
    · exact hreceived none (Or.inl rfl)
    split
    · exact hreceived none (Or.inl rfl)
    rename_i hkey
    rw [meets_bind, meets_query]
    refine ⟨hreceived _ (Or.inr ⟨rfl, hdirection, ?_⟩), ?_⟩
    · rw [not_or] at hsettled hterminal
      exact ⟨hsettled.1, hsettled.2, hterminal.1⟩
    · intro fetched s _
      split
      · exact ends_idle rfl _
      rename_i payment hverify
      refine keeps_consumeProof (d := ⟨r, payment⟩) ?_
      intro entry hfresh
      exact keeps_settleXlmToEth entry rfl ⟨_, hkey⟩ hverify hfresh
  · exact ends_idle rfl _

lemma keeps_payManualRefund {relayerPubkey : Text} {refund : Refund} {reply : Fetched}
    (payment : VerifiedStellarPayment) (h : s.refundLedger refund.orderId = some .inFlight) :
    Keeps c (payManualRefund relayerPubkey refund payment)
      (.answer (.fetchRefunded refund) reply) s s := by
  unfold Keeps payManualRefund
  rw [meets_bind, meets_refundXlmToUser (by simp) h, meets_bind, meets_read]
  dsimp only
  rw [meets_bind, meets_updateRefunds, release_of_inFlight h]
  exact Turn.unclaimed refund

/-- A manual refund claims, waits for the verification and gives the claim back. -/
lemma keeps_manualRefund (req : ManualRefundRequest) :
    Keeps c (manualRefund c req) (.start (.manualRefund req)) s s := by
  unfold Keeps manualRefund
  dsimp only
  split
  · rename_i stellarTxHash stellarAddress _ _
    rw [meets_bind, meets_read]
    split
    · exact ends_idle rfl _
    · exact ends_idle rfl _
    · exact ends_idle rfl _
    · rename_i hentry
      rw [meets_bind, meets_updateRefunds, claim_of_none hentry]
      split
      · rw [meets_bind, meets_updateRefunds]
        dsimp only
        rw [release_claimed hentry]
        exact ends_idle rfl _
      rw [meets_bind, meets_query]
      refine ⟨Turn.claimed req _ hentry, ?_⟩
      rintro fetched s ⟨-, hclaimed⟩
      split
      · rw [meets_bind, meets_updateRefunds]
        show Turn c _ s none { s.core with refunds := s.refundLedger.release _ }
        rw [release_of_inFlight hclaimed]
        exact Turn.unclaimed _
      · rename_i payment _
        exact keeps_payManualRefund payment hclaimed
  · exact ends_idle rfl _

/-! #### The watchdog -/

variable {publicKey : Text} {now : ℕ}

lemma meets_attemptRefund (hcalm : Calm s) (hsame : post cause s₀ () s)
    (hstamp : post cause s₀ () { s with
      activeOrders := s.activeOrders.update orderId (Order.watchdogFailed s.now) }) :
    (attemptRefund c publicKey now orderId).Meets (relayer c) (contract c) post cause s₀ s := by
  unfold attemptRefund
  rw [meets_bind, meets_read]
  split
  · exact hsame
  split
  · exact hsame
  split
  · exact hsame
  split
  · exact hsame
  split
  · exact hsame
  rename_i hclaim
  -- the claim is granted, and then stands in the way
  rcases hcalm orderId with hentry | hentry
  · rw [meets_bind, meets_updateRefunds, claim_of_none hentry, meets_bind,
      meets_refundXlmToUser (by simp) (by simp), meets_bind, meets_read]
    dsimp only
    rw [meets_bind, meets_updateRefunds]
    dsimp only
    rw [release_claimed hentry]
    exact hstamp
  · simp [claim_of_some hentry] at hclaim

lemma meets_visitOrder (hcalm : Calm s) (hsame : post cause s₀ () s)
    (hstamp : post cause s₀ () { s with
      activeOrders := s.activeOrders.update orderId (Order.watchdogFailed s.now) }) :
    (visitOrder c publicKey now orderId).Meets (relayer c) (contract c) post cause s₀ s := by
  unfold visitOrder
  rw [meets_bind, meets_read]
  split
  · exact hsame
  split
  · exact hsame
  rcases hcalm orderId with hentry | hentry
  · simp only [hentry]
    exact meets_attemptRefund hcalm hsame hstamp
  · simp only [hentry]
    exact meets_attemptRefund hcalm hsame hstamp

lemma stamped_refl (orders : Orders) : Stamped orders orders := fun _ => Or.inl rfl

lemma Stamped.of_update {orders orders' : Orders} {visited : Text}
    (h : Stamped (orders.update visited (Order.watchdogFailed now)) orders') :
    Stamped orders orders' := by
  intro orderId
  by_cases hid : orderId = visited
  · subst hid
    right
    rcases h orderId with h | ⟨later, h⟩
    · exact ⟨now, by rw [h, InsertionMap.get_update_self]⟩
    · refine ⟨later, ?_⟩
      rw [h, InsertionMap.get_update_self, Option.map_map]
      rfl
  · rw [← InsertionMap.get_update_of_ne orders hid (Order.watchdogFailed now)]
    exact h orderId

lemma meets_visitOrders (ids : List Text) (hcalm : Calm s)
    (h : ∀ orders, Stamped s.activeOrders orders →
      post cause s₀ () { s with activeOrders := orders }) :
    (visitOrders c publicKey now ids).Meets (relayer c) (contract c) post cause s₀ s := by
  induction ids generalizing s with
  | nil => exact h s.activeOrders (stamped_refl _)
  | cons id ids ih =>
    unfold visitOrders
    rw [meets_bind]
    refine meets_visitOrder hcalm (ih hcalm h) (ih hcalm ?_)
    intro orders hstamped
    exact h orders hstamped.of_update

lemma keeps_watchdogTick (hcalm : Calm s) :
    Keeps c (watchdogTick c) (.start .watchdogTick) s s := by
  unfold Keeps watchdogTick
  split
  · exact ends_idle rfl _
  rw [meets_bind, meets_read]
  refine meets_visitOrders _ hcalm ?_
  intro orders hstamped
  exact Turn.stamped orders hstamped

/-! #### The poller -/

/-- The turn may end here or go on to a plain query. -/
def Closable (c : Config) (cause : RelayerCause) (s₀ : State) (_ : α) (s : State) : Prop :=
  ∀ o, Plain o → Turn c cause s₀ o s.core

lemma meets_createETHHTLCForOrder {m : Match}
    (h : (contract c).turn cause s₀ (some (.htlcBalance m)) s) :
    (createETHHTLCForOrder order m).Meets (relayer c) (contract c) (Closable c) cause s₀ s := by
  unfold createETHHTLCForOrder
  rw [meets_bind, meets_query]
  refine ⟨h, ?_⟩
  intro balance s _
  split
  · exact fun o ho => Turn.fundingEnded m _ (Or.inl rfl) (Or.inl rfl) ho
  · exact fun o ho => Turn.fundingEnded m _ (Or.inl rfl) (Or.inl rfl) ho
  · rename_i wei _
    split
    · exact fun o ho => Turn.fundingEnded m _ (Or.inl rfl) (Or.inl rfl) ho
    rw [meets_bind, meets_query]
    refine ⟨Turn.funding _ m rfl rfl, ?_⟩
    intro txHash s _
    split
    · exact fun o ho => Turn.fundingEnded m _ (Or.inl rfl) (Or.inl rfl) ho
    rename_i txHash
    rw [meets_bind, meets_query]
    refine ⟨Turn.funded m wei txHash, ?_⟩
    intro mined s _
    split
    · exact fun o ho => Turn.fundingEnded m _ (Or.inr rfl) (Or.inr rfl) ho
    · exact fun o ho => Turn.fundingEnded m _ (Or.inr rfl) (Or.inl rfl) ho

lemma meets_matchPayment {payment : PaymentRecord} (memo : Option Text)
    (hpays : payment.op.paysTo c.relayerStellarPublic = true) :
    (matchPayment payment memo).Meets (relayer c) (contract c) (Closable c)
      (.answer (.memo payment) (some memo)) s s := by
  unfold matchPayment
  split
  · exact fun o ho => Turn.idle rfl ho
  rename_i memo
  split
  · exact fun o ho => Turn.idle rfl ho
  rename_i htag
  rw [meets_bind, meets_read]
  split
  · exact fun o ho => Turn.idle rfl ho
  rename_i orderId order horder
  have hmatched (o) := Turn.matched (c := c) (o := o) payment memo orderId order
    hpays (by simpa using htag) horder
  rw [meets_bind, meets_modify]
  split
  · rename_i hamount
    exact meets_createETHHTLCForOrder (hmatched _ (Or.inl ⟨rfl, hamount⟩))
  · exact fun o ho => hmatched o (Or.inr ho)

lemma meets_pollPayments (records : List PaymentRecord)
    (h : ∀ o, Plain o → Turn c cause s₀ o s.core) :
    (pollPayments c records).Meets (relayer c) (contract c) (Closable c) cause s₀ s := by
  induction records generalizing cause s₀ s with
  | nil => exact h
  | cons payment rest ih =>
    unfold pollPayments
    split
    · exact ih h
    rename_i hpays
    rw [meets_bind, meets_query]
    refine ⟨h _ (plain_some rfl), ?_⟩
    intro memo s _
    split
    · exact fun o ho => Turn.idle rfl ho
    rw [meets_bind]
    refine (meets_matchPayment _ (by simpa using hpays)).mono ?_
    intro cause s₀ _ s hclosable
    exact ih hclosable

lemma keeps_endTick {generation : ℕ} {mark : Option ℤ} (h : (contract c).turn cause s₀ none s) :
    Keeps c (endTick generation mark) cause s₀ s := by
  show Turn c cause s₀ none (State.core (if _ then _ else _))
  split <;> exact h

lemma keeps_pollTick : Keeps c (pollTick c) (.start .pollTick) s s := by
  unfold Keeps pollTick
  rw [meets_bind, meets_read]
  split
  · exact ends_idle rfl _
  dsimp only
  rw [meets_bind, meets_modify, meets_bind, meets_query]
  refine ⟨Turn.idle rfl (plain_some rfl), ?_⟩
  intro currentLedger s _
  split
  · exact keeps_endTick (ends_idle rfl ())
  split
  · exact keeps_endTick (ends_idle rfl ())
  rw [meets_bind, meets_query]
  refine ⟨Turn.idle rfl (plain_some rfl), ?_⟩
  intro records s _
  split
  · exact keeps_endTick (ends_idle rfl ())
  rename_i records
  rw [meets_bind]
  refine (meets_pollPayments records fun o ho => Turn.idle rfl ho).mono ?_
  intro cause s₀ complete s hclosable
  split <;> exact keeps_endTick (hclosable none plain_none)

/-! #### The server -/

/-- Every process keeps to the turns. -/
theorem code_meets (r : Request) (s : State) (hready : (contract c).ready none s) :
    Keeps c (code c r) (.start r) s s := by
  cases r with
  | create req => exact (meets_bind _ _).2 ((keeps_create req).mono id)
  | process req => exact (meets_bind _ _).2 ((keeps_process req).mono id)
  | xlmToEth req => exact (meets_bind _ _).2 ((keeps_xlmToEth req).mono id)
  | manualRefund req => exact (meets_bind _ _).2 ((keeps_manualRefund req).mono id)
  | watchdogTick => exact (meets_bind _ _).2 ((keeps_watchdogTick hready).mono id)
  | pollTick => exact (meets_bind _ _).2 (keeps_pollTick.mono id)
  | reconcile => exact Turn.expired
  | clock now => exact Turn.idle rfl plain_none

end

end WaffleFinance.Relayer

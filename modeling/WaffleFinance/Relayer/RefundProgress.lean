import WaffleFinance.Relayer.Routes

/-!
# Whether a refund is ever paid

The three callers of `refundXlmToUser` -- the watchdog, the inline refund of
`/api/orders/xlm-to-eth`, and `/api/orders/manual-refund` -- claim the order first, the claim is an
entry that is in flight, and `refundXlmToUser` refuses an order with such an entry.  So no refund is
paid, whatever Horizon would answer: the callers take the refusal for a failure and give the claim
back.

The handlers run alone here, with every query answered at once.
-/

namespace WaffleFinance.Relayer

open Lib Process

variable (answer : (q : Query) → State → Reply q)

/-- The state after a handler has run alone. -/
def alone {α : Type} (t : Task α) (s : State) : State := (exec effect answer t s).2

/-! ### What was to happen -/

/-- From `s` to `s'` exactly one refund has been paid for the order, of the amount less the fee;
the order is refunded and the ledger has the transaction. -/
def RefundPaid (s s' : State) (refund : Refund) (stroops : ℕ) : Prop :=
  ∃ txHash,
    s'.payouts = s.payouts ++ [.xlmRefund refund (lessFee stroops) txHash] ∧
      (∃ order, s'.activeOrders.get refund.orderId = some order ∧ order.status = .refunded ∧
        order.refundTxHash = some txHash) ∧
      ∃ ledger committedAt, s'.refundLedger refund.orderId =
        some (.committed txHash (lessFee stroops) ledger committedAt)

/-- The change of an order has not made it refunded. -/
def Order.NotRefundedBy (f : Order → Order) : Prop :=
  ∀ o, ((f o).status = .refunded → o.status = .refunded) ∧
    (f o).refundTxHash = o.refundTxHash ∧ (f o).refundedAt = o.refundedAt

/-- From `s` to `s'` no refund has been paid at all, and for this order there is no entry in the
ledger and nothing in its record. -/
structure Unrefunded (orderId : Text) (s s' : State) : Prop where
  payouts : s'.payouts.filter Payout.isRefund = s.payouts.filter Payout.isRefund
  entry : s'.refundLedger orderId = none
  order : ∃ f, Order.NotRefundedBy f ∧
    s'.activeOrders.get orderId = (s.activeOrders.get orderId).map f

namespace Unrefunded

variable {orderId : Text} {s s' s'' : State}

/-- The order and its entry are as before. -/
lemma of_same (hp : s'.payouts.filter Payout.isRefund = s.payouts.filter Payout.isRefund)
    (hentry : s'.refundLedger orderId = none)
    (horder : s'.activeOrders.get orderId = s.activeOrders.get orderId) :
    Unrefunded orderId s s' :=
  ⟨hp, hentry, id, fun _ => ⟨id, rfl, rfl⟩, by rw [horder, Option.map_id, id]⟩

lemma refl (h : s.refundLedger orderId = none) : Unrefunded orderId s s := of_same rfl h rfl

lemma trans (h : Unrefunded orderId s s') (h' : Unrefunded orderId s' s'') :
    Unrefunded orderId s s'' := by
  obtain ⟨f, hf, hs'⟩ := h.order
  obtain ⟨g, hg, hs''⟩ := h'.order
  refine ⟨h'.payouts.trans h.payouts, h'.entry, g ∘ f, ?_, by rw [hs'', hs', Option.map_map]⟩
  intro o
  obtain ⟨hstatus, htx, hat⟩ := hf o
  obtain ⟨hstatus', htx', hat'⟩ := hg (f o)
  exact ⟨fun ho => hstatus (hstatus' ho), htx'.trans htx, hat'.trans hat⟩

lemma of_update (h : s.refundLedger orderId = none) {f : Order → Order}
    (hf : Order.NotRefundedBy f) :
    Unrefunded orderId s { s with activeOrders := s.activeOrders.update orderId f } :=
  ⟨rfl, h, f, hf, InsertionMap.get_update_self _ _ _⟩

lemma not_paid (h : Unrefunded orderId s s') {refund : Refund} (hid : refund.orderId = orderId)
    (stroops : ℕ) : ¬ RefundPaid s s' refund stroops := by
  rintro ⟨txHash, -, -, ledger, committedAt, hentry⟩
  rw [hid, h.entry] at hentry
  cases hentry

end Unrefunded

/-! ### The refusal -/

variable {s : State}

/-- With the claim of the caller in the ledger, `refundXlmToUser` sees a duplicate. -/
lemma refundXlmToUser_of_claimed {args : RefundXlmArgs} (hcap : args.feeBumpCapStroops ≠ 0)
    (hledger : args.ledger = true) (h : s.refundLedger args.refund.orderId = some .inFlight) :
    exec effect answer (refundXlmToUser args) s = (.error .duplicate, s) := by
  simp [refundXlmToUser, hcap, hledger, h]

/-- The watchdog at a stale order: it fails, or has nothing to do. -/
lemma alone_attemptRefund (c : Config) (publicKey : Text) (now : ℕ) (orderId : Text) (s : State) :
    alone answer (attemptRefund c publicKey now orderId) s = s ∨
      alone answer (attemptRefund c publicKey now orderId) s =
        { s with activeOrders := s.activeOrders.update orderId (Order.watchdogFailed s.now) } := by
  unfold alone attemptRefund
  rw [exec_bind, exec_read]
  cases s.activeOrders.get orderId with
  | none => exact Or.inl rfl
  | some order =>
    simp only
    split_ifs with hbackoff hstale hclaim
    · exact Or.inl rfl
    · exact Or.inl rfl
    · left
      cases given order.stellarAddress <;> rfl
    · -- the claim is granted, and then stands in the way
      have hentry : s.refundLedger orderId = none := by
        cases h : s.refundLedger orderId with
        | none => rfl
        | some e => simp [RefundLedger.claim_of_some h] at hclaim
      cases given order.stellarAddress with
      | none => exact Or.inl rfl
      | some stellarAddress =>
        right
        simp [RefundLedger.claim_of_none hentry, updateRefunds, updateOrder,
          refundXlmToUser_of_claimed, hentry]

/-! ### The watchdog -/

/-- Nothing is paid, and only what belongs to one order changes. -/
structure TouchesOnly (orderId : Text) (s s' : State) : Prop where
  payouts : s'.payouts = s.payouts
  ledger : ∀ other, other ≠ orderId → s'.refundLedger other = s.refundLedger other
  orders : ∀ other, other ≠ orderId → s'.activeOrders.get other = s.activeOrders.get other

namespace TouchesOnly

variable {orderId : Text} {s s' s'' : State}

lemma refl (orderId : Text) (s : State) : TouchesOnly orderId s s :=
  ⟨rfl, fun _ _ => rfl, fun _ _ => rfl⟩

lemma trans (h : TouchesOnly orderId s s') (h' : TouchesOnly orderId s' s'') :
    TouchesOnly orderId s s'' :=
  ⟨h'.payouts.trans h.payouts, fun o ho => (h'.ledger o ho).trans (h.ledger o ho),
    fun o ho => (h'.orders o ho).trans (h.orders o ho)⟩

lemma of_order (s : State) (f : Order → Order) :
    TouchesOnly orderId s { s with activeOrders := s.activeOrders.update orderId f } :=
  ⟨rfl, fun _ _ => rfl, fun _ ho => InsertionMap.get_update_of_ne _ ho f⟩

lemma of_ledger (s : State) {l : RefundLedger}
    (hl : ∀ other, other ≠ orderId → l other = s.refundLedger other) :
    TouchesOnly orderId s { s with refundLedger := l } :=
  ⟨rfl, hl, fun _ _ => rfl⟩

lemma unrefunded {other : Text} (h : TouchesOnly orderId s s') (hne : other ≠ orderId)
    (hother : s.refundLedger other = none) : Unrefunded other s s' :=
  .of_same (by rw [h.payouts]) ((h.ledger other hne).trans hother) (h.orders other hne)

end TouchesOnly

variable {orderId : Text}

lemma releaseAmbiguous_of_ne {l : RefundLedger} {other : Text} (h : other ≠ orderId) :
    l.releaseAmbiguous orderId other = l other := by
  rcases hl : l orderId with _ | e
  · simp [RefundLedger.releaseAmbiguous, hl]
  · cases e <;> simp [RefundLedger.releaseAmbiguous, hl, h]

lemma resolveAmbiguous_of_ne {l : RefundLedger} {other : Text} (h : other ≠ orderId) (now : ℕ)
    (txHash : Text) (amount : ℕ) (ledger : Option ℕ) :
    l.resolveAmbiguous now orderId txHash amount ledger other = l other := by
  rcases hl : l orderId with _ | e
  · simp [RefundLedger.resolveAmbiguous, hl]
  · cases e <;> simp [RefundLedger.resolveAmbiguous, RefundLedger.commit, hl, h]

lemma touchesOnly_checkAmbiguousRefund (orderId : Text) (s : State) :
    TouchesOnly orderId s (alone answer (checkAmbiguousRefund orderId) s) := by
  unfold alone checkAmbiguousRefund
  rw [exec_bind, exec_query]
  simp only [effect]
  cases answer (.recentTransactions orderId) s with
  | none => exact .refl orderId s
  | some txs =>
    simp only
    cases txs.find? (fun tx => tx.memo = some (refundMemo orderId)) with
    | none => exact .of_ledger s fun other ho => releaseAmbiguous_of_ne ho
    | some landed =>
      simp only [exec_bind, exec_query, effect]
      cases answer (.landedOps orderId landed.hash) s with
      | none => exact .refl orderId s
      | some ops =>
        refine .trans (.of_ledger s fun other ho => ?_) (.of_order _ _)
        exact resolveAmbiguous_of_ne ho ..

lemma touchesOnly_attemptRefund (c : Config) (publicKey : Text) (now : ℕ) (orderId : Text)
    (s : State) :
    TouchesOnly orderId s (alone answer (attemptRefund c publicKey now orderId) s) := by
  rcases alone_attemptRefund answer c publicKey now orderId s with h | h
  · rw [h]
    exact .refl orderId s
  · rw [h]
    exact .of_order s _

lemma touchesOnly_visitOrder (c : Config) (publicKey : Text) (now : ℕ) (orderId : Text)
    (s : State) : TouchesOnly orderId s (alone answer (visitOrder c publicKey now orderId) s) := by
  unfold alone visitOrder
  rw [exec_bind, exec_read]
  cases s.activeOrders.get orderId with
  | none => exact .refl orderId s
  | some order =>
    simp only
    split_ifs with hawaiting
    · exact .refl orderId s
    split
    · exact .of_order s _
    · rw [exec_bind]
      have hcheck := touchesOnly_checkAmbiguousRefund answer orderId s
      split_ifs with hfound
      · exact hcheck
      · exact hcheck.trans (touchesOnly_attemptRefund answer c publicKey now orderId _)
    · exact touchesOnly_attemptRefund answer c publicKey now orderId s

lemma unrefunded_visitOrder_self (c : Config) (publicKey : Text) (now : ℕ)
    (h : s.refundLedger orderId = none) :
    Unrefunded orderId s (alone answer (visitOrder c publicKey now orderId) s) := by
  have hattempt :
      Unrefunded orderId s (alone answer (attemptRefund c publicKey now orderId) s) := by
    rcases alone_attemptRefund answer c publicKey now orderId s with hs | hs
    · rw [hs]
      exact .refl h
    · rw [hs]
      exact .of_update h fun o => ⟨id, rfl, rfl⟩
  unfold alone visitOrder
  rw [exec_bind, exec_read]
  cases s.activeOrders.get orderId with
  | none => exact .refl h
  | some order =>
    simp only [h]
    split_ifs with hawaiting
    · exact .refl h
    · exact hattempt

lemma unrefunded_visitOrder (c : Config) (publicKey : Text) (now : ℕ) (visited : Text)
    (h : s.refundLedger orderId = none) :
    Unrefunded orderId s (alone answer (visitOrder c publicKey now visited) s) := by
  by_cases hid : orderId = visited
  · subst hid
    exact unrefunded_visitOrder_self answer c publicKey now h
  · exact (touchesOnly_visitOrder answer c publicKey now visited s).unrefunded hid h

lemma unrefunded_visitOrders (c : Config) (publicKey : Text) (now : ℕ) (ids : List Text)
    (h : s.refundLedger orderId = none) :
    Unrefunded orderId s (alone answer (visitOrders c publicKey now ids) s) := by
  induction ids generalizing s with
  | nil => exact .refl h
  | cons id ids ih =>
    have hvisit := unrefunded_visitOrder answer c publicKey now id h
    have hrest := ih hvisit.entry
    unfold alone visitOrders
    rw [exec_bind]
    exact hvisit.trans hrest

lemma unrefunded_watchdogTick (c : Config) (h : s.refundLedger orderId = none) :
    Unrefunded orderId s (alone answer (watchdogTick c) s) := by
  unfold alone watchdogTick
  split
  · exact .refl h
  · rw [exec_bind, exec_read]
    exact unrefunded_visitOrders answer c _ s.now s.activeOrders.keys h

/-! ### The inline refund -/

variable {d : Deal}

lemma alone_inlineRefund (relayerPubkey : Text) (h : s.refundLedger d.release.orderId = none) :
    alone answer (inlineRefund relayerPubkey d) s = s := by
  unfold alone inlineRefund
  cases given d.release.expectedSourceAccount with
  | none => rfl
  | some stellarAddress =>
    simp [RefundLedger.claim_of_none h, updateRefunds, refundXlmToUser_of_claimed, h]

lemma unrefunded_inlineRefund (relayerPubkey : Text) (h : s.refundLedger d.release.orderId = none) :
    Unrefunded d.release.orderId s (alone answer (inlineRefund relayerPubkey d) s) := by
  rw [alone_inlineRefund answer relayerPubkey h]
  exact .refl h

lemma unrefunded_ethSend {wei : ℕ} (r : Reply (.ethSend d wei))
    (h : s.refundLedger d.release.orderId = none) :
    Unrefunded d.release.orderId s (effect (.ethSend d wei) r s) := by
  cases r with
  | none => exact .refl h
  | some txHash => exact .of_same (by simp [effect, Payout.isRefund]) h rfl

lemma unrefunded_settleXlmToEth (c : Config) (relayerPubkey : Text)
    (h : s.refundLedger d.release.orderId = none) :
    Unrefunded d.release.orderId s (alone answer (settleXlmToEth c relayerPubkey d) s) := by
  unfold alone settleXlmToEth
  split
  · exact .refl h
  rw [exec_bind, exec_query]
  split
  · exact .refl h
  split
  · exact .refl h
  rw [exec_bind, exec_query]
  split
  · exact unrefunded_inlineRefund answer relayerPubkey h
  split
  · exact .refl h
  rename_i wei _
  split
  · exact .refl h
  rw [exec_bind, exec_query]
  have hsend := unrefunded_ethSend (answer (.ethSend d wei) s) h
  split
  · exact hsend.trans (unrefunded_inlineRefund answer relayerPubkey hsend.entry)
  · exact hsend.trans (.of_update hsend.entry fun o => ⟨by simp, rfl, rfl⟩)

lemma unrefunded_consumeProof (c : Config) (relayerPubkey : Text) (d : Deal) (refusal : Response)
    (h : s.refundLedger d.release.orderId = none) :
    Unrefunded d.release.orderId s (alone answer (do
      if ← consumeProof d then settleXlmToEth c relayerPubkey d else pure refusal) s) := by
  have hconsume : Unrefunded d.release.orderId s (alone answer (consumeProof d) s) :=
    .of_same rfl h rfl
  unfold alone
  rw [exec_bind]
  split
  · exact hconsume.trans (unrefunded_settleXlmToEth answer c relayerPubkey hconsume.entry)
  · exact hconsume

lemma unrefunded_xlmToEth (c : Config) {req : XlmToEthRequest}
    (hid : given req.orderId = some orderId) (h : s.refundLedger orderId = none) :
    Unrefunded orderId s (alone answer (xlmToEth c req) s) := by
  unfold alone xlmToEth
  split
  · rename_i orderId' stellarTxHash ethAddress hid' _ _
    obtain rfl : orderId' = orderId := Option.some.inj (hid'.symm.trans hid)
    rw [exec_bind, exec_read]
    split
    · exact .refl h
    split
    · exact .refl h
    -- the hash and the address are written, then the payment is looked at
    rename_i order _
    rw [exec_bind]
    let r : Release := ⟨.xlmToEth, orderId', stellarTxHash, req.stellarAddress,
      some ethAddress, order.direction, order.exchangeRate⟩
    have hreceive := Unrefunded.of_update h
      (f := Order.receiveXlm s.now (req.networkMode.getD c.defaultNetwork) r)
      fun o => ⟨id, rfl, rfl⟩
    refine hreceive.trans ?_
    have h := hreceive.entry
    split
    · exact .refl h
    split
    · exact .refl h
    split
    · exact .refl h
    split
    · exact .refl h
    split
    · exact .refl h
    split
    · exact .refl h
    rw [exec_bind, exec_query]
    split
    · exact .refl h
    · rename_i payment _
      exact unrefunded_consumeProof answer c _ ⟨r, payment⟩ _ h
  · exact .refl h

/-! ### The manual refund -/

lemma alone_payManualRefund (relayerPubkey : Text) {refund : Refund}
    (payment : VerifiedStellarPayment) (h : s.refundLedger refund.orderId = none) :
    alone answer (payManualRefund relayerPubkey refund payment)
      { s with refundLedger := (s.refundLedger.claim refund.orderId).2 } = s := by
  simp [alone, payManualRefund, RefundLedger.claim_of_none h, updateRefunds,
    refundXlmToUser_of_claimed, h]

lemma alone_manualRefund (c : Config) {req : ManualRefundRequest}
    (h : ∀ stellarTxHash, given req.stellarTxHash = some stellarTxHash →
      s.refundLedger (req.orderIdIn stellarTxHash s.activeOrders) = none) :
    alone answer (manualRefund c req) s = s := by
  unfold alone manualRefund
  split
  · rename_i stellarTxHash stellarAddress hhash _
    have hentry := h stellarTxHash hhash
    rw [exec_bind, exec_read]
    simp only [hentry]
    rw [exec_bind]
    split
    · simp [updateRefunds, RefundLedger.claim_of_none hentry, hentry]
    rw [exec_bind, exec_query]
    split
    · simp [updateRefunds, RefundLedger.claim_of_none hentry, hentry, effect]
    · rename_i payment _
      exact alone_payManualRefund answer _ payment hentry
  · rfl

/-! ### No refund is paid -/

/-- An order that the watchdog should refund. -/
structure Refundable (c : Config) (s : State) (orderId : Text) (order : Order) : Prop where
  active : s.activeOrders.get orderId = some order
  awaiting : isXlmToEthAwaitingEth order = true
  stale : order.stale c s.now = true
  address : given order.stellarAddress ≠ none
  rested : order.inBackoff s.now = false
  unclaimed : s.refundLedger orderId = none

/-- When the handler has run, no refund has been paid for the order. -/
def PaysNoRefund (orderId : Text) (s : State) {α : Type} (t : Task α) : Prop :=
  Unrefunded orderId s (alone answer t s) ∧
    ∀ refund stroops, refund.orderId = orderId →
      ¬ RefundPaid s (alone answer t s) refund stroops

variable {answer} in
lemma Unrefunded.paysNoRefund {α : Type} {t : Task α}
    (h : Unrefunded orderId s (alone answer t s)) : PaysNoRefund answer orderId s t :=
  ⟨h, fun _ stroops hid => h.not_paid hid stroops⟩

/-- Neither the watchdog nor the inline refund nor the manual refund ever pays a refund for an
order that has no entry in the ledger yet, whatever the outside world answers. -/
theorem no_refund_is_paid (c : Config) (s : State) (orderId : Text) :
    (∀ order, Refundable c s orderId order → PaysNoRefund answer orderId s (watchdogTick c)) ∧
      (∀ req, given req.orderId = some orderId → s.refundLedger orderId = none →
        PaysNoRefund answer orderId s (xlmToEth c req)) ∧
      ∀ req, (∀ stellarTxHash, given req.stellarTxHash = some stellarTxHash →
          req.orderIdIn stellarTxHash s.activeOrders = orderId) →
        s.refundLedger orderId = none → PaysNoRefund answer orderId s (manualRefund c req) := by
  refine ⟨?_, ?_, ?_⟩
  · intro order horder
    exact (unrefunded_watchdogTick answer c horder.unclaimed).paysNoRefund
  · intro req hid hentry
    exact (unrefunded_xlmToEth answer c hid hentry).paysNoRefund
  · intro req hid hentry
    have hsame : alone answer (manualRefund c req) s = s := by
      refine alone_manualRefund answer c fun stellarTxHash hhash => ?_
      rw [hid stellarTxHash hhash]
      exact hentry
    have hrefl : Unrefunded orderId s (alone answer (manualRefund c req) s) := by
      rw [hsame]
      exact .refl hentry
    exact hrefl.paysNoRefund

namespace Sample

/-- An order whose XLM has been with the relayer for ten minutes. -/
def staleOrder : Order where
  direction := some .xlmToEth
  status := .awaitingXlmPayment
  contractType := some .xlmToEthPending
  stellarAddress := some ['u']
  ethAddress := some ['a']
  exchangeRate := some 10
  created := 1000
  stellarTxHash := some ['h']

def staleState : State :=
  { State.initial with
    now := 601000
    activeOrders := InsertionMap.empty.insert ['o'] staleOrder }

lemma refundable_staleOrder : Refundable config staleState ['o'] staleOrder :=
  ⟨by decide, by decide, by decide, by decide, by decide, by decide⟩

/-- The world knows the payment, loads the account and accepts what is submitted. -/
def accepting : (q : Query) → State → Reply q := fun q _ => kind [] q

end Sample

open Sample in
/-- The stale order, in a world in which every call succeeds. -/
theorem no_refund_is_paid_sample :
    Refundable config staleState ['o'] staleOrder ∧
      PaysNoRefund accepting ['o'] staleState (watchdogTick config) :=
  ⟨refundable_staleOrder,
    (no_refund_is_paid accepting config staleState ['o']).1 _
      refundable_staleOrder⟩

open Sample in
/-- The tick takes the order, has its refund refused as a duplicate of itself, and stamps the order
with a failure. -/
theorem stale_order_is_not_refunded :
    Refundable config staleState ['o'] staleOrder ∧
      (alone accepting (watchdogTick config) staleState).payouts = [] ∧
      (alone accepting (watchdogTick config) staleState).refundLedger ['o'] =
        none ∧
      (alone accepting (watchdogTick config) staleState).activeOrders.get
        ['o'] = some { staleOrder with watchdogFailedAt := some 601000 } :=
  ⟨refundable_staleOrder, by decide, by decide, by decide⟩

end WaffleFinance.Relayer

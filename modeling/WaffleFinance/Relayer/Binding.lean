import WaffleFinance.Relayer.Runs

/-!
# Payments and the orders they are for

When an order is created, the user names the account the XLM will come from and the address the
ETH will go to, and is told a memo.  ETH should leave the relayer on account of an order only
against a payment from that account and only to that address, and a payment with the memo of an
order should not be taken for another's.

`/api/orders/process` keeps to this.  But `/api/orders/xlm-to-eth` takes the addresses from the
request, the poller does not look at the source of a payment, and the memo has the first eight
characters of the order id, which are `order_` and two digits of the time, while the poller takes
the first order whose id contains them.  Nothing else goes wrong (`paid_as_agreed`).
-/

namespace WaffleFinance.Relayer

open Lib

/-! ### What was agreed on -/

/-- An order with this id was created for this account and this address. -/
def Agreed (issued : List Issued) (orderId : Text) (source beneficiary : Option Text) : Prop :=
  ∃ i ∈ issued, i.orderId = orderId ∧ source = some i.stellarAddress ∧
    beneficiary = some i.ethAddress

lemma Agreed.mono {issued issued' : List Issued} {orderId : Text} {source beneficiary : Option Text}
    (hsub : issued ⊆ issued') (h : Agreed issued orderId source beneficiary) :
    Agreed issued' orderId source beneficiary := by
  obtain ⟨i, hi, hagreed⟩ := h
  exact ⟨i, hsub hi, hagreed⟩

/-- The payment is to the relayer, from the account of the order, and the HTLC is for its user. -/
def Match.Agreed (c : Config) (issued : List Issued) (m : Match) : Prop :=
  m.payment.op.paysTo c.relayerStellarPublic = true ∧
    Relayer.Agreed issued m.orderId (some m.payment.op.source) m.beneficiary

/-- The ETH went out as agreed on: against a payment to the relayer, from the account of an order
and to the address of that order. -/
def Payout.AsAgreed (c : Config) (issued : List Issued) : Payout → Prop
  | .ethTransfer d .. => d.Verified c ∧
      Agreed issued d.release.orderId (some d.payment.source) d.release.ethAddress
  | .ethHtlc m .. => m.Agreed c issued
  | .xlmRefund .. => True

/-- A payment with the memo of an order was matched to that order. -/
def MatchNote.AsIssued (issued : List Issued) (n : MatchNote) : Prop :=
  ∀ i ∈ issued, i.memo = some n.memo → i.orderId = n.orderId

/-! ### The condition -/

/-- The memo of the first order does not fit the second. -/
def Apart (orderId orderId' : Text) : Prop := orderId.take 8 <:+: orderId' → orderId = orderId'

/-- A request to `/xlm-to-eth` names the addresses of its order, and a payment for which the poller
will fund an HTLC comes from the account of the order. -/
def NamesItsOrder : RelayerCause → State → Prop
  | .start (.xlmToEth req), s => ∀ orderId stellarTxHash order,
      req.Received s orderId stellarTxHash order →
        given req.stellarAddress = order.stellarAddress ∧ given req.ethAddress = order.ethAddress
  | .answer (.memo p) (some (some memo)), s => ∀ orderId order,
      memoPrefix.isPrefixOf memo = true →
      orderForMemo memo s.activeOrders = some (orderId, order) →
        amountVerified p.op.amount order.stellarAmount = true →
          order.stellarAddress = some p.op.source
  | _, _ => True

def Honest : Option RelayerCause → State → Multiset Query → Prop
  | some cause, s, _ => NamesItsOrder cause s
  | none, _, _ => True

/-- The ids of the orders for which memos are issued are such that no memo fits two of them. -/
def MemosApart (c : Config) : Option RelayerCause → State → Multiset Query → Prop
  | some cause, s, _ => ∀ orderId, RelayerCause.issuesMemo cause = some orderId →
      c.enableMockMode = false →
        ∀ i ∈ s.issued, i.memo ≠ none → Apart orderId i.orderId ∧ Apart i.orderId orderId
  | none, _, _ => True

/-! ### The invariant -/

/-- The handler that waits acts as agreed on. -/
def Query.AsAgreed (c : Config) (issued : List Issued) (q : Query) : Prop :=
  (∀ r, q.verifies = some r →
    Agreed issued r.orderId (given r.expectedSourceAccount) r.ethAddress) ∧
  ∀ m, q.found = some m → m.Agreed c issued

variable {c : Config}

lemma Query.AsAgreed.mono {issued issued' : List Issued} {q : Query} (hsub : issued ⊆ issued')
    (h : q.AsAgreed c issued) : q.AsAgreed c issued' :=
  ⟨fun r hr => (h.1 r hr).mono hsub, fun m hm => ⟨(h.2 m hm).1, (h.2 m hm).2.mono hsub⟩⟩

/-- The match for which an HTLC is funded. -/
def Payout.found : Payout → Option Match
  | .ethHtlc m .. => some m
  | _ => none

/-- No memo that was issued fits two orders. -/
def AllApart (issued : List Issued) : Prop :=
  ∀ i ∈ issued, i.memo ≠ none → ∀ j ∈ issued, j.memo ≠ none → Apart i.orderId j.orderId

/-- The records are in order. -/
structure OnFile (c : Config) (k : Core) : Prop where
  memos : ∀ i ∈ k.issued, i.memo = none ∨ i.memo = some (memoOf i.orderId)
  orders : ∀ orderId order, k.orders.get orderId = some order →
    Agreed k.issued orderId order.stellarAddress order.ethAddress
  waiting : ∀ orderId order, k.orders.get orderId = some order →
    order.status = .awaitingXlmPayment → ∃ i ∈ k.issued, i.orderId = orderId ∧ i.memo ≠ none
  taken : ∀ d ∈ k.taken,
    Agreed k.issued d.release.orderId (some d.payment.source) d.release.ethAddress
  locked : ∀ x ∈ k.payouts, ∀ m, x.found = some m → m.Agreed c k.issued
  matched : ∀ n ∈ k.matched, n.memo.drop memoPrefix.length <:+: n.orderId ∧
    ∃ i ∈ k.issued, i.orderId = n.orderId ∧ i.memo ≠ none

/-- The order has kept its addresses, and has not begun to wait for XLM. -/
structure Order.SameTerms (order order' : Order) : Prop where
  stellarAddress : order'.stellarAddress = order.stellarAddress
  ethAddress : order'.ethAddress = order.ethAddress
  status : order'.status = .awaitingXlmPayment → order.status = .awaitingXlmPayment

lemma Order.sameTerms_refl (order : Order) : order.SameTerms order := ⟨rfl, rfl, id⟩

/-- So have all orders. -/
def SameTerms (orders orders' : Orders) : Prop :=
  ∀ orderId order', orders'.get orderId = some order' →
    ∃ order, orders.get orderId = some order ∧ order.SameTerms order'

lemma sameTerms_update {orders : Orders} {orderId : Text} {f : Order → Order}
    (hf : ∀ order, orders.get orderId = some order → order.SameTerms (f order)) :
    SameTerms orders (orders.update orderId f) := by
  intro other order' h
  by_cases hid : other = orderId
  · subst hid
    rw [InsertionMap.get_update_self] at h
    obtain ⟨order, horder, rfl⟩ := Option.map_eq_some_iff.1 h
    exact ⟨order, horder, hf order horder⟩
  · rw [InsertionMap.get_update_of_ne _ hid] at h
    exact ⟨order', h, order'.sameTerms_refl⟩

lemma sameTerms_stamped {orders orders' : Orders} (h : Stamped orders orders') :
    SameTerms orders orders' := by
  intro orderId order' horder'
  rcases h orderId with hsame | ⟨now, hstamp⟩
  · exact ⟨order', hsame ▸ horder', order'.sameTerms_refl⟩
  · rw [hstamp] at horder'
    obtain ⟨order, horder, rfl⟩ := Option.map_eq_some_iff.1 horder'
    exact ⟨order, horder, rfl, rfl, id⟩

lemma sameTerms_expired (now : ℕ) (orders : Orders) :
    SameTerms orders (expireAbandonedOrders now orders) := by
  intro orderId order' horder'
  rw [expireAbandonedOrders, InsertionMap.get_mapValues] at horder'
  obtain ⟨order, horder, rfl⟩ := Option.map_eq_some_iff.1 horder'
  refine ⟨order, horder, ?_⟩
  unfold Order.expireAbandoned
  split
  · exact ⟨rfl, rfl, by simp⟩
  · exact order.sameTerms_refl

namespace OnFile

variable {c : Config} {k : Core}

lemma withOrders (h : OnFile c k) {orders : Orders} (hsame : SameTerms k.orders orders) :
    OnFile c { k with orders := orders } :=
  { h with
    orders := by
      intro orderId order' horder'
      obtain ⟨order, horder, hterms⟩ := hsame orderId order' horder'
      rw [hterms.stellarAddress, hterms.ethAddress]
      exact h.orders orderId order horder
    waiting := by
      intro orderId order' horder' hstatus
      obtain ⟨order, horder, hterms⟩ := hsame orderId order' horder'
      exact h.waiting orderId order horder (hterms.status hstatus) }

/-- A new order. -/
lemma issue (h : OnFile c k) {i : Issued} {order : Order}
    (hstellar : order.stellarAddress = some i.stellarAddress)
    (heth : order.ethAddress = some i.ethAddress)
    (hmemo : i.memo = none ∨ i.memo = some (memoOf i.orderId))
    (hwaiting : order.status = .awaitingXlmPayment → i.memo ≠ none) :
    OnFile c { k with orders := k.orders.insert i.orderId order, issued := k.issued ++ [i] } := by
  have hsub : k.issued ⊆ k.issued ++ [i] := List.subset_append_left ..
  have hcases {j : Issued} (hj : j ∈ k.issued ++ [i]) : j ∈ k.issued ∨ j = i := by simpa using hj
  refine ⟨?_, ?_, ?_, fun d hd => (h.taken d hd).mono hsub,
    fun x hx m hm => ⟨(h.locked x hx m hm).1, (h.locked x hx m hm).2.mono hsub⟩, ?_⟩
  · intro j hj
    rcases hcases hj with hj | rfl
    · exact h.memos j hj
    · exact hmemo
  · intro orderId order' horder'
    rcases InsertionMap.eq_or_get_of_insert horder' with ⟨rfl, rfl⟩ | hold
    · exact ⟨i, List.mem_append_right _ (List.mem_singleton_self i), rfl, hstellar, heth⟩
    · exact (h.orders orderId order' hold).mono hsub
  · intro orderId order' horder' hstatus
    rcases InsertionMap.eq_or_get_of_insert horder' with ⟨rfl, rfl⟩ | hold
    · exact ⟨i, List.mem_append_right _ (List.mem_singleton_self i), rfl, hwaiting hstatus⟩
    · obtain ⟨j, hj, hmemo⟩ := h.waiting orderId order' hold hstatus
      exact ⟨j, hsub hj, hmemo⟩
  · intro n hn
    obtain ⟨hfits, j, hj, hid⟩ := h.matched n hn
    exact ⟨hfits, j, hsub hj, hid⟩

lemma withRefunds (h : OnFile c k) (refunds : RefundLedger) :
    OnFile c { k with refunds := refunds } :=
  { h with }

/-- A payment is consumed. -/
lemma take (h : OnFile c k) {d : Deal} (proofs : StellarProofLedger)
    (hd : Agreed k.issued d.release.orderId (some d.payment.source) d.release.ethAddress) :
    OnFile c { k with proofs := proofs, taken := k.taken ++ [d] } :=
  { h with
    taken := by
      intro d' hd'
      rcases List.mem_append.1 hd' with hd' | hd'
      · exact h.taken d' hd'
      · exact List.mem_singleton.1 hd' ▸ hd }

lemma pay (h : OnFile c k) {x : Payout} (hx : ∀ m, x.found = some m → m.Agreed c k.issued) :
    OnFile c { k with payouts := k.payouts ++ [x] } :=
  { h with
    locked := by
      intro y hy m hm
      rcases List.mem_append.1 hy with hy | hy
      · exact h.locked y hy m hm
      · obtain rfl := List.mem_singleton.1 hy
        exact hx m hm }

/-- A payment is matched to an order. -/
lemma note (h : OnFile c k) {p : PaymentRecord} {memo orderId : Text} {order : Order}
    (horder : orderForMemo memo k.orders = some (orderId, order)) :
    OnFile c { k with matched := k.matched ++ [⟨p, memo, orderId⟩] } ∧
      Agreed k.issued orderId order.stellarAddress order.ethAddress := by
  obtain ⟨hmem, hfits⟩ := InsertionMap.mem_of_first horder
  have hget := InsertionMap.get_eq_some.2 hmem
  refine ⟨{ h with matched := ?_ }, h.orders orderId order hget⟩
  intro n hn
  rcases List.mem_append.1 hn with hn | hn
  · exact h.matched n hn
  · obtain rfl := List.mem_singleton.1 hn
    rw [Bool.and_eq_true, decide_eq_true_eq, decide_eq_true_eq] at hfits
    exact ⟨hfits.1, h.waiting orderId order hget hfits.2⟩

/-- A payment with a memo of an order is matched to that order. -/
lemma asIssued (h : OnFile c k) (hapart : AllApart k.issued) {n : MatchNote} (hn : n ∈ k.matched) :
    n.AsIssued k.issued := by
  intro i hi hmemo
  obtain ⟨hfits, j, hj, hid, hmemo'⟩ := h.matched n hn
  rcases h.memos i hi with hnone | hsome
  · rw [hnone] at hmemo
    cases hmemo
  have hn : n.memo = memoOf i.orderId := Option.some.inj (hmemo.symm.trans hsome)
  rw [hn, memoOf, List.drop_left, ← hid] at hfits
  rw [← hid]
  exact hapart i hi (by simp [hmemo]) j hj hmemo' hfits

end OnFile

/-- The records are in order, and so is what the handlers are about to do. -/
structure Bindings (c : Config) (k : Core) (qs : Multiset Query) : Prop where
  onFile : OnFile c k
  pending : ∀ q ∈ qs, q.AsAgreed c k.issued

section

variable {c : Config} {issued : List Issued} {q : Query}

lemma asAgreed_of_plain (h : q.plain = true) : q.AsAgreed c issued := by
  cases q <;> simp_all [Query.plain, Query.AsAgreed, Query.verifies, Query.found]

lemma asAgreed_of_deal {d : Deal} (h : q.deal = some d) : q.AsAgreed c issued := by
  cases q <;> simp_all [Query.deal, Query.AsAgreed, Query.verifies, Query.found]

lemma asAgreed_of_found {m : Match} (h : q.found = some m) (hm : m.Agreed c issued) :
    q.AsAgreed c issued := by
  cases q <;> simp_all [Query.found, Query.AsAgreed, Query.verifies]

lemma asAgreed_of_other (h : q.verifies = none) (hfound : q.found = none) :
    q.AsAgreed c issued := by
  cases q <;> simp_all [Query.verifies, Query.AsAgreed]

lemma asAgreed_fetchPayment {r : Release}
    (h : Agreed issued r.orderId (given r.expectedSourceAccount) r.ethAddress) :
    (Query.fetchPayment r).AsAgreed c issued :=
  ⟨fun _ hr => Option.some.inj hr ▸ h, fun m hm => by cases hm⟩

end

namespace Bindings

variable {c : Config} {k k' : Core} {qs ans : Multiset Query} {o : Option Query}

lemma step (h : Bindings c k (ans + qs)) (hfile : OnFile c k') (hsub : k.issued ⊆ k'.issued)
    (ho : ∀ q, o = some q → q.AsAgreed c k'.issued) :
    Bindings c k' ((o.toList : Multiset Query) + qs) := by
  refine ⟨hfile, ?_⟩
  intro q hq
  rcases mem_asked.1 hq with hq | hq
  · exact ho q hq
  · exact (h.pending q (Multiset.mem_add.2 (Or.inr hq))).mono hsub

/-- No order is created. -/
lemma same (h : Bindings c k (ans + qs)) (hfile : OnFile c k') (hissued : k'.issued = k.issued)
    (ho : ∀ q, o = some q → q.AsAgreed c k.issued) :
    Bindings c k' ((o.toList : Multiset Query) + qs) := by
  refine h.step hfile (by rw [hissued]; exact List.Subset.refl _) ?_
  rwa [hissued]

lemma plain (h : Bindings c k (ans + qs)) (hfile : OnFile c k') (hissued : k'.issued = k.issued)
    (ho : Plain o) : Bindings c k' ((o.toList : Multiset Query) + qs) :=
  h.same hfile hissued fun q hq => asAgreed_of_plain (ho q hq)

end Bindings

variable {s : State}

/-- `/process` reads the addresses from the order. -/
lemma agreed_asked (h : OnFile c s.core) {req : ProcessRequest} {r : Release} {order : Order}
    (horder : s.activeOrders.get r.orderId = some order)
    (hsource : r.expectedSourceAccount = (order.stellarAddress <|> req.stellarAddress))
    (hgiven : given r.expectedSourceAccount ≠ none)
    (heth : r.ethAddress = (order.ethAddress <|> req.ethAddress)) :
    Agreed s.core.issued r.orderId (given r.expectedSourceAccount) r.ethAddress := by
  obtain ⟨i, hi, hid, hstellar, heth'⟩ := h.orders r.orderId order horder
  have hexpected : r.expectedSourceAccount = some i.stellarAddress := by rw [hsource, hstellar]; rfl
  have heth : r.ethAddress = some i.ethAddress := by rw [heth, heth']; rfl
  refine ⟨i, hi, hid, ?_, heth⟩
  obtain ⟨account, haccount⟩ := Option.ne_none_iff_exists'.1 hgiven
  rw [haccount, ← given_eq_some haccount, hexpected]

variable {qs : Multiset Query}

/-- `/xlm-to-eth` is asked with the addresses of the order. -/
lemma Bindings.receive {ans : Multiset Query} {r : Release} {order : Order} {o : Option Query}
    (reqNet : Network) (h : Bindings c s.core (ans + qs))
    (horder : s.activeOrders.get r.orderId = some order)
    (hsource : given r.expectedSourceAccount = order.stellarAddress)
    (heth : r.ethAddress = order.ethAddress) (ho : ∀ q, o = some q → q = .fetchPayment r) :
    Bindings c { s.core with
      orders := s.activeOrders.update r.orderId (Order.receiveXlm s.now reqNet r) }
      ((o.toList : Multiset Query) + qs) := by
  have hsame : SameTerms s.activeOrders
      (s.activeOrders.update r.orderId (Order.receiveXlm s.now reqNet r)) := by
    refine sameTerms_update fun o horder' => ⟨?_, rfl, id⟩
    obtain rfl := Option.some.inj (horder'.symm.trans horder)
    show (given r.expectedSourceAccount <|> o.stellarAddress) = o.stellarAddress
    rw [hsource]
    cases o.stellarAddress <;> rfl
  refine h.same (h.onFile.withOrders hsame) rfl ?_
  intro q hq
  rw [ho q hq]
  refine asAgreed_fetchPayment ?_
  rw [hsource, heth]
  exact h.onFile.orders r.orderId order horder

/-- Every turn keeps the bindings. -/
lemma Bindings.turn {cause : RelayerCause} {o : Option Query} {k : Core}
    (h : Bindings c s.core (cause.answered + qs))
    (hnames : Honest (some cause) s (cause.answered + qs))
    (hturn : Turn c cause s o k) : Bindings c k ((o.toList : Multiset Query) + qs) := by
  have hfile := h.onFile
  cases hturn with
  | idle hcause ho => exact h.plain hfile rfl ho
  | stored i order hid hstellar heth hnew hmemo hwaiting =>
    refine h.step (hfile.issue hstellar heth (hmemo.imp_right And.left) hwaiting)
      (List.subset_append_left ..) ?_
    intro q hq
    cases hq
  | asked req r order hroute hid horder hsource hgiven heth =>
    refine h.same hfile rfl ?_
    rintro q ⟨rfl⟩
    exact asAgreed_fetchPayment (agreed_asked hfile horder hsource hgiven heth)
  | received req r order reqNet hroute hreceived hsource heth ho =>
    obtain ⟨hstellar, heth'⟩ := hnames r.orderId r.stellarTxHash order hreceived
    refine h.receive reqNet hreceived.found (hsource ▸ hstellar) (heth.trans heth') ?_
    rintro q rfl
    rcases ho with ho | ⟨ho, -⟩
    · cases ho
    · exact Option.some.inj ho
  | consumed r key p entry hkey hverify hfresh ho =>
    have hasked := (h.pending (.fetchPayment r) (by simp [Cause.answered])).1 r rfl
    obtain ⟨i, hi, hid, hgiven, heth⟩ := hasked
    have hsource : p.source = i.stellarAddress := source_of_verified hverify hgiven
    refine h.same (hfile.take _ ⟨i, hi, hid, by rw [hsource], heth⟩) rfl ?_
    rintro q rfl
    rcases ho with ho | ⟨ho, -⟩
    · cases ho
      exact asAgreed_of_deal rfl
    · cases ho
  | advanced q' d hq hq' =>
    refine h.same hfile rfl ?_
    rintro q ⟨rfl⟩
    exact asAgreed_of_deal hq'
  | gaveUp | unconfirmed => exact h.plain hfile rfl plain_none
  | sent d wei txHash =>
    refine h.same (hfile.pay fun m hm => by cases hm) rfl ?_
    rintro q ⟨rfl⟩
    exact asAgreed_of_other rfl rfl
  | sentXlmToEth d wei txHash =>
    have hsame : SameTerms s.activeOrders (s.activeOrders.update d.release.orderId
        fun o => { o with status := .ethTxSent, ethTxHash := txHash }) :=
      sameTerms_update fun o _ => ⟨rfl, rfl, by simp⟩
    exact h.plain ((hfile.withOrders hsame).pay fun m hm => by cases hm) rfl plain_none
  | relabelled orderId f _ hf _ ho =>
    exact h.plain (hfile.withOrders (sameTerms_update fun o _ =>
      ⟨hf.stellarAddress o, hf.ethAddress o, fun h => absurd h (hf.status o)⟩)) rfl ho
  | matched p memo orderId order hpays htag horder ho =>
    obtain ⟨hnoted, hagreed⟩ := hfile.note (p := p) horder
    refine h.same hnoted rfl ?_
    rintro q rfl
    rcases ho with ⟨ho, hamount⟩ | ho
    · cases ho
      have hsource := hnames orderId order htag horder hamount
      exact asAgreed_of_found rfl ⟨hpays, hsource ▸ hagreed⟩
    · exact asAgreed_of_plain (ho q rfl)
  | funding q' m hq hq' =>
    have hm := (h.pending _ (by simp [Cause.answered])).2 m hq
    refine h.same hfile rfl ?_
    rintro q ⟨rfl⟩
    exact asAgreed_of_found hq' hm
  | funded m wei txHash =>
    have hm := (h.pending (.htlcCreate m wei) (by simp [Cause.answered])).2 m rfl
    refine h.same (hfile.pay ?_) rfl ?_
    · rintro _ ⟨rfl⟩
      exact hm
    · rintro q ⟨rfl⟩
      exact asAgreed_of_other rfl rfl
  | fundingEnded m status _ hstatus ho =>
    refine h.plain (hfile.withOrders (sameTerms_update fun o _ => ⟨rfl, rfl, ?_⟩)) rfl ho
    rcases hstatus with rfl | rfl <;> simp
  | claimed req refund hfree =>
    refine h.same (hfile.withRefunds _) rfl ?_
    rintro q ⟨rfl⟩
    exact asAgreed_of_other rfl rfl
  | unclaimed refund => exact h.plain (hfile.withRefunds _) rfl plain_none
  | stamped orders hstamped =>
    exact h.plain (hfile.withOrders (sameTerms_stamped hstamped)) rfl plain_none
  | expired =>
    exact h.plain (hfile.withOrders (sameTerms_expired s.now s.activeOrders)) rfl plain_none

/-- An answer that nobody hears. -/
lemma Bindings.lose {q : Query} {r : Reply q} (h : Bindings c s.core (q ::ₘ qs)) :
    Bindings c (effect q r s).core qs := by
  have hpending (q') (hq' : q' ∈ qs) := h.pending q' (Multiset.mem_cons_of_mem hq')
  have hself := h.pending q (Multiset.mem_cons_self q qs)
  cases q with
  | ethSend d wei =>
    cases r with
    | none => exact ⟨h.onFile, hpending⟩
    | some txHash => exact ⟨h.onFile.pay (fun m hm => by cases hm), hpending⟩
  | htlcCreate m wei =>
    cases r with
    | none => exact ⟨h.onFile, hpending⟩
    | some txHash =>
      refine ⟨h.onFile.pay ?_, hpending⟩
      rintro _ ⟨rfl⟩
      exact hself.2 m rfl
  | submitRefund refund stroops fee =>
    cases r with
    | error err => exact ⟨h.onFile, hpending⟩
    | ok result => exact ⟨h.onFile.pay (fun m hm => by cases hm), hpending⟩
  | _ => exact ⟨h.onFile, hpending⟩

/-- The orders are gone, the records stay. -/
lemma Bindings.restart (h : Bindings c s.core 0) : Bindings c s.restart.core 0 := by
  refine ⟨{ h.onFile with orders := ?_, waiting := ?_ }, h.pending⟩
  · intro orderId order horder
    cases horder
  · intro orderId order horder
    cases horder

lemma turnsKeep_bindings (c : Config) : TurnsKeep c Honest (Bindings c) where
  turn _ := Bindings.turn
  crash _ h _ horphaned := by
    have hlost := horphaned.preserves (I := fun s qs => Bindings c s.core qs) Bindings.lose h
    exact hlost.restart

/-- A turn issues at most one memo, for the order that it stores. -/
lemma Turn.issued {cause : RelayerCause} {o : Option Query} {k : Core} (h : Turn c cause s o k) :
    k.issued = s.issued ∨ ∃ i, k.issued = s.issued ++ [i] ∧ (i.memo ≠ none →
      RelayerCause.issuesMemo cause = some i.orderId ∧ c.enableMockMode = false) := by
  cases h with
  | stored i _ _ _ _ _ hmemo => exact .inr ⟨i, rfl, fun hissued => (hmemo.resolve_left hissued).2⟩
  | _ => exact .inl rfl

lemma turnsKeep_apart (c : Config) :
    TurnsKeep c (MemosApart c) fun k _ => AllApart k.issued where
  turn {cause s qs o k} _ h hapart hturn := by
    rcases hturn.issued with hsame | ⟨i, hissued, hmemo⟩
    · rwa [hsame]
    have hnew (hi : i.memo ≠ none) := hapart i.orderId (hmemo hi).1 (hmemo hi).2
    rw [hissued]
    intro j hj hjm j' hj' hjm'
    rcases List.mem_append.1 hj with hold | hj <;> rcases List.mem_append.1 hj' with hold' | hj'
    · exact h j hold hjm j' hold' hjm'
    · obtain rfl := List.mem_singleton.1 hj'
      exact (hnew hjm' j hold hjm).2
    · obtain rfl := List.mem_singleton.1 hj
      exact (hnew hjm j' hold' hjm').1
    · rw [List.mem_singleton.1 hj, List.mem_singleton.1 hj']
      exact fun _ => rfl
  crash {s s' qs} _ h _ horphaned :=
    horphaned.preserves (I := fun s _ => AllApart s.core.issued)
      (fun {q r s _} h => by cases q <;> cases r <;> exact h) h

/-! ### As agreed -/

/-- In every run in which each request to `/xlm-to-eth` names the addresses of its order and each
payment that the poller matches comes from the account of the order, ETH goes out only as agreed on.
If moreover no memo fits two orders, payments are matched to the orders whose memos they carry. -/
theorem paid_as_agreed {c : Config} {es : List (Event Query Reply Request)}
    (hes : EachStep c Honest es) (n : ℕ) :
    (∀ x ∈ (pool c es n).state.payouts, x.AsAgreed c (pool c es n).state.issued) ∧
      (EachStep c (MemosApart c) es →
        ∀ note ∈ (pool c es n).state.matched, note.AsIssued (pool c es n).state.issued) := by
  have hinitial : Bindings c State.initial.core 0 := by
    refine ⟨⟨?_, ?_, ?_, ?_, ?_, ?_⟩, by simp⟩ <;> simp [State.initial, State.core]
  obtain ⟨haccounts, hbindings⟩ := relayer_invariant (turnsKeep_bindings c) hinitial hes n
  refine ⟨fun x hx => ?_, fun hapart note hnote => ?_⟩
  · cases x with
    | ethTransfer d wei txHash =>
      have hd := haccounts.released _ hx d rfl
      exact ⟨haccounts.verified d hd, hbindings.onFile.taken d hd⟩
    | ethHtlc m wei txHash => exact hbindings.onFile.locked _ hx m rfl
    | xlmRefund refund stroops txHash => exact True.intro
  · have hissued : AllApart State.initial.core.issued := by
      intro i hi
      cases hi
    exact hbindings.onFile.asIssued (relayer_invariant (turnsKeep_apart c) hissued hapart n).2 hnote

open Sample in
/-- Two routes are asked for the ETH of an order, both by its user. -/
theorem paid_as_agreed_settled :
    EachStep config Honest settled ∧
      EachStep config (MemosApart config) settled ∧
      (pool config settled 9).state.payouts =
        [.ethTransfer deal 500000000000000000 ['e']] ∧
      ∀ x ∈ (pool config settled 9).state.payouts,
        x.AsAgreed config (pool config settled 9).state.issued := by
  have hes : EachStep config Honest settled := by
    refine eachStep_settled ?_
    intro n cause hn
    match n, hn with
    | 2, rfl =>
      intro orderId stellarTxHash order hreceived
      have horder := hreceived.found
      obtain rfl : Sample.orderId = orderId := Option.some.inj hreceived.id
      have haddresses : ((pool config settled 2).state.activeOrders.get
          orderId).map (fun o => (o.stellarAddress, o.ethAddress)) =
            some (some ['u'], some ['a']) := by decide +kernel
      rw [horder, Option.map_some, Option.some.injEq, Prod.mk.injEq] at haddresses
      rw [haddresses.1, haddresses.2]
      exact ⟨rfl, rfl⟩
    | 0, rfl | 1, rfl | 3, rfl | 4, rfl | 5, rfl | 6, rfl | 7, rfl | 8, rfl => exact True.intro
  have hapart : EachStep config (MemosApart config) settled := by
    refine eachStep_settled ?_
    intro n cause hn
    match n, hn with
    | 1, rfl =>
      have hissued : (pool config settled 1).state.issued = [] := by decide +kernel
      intro orderId _ _
      rw [hissued]
      exact fun i hi => by cases hi
    | 0, rfl | 2, rfl | 3, rfl | 4, rfl | 5, rfl | 6, rfl | 7, rfl | 8, rfl =>
      exact fun _ hid => by cases hid
  exact ⟨hes, hapart, by decide +kernel, (paid_as_agreed hes 9).1⟩

namespace Sample

/-- Somebody who has seen the payment asks for its ETH, to an address of their own. -/
def stolen : List (Event Query Reply Request) :=
  [.start (.create order), respond,
    .start (.xlmToEth { claim with stellarAddress := none, ethAddress := some ['m'] }),
    respond, respond, respond, respond]

/-- Another user has an order, too, and the payment is taken for theirs. -/
def mistaken : List (Event Query Reply Request) :=
  [.start (.create { order with
      ethAddress := some ['b'], stellarAddress := some ['v'], random := ['q'] }), respond,
    .start (.create order), respond, .start .pollTick, respond, .start .pollTick, respond, respond,
    respond]

end Sample

open Sample in
theorem paid_to_another :
    (∃ x ∈ (pool config stolen 7).state.payouts,
      ¬ x.AsAgreed config (pool config stolen 7).state.issued) ∧
    ∃ note ∈ (pool config mistaken 10).state.matched,
      ¬ note.AsIssued (pool config mistaken 10).state.issued := by
  have hissued : (pool config stolen 7).state.issued =
      [⟨orderId, ['u'], ['a'], some (memoOf orderId)⟩] := by decide +kernel
  constructor
  · refine ⟨.ethTransfer { deal with release := { release with
      expectedSourceAccount := none, ethAddress := some ['m'] } } 500000000000000000 ['e'],
      by decide +kernel, ?_⟩
    rintro ⟨-, i, hi, -, -, heth⟩
    rw [hissued, List.mem_singleton] at hi
    rw [hi] at heth
    cases heth
  · refine ⟨⟨⟨['h'], payment⟩, memoOf orderId, orderIdOf 0 ['q']⟩,
      by decide +kernel, ?_⟩
    intro h
    have hid := h ⟨orderId, ['u'], ['a'], some (memoOf orderId)⟩
      (by decide +kernel) rfl
    revert hid
    decide +kernel

end WaffleFinance.Relayer

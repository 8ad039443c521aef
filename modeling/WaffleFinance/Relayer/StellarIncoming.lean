import WaffleFinance.Relayer.Poller

/-!
# What the poller reads of the payments

A tick of the poller asks Horizon for the latest ledger and then for the payments of the relayer
after its cursor, looks at each of them, and sets the cursor to the ledger of the first answer.
When a request fails, the cursor stays.

Horizon gives at most fifty records at once, and the cursor does not depend on which they were.  A
payment names its order by the first eight characters of the order's id, and the first order whose
id contains them and that awaits a payment is taken to be meant.

While a tick waits, orders come and go: a tick sees the orders anew at each record.
-/

namespace WaffleFinance.Relayer

open Lib

/-- A record that Horizon lists for the account.  The paging token has the ledger in its upper half;
in the lower half the transactions of a ledger are counted from one, in steps of `2 ^ 12`. -/
structure IncomingRecord where
  ledger : ℕ
  offset : ℕ
  /-- A payment in the native asset to the relayer. -/
  incoming : Bool
  /-- In stroops. -/
  amount : ℕ
  memo : Option Text
  ledger_lt : ledger < 2 ^ 32
  offset_ge : 2 ^ 12 ≤ offset
  offset_lt : offset < 2 ^ 32

def IncomingRecord.token (p : IncomingRecord) : ℕ := p.ledger * 2 ^ 32 + p.offset

/-- The order that a payment is examined against. -/
def matchOrder (activeOrders : Orders) (memo : Option Text) : Option (Text × Order) :=
  match memo with
  | none => none
  | some memo => if memoPrefix.isPrefixOf memo then orderForMemo memo activeOrders else none

/-- A payment was held against an order.  If the amount is right, the relayer goes on. -/
structure Examination where
  token : ℕ
  orderId : Text
  verified : Bool
  deriving DecidableEq

/-- The body of the loop, up to what is done for the order. -/
def examine (activeOrders : Orders) (p : IncomingRecord) : Option Examination :=
  if p.incoming then
    (matchOrder activeOrders p.memo).map fun e =>
      ⟨p.token, e.1, amountVerified p.amount e.2.stellarAmount⟩
  else none

/-- The size of a page. -/
def paymentsLimit : ℕ := 50

/-- A tick: the latest ledger, `none` if that request fails; the ledgers that Horizon knows when it
is asked for the payments; the orders when the record at a place is looked at; and the number of
records after which something fails, if anything does. -/
structure PollTick where
  currentLedger : Option ℕ
  known : ℕ
  views : ℕ → Orders
  failsAfter : Option ℕ
  known_ge : ∀ l, currentLedger = some l → l ≤ known

structure StellarPoller where
  lastProcessedStellarLedger : ℤ
  /-- Not in the code: what was examined so far. -/
  examined : List Examination
  deriving DecidableEq

/-- The payments of an account, in their order, and how numbers are printed.  A number below
`2 ^ 64` is printed with digits that are read back as the same number, so that they are off by no
more than half of the distance between two numbers there. -/
structure PaymentHistory where
  payments : List IncomingRecord
  inOrder : payments.Pairwise fun p q => p.token < q.token
  printed : ℤ → ℤ
  printed_near : ∀ n < 2 ^ 64, n ≤ printed n + 2 ^ 10 ∧ printed n ≤ n + 2 ^ 10

namespace PaymentHistory

variable (h : PaymentHistory)

/-- The records that Horizon knows after a cursor. -/
def afterCursor (lastLedger : ℤ) (known : ℕ) : List IncomingRecord :=
  h.payments.filter fun p =>
    decide (h.printed (lastLedger * 2 ^ 32) < p.token) && decide (p.ledger ≤ known)

/-- What is examined of a page, record by record. -/
def examinations (views : ℕ → Orders) (page : List IncomingRecord) : List Examination :=
  page.zipIdx.filterMap fun p => examine (views p.2) p.1

def tick (s : StellarPoller) (t : PollTick) : StellarPoller :=
  match t.currentLedger with
  | none => s
  | some currentLedger =>
    if s.lastProcessedStellarLedger = 0 then
      { s with lastProcessedStellarLedger := (currentLedger : ℤ) - 10 }
    else
      let page := (h.afterCursor s.lastProcessedStellarLedger t.known).take paymentsLimit
      match t.failsAfter with
      | some n => { s with examined := s.examined ++ examinations t.views (page.take n) }
      | none =>
        { lastProcessedStellarLedger := currentLedger
          examined := s.examined ++ examinations t.views page }

/-- A run of the poller. -/
def run (s : StellarPoller) (ticks : List PollTick) : StellarPoller := ticks.foldl h.tick s

end PaymentHistory

/-! ### What a tick passes over -/

/-- In this state the tick moves the cursor past the payment, whose memo is that of an order which
awaits a payment all the time.  The records of the ledger at the cursor are still asked for: past a
ledger are the cursors above it.  The poller has `start` from its first tick. -/
structure Due (h : PaymentHistory) (start : ℤ) (s : StellarPoller) (t : PollTick)
    (p : IncomingRecord) (orderId : Text) : Prop where
  running : s.lastProcessedStellarLedger ≠ 0
  done : t.failsAfter = none
  payment : p ∈ h.payments
  incoming : p.incoming = true
  later : start < p.ledger
  ahead : s.lastProcessedStellarLedger ≤ p.ledger
  passed : ∃ currentLedger, t.currentLedger = some currentLedger ∧ p.ledger < currentLedger
  memo : p.memo = some (memoOf orderId)
  awaiting : ∀ i, ∃ o, (t.views i).get orderId = some o ∧ o.status = .awaitingXlmPayment

/-- The payment was held against the order. -/
def Examined (s : StellarPoller) (p : IncomingRecord) (orderId : Text) : Prop :=
  ∃ x ∈ s.examined, x.token = p.token ∧ x.orderId = orderId

/-- The place of a payment among those after the cursor. -/
def PaymentHistory.place (h : PaymentHistory) (s : StellarPoller) (t : PollTick)
    (p : IncomingRecord) : ℕ :=
  (h.afterCursor s.lastProcessedStellarLedger t.known).countP fun q => decide (q.token < p.token)

/-- What the tick should do: every payment that it passes over was examined. -/
def Covers (h : PaymentHistory) (start : ℤ) (s : StellarPoller) (t : PollTick) : Prop :=
  ∀ p orderId, Due h start s t p orderId → Examined (h.tick s t) p orderId

/-- Every payment that the tick passes over was examined before; or it is among the first fifty
after the cursor, and the first order that its memo fits is its own. -/
def Meets (h : PaymentHistory) (start : ℤ) (s : StellarPoller) (t : PollTick) : Prop :=
  ∀ p orderId, Due h start s t p orderId → Examined s p orderId ∨
    h.place s t p < paymentsLimit ∧
      (matchOrder (t.views (h.place s t p)) p.memo).map Prod.fst = some orderId

/-! ### The page that is asked for -/

lemma getElem?_countP {l : List IncomingRecord} (hl : l.Pairwise fun p q => p.token < q.token)
    {p : IncomingRecord} (hp : p ∈ l) :
    l[l.countP fun q => decide (q.token < p.token)]? = some p := by
  induction l with
  | nil => simp at hp
  | cons a l ih =>
    obtain ⟨ha, hl⟩ := List.pairwise_cons.1 hl
    rcases List.mem_cons.1 hp with rfl | hp
    · have hnone : l.countP (fun q => decide (q.token < p.token)) = 0 := by
        refine List.countP_eq_zero.2 fun q hq => ?_
        simpa using (ha q hq).le
      simp [hnone]
    · simpa [List.countP_cons, ha p hp] using ih hl hp

lemma mem_examinations {views : ℕ → Orders} {page : List IncomingRecord} {x : Examination} :
    x ∈ PaymentHistory.examinations views page ↔
      ∃ i p, page[i]? = some p ∧ examine (views i) p = some x := by
  unfold PaymentHistory.examinations
  constructor
  · intro hx
    obtain ⟨⟨p, i⟩, hmem, hex⟩ := List.mem_filterMap.1 hx
    exact ⟨i, p, List.mem_zipIdx_iff_getElem?.1 hmem, hex⟩
  · rintro ⟨i, p, hmem, hex⟩
    exact List.mem_filterMap.2 ⟨(p, i), List.mem_zipIdx_iff_getElem?.2 hmem, hex⟩

lemma examine_spec {activeOrders : Orders} {p : IncomingRecord} {x : Examination}
    (hx : examine activeOrders p = some x) :
    x.token = p.token ∧ (matchOrder activeOrders p.memo).map Prod.fst = some x.orderId := by
  unfold examine at hx
  split at hx
  · obtain ⟨e, hmatch, rfl⟩ := Option.map_eq_some_iff.1 hx
    exact ⟨rfl, by rw [hmatch]; rfl⟩
  · simp at hx

lemma examine_of_match {activeOrders : Orders} {p : IncomingRecord} {orderId : Text}
    (hin : p.incoming = true)
    (hmatch : (matchOrder activeOrders p.memo).map Prod.fst = some orderId) :
    ∃ verified, examine activeOrders p = some ⟨p.token, orderId, verified⟩ := by
  obtain ⟨e, he, rfl⟩ := Option.map_eq_some_iff.1 hmatch
  exact ⟨amountVerified p.amount e.2.stellarAmount, by simp [examine, hin, he]⟩

namespace PaymentHistory

variable {h : PaymentHistory} {s : StellarPoller} {t : PollTick} {p : IncomingRecord}
  {orderId : Text} {start : ℤ}

lemma afterCursor_inOrder (h : PaymentHistory) (lastLedger : ℤ) (known : ℕ) :
    (h.afterCursor lastLedger known).Pairwise fun p q => p.token < q.token :=
  h.inOrder.filter _

lemma printed_lt_token (h : PaymentHistory) {l : ℤ} (hl : l ≤ p.ledger) :
    h.printed (l * 2 ^ 32) < p.token := by
  have hlt := p.ledger_lt
  have hoff := p.offset_ge
  have hnear := (h.printed_near (l * 2 ^ 32) (by omega)).2
  unfold IncomingRecord.token
  omega

lemma mem_afterCursor (hd : Due h start s t p orderId) :
    p ∈ h.afterCursor s.lastProcessedStellarLedger t.known := by
  obtain ⟨l, hl, hpl⟩ := hd.passed
  have hknown : p.ledger ≤ t.known := hpl.le.trans (t.known_ge l hl)
  have hcursor := h.printed_lt_token hd.ahead
  refine List.mem_filter.2 ⟨hd.payment, ?_⟩
  rw [Bool.and_eq_true, decide_eq_true_eq, decide_eq_true_eq]
  exact ⟨hcursor, hknown⟩

lemma place_of_getElem? {i : ℕ} {q : IncomingRecord}
    (hq : (h.afterCursor s.lastProcessedStellarLedger t.known)[i]? = some q) :
    h.place s t q = i := by
  have hsorted := h.afterCursor_inOrder s.lastProcessedStellarLedger t.known
  have hplace := getElem?_countP hsorted (List.mem_of_getElem? hq)
  have hnodup : (h.afterCursor s.lastProcessedStellarLedger t.known).Nodup :=
    hsorted.imp fun hlt heq => absurd (congrArg IncomingRecord.token heq) hlt.ne
  obtain ⟨hi, _⟩ := List.getElem?_eq_some_iff.1 hq
  exact ((List.getElem?_inj hi hnodup).1 (hq.trans hplace.symm)).symm

lemma place_congr {q : IncomingRecord} (htoken : q.token = p.token) :
    h.place s t q = h.place s t p := by
  simp only [place, htoken]

lemma examined_tick (hd : Due h start s t p orderId) :
    (h.tick s t).examined = s.examined ++ examinations t.views
      ((h.afterCursor s.lastProcessedStellarLedger t.known).take paymentsLimit) := by
  obtain ⟨l, hl, _⟩ := hd.passed
  simp [tick, hl, hd.running, hd.done]

/-- What the tick does for a payment that it passes over. -/
lemma examined_tick_iff (hd : Due h start s t p orderId) :
    Examined (h.tick s t) p orderId ↔ Examined s p orderId ∨
      h.place s t p < paymentsLimit ∧
        (matchOrder (t.views (h.place s t p)) p.memo).map Prod.fst = some orderId := by
  have hmem := mem_afterCursor hd
  have hplace : (h.afterCursor s.lastProcessedStellarLedger t.known)[h.place s t p]? = some p :=
    getElem?_countP (h.afterCursor_inOrder _ _) hmem
  unfold Examined
  rw [examined_tick hd]
  constructor
  · rintro ⟨x, hx, htoken, horder⟩
    rcases List.mem_append.1 hx with hx | hx
    · exact Or.inl ⟨x, hx, htoken, horder⟩
    obtain ⟨i, q, hq, hex⟩ := mem_examinations.1 hx
    have hi : i < paymentsLimit := by
      by_contra hi
      simp [hi] at hq
    rw [List.getElem?_take_of_lt hi] at hq
    obtain ⟨htokenq, hmatch⟩ := examine_spec hex
    -- The token tells that the record at this place is the payment.
    have hqi := place_of_getElem? hq
    have hpi : h.place s t p = i := (place_congr (htokenq.symm.trans htoken)).symm.trans hqi
    have hqp : q = p := by
      rw [← hpi, hplace] at hq
      exact (Option.some.inj hq).symm
    subst hqp horder
    exact Or.inr ⟨hpi ▸ hi, hpi ▸ hmatch⟩
  · rintro (⟨x, hx, hspec⟩ | ⟨hlt, hmatch⟩)
    · exact ⟨x, List.mem_append_left _ hx, hspec⟩
    · obtain ⟨verified, hex⟩ := examine_of_match hd.incoming hmatch
      refine ⟨⟨p.token, orderId, verified⟩, List.mem_append_right _ (mem_examinations.2
        ⟨h.place s t p, p, ?_, hex⟩), rfl, rfl⟩
      rw [List.getElem?_take_of_lt hlt, hplace]

lemma covers_iff_meets : Covers h start s t ↔ Meets h start s t :=
  forall_congr' fun _ => forall_congr' fun _ => forall_congr' fun hd => examined_tick_iff hd

end PaymentHistory

/-- In a run of the poller every tick examines the payments that it passes over exactly when each of
them is among the first fifty records and its own order is the first that the memo fits. -/
theorem stellar_incoming_coverage_iff (h : PaymentHistory) (s : StellarPoller)
    (ticks : List PollTick) :
    (∀ n t, ticks[n]? = some t →
      Covers h s.lastProcessedStellarLedger (h.run s (ticks.take n)) t) ↔
      ∀ n t, ticks[n]? = some t →
        Meets h s.lastProcessedStellarLedger (h.run s (ticks.take n)) t := by
  simp only [PaymentHistory.covers_iff_meets]

/-! ### More than a page between two ticks -/

lemma crowded_ledger : 12 < 2 ^ 32 := by decide

lemma crowded_offset_ge (i : Fin 51) : 2 ^ 12 ≤ (i.val + 1) * 2 ^ 12 := by omega

lemma crowded_offset_lt (i : Fin 51) : (i.val + 1) * 2 ^ 12 < 2 ^ 32 := by omega

def crowdedOrderId : Text := "order_1700000000000_k3x9".toList

/-- Fifty-one payments of one ledger, of which the last has a memo. -/
def crowdedPayment (i : Fin 51) : IncomingRecord where
  ledger := 12
  offset := (i.val + 1) * 2 ^ 12
  incoming := true
  amount := 10 ^ 7
  memo := if i = 50 then some (memoOf crowdedOrderId) else none
  ledger_lt := crowded_ledger
  offset_ge := crowded_offset_ge i
  offset_lt := crowded_offset_lt i

lemma crowded_inOrder :
    (List.ofFn crowdedPayment).Pairwise fun p q => p.token < q.token := by
  refine List.pairwise_ofFn.2 fun i j hij => ?_
  simp only [IncomingRecord.token, crowdedPayment]
  omega

lemma printed_exactly (n : ℤ) (_ : n < 2 ^ 64) : n ≤ id n + 2 ^ 10 ∧ id n ≤ n + 2 ^ 10 := by
  simp

def crowdedHistory : PaymentHistory where
  payments := List.ofFn crowdedPayment
  inOrder := crowded_inOrder
  printed := id
  printed_near := printed_exactly

def crowdedOrder : Order where
  direction := some .xlmToEth
  status := .awaitingXlmPayment
  contractType := none
  stellarAddress := none
  ethAddress := none
  stellarAmount := some 1
  exchangeRate := none
  created := 0

def crowdedOrders : Orders := InsertionMap.empty.insert crowdedOrderId crowdedOrder

lemma crowdedOrders_get : crowdedOrders.get crowdedOrderId = some crowdedOrder := by
  decide +kernel

lemma crowded_known (l : ℕ) (hl : some 13 = some l) : l ≤ 13 := (Option.some.inj hl).ge

def crowdedTick : PollTick where
  currentLedger := some 13
  known := 13
  views := fun _ => crowdedOrders
  failsAfter := none
  known_ge := crowded_known

/-- The payment with the memo is the fifty-first: the tick moves the cursor past it and has examined
nothing. -/
theorem stellar_incoming_page_overflows :
    Due crowdedHistory 11 ⟨11, []⟩ crowdedTick (crowdedPayment 50) crowdedOrderId ∧
      crowdedHistory.tick ⟨11, []⟩ crowdedTick = ⟨13, []⟩ := by
  refine ⟨?_, by decide +kernel⟩
  refine ⟨by decide, rfl, List.mem_ofFn.2 ⟨50, rfl⟩, rfl, by decide, by decide,
    ⟨13, rfl, by decide⟩, rfl, ?_⟩
  exact fun _ => ⟨crowdedOrder, crowdedOrders_get, rfl⟩

end WaffleFinance.Relayer

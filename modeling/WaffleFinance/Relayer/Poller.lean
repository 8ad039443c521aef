import WaffleFinance.Relayer.Routes

/-!
# The poller of incoming Stellar payments

While an order waits for XLM, the relayer reads the list of payments to its account.  A payment
whose memo begins with `XLM-ETH-` is matched to the first order that waits and whose id contains
the rest of the memo, and if the amount is about right an HTLC is funded on Ethereum for the
user.  Neither the source of the payment nor the ledger of consumed payments is looked at.

A tick that fails, or a restart, makes the poller read the same payments again.
-/

namespace WaffleFinance.Relayer

open Lib Process

def setStatus (orderId : Text) (status : Status) : Task Unit :=
  updateOrder orderId fun o => { o with status := status }

/-- 0.002 ETH. -/
def estimatedGasCost : ℕ := 2 * 10 ^ 15

/-- Fund an HTLC for the user of an order.  The order keeps its status while this waits. -/
def createETHHTLCForOrder (order : Order) (m : Match) : Task Unit := do
  match ← await (.htlcBalance m), order.ethAmount with
  | none, _ => setStatus m.orderId .ethHtlcFailed
  | _, none => setStatus m.orderId .ethHtlcFailed
  | some relayerBalance, some wei =>
    if relayerBalance < wei + estimatedGasCost then setStatus m.orderId .ethHtlcFailed
    else
      match ← await (.htlcCreate m wei) with
      | none => setStatus m.orderId .ethHtlcFailed
      | some _ =>
        if ← await (.htlcWait m) then setStatus m.orderId .ethHtlcCreated
        else setStatus m.orderId .ethHtlcFailed

/-- The order that a memo stands for. -/
def orderForMemo (memo : Text) (activeOrders : Orders) : Option (Text × Order) :=
  activeOrders.first fun orderId order =>
    decide (memo.drop memoPrefix.length <:+: orderId) &&
      decide (order.status = .awaitingXlmPayment)

/-- The amounts differ by less than 0.001 XLM. -/
def amountVerified (received : ℕ) (expected : Option ℚ) : Bool :=
  expected.any fun expected => |(received : ℚ) / 10 ^ 7 - expected| < 1 / 1000

/-- What the poller does about a payment, given the memo of its transaction. -/
def matchPayment (payment : PaymentRecord) (memo : Option Text) : Task Unit := do
  match memo with
  | none => pure ()
  | some memo =>
    if !memoPrefix.isPrefixOf memo then pure ()
    else
      let s ← read
      match orderForMemo memo s.activeOrders with
      | none => pure ()
      | some (orderId, order) =>
        modify fun s => { s with matched := s.matched ++ [⟨payment, memo, orderId⟩] }
        if amountVerified payment.op.amount order.stellarAmount then
          createETHHTLCForOrder order ⟨payment, orderId, order.ethAddress⟩
        else pure ()

/-- Go through a page of payments.  The answer is whether no call has failed. -/
def pollPayments (c : Config) : List PaymentRecord → Task Bool
  | [] => pure true
  | payment :: rest => do
    if !payment.op.paysTo c.relayerStellarPublic then pollPayments c rest
    else
      match ← await (.memo payment) with
      | none => pure false
      | some memo =>
        matchPayment payment memo
        pollPayments c rest

/-- The end of a tick of the given poller, with the new mark if there is one. -/
def endTick (generation : ℕ) (mark : Option ℤ) : Task Unit :=
  modify fun s =>
    if s.poller.generation = generation then
      { s with poller := { s.poller with
          running := false
          lastProcessedStellarLedger := mark.getD s.poller.lastProcessedStellarLedger } }
    else s

/-- One tick of the poller, unless the last one still runs or no order waits for XLM. -/
def pollTick (c : Config) : Task Unit := do
  let s ← read
  if !s.monitoring || s.poller.running || !hasAwaitingXlmPayment s.activeOrders then pure ()
  else
    modify fun s => { s with poller := { s.poller with running := true } }
    let generation := s.poller.generation
    let last := s.poller.lastProcessedStellarLedger
    match ← await .latestLedger with
    | none => endTick generation none
    | some currentLedger =>
      if last = 0 then endTick generation (some ((currentLedger : ℤ) - 10))
      else
        match ← await (.payments (last * 4294967296)) with
        | none => endTick generation none
        | some records =>
          if ← pollPayments c records then endTick generation (some (currentLedger : ℤ))
          else endTick generation none

/-- Every minute: expire the orders that nobody has paid for, and stop the monitoring when no order
needs it. -/
def reconcileChainMonitoring : Task Unit :=
  modify fun s =>
    let activeOrders := expireAbandonedOrders s.now s.activeOrders
    { s with
      activeOrders := activeOrders
      monitoring := s.monitoring && needsChainMonitoring activeOrders }

end WaffleFinance.Relayer

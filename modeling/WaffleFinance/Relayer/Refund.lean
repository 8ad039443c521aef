import WaffleFinance.Relayer.World

/-!
# Refunds

`refundXlmToUser` pays a user's XLM back: it finds out the amount, and submits a payment until one
is accepted or there is no point in going on.  Whoever calls it holds the claim on the order in the
refund ledger.

`refundXlmToUser` itself looks at the ledger first, and takes an entry that is in flight for a
second attempt.  That entry is the claim of the caller: `refundXlmToUser_of_claimed`.

The watchdog goes through the orders every minute and refunds those that have been waiting for
ETH for too long.
-/

namespace WaffleFinance.Relayer

open Lib Process

/-! ### `refundXlmToUser` -/

structure RefundXlmArgs where
  refund : Refund
  /-- The account of the secret that signs the refund. -/
  publicKey : Text
  fallbackStroops : Option ℕ
  maxRetries : ℕ
  feeBumpCapStroops : ℕ := 10000
  /-- Whether the ledger of refunds is passed. -/
  ledger : Bool := true

structure RefundXlmResult where
  hash : Text
  stroops : ℕ
  ledger : Option ℕ

inductive RefundError where
  /-- A plain `Error`: the order has an entry in the ledger already. -/
  | duplicate
  | amountUnknown
  | horizon (error : HorizonError)

def txFeeStroops : ℕ := 100

def minRefundStroops : ℕ := 1

/-- The base fee of a Stellar transaction. -/
def baseFee : ℕ := 100

/-- The memo of a refund: `Refund:` and the beginning of the order id. -/
def refundMemo (orderId : Text) : Text :=
  ['R', 'e', 'f', 'u', 'n', 'd', ':'] ++
    (if orderId = [] then ['u', 'n', 'k', 'n', 'o', 'w', 'n'] else orderId).take 20

/-- The amount of the original payment, else the fallback. -/
def resolveRefundStroops (args : RefundXlmArgs) : Task (Option ℕ) := do
  let fallback := args.fallbackStroops.filter (· > 0)
  match given args.refund.stellarTxHash with
  | none => pure fallback
  | some _ =>
    match ← await (.refundOps args.refund) with
    | none => pure fallback
    | some ops =>
      match ops.find? (HorizonOp.paysTo args.publicKey) with
      | none => pure fallback
      | some paymentOp => pure (if paymentOp.amount > 0 then some paymentOp.amount else fallback)

/-- The refund after the fee is deducted. -/
def lessFee (stroops : ℕ) : ℕ :=
  if stroops > txFeeStroops then stroops - txFeeStroops else minRefundStroops

def submitOnce (args : RefundXlmArgs) (stroops fee : ℕ) :
    Task (Except HorizonError RefundXlmResult) := do
  match ← await (.loadAccount args.refund) with
  | .error err => pure (.error (classifyHorizonError err))
  | .ok _ =>
    match ← await (.submitRefund args.refund stroops fee) with
    | .error err => pure (.error (classifyHorizonError err))
    | .ok (hash, ledger) => pure (.ok ⟨hash, stroops, ledger⟩)

/-- The retry loop, with the number of attempts that are left after this one. -/
def submitLoop (args : RefundXlmArgs) (stroops : ℕ) :
    ℕ → ℕ → Task (Except RefundError RefundXlmResult)
  | left, fee => do
    match ← submitOnce args stroops fee with
    | .ok result =>
      if args.ledger then
        let s ← read
        updateRefunds fun l =>
          l.commit s.now args.refund.orderId result.hash result.stroops result.ledger
      pure (.ok result)
    -- the transaction may have landed
    | .error .timeout => pure (.error (.horizon .timeout))
    | .error (.terminal .txBadSeq) =>
      match left with
      | 0 => pure (.error (.horizon (.terminal .txBadSeq)))
      | left + 1 => submitLoop args stroops left fee
    | .error (.terminal .txInsufficientFee) =>
      if fee * 2 > args.feeBumpCapStroops then
        pure (.error (.horizon (.terminal .feeBumpCapExceeded)))
      else
        match left with
        | 0 => pure (.error (.horizon (.terminal .txInsufficientFee)))
        | left + 1 => submitLoop args stroops left (fee * 2)
    | .error (.terminal code) => pure (.error (.horizon (.terminal code)))
    | .error .transient =>
      match left with
      | 0 => pure (.error (.horizon .transient))
      | left + 1 => submitLoop args stroops left fee

def refundXlmToUser (args : RefundXlmArgs) : Task (Except RefundError RefundXlmResult) := do
  if args.feeBumpCapStroops = 0 then
    pure (.error (.horizon (.terminal .invalidFeeBumpCap)))
  else
    let s ← read
    match if args.ledger then s.refundLedger args.refund.orderId else none with
    | some (.committed txHash amount ledger _) => pure (.ok ⟨txHash, amount, ledger⟩)
    -- in flight or ambiguous: the caller should not be calling again
    | some _ => pure (.error .duplicate)
    | none =>
      match ← resolveRefundStroops args with
      | none => pure (.error .amountUnknown)
      | some stroops => submitLoop args (lessFee stroops) args.maxRetries baseFee

/-! ### The watchdog -/

/-- Ten minutes. -/
def backoffMs : ℕ := 10 * 60000

/-- Look for an ambiguous refund among the last transactions of the relayer.  The answer is
whether it was found. -/
def checkAmbiguousRefund (orderId : Text) : Task Bool := do
  match ← await (.recentTransactions orderId) with
  | none => pure false
  | some txs =>
    match txs.find? (fun tx => tx.memo = some (refundMemo orderId)) with
    | none =>
      updateRefunds fun l => l.releaseAmbiguous orderId
      pure false
    | some landed =>
      match ← await (.landedOps orderId landed.hash) with
      | none => pure false
      | some ops =>
        let amount := ((ops.find? fun op => op.payment && op.native).map HorizonOp.amount).getD 0
        let s ← read
        updateRefunds fun l => l.resolveAmbiguous s.now orderId landed.hash amount landed.ledger
        updateOrder orderId fun o =>
          { o with status := .refunded, refundTxHash := landed.hash, refundedAt := s.now }
        pure true

/-- The order is not to be looked at again so soon after a failure. -/
def Order.inBackoff (now : ℕ) (order : Order) : Bool :=
  order.watchdogFailedAt.any fun failedAt => failedAt ≠ 0 ∧ (now : ℤ) - failedAt < backoffMs

/-- The order has waited for longer than the threshold. -/
def Order.stale (c : Config) (now : ℕ) (order : Order) : Bool :=
  order.startedAt ≠ 0 ∧ ¬ (now : ℤ) - order.startedAt < c.staleAfterMs

/-- What an order gets when the watchdog fails on it. -/
def Order.watchdogFailed (now : ℕ) (order : Order) : Order :=
  { order with watchdogFailedAt := now }

/-- Claim the refund of a stale order and pay it. -/
def attemptRefund (c : Config) (publicKey : Text) (now : ℕ) (orderId : Text) : Task Unit := do
  let s ← read
  match s.activeOrders.get orderId with
  | none => pure ()
  | some order =>
    if order.inBackoff now then pure ()
    else if !order.stale c now then pure ()
    else
      match given order.stellarAddress with
      | none => pure ()
      | some stellarAddress =>
        if (s.refundLedger.claim orderId).1 = false then pure ()
        else
          updateRefunds fun l => (l.claim orderId).2
          let outcome ← refundXlmToUser
            { refund := ⟨orderId, stellarAddress, order.stellarTxHash⟩
              publicKey := publicKey
              fallbackStroops := order.amount
              maxRetries := 3 }
          let s ← read
          match outcome with
          | .ok refund =>
            updateOrder orderId fun o =>
              { o with status := .refunded, refundTxHash := refund.hash, refundedAt := s.now }
          | .error .amountUnknown => updateRefunds fun l => l.release orderId
          | .error (.horizon .timeout) =>
            updateRefunds fun l => l.markAmbiguous s.now orderId
            updateOrder orderId (Order.watchdogFailed s.now)
          | .error _ =>
            updateRefunds fun l => l.release orderId
            updateOrder orderId (Order.watchdogFailed s.now)

/-- The watchdog at one order. -/
def visitOrder (c : Config) (publicKey : Text) (now : ℕ) (orderId : Text) : Task Unit := do
  let s ← read
  match s.activeOrders.get orderId with
  | none => pure ()
  | some order =>
    if !isXlmToEthAwaitingEth order then pure ()
    else
      match s.refundLedger orderId with
      | some (.committed txHash _ _ committedAt) =>
        -- another path has committed the refund: the order catches up
        updateOrder orderId fun o =>
          { o with status := .refunded, refundTxHash := txHash, refundedAt := committedAt }
      | some (.ambiguous _) =>
        if ← checkAmbiguousRefund orderId then pure ()
        else attemptRefund c publicKey now orderId
      | _ => attemptRefund c publicKey now orderId

def visitOrders (c : Config) (publicKey : Text) (now : ℕ) : List Text → Task Unit
  | [] => pure ()
  | orderId :: rest => do
    visitOrder c publicKey now orderId
    visitOrders c publicKey now rest

/-- One tick.  An order that is stored while the tick waits is younger than the tick, so the
orders to visit are those of its start. -/
def watchdogTick (c : Config) : Task Unit := do
  match c.stellarAccount (if c.defaultNetwork = .mainnet then .mainnet else .testnet) with
  | none => pure ()
  | some publicKey =>
    let s ← read
    visitOrders c publicKey s.now s.activeOrders.keys

end WaffleFinance.Relayer

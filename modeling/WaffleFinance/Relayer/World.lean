import WaffleFinance.Lib.Process
import WaffleFinance.Relayer.Ledgers

/-!
# What the relayer asks and what it holds

The handlers of the relayer are processes: they work on the orders and the two ledgers, and they
wait for Horizon, for an Ethereum node, for the coordinator and for a price feed.

A query carries the variables of the handler that asks it, as far as they say on whose account the
handler acts (`Deal`, `Match`).  The code does not send these along; they only let a payout be
attributed.

An answer may be a failure.  A submission that is reported as failed has not been accepted, and
one that is reported as accepted is recorded as a payout.
-/

namespace WaffleFinance.Relayer

open Lib

/-! ### Horizon -/

/-- An operation of a Stellar transaction.  Amounts are in stroops; Horizon writes them as decimal
numbers with seven digits. -/
structure HorizonOp where
  /-- Horizon numbers the operations. -/
  id : ℕ
  payment : Bool
  native : Bool
  source : Text
  destination : Text
  amount : ℕ
  deriving DecidableEq

structure HorizonTx where
  successful : Bool
  ledger : ℕ
  memo : Option Text
  deriving DecidableEq

/-- Why Horizon has no transaction for us. -/
inductive FetchError where
  | notFound
  | unavailable
  deriving DecidableEq

/-- A transaction and its operations, or why they are not there. -/
abbrev Fetched := Except FetchError (HorizonTx × List HorizonOp)

structure VerifiedStellarPayment where
  /-- The operation that was found. -/
  op : ℕ
  amount : ℕ
  source : Text
  ledgerSequence : ℕ
  memo : Option Text
  deriving DecidableEq

inductive VerifyError where
  | txNotFound
  | txFailed
  | paymentMismatch
  | horizon
  deriving DecidableEq

/-- A native payment to the given account. -/
def HorizonOp.paysTo (publicKey : Text) (op : HorizonOp) : Bool :=
  op.payment && op.native && decide (op.destination = publicKey)

/-- Find a native payment to the relayer in a transaction.  Without an expected account the source
is not looked at. -/
def verifyIncomingStellarPayment (relayerPublicKey : Text) (expectedSourceAccount : Option Text) :
    Fetched → Except VerifyError VerifiedStellarPayment
  | .error .notFound => .error .txNotFound
  | .error .unavailable => .error .horizon
  | .ok (tx, ops) =>
    if tx.successful = false then .error .txFailed
    else match ops.find? (HorizonOp.paysTo relayerPublicKey) with
      | none => .error .paymentMismatch
      | some paymentOp =>
        if paymentOp.amount = 0 then .error .paymentMismatch
        else if (given expectedSourceAccount).any (fun a => paymentOp.source ≠ a) then
          .error .paymentMismatch
        else .ok
          { op := paymentOp.id
            amount := paymentOp.amount
            source := paymentOp.source
            ledgerSequence := tx.ledger
            memo := tx.memo }

lemma source_of_verified {key account : Text} {expected : Option Text} {fetched : Fetched}
    {p : VerifiedStellarPayment}
    (h : verifyIncomingStellarPayment key expected fetched = .ok p)
    (he : given expected = some account) : p.source = account := by
  unfold verifyIncomingStellarPayment at h
  split at h
  · cases h
  · cases h
  · split_ifs at h
    split at h
    · cases h
    · split_ifs at h with hzero hsource
      cases h
      simpa [he] using hsource

/-! #### Errors of a submission -/

/-- The result codes of Stellar that the refund code looks at, its own two, and any other. -/
inductive ResultCode where
  | txBadSeq
  | txInsufficientFee
  | txBadAuth
  | txInsufficientBalance
  | txNoSourceAccount
  | txBadAuthExtra
  | txInternalError
  | opNoDestination
  | opNoTrust
  | opLineFull
  | opNotAuthorized
  | opBadAsset
  | invalidFeeBumpCap
  | feeBumpCapExceeded
  | unknown
  deriving DecidableEq

def ResultCode.terminal : ResultCode → Bool
  | .txBadAuth | .txInsufficientBalance | .txNoSourceAccount | .txBadAuthExtra | .txInternalError
  | .opNoDestination | .opNoTrust | .opLineFull | .opNotAuthorized | .opBadAsset => true
  | _ => false

/-- An error as the Stellar library throws it: the answer of the server, if there was one, and
what the message says. -/
structure RawError where
  /-- The status and, for a rejected transaction, its code and those of its operations. -/
  response : Option (ℕ × Option ResultCode × List ResultCode)
  connectionAborted : Bool
  soundsLikeTimeout : Bool

inductive HorizonError where
  | timeout
  | terminal (resultCode : ResultCode)
  | transient
  deriving DecidableEq

def classifyHorizonError (err : RawError) : HorizonError :=
  let network := if err.soundsLikeTimeout then HorizonError.timeout else .transient
  match err.response with
  | none => network
  | some (status, txCode, opCodes) =>
    if status = 504 ∨ status = 408 ∨ err.connectionAborted = true then .timeout
    else if status = 400 then
      if txCode = some .txBadSeq then .terminal .txBadSeq
      else if txCode = some .txInsufficientFee then .terminal .txInsufficientFee
      else match (txCode.toList ++ opCodes).find? ResultCode.terminal with
        | some code => .terminal code
        | none => .transient
    else if status ≥ 500 then .transient
    else network

/-! ### On whose account the relayer acts -/

/-- The two routes that release ETH for a Stellar payment. -/
inductive Route where
  | process
  | xlmToEth
  deriving DecidableEq

/-- A release route that waits for the verification of a payment. -/
structure Release where
  route : Route
  orderId : Text
  stellarTxHash : Text
  expectedSourceAccount : Option Text
  /-- Where the ETH will go. -/
  ethAddress : Option Text
  /-- The direction and the rate of the order, which are never written after its creation. -/
  direction : Option Direction
  exchangeRate : Option ℚ
  deriving DecidableEq

/-- A release route after it has consumed the payment. -/
structure Deal where
  release : Release
  payment : VerifiedStellarPayment
  deriving DecidableEq

/-- A payment as the list of payments of an account has it. -/
structure PaymentRecord where
  transactionHash : Text
  op : HorizonOp
  deriving DecidableEq

/-- The poller has found a payment to be for an order. -/
structure Match where
  payment : PaymentRecord
  orderId : Text
  beneficiary : Option Text
  deriving DecidableEq

/-- What a refund is for and whom it goes to. -/
structure Refund where
  orderId : Text
  stellarAddress : Text
  stellarTxHash : Option Text
  deriving DecidableEq

/-- An incoming Stellar payment: an operation of a transaction. -/
structure PaymentKey where
  stellarTxHash : Text
  op : ℕ
  deriving DecidableEq

def Deal.key (d : Deal) : PaymentKey := ⟨d.release.stellarTxHash, d.payment.op⟩

def Match.key (m : Match) : PaymentKey := ⟨m.payment.transactionHash, m.payment.op.id⟩

/-- A payout on account of a Stellar payment that was accepted. -/
inductive Payout where
  | ethTransfer (deal : Deal) (wei : ℕ) (txHash : Text)
  | ethHtlc (found : Match) (wei : ℕ) (txHash : Text)
  | xlmRefund (refund : Refund) (stroops : ℕ) (txHash : Text)
  deriving DecidableEq

def Payout.isRefund : Payout → Bool
  | .xlmRefund .. => true
  | _ => false

/-- The deal that is settled. -/
def Payout.deal : Payout → Option Deal
  | .ethTransfer d .. => some d
  | _ => none

/-! ### Queries -/

/-- Everything that a handler waits for. -/
inductive Query where
  /-- For the order that is to be created. -/
  | prices (orderId : Text) (direction : Direction)
  /-- The transaction of a payment, for a release route and for a manual refund. -/
  | fetchPayment (release : Release)
  | fetchRefunded (refund : Refund)
  | coordinator (deal : Deal)
  | ethBalance (deal : Deal)
  | ethSend (deal : Deal) (wei : ℕ)
  | ethConfirm (deal : Deal) (txHash : Text)
  /-- The XLM of the relayer and a payment of XLM for an order from Ethereum. -/
  | xlmBalance (orderId : Text)
  | xlmSend (orderId : Text)
  | refundOps (refund : Refund)
  | loadAccount (refund : Refund)
  | submitRefund (refund : Refund) (stroops fee : ℕ)
  | recentTransactions (orderId : Text)
  | landedOps (orderId txHash : Text)
  | latestLedger
  | payments (cursor : ℤ)
  | memo (payment : PaymentRecord)
  | htlcBalance (found : Match)
  | htlcCreate (found : Match) (wei : ℕ)
  | htlcWait (found : Match)
  deriving DecidableEq

structure Prices where
  xlmUsdPrice : ℚ
  ethUsdPrice : ℚ
  ethToXlmRate : ℚ

/-- A transaction in the list of the relayer's own. -/
structure OwnTransaction where
  hash : Text
  memo : Option Text
  ledger : Option ℕ

/-- The answers.  `none` stands for an exception, also of the last of several attempts.  The
coordinator's answer is whether `assertCoordinatorSafe` lets the settlement go on. -/
abbrev Reply : Query → Type
  | .prices .. => Option Prices
  | .fetchPayment _ => Fetched
  | .fetchRefunded _ => Fetched
  | .coordinator _ => Bool
  | .ethBalance _ => Option ℕ
  | .ethSend .. => Option Text
  | .ethConfirm .. => Option Text
  | .xlmBalance _ => Option ℚ
  | .xlmSend _ => Option Text
  | .refundOps _ => Option (List HorizonOp)
  | .loadAccount _ => Except RawError Unit
  | .submitRefund .. => Except RawError (Text × Option ℕ)
  | .recentTransactions _ => Option (List OwnTransaction)
  | .landedOps .. => Option (List HorizonOp)
  | .latestLedger => Option ℕ
  | .payments _ => Option (List PaymentRecord)
  | .memo _ => Option (Option Text)
  | .htlcBalance _ => Option ℕ
  | .htlcCreate .. => Option Text
  | .htlcWait _ => Bool

/-! ### The state -/

/-- The poller of incoming Stellar payments.  Each time the monitoring of the chains is started
there is a new one, and the old one finishes its tick on its own. -/
structure Poller where
  generation : ℕ := 0
  running : Bool := false
  lastProcessedStellarLedger : ℤ := 0

/-- What the creation of an order has settled, and told the user. -/
structure Issued where
  orderId : Text
  stellarAddress : Text
  ethAddress : Text
  memo : Option Text
  deriving DecidableEq

/-- A line of the log: a payment with this memo was matched to an order. -/
structure MatchNote where
  payment : PaymentRecord
  memo : Text
  orderId : Text
  deriving DecidableEq

structure State where
  now : ℕ
  activeOrders : Orders
  refundLedger : RefundLedger
  proofLedger : StellarProofLedger
  monitoring : Bool
  poller : Poller
  /-- What has happened: the orders created, the payments consumed, the payments matched, the
  payouts accepted. -/
  issued : List Issued
  taken : List Deal
  matched : List MatchNote
  payouts : List Payout

/-- A relayer that has never run. -/
def State.initial : State where
  now := 0
  activeOrders := .empty
  refundLedger := fun _ => none
  proofLedger := fun _ => none
  monitoring := false
  poller := {}
  issued := []
  taken := []
  matched := []
  payouts := []

/-- What an answer says about the world: a submission that is accepted is a payout. -/
def effect : (q : Query) → Reply q → State → State
  | .ethSend deal wei, some txHash, s =>
    { s with payouts := s.payouts ++ [.ethTransfer deal wei txHash] }
  | .htlcCreate found wei, some txHash, s =>
    { s with payouts := s.payouts ++ [.ethHtlc found wei txHash] }
  | .submitRefund refund stroops _, .ok (txHash, _), s =>
    { s with payouts := s.payouts ++ [.xlmRefund refund stroops txHash] }
  | _, _, s => s

/-- A new process: the map of orders is gone and the ledgers are read from disk. -/
def State.restart (s : State) : State :=
  { s with
    activeOrders := .empty
    refundLedger := s.refundLedger.reload
    monitoring := false
    poller := {} }

/-! ### Handlers -/

/-- The answer to a request. -/
structure Response where
  status : ℕ
  message : String
  deriving DecidableEq

abbrev Task := Process State Query Reply

/-- Ask, and wait for the answer. -/
abbrev await (q : Query) : Task (Reply q) := Process.query q

def updateOrder (orderId : Text) (f : Order → Order) : Task Unit :=
  Process.modify fun s => { s with activeOrders := s.activeOrders.update orderId f }

def updateRefunds (f : RefundLedger → RefundLedger) : Task Unit :=
  Process.modify fun s => { s with refundLedger := f s.refundLedger }

/-- The configuration of the relayer. -/
structure Config where
  defaultNetwork : Network
  enableMockMode : Bool
  /-- Whether `RELAYER_PRIVATE_KEY` is set. -/
  hasPrivateKey : Bool
  /-- The accounts of the Stellar secrets that are configured for the two networks. -/
  mainnetAccount : Option Text
  testnetAccount : Option Text
  /-- `RELAYER_STELLAR_PUBLIC`. -/
  relayerStellarPublic : Text
  /-- `authorizeSettlementCommand` for settling on Ethereum. -/
  authorized : Direction → Bool
  /-- `decideOrderRoute` and `checkOrderSettleable` for a new order, given its direction, its two
  chains and the asset. -/
  decideOrderRoute : Option Direction → Text → Text → Text → Bool
  checkOrderSettleable : Option Direction → Bool
  /-- The threshold of the watchdog. -/
  staleAfterMs : ℕ := 5 * 60000

/-- The account of the relayer on a network. -/
def Config.stellarAccount (c : Config) : Network → Option Text
  | .mainnet => c.mainnetAccount
  | .testnet => c.testnetAccount
  | .other => none

/-! ### A world to evaluate in -/

namespace Sample

def config : Config where
  defaultNetwork := .testnet
  enableMockMode := false
  hasPrivateKey := true
  mainnetAccount := some ['R']
  testnetAccount := some ['R']
  relayerStellarPublic := ['R']
  authorized := fun _ => true
  decideOrderRoute := fun _ _ _ _ => true
  checkOrderSettleable := fun _ => true

/-- A payment of 5 XLM to the relayer. -/
def payment : HorizonOp where
  id := 1
  payment := true
  native := true
  source := ['u']
  destination := ['R']
  amount := 50000000

/-- A world in which every call succeeds.  All transactions carry the given memo. -/
def kind (memo : Text) : (q : Query) → Reply q
  | .prices .. => some ⟨1, 10, 10⟩
  | .fetchPayment _ => .ok (⟨true, 100, some memo⟩, [payment])
  | .fetchRefunded _ => .ok (⟨true, 100, some memo⟩, [payment])
  | .coordinator _ => true
  | .ethBalance _ => some (10 ^ 20 : ℕ)
  | .ethSend .. => some ['e']
  | .ethConfirm .. => some ['e']
  | .xlmBalance _ => some (10000 : ℚ)
  | .xlmSend _ => some ['x']
  | .refundOps _ => some [payment]
  | .loadAccount _ => .ok ()
  | .submitRefund .. => .ok (['r'], some 101)
  | .recentTransactions _ => some []
  | .landedOps .. => some []
  | .latestLedger => some (100 : ℕ)
  | .payments _ => some [⟨['h'], payment⟩]
  | .memo _ => some (some memo)
  | .htlcBalance _ => some (10 ^ 20 : ℕ)
  | .htlcCreate .. => some ['t']
  | .htlcWait _ => true

end Sample

end WaffleFinance.Relayer

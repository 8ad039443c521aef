import WaffleFinance.Lib.InsertionMap

/-!
# The orders of the relayer

The relayer keeps the orders that it works on in a map in memory, in the order in which they were
created.  Its routes, the refund watchdog and the pollers all read and write these records.

Texts are lists of characters.  A text that a client or a record may leave out is an `Option`; the
code mostly treats an empty text like a missing one, which is `given`.  Times are in milliseconds.
-/

namespace WaffleFinance.Relayer

open Lib

abbrev Text := List Char

/-- A text that is there and not empty. -/
def given : Option Text → Option Text
  | some (c :: cs) => some (c :: cs)
  | _ => none

lemma given_eq_some {t : Option Text} {a : Text} (h : given t = some a) : t = some a := by
  rcases t with _ | _ | ⟨c, cs⟩
  · exact h
  · simp [given] at h
  · exact h

def decimal (n : ℕ) : Text := Nat.toDigits 10 n

def decimalInt (n : ℤ) : Text := if n < 0 then '-' :: decimal n.natAbs else decimal n.natAbs

/-- A time in milliseconds as `Math.round` gives it in seconds. -/
def roundedSeconds (ms : ℤ) : Text := decimalInt ((ms + 500) / 1000)

inductive Direction where
  | ethToXlm
  | xlmToEth
  deriving DecidableEq, Repr

/-- The networks that have a configuration, and any other name. -/
inductive Network where
  | mainnet
  | testnet
  | other
  deriving DecidableEq, Repr

inductive ContractType where
  | mockEscrowFactory
  | oneInchEscrowFactory
  | oneInchEscrowFactoryMainnetDst
  | mockDualHtlc
  | xlmToEthPending
  deriving DecidableEq, Repr

inductive Status where
  | pendingRelayerEscrow
  | pendingDirectEscrow
  | pendingDstEscrowDeployment
  | pendingEscrowDeployment
  | escrowDeployed
  | escrowCreationFailed
  | mockEscrowCreated
  | mockHtlcCreated
  | awaitingXlmPayment
  | ethHtlcCreated
  | ethHtlcFailed
  | ethTxSent
  | completed
  | stellarTransferFailed
  | refunded
  | expired
  | cancelled
  | failed
  deriving DecidableEq, Repr

/-- What the relayer knows of an order. -/
structure Order where
  direction : Option Direction
  status : Status
  contractType : Option ContractType
  stellarAddress : Option Text
  ethAddress : Option Text
  /-- In wei, for an order from Ethereum. -/
  amount : Option ℕ := none
  /-- In wei, for an order to Ethereum. -/
  ethAmount : Option ℕ := none
  /-- The XLM that the user was told to send, `stellar.amount`. -/
  stellarAmount : Option ℚ := none
  exchangeRate : Option ℚ
  created : ℕ
  networkMode : Option Network := none
  stellarTxHash : Option Text := none
  xlmReceivedAt : Option ℕ := none
  ethTxHash : Option Text := none
  refundTxHash : Option Text := none
  refundedAt : Option ℕ := none
  watchdogFailedAt : Option ℕ := none
  deriving DecidableEq

abbrev Orders := InsertionMap Text Order

/-! ### Reading an order -/

/-- A number above `1e12` is in milliseconds, one below in seconds. -/
def toMillis (value : ℕ) : ℕ :=
  if value > 1000000000000 then value else value * 1000

/-- When the clock of the watchdog began to run.  The creation time is an ISO string in the code,
of which the milliseconds are read. -/
def Order.startedAt (order : Order) : ℕ :=
  match order.xlmReceivedAt with
  | some value => toMillis value
  | none => order.created

def isXlmToEthAwaitingEth (order : Order) : Bool :=
  if order.direction ≠ some .xlmToEth then false
  else if (given order.stellarTxHash).isNone then false
  else if (given order.refundTxHash).isSome || order.refundedAt.any (· ≠ 0) then false
  else if order.status = .ethTxSent ∨ order.status = .completed then false
  else if order.status = .refunded then false
  else true

lemma isXlmToEthAwaitingEth_iff {order : Order} :
    isXlmToEthAwaitingEth order = true ↔
      order.direction = some .xlmToEth ∧ given order.stellarTxHash ≠ none ∧
        given order.refundTxHash = none ∧ order.refundedAt.any (· ≠ 0) = false ∧
        order.status ≠ .ethTxSent ∧ order.status ≠ .completed ∧ order.status ≠ .refunded := by
  unfold isXlmToEthAwaitingEth
  split_ifs with h1 h2 h3 h4 h5 <;> simp_all
  · intro hnone
    simp_all
  · intro hsent
    simp_all

/-! ### The helpers of the pollers -/

def Status.terminal : Status → Bool
  | .completed | .cancelled | .failed | .refunded | .expired | .escrowCreationFailed => true
  | _ => false

def Status.mock : Status → Bool
  | .mockEscrowCreated | .mockHtlcCreated => true
  | _ => false

def Status.preDeposit : Status → Bool
  | .pendingRelayerEscrow | .pendingDirectEscrow | .pendingDstEscrowDeployment
  | .awaitingXlmPayment => true
  | _ => false

def hasAwaitingXlmPayment (activeOrders : Orders) : Bool :=
  activeOrders.entries.any (fun e => e.2.status = .awaitingXlmPayment)

def needsChainMonitoring (activeOrders : Orders) : Bool :=
  activeOrders.entries.any (fun e => !e.2.status.terminal && !e.2.status.mock)

/-- Thirty minutes. -/
def abandonMs : ℕ := 30 * 60000

/-- What `expireAbandonedOrders` does to one order. -/
def Order.expireAbandoned (now : ℕ) (order : Order) : Order :=
  if order.status.preDeposit = true ∧ ¬ ((now : ℤ) - order.created < abandonMs) then
    { order with status := .expired }
  else order

def expireAbandonedOrders (now : ℕ) (activeOrders : Orders) : Orders :=
  activeOrders.mapValues (fun _ => Order.expireAbandoned now)

end WaffleFinance.Relayer

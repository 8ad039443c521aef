import WaffleFinance.Lib.InsertionMap
import WaffleFinance.Coordinator.OrderMachine

/-!
# The tables of the coordinator

The coordinator keeps its orders in a database: the table `orders` with one row for each order, the
table `order_events` with a row for everything that was done to an order, the keys of the chain
events that were processed, and how far each chain was read.

Texts are lists of characters and a column that may be `NULL` is an `Option`.  The key of an order
is its public id, and the trail names an order by it.
-/

namespace WaffleFinance.Coordinator

open Lib

inductive Chain where
  | ethereum
  | stellar
  | solana
  deriving DecidableEq, Repr

inductive Direction where
  | ethToXlm
  | xlmToEth
  | ethToSol
  | solToEth
  deriving DecidableEq, Repr

/-- A row of `orders`, without its public id. -/
structure OrderRow where
  direction : Direction
  status : OrderStatus
  hashlock : Text
  srcChain : Chain
  srcAddress : Text
  srcAsset : Text
  srcAmount : Text
  srcSafetyDeposit : Text
  srcOrderId : Option Text
  srcLockTx : Option Text
  srcLockBlock : Option ℕ
  srcTimelock : Option ℕ
  dstChain : Chain
  dstAddress : Text
  dstAsset : Text
  dstAmount : Text
  dstOrderId : Option Text
  dstLockTx : Option Text
  dstLockBlock : Option ℕ
  dstTimelock : Option ℕ
  preimage : Option Text
  /-- `NULL` for plain text, 1 for an encrypted blob. -/
  preimageEncVersion : Option ℕ
  secretRevealedTx : Option Text
  resolverAddress : Option Text
  lastEthBlock : Option ℕ
  lastSorobanLedger : Option ℕ
  lastSolanaSlot : Option ℕ
  cancellationReason : Option Text
  deriving DecidableEq

def OrderRow.withStatus (r : OrderRow) (status : OrderStatus) : OrderRow :=
  { r with status := status }

/-- What a client announces. -/
structure AnnounceOrderInput where
  direction : Direction
  hashlock : Text
  srcChain : Chain
  srcAddress : Text
  srcAsset : Text
  srcAmount : Text
  srcSafetyDeposit : Text
  dstChain : Chain
  dstAddress : Text
  dstAsset : Text
  dstAmount : Text
  deriving DecidableEq

/-- The row of an order that has just been announced. -/
def AnnounceOrderInput.row (input : AnnounceOrderInput) : OrderRow where
  direction := input.direction
  status := .announced
  hashlock := input.hashlock
  srcChain := input.srcChain
  srcAddress := input.srcAddress
  srcAsset := input.srcAsset
  srcAmount := input.srcAmount
  srcSafetyDeposit := input.srcSafetyDeposit
  srcOrderId := none
  srcLockTx := none
  srcLockBlock := none
  srcTimelock := none
  dstChain := input.dstChain
  dstAddress := input.dstAddress
  dstAsset := input.dstAsset
  dstAmount := input.dstAmount
  dstOrderId := none
  dstLockTx := none
  dstLockBlock := none
  dstTimelock := none
  preimage := none
  preimageEncVersion := none
  secretRevealedTx := none
  resolverAddress := none
  lastEthBlock := none
  lastSorobanLedger := none
  lastSolanaSlot := none
  cancellationReason := none

/-- Who has caused a change. -/
inductive MutationActor where
  | ethereumListener
  | sorobanListener
  | solanaListener
  | reconciler
  | secretReconciler
  | expiryScan
  | operatorHttp
  | staleCleanup
  | system
  deriving DecidableEq, Repr

/-- The kinds of rows of the trail. -/
inductive TransitionEvent where
  | statusTransitioned
  | statusNoOp
  | srcLockTransitioned
  | srcLockNoOp
  | dstLockTransitioned
  | dstLockNoOp
  | secretRevealedTransitioned
  | secretRevealedNoOp
  | cancelTransitioned
  | cancelNoOp
  | abandonTransitioned
  | abandonNoOp
  | srcLockRolledBack
  | dstLockRolledBack
  deriving DecidableEq, Repr

inductive Outcome where
  | transitioned
  | noOpAlreadyAtTarget
  | noOpTerminal
  | noOpIdempotent
  | noOpNotSrcLocked
  | noOpNotDstLocked
  deriving DecidableEq, Repr

/-- A row of `order_events`. -/
structure OrderEvent where
  publicId : Text
  eventType : TransitionEvent
  actor : MutationActor
  fromStatus : OrderStatus
  toStatus : OrderStatus
  outcome : Outcome
  txHash : Option Text
  blockNumber : Option ℕ
  reason : Option Text
  deriving DecidableEq

/-- The events of the HTLC contracts that the coordinator follows. -/
inductive EventType where
  | orderCreated
  | orderClaimed
  | orderRefunded
  deriving DecidableEq, Repr

/-- The key under which a chain event counts as processed. -/
inductive EventKey where
  | eth (eventType : EventType) (txHash : Text) (logIndex : ℕ)
  | soroban (eventType : EventType) (ledger : ℕ) (txHash : Text) (eventIndex : ℕ)
  | solana (eventType : EventType) (signature : Text)
  deriving DecidableEq

structure Db where
  orders : InsertionMap Text OrderRow
  orderEvents : List OrderEvent
  processedEvents : List EventKey
  /-- 0 for a chain without a cursor. -/
  chainCursors : Chain → ℕ

namespace Db

/-- A database in which nothing has been stored. -/
def empty : Db := ⟨.empty, [], [], fun _ => 0⟩

/-- The trail of an order, the oldest row first. -/
def trail (d : Db) (publicId : Text) : List OrderEvent :=
  d.orderEvents.filter fun e => e.publicId = publicId

/-- Change one row. -/
def update (d : Db) (publicId : Text) (f : OrderRow → OrderRow) : Db :=
  { d with orders := d.orders.update publicId f }

/-- Replace one row. -/
def put (d : Db) (publicId : Text) (r : OrderRow) : Db := d.update publicId fun _ => r

/-- Add a row to the trail. -/
def append (d : Db) (e : OrderEvent) : Db := { d with orderEvents := d.orderEvents ++ [e] }

@[simp] lemma orders_update (d : Db) (p : Text) (f : OrderRow → OrderRow) :
    (d.update p f).orders = d.orders.update p f := rfl

lemma update_eq_put {d : Db} {p : Text} {r : OrderRow} (h : d.orders.get p = some r)
    (f : OrderRow → OrderRow) : d.update p f = d.put p (f r) := by
  unfold put update
  rw [InsertionMap.update_congr h (g := fun _ => f r) rfl]

lemma put_self {d : Db} {p : Text} {r : OrderRow} (h : d.orders.get p = some r) :
    d.put p r = d := by
  unfold put update
  rw [InsertionMap.update_congr h (g := fun v => v) rfl, InsertionMap.update_id]

lemma get_put_self {d : Db} {p : Text} {r : OrderRow} (h : d.orders.get p = some r)
    (r' : OrderRow) : (d.put p r').orders.get p = some r' := by
  simp [put, update, h]

lemma get_put_of_ne {d : Db} {p q : Text} (h : q ≠ p) (r : OrderRow) :
    (d.put p r).orders.get q = d.orders.get q :=
  InsertionMap.get_update_of_ne _ h _

@[simp] lemma trail_put (d : Db) (p q : Text) (r : OrderRow) :
    (d.put p r).trail q = d.trail q := rfl

@[simp] lemma orders_append (d : Db) (e : OrderEvent) : (d.append e).orders = d.orders := rfl

lemma trail_append (d : Db) (e : OrderEvent) (p : Text) :
    (d.append e).trail p = d.trail p ++ if e.publicId = p then [e] else [] := by
  simp only [trail, append, List.filter_append]
  by_cases h : e.publicId = p <;> simp [h]

end Db

/-! ### Texts -/

/-- Lower case, for the letters of the Latin alphabet. -/
def toLowerCase (t : Text) : Text := t.map Char.toLower

/-- `needle` occurs in `t`. -/
def includes (t needle : Text) : Bool := decide (needle <:+: t)

def isHexDigit (c : Char) : Bool :=
  ('0' ≤ c && c ≤ '9') || ('a' ≤ c && c ≤ 'f') || ('A' ≤ c && c ≤ 'F')

/-- `0x` and 64 hexadecimal digits, in either case. -/
def isHashlock : Text → Bool
  | '0' :: 'x' :: digits => digits.length == 64 && digits.all isHexDigit
  | _ => false

end WaffleFinance.Coordinator

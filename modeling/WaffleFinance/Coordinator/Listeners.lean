import WaffleFinance.Coordinator.Reconciler

/-!
# The listeners

While the reconciler reads the chains from time to time, the listeners follow them.  They remember
in the process which events they have applied; apart from that an event goes the same way on both:
the order is looked up, the event is compared to what is stored, and the service is called.

The listener for Ethereum calls methods that it does not have.  It changes nothing and is not part
of the model.
-/

namespace WaffleFinance.Coordinator

open Lib

/-! ### One event -/

/-- An event as a listener treats it. -/
structure Watch where
  /-- The ways to find the order; the first that succeeds counts. -/
  lookups : List Lookup
  path : WorkflowPath
  position : ℕ
  existing : OrderRow → Option ℕ
  alreadyApplied : OrderRow → Bool
  job : Text → Job

inductive WatchOutcome where
  | applied
  | skipped
  | failed
  deriving DecidableEq

def findAny : List Lookup → Serve (Option (Text × OrderRow))
  | [] => pure none
  | lookup :: lookups => do
    match ← lookup.find with
    | some order => pure (some order)
    | none => findAny lookups

def Watch.handle (w : Watch) : Serve WatchOutcome :=
  tryCatch (do
    match ← findAny w.lookups with
    | none => pure .skipped
    | some (publicId, order) =>
      if (decideDispatch w.path (some w.position) (w.existing order)
          (w.alreadyApplied order)).shouldApply then do
        OrderService.run (w.job publicId)
        pure .applied
      else pure .skipped) fun _ => pure .failed

def createdWatch (lookups : List Lookup) (path : WorkflowPath) (position : ℕ)
    (lock : Text → SrcLockInput) : Watch where
  lookups := lookups
  path := path
  position := position
  existing order := order.srcLockBlock
  alreadyApplied order := order.srcOrderId ≠ none
  job publicId := .recordSrcLock (lock publicId)

/-- The preimage is not compared to the hashlock. -/
def claimedWatch (lookups : List Lookup) (path : WorkflowPath) (position : ℕ)
    (preimage txHash : Text) : Watch where
  lookups := lookups
  path := path
  position := position
  existing _ := none
  alreadyApplied order := order.preimage ≠ none
  job publicId := .recordSecret publicId preimage txHash none

def refundedWatch (lookups : List Lookup) (path : WorkflowPath) (position : ℕ) : Watch where
  lookups := lookups
  path := path
  position := position
  existing order := order.srcLockBlock
  alreadyApplied order := order.status = .refunded || order.status = .completed
  job publicId := .markStatus publicId .refunded

/-! ### What the process remembers -/

/-- The number of events that a listener remembers. -/
def dedupCacheMax : ℕ := 10000

/-- Remember a key, and forget the oldest one if there are too many. -/
def remember {κ : Type} [DecidableEq κ] (cache : List κ) (key : κ) : List κ :=
  if key ∈ cache then cache
  else if dedupCacheMax ≤ cache.length then cache.tail ++ [key]
  else cache ++ [key]

/-! ### Soroban -/

namespace SorobanListener

/-- Kind, transaction and discriminator of an event. -/
abbrev Key := EventType × Text × Text

def withHex (hashlock : Text) : Text := '0' :: 'x' :: hashlock

/-- A claim or a refund of an order whose source lock is not recorded is found by its hashlock. -/
def watch (ev : SorobanEvent) (path : WorkflowPath) : DecodedHtlcEvent → EventType × Watch
  | .created orderId hashlock timelock _ =>
    (.orderCreated, createdWatch [.byHashlock (withHex hashlock)] path ev.ledger fun publicId =>
      ⟨publicId, decimal orderId, ev.txHash, ev.ledger, timelock, some .sorobanListener⟩)
  | .claimed orderId hashlock preimage =>
    (.orderClaimed, claimedWatch
      [.bySrcOrderId .stellar (decimal orderId), .byHashlock (withHex hashlock)] path ev.ledger
      preimage ev.txHash)
  | .refunded orderId hashlock =>
    (.orderRefunded, refundedWatch
      [.bySrcOrderId .stellar (decimal orderId), .byHashlock (withHex hashlock)] path ev.ledger)

/-- The key of an event and what to do about it, unless it is rejected at once. -/
def decode (ev : SorobanEvent) (path : WorkflowPath) : Option (Key × Watch) :=
  if maxSafeInteger < ev.ledger then none
  else
    ev.decoded.map fun decoded =>
      (((watch ev path decoded).1, ev.txHash, ev.discriminator), (watch ev path decoded).2)

/-- The cache after the event.  Only what was applied is remembered. -/
def processSorobanEvent (cache : List Key) (ev : SorobanEvent) (path : WorkflowPath) :
    Serve (List Key) :=
  match decode ev path with
  | none => pure cache
  | some (key, w) =>
    if key ∈ cache then pure cache
    else do
      match ← w.handle with
      | .applied => pure (remember cache key)
      | _ => pure cache

end SorobanListener

/-! ### Solana -/

namespace SolanaListener

/-- What to do about a transaction; `none` if required fields are missing. -/
def watch (tx : SolanaTx) : Option Watch := do
  match ← tx.eventType with
  | .orderCreated =>
    let hashlock ← truthy (tx.payload.hashlock <|> tx.payload.hash_lock)
    let orderId ← truthy (tx.payload.orderId <|> tx.payload.order_id)
    let timelock ← tx.payload.timelock <|> tx.payload.time_lock
    pure (createdWatch [.byHashlock hashlock] .live tx.slot fun publicId =>
      ⟨publicId, orderId, tx.signature, tx.slot, timelock, some .solanaListener⟩)
  | .orderClaimed =>
    let preimage ← truthy tx.payload.preimage
    let orderId ← truthy tx.payload.orderId
    pure (claimedWatch [.bySrcOrderId .solana orderId] .live tx.slot preimage tx.signature)
  | .orderRefunded =>
    let orderId ← truthy (tx.payload.orderId <|> tx.payload.order_id)
    pure (refundedWatch [.bySrcOrderId .solana orderId] .live tx.slot)

/-- The cache after the transaction.  It is remembered unless it has failed. -/
def handleLogs (cache : List Text) (tx : SolanaTx) : Serve (List Text) :=
  if tx.signature ∈ cache then pure cache
  else
    match watch tx with
    | none => pure (remember cache tx.signature)
    | some w => do
      match ← w.handle with
      | .failed => pure cache
      | _ => pure (remember cache tx.signature)

end SolanaListener

end WaffleFinance.Coordinator

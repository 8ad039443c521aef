import WaffleFinance.Lib.Transaction
import WaffleFinance.Coordinator.Orders

/-!
# The repository of orders

Every access of the coordinator to its database goes through `OrdersRepository`.  A method that
writes reads the row first, decides what to do, changes the row and adds a row to the trail, all in
one transaction; `atomic` also tries a transaction again when the database was busy.

The methods are programs of statements (`Lib.Sql`).
-/

namespace WaffleFinance.Coordinator

open Lib

/-- The codes that the repository puts on its own errors. -/
inductive DbErrorCode where
  | notFound
  | staleStatus (currentStatus : OrderStatus)
  | invalidTransition
  deriving DecidableEq

/-- An error of the driver or of the repository. -/
structure DbError where
  message : Text
  code : Option DbErrorCode
  deriving DecidableEq

/-- The outcome of each statement of a method in turn: the error that the driver reports for it. -/
abbrev Fate := ℕ → Option DbError

/-- Nothing fails. -/
def Fate.calm : Fate := fun _ => none

abbrev DbProgram (α : Type) := Sql DbError Db α

/-- The input of the two methods that record a lock, and of the one for a secret. -/
structure SrcLockInput where
  publicId : Text
  orderId : Text
  txHash : Text
  blockNumber : ℕ
  timelock : ℕ
  actor : Option MutationActor
  deriving DecidableEq

structure DstLockInput where
  publicId : Text
  orderId : Text
  txHash : Text
  blockNumber : ℕ
  timelock : ℕ
  resolver : Option Text
  actor : Option MutationActor
  deriving DecidableEq

structure SecretInput where
  publicId : Text
  preimage : Text
  txHash : Text
  encVersion : Option ℕ
  actor : Option MutationActor
  deriving DecidableEq

/-! ### Transactions -/

/-- The errors after which a transaction is tried again. -/
def retryableErrors : List Text :=
  ["sqlite_busy".toList, "sqlite_locked".toList, "database is locked".toList, "deadlock".toList,
    "lock timeout".toList]

def shouldRetry (e : DbError) : Bool :=
  retryableErrors.any fun token => includes (toLowerCase e.message) token

def nestedTransaction : DbError :=
  ⟨"cannot start a transaction within a transaction".toList, none⟩

def maxAttempts : ℕ := 3

/-- One transaction, tried up to `maxAttempts` times. -/
def atomic {α : Type} (body : DbProgram α) : DbProgram α :=
  Sql.retry shouldRetry (Sql.transaction nestedTransaction body) (maxAttempts - 1)

/-! ### Statements -/

namespace Statement

def byPublicId (publicId : Text) : DbProgram (Option OrderRow) :=
  .statement fun d => .ok (d.orders.get publicId, d)

/-- The number of rows that an `UPDATE` with this key changes. -/
def changes (d : Db) (publicId : Text) (condition : OrderRow → Bool) : ℕ :=
  if (d.orders.get publicId).any condition then 1 else 0

/-- `UPDATE orders SET … WHERE public_id = … AND …`. -/
def updateWhere (publicId : Text) (condition : OrderRow → Bool) (f : OrderRow → OrderRow) :
    DbProgram ℕ :=
  .statement fun d =>
    .ok (changes d publicId condition,
      d.update publicId fun r => if condition r then f r else r)

def updateOrder (publicId : Text) (f : OrderRow → OrderRow) : DbProgram ℕ :=
  updateWhere publicId (fun _ => true) f

def appendTransitionEvent (e : OrderEvent) : DbProgram Unit :=
  .statement fun d => .ok ((), d.append e)

end Statement

/-! ### Methods -/

namespace OrdersRepository

open Statement

def orderNotFound (publicId : Text) : DbError :=
  ⟨"Order not found: ".toList ++ publicId, some .notFound⟩

/-- The public id that belongs to a hashlock. -/
def orderIdFromHashlock (hashlock : Text) : Except DbError Text :=
  if isHashlock hashlock then .ok ("wf_".toList ++ toLowerCase hashlock)
  else .error ⟨"hashlock must be 0x + 64 hex chars".toList, none⟩

def insertOrder (publicId : Text) (row : OrderRow) : DbProgram Unit :=
  .statement fun d =>
    if publicId ∈ d.orders.keys then
      .error ⟨"UNIQUE constraint failed: orders.public_id".toList, none⟩
    else .ok ((), { d with orders := d.orders.insert publicId row })

/-- Not a transaction: the row stays when it cannot be read back. -/
def announce (input : AnnounceOrderInput) : DbProgram (Text × OrderRow) := do
  match orderIdFromHashlock input.hashlock with
  | .error e => throw e
  | .ok publicId =>
    insertOrder publicId input.row
    match ← byPublicId publicId with
    | none => throw ⟨"Failed to insert order".toList, none⟩
    | some row => pure (publicId, row)

def findByPublicId (publicId : Text) : DbProgram (Option OrderRow) := byPublicId publicId

def findByHashlock (hashlock : Text) : DbProgram (Option (Text × OrderRow)) :=
  .statement fun d => .ok (d.orders.first fun _ r => r.hashlock = hashlock, d)

def findBySrcOrderId (chain : Chain) (orderId : Text) : DbProgram (Option (Text × OrderRow)) :=
  .statement fun d =>
    .ok (d.orders.first fun _ r => r.srcChain = chain ∧ r.srcOrderId = some orderId, d)

/-- `timelock IS NOT NULL AND timelock < now`. -/
def passed (timelock : Option ℕ) (now : ℕ) : Bool := timelock.any fun t => t < now

def expiredCandidates (now : ℕ) (d : Db) : List (Text × OrderRow) :=
  d.orders.entries.filter fun e =>
    (e.2.status = .srcLocked || e.2.status = .dstLocked) &&
      (passed e.2.srcTimelock now || passed e.2.dstTimelock now)

def findExpiredCandidates (now : ℕ) : DbProgram (List (Text × OrderRow)) :=
  .statement fun d => .ok (expiredCandidates now d, d)

/-- A row of the trail about a change of status, without the data of a chain event. -/
def plainEvent (publicId : Text) (eventType : TransitionEvent) (actor : MutationActor)
    (fromStatus toStatus : OrderStatus) (outcome : Outcome) : OrderEvent where
  publicId := publicId
  eventType := eventType
  actor := actor
  fromStatus := fromStatus
  toStatus := toStatus
  outcome := outcome
  txHash := none
  blockNumber := none
  reason := none

def staleStatus (publicId : Text) (current : OrderStatus) (expected : Option OrderStatus) :
    DbError where
  message := "Status update conflict for ".toList ++ publicId ++ ": current status \"".toList ++
    current.text ++ "\" does not match expected \"".toList ++
    expected.elim "undefined".toList OrderStatus.text ++ "\"".toList
  code := some (.staleStatus current)

def setStatusBody (publicId : Text) (status : OrderStatus) (actor : Option MutationActor)
    (expectedStatus : Option OrderStatus) : DbProgram Unit := do
  let order ← byPublicId publicId
  if expectedStatus = none ∧ order.any (fun r => r.status = status) then
    appendTransitionEvent
      (plainEvent publicId .statusNoOp (actor.getD .system) status status .noOpAlreadyAtTarget)
  else
    let changed ← updateWhere publicId (fun r => expectedStatus.all fun s => r.status = s)
      fun r => r.withStatus status
    match order with
    | none => throw (orderNotFound publicId)
    | some order =>
      if changed = 0 then throw (staleStatus publicId order.status expectedStatus)
      else
        appendTransitionEvent
          (plainEvent publicId .statusTransitioned (actor.getD .system) order.status status
            .transitioned)

/-- Set the status, if it is `expectedStatus` where one is given. -/
def setStatus (publicId : Text) (status : OrderStatus) (actor : Option MutationActor)
    (expectedStatus : Option OrderStatus) : DbProgram Unit :=
  atomic (setStatusBody publicId status actor expectedStatus)

/-- The status after a lock: the target where the machine allows it. -/
def nextLockStatus (current target : OrderStatus) : OrderStatus :=
  if canTransition current target then target else current

/-- What the two methods that record a lock have in common. -/
structure LockRecord where
  publicId : Text
  target : OrderStatus
  noOp : TransitionEvent
  transitioned : TransitionEvent
  actor : MutationActor
  txHash : Text
  blockNumber : ℕ
  /-- The columns of the leg. -/
  fill : OrderRow → OrderRow

def LockRecord.event (l : LockRecord) (fromStatus toStatus : OrderStatus)
    (eventType : TransitionEvent) (outcome : Outcome) : OrderEvent where
  publicId := l.publicId
  eventType := eventType
  actor := l.actor
  fromStatus := fromStatus
  toStatus := toStatus
  outcome := outcome
  txHash := some l.txHash
  blockNumber := some l.blockNumber
  reason := none

def recordLockBody (l : LockRecord) : DbProgram Unit := do
  match ← byPublicId l.publicId with
  | none => pure ()
  | some order =>
    if isTerminal order.status then
      appendTransitionEvent (l.event order.status order.status l.noOp .noOpTerminal)
    else
      let status := nextLockStatus order.status l.target
      let _ ← updateOrder l.publicId fun r => (l.fill r).withStatus status
      appendTransitionEvent
        (if status = order.status then l.event order.status status l.noOp .noOpAlreadyAtTarget
        else l.event order.status status l.transitioned .transitioned)

def srcLockRecord (input : SrcLockInput) : LockRecord where
  publicId := input.publicId
  target := .srcLocked
  noOp := .srcLockNoOp
  transitioned := .srcLockTransitioned
  actor := input.actor.getD .system
  txHash := input.txHash
  blockNumber := input.blockNumber
  fill r :=
    { r with
      srcOrderId := some input.orderId
      srcLockTx := some input.txHash
      srcLockBlock := some input.blockNumber
      srcTimelock := some input.timelock }

def recordSrcLock (input : SrcLockInput) : DbProgram Unit :=
  atomic (recordLockBody (srcLockRecord input))

def dstLockRecord (input : DstLockInput) : LockRecord where
  publicId := input.publicId
  target := .dstLocked
  noOp := .dstLockNoOp
  transitioned := .dstLockTransitioned
  actor := input.actor.getD .system
  txHash := input.txHash
  blockNumber := input.blockNumber
  fill r :=
    { r with
      dstOrderId := some input.orderId
      dstLockTx := some input.txHash
      dstLockBlock := some input.blockNumber
      dstTimelock := some input.timelock
      resolverAddress := input.resolver }

def recordDstLock (input : DstLockInput) : DbProgram Unit :=
  atomic (recordLockBody (dstLockRecord input))

def secretEvent (input : SecretInput) (fromStatus toStatus : OrderStatus)
    (eventType : TransitionEvent) (outcome : Outcome) : OrderEvent :=
  { plainEvent input.publicId eventType (input.actor.getD .system) fromStatus toStatus outcome with
    txHash := some input.txHash }

/-- The column only takes `NULL` and 1. -/
def encVersionAllowed (encVersion : Option ℕ) : Bool := encVersion.all fun v => v = 1

/-- The columns of the secret. -/
def fillSecret (input : SecretInput) (r : OrderRow) : OrderRow :=
  { r with
    preimage := some input.preimage
    preimageEncVersion := input.encVersion
    secretRevealedTx := some input.txHash
    status := .secretRevealed }

def updateSecret (input : SecretInput) : DbProgram Unit :=
  .statement fun d =>
    if encVersionAllowed input.encVersion then .ok ((), d.update input.publicId (fillSecret input))
    else .error ⟨"CHECK constraint failed: preimage_enc_version".toList, none⟩

def recordSecretBody (input : SecretInput) : DbProgram Unit := do
  match ← byPublicId input.publicId with
  | none => pure ()
  | some order =>
    if isTerminal order.status then
      appendTransitionEvent
        (secretEvent input order.status order.status .secretRevealedNoOp .noOpTerminal)
    else if order.preimage = some input.preimage then
      appendTransitionEvent
        (secretEvent input order.status order.status .secretRevealedNoOp .noOpIdempotent)
    else
      updateSecret input
      appendTransitionEvent
        (secretEvent input order.status .secretRevealed .secretRevealedTransitioned .transitioned)

def recordSecretRevealed (input : SecretInput) : DbProgram Unit := atomic (recordSecretBody input)

/-- What the two rollbacks have in common. -/
structure Rollback where
  publicId : Text
  locked : OrderStatus
  before : OrderStatus
  eventType : TransitionEvent
  noOp : Outcome
  actor : MutationActor
  /-- Empty the columns of the leg. -/
  clear : OrderRow → OrderRow

def rollbackBody (b : Rollback) : DbProgram Unit := do
  match ← byPublicId b.publicId with
  | none => pure ()
  | some order =>
    let changed ← updateWhere b.publicId (fun r => r.status = b.locked) fun r =>
      (b.clear r).withStatus b.before
    appendTransitionEvent
      (if changed = 0 then
        plainEvent b.publicId b.eventType b.actor order.status order.status b.noOp
      else plainEvent b.publicId b.eventType b.actor order.status b.before .transitioned)

def srcRollback (publicId : Text) (actor : Option MutationActor) : Rollback where
  publicId := publicId
  locked := .srcLocked
  before := .announced
  eventType := .srcLockRolledBack
  noOp := .noOpNotSrcLocked
  actor := actor.getD .system
  clear r :=
    { r with srcOrderId := none, srcLockTx := none, srcLockBlock := none, srcTimelock := none }

def rollbackSrcLock (publicId : Text) (actor : Option MutationActor) : DbProgram Unit :=
  atomic (rollbackBody (srcRollback publicId actor))

def dstRollback (publicId : Text) (actor : Option MutationActor) : Rollback where
  publicId := publicId
  locked := .dstLocked
  before := .srcLocked
  eventType := .dstLockRolledBack
  noOp := .noOpNotDstLocked
  actor := actor.getD .system
  clear r :=
    { r with
      dstOrderId := none, dstLockTx := none, dstLockBlock := none, dstTimelock := none
      resolverAddress := none }

def rollbackDstLock (publicId : Text) (actor : Option MutationActor) : DbProgram Unit :=
  atomic (rollbackBody (dstRollback publicId actor))

/-- What `cancelOrder` and `abandonOrder` have in common.  They differ in what they do about an
order that is unknown or too far on. -/
structure Withdrawal where
  publicId : Text
  target : OrderStatus
  noOp : TransitionEvent
  transitioned : TransitionEvent
  actor : MutationActor
  reason : Text
  unknown : Except DbError Unit
  refused : OrderRow → Except DbError Unit

def Withdrawal.event (w : Withdrawal) (fromStatus toStatus : OrderStatus)
    (eventType : TransitionEvent) (outcome : Outcome) : OrderEvent :=
  { plainEvent w.publicId eventType w.actor fromStatus toStatus outcome with
    reason := some w.reason }

def Withdrawal.mark (w : Withdrawal) (r : OrderRow) : OrderRow :=
  { r with status := w.target, cancellationReason := some w.reason }

def withdrawBody (w : Withdrawal) : DbProgram Unit := do
  match ← byPublicId w.publicId with
  | none => ExceptT.mk (pure w.unknown)
  | some order =>
    if isTerminal order.status then
      appendTransitionEvent (w.event order.status order.status w.noOp .noOpTerminal)
    else if !canTransition order.status w.target then ExceptT.mk (pure (w.refused order))
    else
      let _ ← updateOrder w.publicId w.mark
      appendTransitionEvent (w.event order.status w.target w.transitioned .transitioned)

def cancellation (publicId reason : Text) (actor : Option MutationActor) : Withdrawal where
  publicId := publicId
  target := .cancelled
  noOp := .cancelNoOp
  transitioned := .cancelTransitioned
  actor := actor.getD .system
  reason := reason
  unknown := .error (orderNotFound publicId)
  refused order := .error
    ⟨"Cannot cancel order ".toList ++ publicId ++ " in status \"".toList ++ order.status.text ++
      "\": transition to \"cancelled\" is not allowed".toList, some .invalidTransition⟩

def cancelOrder (publicId reason : Text) (actor : Option MutationActor) : DbProgram Unit :=
  atomic (withdrawBody (cancellation publicId reason actor))

/-- Nobody needs to check beforehand: what cannot be abandoned is left as it is. -/
def abandonment (publicId reason : Text) (actor : Option MutationActor) : Withdrawal where
  publicId := publicId
  target := .abandoned
  noOp := .abandonNoOp
  transitioned := .abandonTransitioned
  actor := actor.getD .system
  reason := reason
  unknown := .ok ()
  refused _ := .ok ()

def abandonOrder (publicId reason : Text) (actor : Option MutationActor) : DbProgram Unit :=
  atomic (withdrawBody (abandonment publicId reason actor))

/-! ### Processed events and cursors -/

/-- Whether the key is new; if so it is stored. -/
def claimEvent (key : EventKey) : DbProgram Bool :=
  .statement fun d =>
    if key ∈ d.processedEvents then .ok (false, d)
    else .ok (true, { d with processedEvents := d.processedEvents ++ [key] })

def getChainCursor (chain : Chain) : DbProgram ℕ :=
  .statement fun d => .ok (d.chainCursors chain, d)

/-- A cursor only goes forward. -/
def setChainCursor (chain : Chain) (position : ℕ) : DbProgram Unit :=
  .statement fun d =>
    .ok ((), { d with
      chainCursors := Function.update d.chainCursors chain (max (d.chainCursors chain) position) })

/-- The cursor of an order on a chain. -/
def orderCursor (r : OrderRow) : Chain → Option ℕ
  | .ethereum => r.lastEthBlock
  | .stellar => r.lastSorobanLedger
  | .solana => r.lastSolanaSlot

/-- Move the cursor of an order forward. -/
def advanceRow (chain : Chain) (position : ℕ) (r : OrderRow) : OrderRow :=
  match chain with
  | .ethereum => { r with lastEthBlock := some (max (r.lastEthBlock.getD 0) position) }
  | .stellar => { r with lastSorobanLedger := some (max (r.lastSorobanLedger.getD 0) position) }
  | .solana => { r with lastSolanaSlot := some (max (r.lastSolanaSlot.getD 0) position) }

def updateOrderCursor (publicId : Text) (chain : Chain) (position : ℕ) : DbProgram Unit :=
  .statement fun d => .ok ((), d.update publicId (advanceRow chain position))

/-- The same, except that a position that is not positive changes nothing.  The callers give the
position of one chain. -/
def advanceOrderLedgerCursor (publicId : Text) (chain : Chain) (position : ℕ) : DbProgram Unit :=
  if position = 0 then pure () else updateOrderCursor publicId chain position

/-- The statuses in which the cursor of an order counts. -/
def active : OrderStatus → Bool
  | .announced | .srcLocked | .dstLocked | .secretRevealed => true
  | _ => false

/-- The positive cursors of the active orders on a chain. -/
def activeCursors (d : Db) (chain : Chain) : List ℕ :=
  d.orders.entries.filterMap fun e =>
    if (e.2.srcChain = chain ∨ e.2.dstChain = chain) ∧ active e.2.status then
      (orderCursor e.2 chain).filter fun p => 0 < p
    else none

def getMinActiveOrderCursor (chain : Chain) : DbProgram (Option ℕ) :=
  .statement fun d => .ok ((activeCursors d chain).min?, d)

end OrdersRepository

end WaffleFinance.Coordinator

import WaffleFinance.Coordinator.ChainEvents

/-!
# The reconciler

The reconciler reads the events of the three chains again and applies what the listeners have
missed.  Every event goes through the same stages: it is dropped if it was seen in this run, its key
is claimed in the database, the order is looked up, the event is compared to the cursor of the order
and to what is stored, and only then the service is called.  On Solana the key is claimed last.

`Handling` has what differs from event to event, and `Handling.replay` is the common part.
-/

namespace WaffleFinance.Coordinator

open Lib OrdersRepository

/-! ### One event -/

/-- How an event names its order. -/
inductive Lookup where
  | byHashlock (hashlock : Text)
  | bySrcOrderId (chain : Chain) (orderId : Text)
  deriving DecidableEq

def Lookup.find : Lookup → Serve (Option (Text × OrderRow))
  | byHashlock hashlock => call (.findByHashlock hashlock)
  | bySrcOrderId chain orderId => call (.findBySrcOrderId chain orderId)

/-- What is to be done for an event that is applied. -/
inductive Plan where
  /-- Nothing, and the cursor stays. -/
  | drop
  /-- Only the cursor is moved. -/
  | pass
  | apply (job : Job)

/-- An event as the reconciler treats it. -/
structure Handling where
  chain : Chain
  lookup : Lookup
  /-- `none` if the number is not exact. -/
  position : Option ℕ
  /-- The position of what is stored. -/
  existing : OrderRow → Option ℕ
  alreadyApplied : OrderRow → Bool
  plan : Text → OrderRow → ℕ → Plan
  /-- The parts of messages from which an error is taken to mean that there is nothing to do. -/
  benign : List Text
  /-- The key, if it is claimed at the end. -/
  claimedLast : Option EventKey

def advanceOrderCursor (publicId : Text) (chain : Chain) (position : ℕ) : Serve Unit :=
  if position = 0 then pure () else call (.advanceOrderLedgerCursor publicId chain position)

namespace Handling

variable (h : Handling)

def claim : Serve Unit :=
  match h.claimedLast with
  | none => pure ()
  | some key => do
    let _ ← call (.claimEvent key)
    pure ()

/-- The end of an event that was not applied. -/
def finish (publicId : Text) (position : ℕ) : Serve Bool := do
  advanceOrderCursor publicId h.chain position
  h.claim
  pure false

/-- The order is there and the position is exact. -/
def dispatch (publicId : Text) (order : OrderRow) (position : ℕ) : Serve Bool :=
  if isEventBehindOrderCursor (orderCursor order h.chain) position then do
    h.claim
    pure false
  else if (decideDispatch .replay (some position) (h.existing order)
      (h.alreadyApplied order)).shouldApply then
    match h.plan publicId order position with
    | .drop => pure false
    | .pass => h.finish publicId position
    | .apply job => do
      OrderService.run job
      advanceOrderCursor publicId h.chain position
      h.claim
      pure true
  else h.finish publicId position

def attempt : Serve Bool := do
  match ← h.lookup.find with
  | none => pure false
  | some (publicId, order) =>
    match h.position with
    | none => pure false
    | some position => h.dispatch publicId order position

/-- After an error the cursor is moved if the message says that there was nothing to do. -/
def excuse (e : ServiceError) : Serve Bool :=
  if h.benign.any fun token => includes e.message token then
    match h.position with
    | none => pure false
    | some position => do
      match ← h.lookup.find with
      | none => pure false
      | some (publicId, _) => h.finish publicId position
  else pure false

/-- Whether the event was applied. -/
def replay : Serve Bool := tryCatch h.attempt h.excuse

end Handling

/-! ### The three kinds of events -/

def benignRecord : List Text := ["cannot record".toList, "terminal".toList]

def benignTransition : List Text := ["cannot transition".toList, "terminal".toList]

/-- A deposit was made: the source lock of the order with this hashlock.  `lock` has no value if
the timelock is not exact. -/
def createdHandling (chain : Chain) (hashlock : Text) (position : Option ℕ)
    (lock : Text → ℕ → Option SrcLockInput) (claimedLast : Option EventKey) : Handling where
  chain := chain
  lookup := .byHashlock hashlock
  position := position
  existing order := order.srcLockBlock
  alreadyApplied order := order.srcOrderId ≠ none
  plan publicId _ position :=
    match lock publicId position with
    | none => .drop
    | some input => .apply (.recordSrcLock input)
  benign := benignRecord
  claimedLast := claimedLast

/-- A deposit was claimed: the secret of the order with this source lock. -/
def claimedHandling (hashes : Hashes) (chain : Chain) (orderId : Text) (position : Option ℕ)
    (preimage txHash : Text) (claimedLast : Option EventKey) : Handling where
  chain := chain
  lookup := .bySrcOrderId chain orderId
  position := position
  existing _ := none
  alreadyApplied order := order.preimage ≠ none
  plan publicId order _ :=
    if validatePreimage hashes preimage order.hashlock then
      .apply (.recordSecret publicId preimage txHash none)
    else .pass
  benign := benignRecord
  claimedLast := claimedLast

/-- A deposit was taken back. -/
def refundedHandling (chain : Chain) (orderId : Text) (position : Option ℕ)
    (claimedLast : Option EventKey) : Handling where
  chain := chain
  lookup := .bySrcOrderId chain orderId
  position := position
  existing order := order.srcLockBlock
  alreadyApplied order := order.status = .refunded || order.status = .completed
  plan publicId _ _ := .apply (.markStatus publicId .refunded)
  benign := benignTransition
  claimedLast := claimedLast

/-- An event with its keys. -/
structure Entry where
  key : EventKey
  semKey : SemanticKey
  handling : Handling

namespace EthCreated

variable (log : EthCreated)

def handling (hashlock : Text) (orderId : ℕ) : Handling :=
  createdHandling .ethereum hashlock log.place.block
    (fun publicId position => (safeToNumber log.timelock).map fun timelock =>
      ⟨publicId, decimal orderId, log.place.txHash, position, timelock, some .reconciler⟩)
    none

/-- A log without a hashlock or an id is skipped. -/
def entry : Option Entry := do
  let hashlock ← truthy log.hashlock
  let orderId ← log.orderId
  pure ⟨log.place.key .orderCreated, semanticKey .ethereum .orderCreated hashlock,
    log.handling hashlock orderId⟩

end EthCreated

namespace EthClaimed

variable (hashes : Hashes) (log : EthClaimed)

def handling (orderId : ℕ) (preimage : Text) : Handling :=
  claimedHandling hashes .ethereum (decimal orderId) log.place.block preimage log.place.txHash none

/-- The id 0 counts as missing here. -/
def entry : Option Entry := do
  let orderId ← nonzero log.orderId
  let preimage ← truthy log.preimage
  pure ⟨log.place.key .orderClaimed, semanticKey .ethereum .orderClaimed (decimal orderId),
    log.handling hashes orderId preimage⟩

end EthClaimed

namespace EthRefunded

variable (log : EthRefunded)

def handling (orderId : ℕ) : Handling :=
  refundedHandling .ethereum (decimal orderId) log.place.block none

def entry : Option Entry := do
  let orderId ← nonzero log.orderId
  pure ⟨log.place.key .orderRefunded, semanticKey .ethereum .orderRefunded (decimal orderId),
    log.handling orderId⟩

end EthRefunded

namespace SorobanEvent

variable (hashes : Hashes) (ev : SorobanEvent)

/-- The hashlock is looked up as the decoder gives it, without `0x`. -/
def createdHandling (orderId : ℕ) (hashlock : Text) (timelock : ℕ) : Handling :=
  Coordinator.createdHandling .stellar hashlock (some ev.ledger)
    (fun publicId position =>
      some ⟨publicId, decimal orderId, ev.txHash, position, timelock, some .reconciler⟩)
    none

def key (eventType : EventType) (eventIndex : ℕ) : EventKey :=
  sorobanEventKey eventType ev.txHash ev.ledger eventIndex

/-- `eventIndex` counts the events of the run. -/
def entry (eventIndex : ℕ) : Option Entry := do
  match ← ev.decoded with
  | .created orderId hashlock timelock _ =>
    pure ⟨ev.key .orderCreated eventIndex, semanticKey .stellar .orderCreated hashlock,
      ev.createdHandling orderId hashlock timelock⟩
  | .claimed orderId _ preimage =>
    pure ⟨ev.key .orderClaimed eventIndex, semanticKey .stellar .orderClaimed (decimal orderId),
      claimedHandling hashes .stellar (decimal orderId) (some ev.ledger) preimage ev.txHash none⟩
  | .refunded orderId _ =>
    pure ⟨ev.key .orderRefunded eventIndex, semanticKey .stellar .orderRefunded (decimal orderId),
      refundedHandling .stellar (decimal orderId) (some ev.ledger) none⟩

end SorobanEvent

namespace SolanaTx

variable (hashes : Hashes) (tx : SolanaTx)

def key (eventType : EventType) : EventKey := solanaEventKey eventType tx.signature

def createdHandling (hashlock orderId : Text) : Handling :=
  Coordinator.createdHandling .solana hashlock (some tx.slot)
    (fun publicId position =>
      some ⟨publicId, orderId, tx.signature, position, tx.payload.timelock.getD 0,
        some .reconciler⟩)
    (some (tx.key .orderCreated))

def entry : Option Entry := do
  match ← tx.eventType with
  | .orderCreated =>
    let hashlock ← truthy tx.payload.hashlock
    let orderId ← truthy tx.payload.orderId
    pure ⟨tx.key .orderCreated, semanticKey .solana .orderCreated hashlock,
      tx.createdHandling hashlock orderId⟩
  | .orderClaimed =>
    let preimage ← truthy tx.payload.preimage
    let orderId ← truthy tx.payload.orderId
    pure ⟨tx.key .orderClaimed, semanticKey .solana .orderClaimed orderId,
      claimedHandling hashes .solana orderId (some tx.slot) preimage tx.signature
        (some (tx.key .orderClaimed))⟩
  | .orderRefunded =>
    let orderId ← truthy tx.payload.orderId
    pure ⟨tx.key .orderRefunded, semanticKey .solana .orderRefunded orderId,
      refundedHandling .solana orderId (some tx.slot) (some (tx.key .orderRefunded))⟩

end SolanaTx

/-! ### Loops -/

namespace Reconciler

/-- An event of Ethereum or Soroban that this run has not seen. -/
def replayEntry (e : Entry) : Serve Bool := do
  if ← call (.claimEvent e.key) then e.handling.replay else pure false

/-- The events of a pass one after the other, with what the run has seen. -/
def replayEach : List Entry → EventSeenSet → ℕ → Serve (ℕ × EventSeenSet)
  | [], seen, n => pure (n, seen)
  | e :: rest, seen, n =>
    match seen.checkAndMark e.key e.semKey with
    | (some _, seen) => replayEach rest seen n
    | (none, seen) => do
      let applied ← replayEntry e
      replayEach rest seen (if applied then n + 1 else n)

def replayEthCreated (logs : List EthCreated) : EventSeenSet → ℕ → Serve (ℕ × EventSeenSet) :=
  replayEach (logs.filterMap EthCreated.entry)

def replayEthClaimed (hashes : Hashes) (logs : List EthClaimed) :
    EventSeenSet → ℕ → Serve (ℕ × EventSeenSet) :=
  replayEach (logs.filterMap (EthClaimed.entry hashes))

def replayEthRefunded (logs : List EthRefunded) : EventSeenSet → ℕ → Serve (ℕ × EventSeenSet) :=
  replayEach (logs.filterMap EthRefunded.entry)

/-- The lower of the cursor of the chain and those of the active orders. -/
def startCursor (chainCursor : ℕ) (minOrderCursor : Option ℕ) : ℕ :=
  match minOrderCursor with
  | none => chainCursor
  | some minCursor =>
    if minCursor = 0 then chainCursor
    else if chainCursor = 0 then minCursor
    else min chainCursor minCursor

/-- `computeEthFromBlock` and `computeSolanaFromSlot`. -/
def computeFrom (chain : Chain) (tip lookback : ℕ) : Serve ℕ := do
  let chainCursor ← call (.getChainCursor chain)
  let minOrderCursor ← call (.getMinActiveOrderCursor chain)
  pure (computeIncrementalScanStart (startCursor chainCursor minOrderCursor) tip lookback)

/-- What the Ethereum node answers: its latest block, and the logs in a range of blocks. -/
structure EthNode where
  latest : ℕ
  created : (fromBlock toBlock : ℕ) → List EthCreated
  claimed : (fromBlock toBlock : ℕ) → List EthClaimed
  refunded : (fromBlock toBlock : ℕ) → List EthRefunded

/-- The three passes over the logs. -/
def replayEth (hashes : Hashes) (created : List EthCreated) (claimed : List EthClaimed)
    (refunded : List EthRefunded) : Serve ℕ := do
  let (n, seen) ← replayEthCreated created .empty 0
  let (n, seen) ← replayEthClaimed hashes claimed seen n
  let (n, _) ← replayEthRefunded refunded seen n
  pure n

/-- The keys of another chain are different, so that each chain starts with an empty set. -/
def reconcileEthereum (hashes : Hashes) (node : EthNode) : Serve ℕ := do
  call .rpc
  let fromBlock ← computeFrom .ethereum node.latest ethLookbackBlocks
  call .rpc
  call .rpc
  call .rpc
  let n ← replayEth hashes (node.created fromBlock node.latest)
    (node.claimed fromBlock node.latest) (node.refunded fromBlock node.latest)
  call (.setChainCursor .ethereum node.latest)
  pure n

/-- The size of a page of events. -/
def pageLimit : ℕ := 200

/-- The events of a page; all of them are counted, also those that are skipped. -/
def pageEntries (hashes : Hashes) (page : List SorobanEvent) (eventIndex : ℕ) : List Entry :=
  (page.zipIdx eventIndex).filterMap fun p => p.1.entry hashes p.2

/-- Page by page, until one is not full or there is none left. -/
def replaySorobanPages (hashes : Hashes) : List (List SorobanEvent) → (eventIndex : ℕ) →
    EventSeenSet → ℕ → Serve ℕ
  | [], _, _, n => pure n
  | page :: rest, eventIndex, seen, n => do
    call .rpc
    let (n, seen) ← replayEach (pageEntries hashes page eventIndex) seen n
    if page.length < pageLimit then pure n
    else replaySorobanPages hashes rest (eventIndex + page.length) seen n

/-- What the Soroban node answers: its latest ledger, and the pages of events from a ledger on. -/
structure SorobanNode where
  latest : ℕ
  pages : (fromLedger : ℕ) → List (List SorobanEvent)

/-- `hwm` is the cursor that the process holds.  The result is the new one. -/
def reconcileSoroban (hashes : Hashes) (hwm : ℕ) (node : SorobanNode) : Serve ℕ := do
  call .rpc
  let fromLedger := computeIncrementalScanStart hwm node.latest sorobanLookbackLedgers
  if node.latest - fromLedger = 0 then pure hwm
  else do
    let _ ← replaySorobanPages hashes (node.pages fromLedger) 0 .empty 0
    call (.setChainCursor .stellar node.latest)
    pure (max hwm node.latest)

/-- The transactions of Solana one after the other.  What goes wrong with one of them does not
stop the others. -/
def replaySolana (hashes : Hashes) (fromSlot toSlot : ℕ) :
    List SolanaTx → EventSeenSet → Serve Unit
  | [], _ => pure ()
  | tx :: rest, seen =>
    if tx.failed ∨ tx.slot < fromSlot ∨ toSlot < tx.slot then
      replaySolana hashes fromSlot toSlot rest seen
    else do
      let fetched ← tryCatch (do
        call .rpc
        pure true) fun _ => pure false
      match fetched, tx.entry hashes with
      | true, some e =>
        match seen.checkAndMark e.key e.semKey with
        | (some _, seen) => replaySolana hashes fromSlot toSlot rest seen
        | (none, seen) => do
          let _ ← tryCatch e.handling.replay fun _ => pure false
          replaySolana hashes fromSlot toSlot rest seen
      | _, _ => replaySolana hashes fromSlot toSlot rest seen

/-- What the Solana node answers: its slot when asked first and when asked again, and the
transactions of the program. -/
structure SolanaNode where
  tip : ℕ
  slot : ℕ
  transactions : (minContextSlot : ℕ) → List SolanaTx

def reconcileSolana (hashes : Hashes) (hwm : ℕ) (node : SolanaNode) : Serve ℕ := do
  call .rpc
  let fromSlot := computeIncrementalScanStart hwm node.tip solanaLookbackSlots
  if node.tip - fromSlot = 0 then pure hwm
  else do
    call .rpc
    let _ ← computeFrom .solana node.slot solanaLookbackSlots
    call .rpc
    replaySolana hashes fromSlot node.tip (node.transactions fromSlot) .empty
    call (.setChainCursor .solana node.slot)
    pure (max hwm node.tip)

/-- The cursors that the process holds. -/
structure Cursors where
  soroban : ℕ
  solana : ℕ

def initCursors : Serve Cursors := do
  let _ ← call (.getChainCursor .ethereum)
  let soroban ← call (.getChainCursor .stellar)
  let solana ← call (.getChainCursor .solana)
  pure ⟨soroban, solana⟩

structure Nodes where
  ethereum : EthNode
  soroban : SorobanNode
  solana : SolanaNode

/-- One run over all chains.  A chain that fails is left for the next run. -/
def run (hashes : Hashes) (nodes : Nodes) (cursors : Option Cursors) : Serve Cursors := do
  let cursors ← match cursors with
    | some cursors => pure cursors
    | none => initCursors
  let _ ← tryCatch (reconcileEthereum hashes nodes.ethereum) fun _ => pure 0
  let soroban ← tryCatch (reconcileSoroban hashes cursors.soroban nodes.soroban)
    fun _ => pure cursors.soroban
  let solana ← tryCatch (reconcileSolana hashes cursors.solana nodes.solana)
    fun _ => pure cursors.solana
  pure ⟨soroban, solana⟩

end Reconciler

end WaffleFinance.Coordinator

import WaffleFinance.Coordinator.OrderService

/-!
# Events of the chains

What the nodes of the three chains report about the HTLC contracts, and the rules by which the
coordinator drops a report before it touches an order: the keys of an event and the set of the keys
seen in a run, the cursor of an order, and the priority of the paths on which an event comes in.

The decoders are not part of the model.  An event is given as they leave it, together with the
deposit that it is about, which nobody reads.
-/

namespace WaffleFinance.Coordinator

open Lib

/-! ### Numbers and texts -/

/-- The largest integer up to which JavaScript numbers are exact. -/
def maxSafeInteger : ℕ := 2 ^ 53 - 1

/-- A number that is missing or not exact is dropped. -/
def safeToNumber (value : Option ℕ) : Option ℕ := value.filter fun n => n ≤ maxSafeInteger

def decimal (n : ℕ) : Text := Nat.toDigits 10 n

/-- A text that JavaScript takes for true, and a number of that kind. -/
def truthy (t : Option Text) : Option Text := t.filter fun t => t ≠ []

def nonzero (n : Option ℕ) : Option ℕ := n.filter fun n => n ≠ 0

/-! ### Preimages -/

def hexValue (c : Char) : Option ℕ :=
  if '0' ≤ c ∧ c ≤ '9' then some (c.toNat - '0'.toNat)
  else if 'a' ≤ c ∧ c ≤ 'f' then some (c.toNat - 'a'.toNat + 10)
  else if 'A' ≤ c ∧ c ≤ 'F' then some (c.toNat - 'A'.toNat + 10)
  else none

/-- The bytes that hexadecimal digits stand for, up to the first pair that is not one. -/
def bytesFromHex : Text → List UInt8
  | a :: b :: rest =>
    match hexValue a, hexValue b with
    | some high, some low => UInt8.ofNat (16 * high + low) :: bytesFromHex rest
    | _, _ => []
  | _ => []

def bufferFromHex : Text → List UInt8
  | '0' :: 'x' :: digits => bytesFromHex digits
  | digits => bytesFromHex digits

/-- The two hash functions; a digest is written as `0x` and hexadecimal digits. -/
structure Hashes where
  sha256 : List UInt8 → Text
  keccak256 : List UInt8 → Text

/-- The preimage hashes to the hashlock, by one of the two functions. -/
def validatePreimage (hashes : Hashes) (preimage hashlock : Text) : Bool :=
  hashes.sha256 (bufferFromHex preimage) = hashlock ||
    hashes.keccak256 (bufferFromHex preimage) = hashlock

/-! ### Priorities -/

/-- The path on which an event comes in. -/
inductive WorkflowPath where
  | live
  | replay
  | recovery
  deriving DecidableEq

def WorkflowPath.priority : WorkflowPath → ℕ
  | live => 0
  | replay => 1
  | recovery => 2

inductive DispatchReason where
  | applied
  | alreadyApplied
  | staleSequence
  | lowerPriority
  deriving DecidableEq

def DispatchReason.shouldApply (reason : DispatchReason) : Bool := reason = .applied

/-- Both positions are known and the event is the older one. -/
def isOlder : (incoming existing : Option ℕ) → Bool
  | some incoming, some existing => incoming < existing
  | _, _ => false

/-- What was applied is skipped, and so is an older event; among equals the live path goes first. -/
def decideDispatch (path : WorkflowPath) (incoming existing : Option ℕ) (alreadyApplied : Bool) :
    DispatchReason :=
  if alreadyApplied then .alreadyApplied
  else if isOlder incoming existing then .staleSequence
  else if existing = incoming ∧ WorkflowPath.live.priority < path.priority then .lowerPriority
  else .applied

lemma decideDispatch_alreadyApplied (path : WorkflowPath) (incoming existing : Option ℕ) :
    (decideDispatch path incoming existing true).shouldApply = false := by
  simp [decideDispatch, DispatchReason.shouldApply]

/-! ### Cursors -/

def ethLookbackBlocks : ℕ := 14400

def sorobanLookbackLedgers : ℕ := 34560

def solanaLookbackSlots : ℕ := 432000

/-- The cursor of the order has already passed the position of the event. -/
def isEventBehindOrderCursor (cursor : Option ℕ) (position : ℕ) : Bool :=
  cursor.any fun c => 0 < c && 0 < position && position ≤ c

/-- The position from which a chain is scanned. -/
def computeIncrementalScanStart (chainCursor tip lookback : ℕ) : ℕ :=
  if 0 < chainCursor ∧ tip - chainCursor ≤ lookback then chainCursor else tip - lookback

/-! ### Identity -/

/-- Events that are about the same thing. -/
structure SemanticKey where
  chain : Chain
  eventType : EventType
  identifier : Text
  deriving DecidableEq

def ethEventKey (eventType : EventType) (txHash : Text) (logIndex : ℕ) : EventKey :=
  .eth eventType (toLowerCase txHash) logIndex

def sorobanEventKey (eventType : EventType) (txHash : Text) (ledger eventIndex : ℕ) : EventKey :=
  .soroban eventType ledger txHash eventIndex

def solanaEventKey (eventType : EventType) (signature : Text) : EventKey :=
  .solana eventType signature

def semanticKey (chain : Chain) (eventType : EventType) (identifier : Text) : SemanticKey :=
  ⟨chain, eventType, toLowerCase identifier⟩

inductive ConflictKind where
  | duplicate
  | reordered
  deriving DecidableEq

/-- The keys that were seen in a run. -/
structure EventSeenSet where
  dedupKeys : List EventKey
  semanticKeys : List SemanticKey

namespace EventSeenSet

def empty : EventSeenSet := ⟨[], []⟩

/-- Whether an event has been seen; it has been afterwards. -/
def checkAndMark (seen : EventSeenSet) (key : EventKey) (semKey : SemanticKey) :
    Option ConflictKind × EventSeenSet :=
  if key ∈ seen.dedupKeys then (some .duplicate, seen)
  else if semKey ∈ seen.semanticKeys then
    (some .reordered, { seen with dedupKeys := key :: seen.dedupKeys })
  else (none, ⟨key :: seen.dedupKeys, semKey :: seen.semanticKeys⟩)

end EventSeenSet

/-! ### Reports -/

/-- What was deposited and by whom. -/
structure Deposit where
  sender : Text
  asset : Text
  amount : Text
  deriving DecidableEq

/-- What the client has announced about the deposit. -/
def OrderRow.deposit (r : OrderRow) : Deposit := ⟨r.srcAddress, r.srcAsset, r.srcAmount⟩

/-- Where a log of Ethereum stands, as far as the node tells. -/
structure EthPlace where
  blockNumber : Option ℕ
  transactionHash : Option Text
  logIndex : Option ℕ

namespace EthPlace

variable (place : EthPlace)

def block : Option ℕ := safeToNumber (some (place.blockNumber.getD 0))

def txHash : Text := place.transactionHash.getD "0x".toList

def index : ℕ := place.logIndex.getD 0

def key (eventType : EventType) : EventKey := ethEventKey eventType place.txHash place.index

end EthPlace

structure EthCreated where
  place : EthPlace
  orderId : Option ℕ
  hashlock : Option Text
  timelock : Option ℕ
  deposit : Deposit

structure EthClaimed where
  place : EthPlace
  orderId : Option ℕ
  preimage : Option Text

structure EthRefunded where
  place : EthPlace
  orderId : Option ℕ

/-- An event of the Soroban contract.  Hashlock and preimage are hexadecimal digits without `0x`. -/
inductive DecodedHtlcEvent where
  | created (orderId : ℕ) (hashlock : Text) (timelock : ℕ) (deposit : Deposit)
  | claimed (orderId : ℕ) (hashlock preimage : Text)
  | refunded (orderId : ℕ) (hashlock : Text)

/-- What the Soroban node reports; `none` for an event that is malformed or of another kind. -/
structure SorobanEvent where
  ledger : ℕ
  txHash : Text
  /-- Tells the events of a transaction apart. -/
  discriminator : Text
  decoded : Option DecodedHtlcEvent

/-- The fields that occur in the log lines of a Solana transaction. -/
structure SolanaPayload where
  hashlock : Option Text
  hash_lock : Option Text
  orderId : Option Text
  order_id : Option Text
  timelock : Option ℕ
  time_lock : Option ℕ
  preimage : Option Text

structure SolanaTx where
  signature : Text
  slot : ℕ
  /-- The transaction has failed on the chain. -/
  failed : Bool
  eventType : Option EventType
  payload : SolanaPayload
  deposit : Deposit

end WaffleFinance.Coordinator

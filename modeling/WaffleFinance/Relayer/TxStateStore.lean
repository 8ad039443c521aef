import WaffleFinance.Lib.Machine
import WaffleFinance.Relayer.Files

/-!
# The store of transaction states

`TxStateStore` has a record for each order that the relayer settles: how far its transaction has
come, and by which transitions.  The record is written to disk at every change.

`reconcile` goes through the records that are not at an end.  It holds on to the records themselves,
which are never taken out of the map, so the order is enough to find them again.  It waits after
each record, and for the receipt of a transaction; in between everything else may happen to the
record.  A wait after the list was made and before the first record is not in the code, and only
adds to what may happen.
-/

namespace WaffleFinance.Relayer

open Lib

inductive TxState where
  | pendingSubmission
  | submissionAcked
  | chainMined
  | coordinatorRecorded
  | complete
  | terminalFailure
  deriving DecidableEq

namespace TxState

def name : TxState → Text
  | pendingSubmission => "pending_submission".toList
  | submissionAcked => "submission_acked".toList
  | chainMined => "chain_mined".toList
  | coordinatorRecorded => "coordinator_recorded".toList
  | complete => "complete".toList
  | terminalFailure => "terminal_failure".toList

/-- `ALLOWED_TRANSITIONS`. -/
def allowedTransitions : TxState → List TxState
  | pendingSubmission => [submissionAcked, terminalFailure]
  | submissionAcked => [chainMined, terminalFailure]
  | chainMined => [coordinatorRecorded, terminalFailure]
  | coordinatorRecorded => [complete, terminalFailure]
  | complete => []
  | terminalFailure => []

def isTransitionAllowed (a b : TxState) : Bool := b ∈ a.allowedTransitions

def isTerminalState (a : TxState) : Bool := a = complete || a = terminalFailure

end TxState

structure TxTransition where
  fromState : TxState
  toState : TxState
  time : ℕ
  note : Text
  deriving DecidableEq

structure TxStateRecord where
  orderId : Text
  correlationId : Text
  route : Text
  state : TxState
  txHash : Option Text
  minedBlock : Option ℤ
  minedAt : Option ℕ
  confirmations : Option ℕ
  coordinatorRef : Option Text
  createdAt : ℕ
  updatedAt : ℕ
  transitions : List TxTransition
  failureReason : Option Text
  recoveryAttempts : ℕ
  deriving DecidableEq

/-- The fields that come with a transition. -/
structure TxPatch where
  txHash : Option Text
  minedBlock : Option ℤ
  minedAt : Option ℕ
  confirmations : Option ℕ
  coordinatorRef : Option Text
  failureReason : Option Text

def TxPatch.empty : TxPatch := ⟨none, none, none, none, none, none⟩

structure TxReceipt where
  hash : Text
  blockNumber : ℤ
  status : ℕ
  confirmations : Option ℕ
  deriving DecidableEq

inductive TxStateCode where
  | alreadyExists
  | invalidTransition
  | notFound
  deriving DecidableEq

structure TxStateError where
  message : Text
  code : TxStateCode
  deriving DecidableEq

/-- A block number that may be read from disk. -/
def isValidBlockNumber (block : Option ℤ) : Bool := block.all fun b => 0 ≤ b

/-- The transition is noted, and the fields are those of the patch where it has them. -/
def TxStateRecord.advance (r : TxStateRecord) (now : ℕ) (target : TxState) (patch : TxPatch)
    (note : Text) : TxStateRecord :=
  { r with
    state := target
    updatedAt := now
    transitions := r.transitions ++ [⟨r.state, target, now, note⟩]
    txHash := patch.txHash.or r.txHash
    minedBlock := patch.minedBlock.or r.minedBlock
    minedAt := patch.minedAt.or r.minedAt
    confirmations := patch.confirmations.or r.confirmations
    coordinatorRef := patch.coordinatorRef.or r.coordinatorRef
    failureReason := patch.failureReason.or r.failureReason }

structure TxStateStore where
  records : InsertionMap Text TxStateRecord
  files : Directory Text Text TxStateRecord
  pendingTimeoutMs : ℕ
  maxRecovery : ℕ

/-- What an operation returns or throws, and the store afterwards. -/
abbrev TxResult (α : Type) := Except TxStateError α × TxStateStore

namespace TxStateStore

variable (s : TxStateStore)

def get (orderId : Text) : Option TxStateRecord := s.records.get orderId

/-- The record in memory and on disk. -/
def put (r : TxStateRecord) : TxStateStore :=
  { s with
    records := s.records.insert r.orderId r
    files := s.files.write txFile r.orderId r }

/-! ### Operations -/

def newRecord (now : ℕ) (orderId correlationId route : Text) : TxStateRecord where
  orderId := orderId
  correlationId := correlationId
  route := route
  state := .pendingSubmission
  txHash := none
  minedBlock := none
  minedAt := none
  confirmations := none
  coordinatorRef := none
  createdAt := now
  updatedAt := now
  transitions := []
  failureReason := none
  recoveryAttempts := 0

def create (now : ℕ) (orderId correlationId route : Text) : TxResult TxStateRecord :=
  match s.get orderId with
  | some _ =>
    (.error ⟨"[tx-state] Record already exists for orderId=".toList ++ orderId, .alreadyExists⟩, s)
  | none =>
    let r := newRecord now orderId correlationId route
    (.ok r, s.put r)

def notFound (orderId : Text) : TxStateError :=
  ⟨"[tx-state] No record found for orderId=".toList ++ orderId, .notFound⟩

def transition (now : ℕ) (orderId : Text) (target : TxState) (patch : TxPatch) (note : Text) :
    TxResult TxStateRecord :=
  match s.get orderId with
  | none => (.error (notFound orderId), s)
  | some r =>
    if r.state.isTransitionAllowed target then
      (.ok (r.advance now target patch note), s.put (r.advance now target patch note))
    else
      (.error ⟨"[tx-state] Invalid transition ".toList ++ r.state.name ++ " → ".toList ++
        target.name ++ " for orderId=".toList ++ orderId, .invalidTransition⟩, s)

def ackSubmission (now : ℕ) (orderId txHash : Text) : TxResult TxStateRecord :=
  s.transition now orderId .submissionAcked { TxPatch.empty with txHash := txHash }
    "tx broadcast".toList

def receiptPatch (now : ℕ) (receipt : TxReceipt) : TxPatch :=
  { TxPatch.empty with
    txHash := receipt.hash
    minedBlock := receipt.blockNumber
    minedAt := now
    confirmations := some (receipt.confirmations.getD 0) }

/-- The record, and whether the receipt is new. -/
def recordReceipt (now : ℕ) (orderId : Text) (receipt : TxReceipt) :
    TxResult (TxStateRecord × Bool) :=
  match s.get orderId with
  | none => (.error (notFound orderId), s)
  | some r =>
    if r.state.isTransitionAllowed .chainMined then
      let result := s.transition now orderId .chainMined (receiptPatch now receipt)
        ("mined in block ".toList ++ decimalInt receipt.blockNumber)
      (result.1.map fun r => (r, true), result.2)
    else if r.txHash = some receipt.hash ∧ r.state ≠ .pendingSubmission then (.ok (r, false), s)
    else
      (.error ⟨"[tx-state] Cannot record receipt for orderId=".toList ++ orderId ++
        " in state=".toList ++ r.state.name, .invalidTransition⟩, s)

def recordCoordinatorAck (now : ℕ) (orderId coordinatorRef : Text) : TxResult TxStateRecord :=
  s.transition now orderId .coordinatorRecorded
    { TxPatch.empty with coordinatorRef := coordinatorRef }
    ("coordinator ref: ".toList ++ coordinatorRef)

def markComplete (now : ℕ) (orderId : Text) : TxResult TxStateRecord :=
  s.transition now orderId .complete TxPatch.empty "relay complete".toList

def markFailed (now : ℕ) (orderId reason : Text) : TxResult TxStateRecord :=
  s.transition now orderId .terminalFailure { TxPatch.empty with failureReason := reason } reason

end TxStateStore

/-! ### Reconciliation -/

inductive ReconcileOutcome where
  | advanced
  | failed
  | skipped
  deriving DecidableEq

/-- How far the work on a record has come. -/
inductive RecordProgress where
  | done (outcome : ReconcileOutcome)
  /-- The receipt is asked for. -/
  | waiting
  deriving DecidableEq

/-- An error in the work on a record is caught. -/
def ReconcileOutcome.unlessThrown {α : Type} (outcome : ReconcileOutcome) (result : TxResult α) :
    ReconcileOutcome × TxStateStore :=
  match result.1 with
  | .ok _ => (outcome, result.2)
  | .error _ => (skipped, result.2)

namespace TxStateStore

variable (s : TxStateStore)

/-- The work on a record after it was counted, up to the end or to the request for the receipt. -/
def reconcileState (now : ℕ) (r : TxStateRecord) (provider : Bool) :
    RecordProgress × TxStateStore :=
  match r.state with
  | .pendingSubmission =>
    if r.createdAt + s.pendingTimeoutMs < now then
      let result := ReconcileOutcome.failed.unlessThrown (s.markFailed now r.orderId
        ("pending_submission timeout after ".toList ++ roundedSeconds ((now : ℤ) - r.createdAt) ++
          "s".toList))
      (.done result.1, result.2)
    else (.done .skipped, s)
  | .submissionAcked =>
    if (given r.txHash).isSome && provider then (.waiting, s) else (.done .skipped, s)
  | .chainMined => (.done .skipped, s)
  | .coordinatorRecorded =>
    let result := ReconcileOutcome.advanced.unlessThrown (s.markComplete now r.orderId)
    (.done result.1, result.2)
  | .complete | .terminalFailure => (.done .skipped, s)

/-- `_reconcileRecord`, up to its end or to the request for the receipt. -/
def reconcileRecord (now : ℕ) (orderId : Text) (provider : Bool) :
    RecordProgress × TxStateStore :=
  match s.get orderId with
  | none => (.done .skipped, s)
  | some r =>
    if s.maxRecovery ≤ r.recoveryAttempts then
      let result := ReconcileOutcome.failed.unlessThrown (s.markFailed now r.orderId
        ("max recovery attempts (".toList ++ decimal s.maxRecovery ++ ") exceeded".toList))
      (.done result.1, result.2)
    else
      let r := { r with recoveryAttempts := r.recoveryAttempts + 1 }
      (s.put r).reconcileState now r provider

/-- The rest, when the provider has answered or failed. -/
def reconcileReceipt (now : ℕ) (orderId : Text) (answer : Option (Option TxReceipt)) :
    ReconcileOutcome × TxStateStore :=
  match answer with
  | none | some none => (.skipped, s)
  | some (some receipt) =>
    if receipt.status = 0 then
      ReconcileOutcome.failed.unlessThrown (s.markFailed now orderId
        ("tx reverted on-chain: ".toList ++
          ((s.get orderId).bind TxStateRecord.txHash).getD "undefined".toList))
    else ReconcileOutcome.advanced.unlessThrown (s.recordReceipt now orderId receipt)

end TxStateStore

/-- A run of `reconcile`: its summary so far, the records that it still has to look at, and the one
for whose receipt it waits. -/
structure Sweep where
  provider : Bool
  scanned : ℕ
  advanced : ℕ
  failed : ℕ
  skipped : ℕ
  remaining : List Text
  waiting : Option Text
  deriving DecidableEq

namespace Sweep

def count (w : Sweep) : ReconcileOutcome → Sweep
  | .advanced => { w with advanced := w.advanced + 1 }
  | .failed => { w with failed := w.failed + 1 }
  | .skipped => { w with skipped := w.skipped + 1 }

/-- The run has returned its summary. -/
def IsOver (w : Sweep) : Prop := w.remaining = [] ∧ w.waiting = none

end Sweep

/-! ### Everything that may happen -/

inductive TxStep where
  | create (orderId correlationId route : Text)
  | ackSubmission (orderId txHash : Text)
  | recordReceipt (orderId : Text) (receipt : TxReceipt)
  | recordCoordinatorAck (orderId coordinatorRef : Text)
  | markComplete (orderId : Text)
  | markFailed (orderId reason : Text)
  /-- A run begins, with a provider or without. -/
  | reconcile (provider : Bool)
  /-- A run goes on to its next record. -/
  | next (sweep : ℕ)
  /-- The provider answers a run, or fails. -/
  | answer (sweep : ℕ) (receipt : Option (Option TxReceipt))
  deriving DecidableEq

structure TxRelay where
  store : TxStateStore
  sweeps : List Sweep

namespace TxRelay

variable (x : TxRelay)

/-- The list of a new run. -/
def nonTerminal : List Text :=
  (x.store.records.entries.filter fun e => !e.2.state.isTerminalState).map Prod.fst

def newSweep (provider : Bool) : Sweep where
  provider := provider
  scanned := x.nonTerminal.length
  advanced := 0
  failed := 0
  skipped := 0
  remaining := x.nonTerminal
  waiting := none

/-- A run that does not wait takes its next record. -/
def next (now i : ℕ) : TxRelay :=
  match x.sweeps[i]? with
  | none => x
  | some w =>
    match w.remaining, w.waiting with
    | orderId :: rest, none =>
      let result := x.store.reconcileRecord now orderId w.provider
      match result.1 with
      | .done outcome =>
        ⟨result.2, x.sweeps.set i ({ w with remaining := rest }.count outcome)⟩
      | .waiting =>
        ⟨result.2, x.sweeps.set i { w with remaining := rest, waiting := some orderId }⟩
    | _, _ => x

def answer (now i : ℕ) (receipt : Option (Option TxReceipt)) : TxRelay :=
  match x.sweeps[i]? with
  | none => x
  | some w =>
    match w.waiting with
    | none => x
    | some orderId =>
      let result := x.store.reconcileReceipt now orderId receipt
      ⟨result.2, x.sweeps.set i ({ w with waiting := none }.count result.1)⟩

def step (now : ℕ) : TxStep → TxRelay
  | .create orderId correlationId route =>
    { x with store := (x.store.create now orderId correlationId route).2 }
  | .ackSubmission orderId txHash =>
    { x with store := (x.store.ackSubmission now orderId txHash).2 }
  | .recordReceipt orderId receipt =>
    { x with store := (x.store.recordReceipt now orderId receipt).2 }
  | .recordCoordinatorAck orderId coordinatorRef =>
    { x with store := (x.store.recordCoordinatorAck now orderId coordinatorRef).2 }
  | .markComplete orderId => { x with store := (x.store.markComplete now orderId).2 }
  | .markFailed orderId reason => { x with store := (x.store.markFailed now orderId reason).2 }
  | .reconcile provider => { x with sweeps := x.sweeps ++ [x.newSweep provider] }
  | .next i => x.next now i
  | .answer i receipt => x.answer now i receipt

/-- A new store, with its two settings. -/
def initial (pendingTimeoutMs maxRecovery : ℕ) : TxRelay :=
  ⟨⟨.empty, .empty, pendingTimeoutMs, maxRecovery⟩, []⟩

def machine : Machine TxRelay (TxStep × ℕ) Empty := ⟨fun c x => .ok (x.step c.2 c.1)⟩

end TxRelay

end WaffleFinance.Relayer

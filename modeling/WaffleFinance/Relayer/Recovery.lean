import WaffleFinance.Lib.Machine
import WaffleFinance.Lib.Slots
import WaffleFinance.Relayer.Orders

/-!
# The recovery service

`RecoveryService` refunds an order through an orchestrator.  `executeRecovery` makes a request for
an order and submits it; `processPendingRecoveries` goes through the requests and submits those that
are due once more.

Requests have different identifiers and are never removed, so a request is its place in the list.  A
run that goes through the list may be interrupted after each request, which the code does only after
a submission.  What the orchestrator was asked and what it answered is kept in `log`, which is not
in the code.
-/

namespace WaffleFinance.Relayer

open Lib

inductive RecoveryStatus where
  | pending
  | inProgress
  | completed
  | failed
  | cancelled
  | requiresReview
  deriving DecidableEq

inductive RecoveryErrorType where
  | transient
  | terminal
  | ambiguous
  deriving DecidableEq

structure RecoveryResult where
  success : Bool
  /-- The amount, which is an integer. -/
  amount : Option ℤ
  chain : Text
  error : Option Text
  errorType : Option RecoveryErrorType
  deriving DecidableEq

structure RecoveryRequest where
  id : Text
  orderId : Text
  type : Text
  status : RecoveryStatus
  chain : Text
  updatedAt : ℕ
  attempts : ℕ
  lastAttemptAt : Option ℕ
  nextAttemptAt : Option ℕ
  deriving DecidableEq

structure RecoveryStats where
  totalRecoveries : ℕ
  successfulRecoveries : ℕ
  failedRecoveries : ℕ
  pendingRecoveries : ℕ
  totalValueRecovered : ℤ
  lastRecoveryAt : ℕ
  deriving DecidableEq

/-- A submission that the orchestrator has not answered, and the run that waits for it. -/
structure Submission where
  request : ℕ
  sweep : Option ℕ
  deriving DecidableEq

/-- A run through the requests: its place in the list, and whether it waits. -/
structure RecoverySweep where
  index : ℕ
  waiting : Bool
  deriving DecidableEq

inductive RecoveryEvent where
  /-- A submission, with its time and the time that the request had for it. -/
  | invoked (orderId : Text) (now : ℕ) (nextAttemptAt : Option ℕ)
  /-- The answer, or nothing if the orchestrator throws. -/
  | returned (orderId : Text) (answer : Option RecoveryResult)
  deriving DecidableEq

def RecoveryEvent.orderId : RecoveryEvent → Text
  | invoked orderId _ _ => orderId
  | returned orderId _ => orderId

structure RecoveryService where
  requests : List RecoveryRequest
  stats : RecoveryStats
  running : List Submission
  sweeps : List RecoverySweep
  log : List RecoveryEvent
  deriving DecidableEq

/-- `MAX_RECOVERY_ATTEMPTS`. -/
def maxRecoveryAttempts : ℕ := 5

def isOrderTerminal (status : Text) : Bool :=
  status ∈ ["completed".toList, "refunded".toList, "failed".toList]

namespace RecoveryRequest

/-- The request counts as pending. -/
def isActive (r : RecoveryRequest) : Bool := r.status = .pending || r.status = .inProgress

/-- A run submits the request now. -/
def isDue (r : RecoveryRequest) (now : ℕ) : Bool :=
  (r.status = .pending || r.status = .failed) && r.nextAttemptAt.any (· ≤ now) &&
    r.attempts < maxRecoveryAttempts

def start (r : RecoveryRequest) (now : ℕ) : RecoveryRequest :=
  { r with
    status := .inProgress
    attempts := r.attempts + 1
    lastAttemptAt := now
    nextAttemptAt := none }

def cancel (r : RecoveryRequest) (now : ℕ) : RecoveryRequest :=
  { r with status := .cancelled, nextAttemptAt := none, updatedAt := now }

/-- The request is to be submitted once more. -/
def isRetried (r : RecoveryRequest) (result : RecoveryResult) : Bool :=
  !result.success && result.errorType = some .transient && r.attempts < maxRecoveryAttempts

/-- The request after an answer. -/
def conclude (r : RecoveryRequest) (now backoff : ℕ) (result : RecoveryResult) :
    RecoveryRequest :=
  let r := { r with updatedAt := now, chain := result.chain }
  if result.success then { r with status := .completed }
  else if r.isRetried result then
    { r with status := .pending, nextAttemptAt := some (now + backoff) }
  else if result.errorType = some .terminal ∨ result.errorType = some .transient then
    { r with status := .failed }
  else { r with status := .requiresReview }

end RecoveryRequest

namespace RecoveryService

variable (s : RecoveryService)

def initial : RecoveryService := ⟨[], ⟨0, 0, 0, 0, 0, 0⟩, [], [], []⟩

/-- `attemptRecovery`, up to the call of the orchestrator. -/
def startAttempt (now k : ℕ) (sweep : Option ℕ) : RecoveryService :=
  match s.requests[k]? with
  | none => s
  | some r =>
    { s with
      requests := s.requests.set k (r.start now)
      running := s.running ++ [⟨k, sweep⟩]
      log := s.log ++ [.invoked r.orderId now r.nextAttemptAt] }

def newRequest (now : ℕ) (orderId type random : Text) : RecoveryRequest where
  id := "recovery_".toList ++ decimal now ++ '_' :: random
  orderId := orderId
  type := type
  status := .pending
  chain := "unknown".toList
  updatedAt := now
  attempts := 0
  lastAttemptAt := none
  nextAttemptAt := some now

def refusal (error chain : Text) : RecoveryResult := ⟨false, none, chain, error, some .terminal⟩

/-- A new request is submitted at once. -/
def executeRecovery (now : ℕ) (orderId status type random : Text) :
    Except RecoveryResult RecoveryService :=
  if isOrderTerminal status then
    .error (refusal ("Order is in terminal state: ".toList ++ status) "unknown".toList)
  else
    match s.requests.find? fun r => r.orderId = orderId with
    | some r => .error (refusal ("Recovery already in progress: ".toList ++ r.id) r.chain)
    | none =>
      .ok (startAttempt
        { s with
          requests := s.requests ++ [newRequest now orderId type random]
          stats := { s.stats with
            pendingRecoveries := s.stats.pendingRecoveries + 1
            totalRecoveries := s.stats.totalRecoveries + 1 } }
        now s.requests.length none)

/-- A run goes on with the next request; `status` is the status that its order has by now. -/
def advance (now j : ℕ) (status : Text) : RecoveryService :=
  match s.sweeps[j]? with
  | none => s
  | some w =>
    if w.waiting then s
    else
      match s.requests[w.index]? with
      | none => s
      | some r =>
        if !r.isDue now then { s with sweeps := s.sweeps.set j { w with index := w.index + 1 } }
        else if isOrderTerminal status then
          { s with
            requests := s.requests.set w.index (r.cancel now)
            stats := { s.stats with pendingRecoveries := s.stats.pendingRecoveries - 1 }
            sweeps := s.sweeps.set j { w with index := w.index + 1 } }
        else
          startAttempt { s with sweeps := s.sweeps.set j { w with waiting := true } } now w.index
            (some j)

/-- What the service takes for the answer when the orchestrator throws. -/
def thrownResult (chain : Text) : RecoveryResult :=
  ⟨false, none, chain, "Recovery threw; inspect chain state before resubmission".toList,
    some .ambiguous⟩

/-- The statistics after an answer. -/
def concludeStats (now : ℕ) (r : RecoveryRequest) (result : RecoveryResult)
    (requests : List RecoveryRequest) : RecoveryStats :=
  let stats :=
    if result.success then
      { s.stats with
        successfulRecoveries := s.stats.successfulRecoveries + 1
        totalValueRecovered := s.stats.totalValueRecovered + result.amount.getD 0 }
    else if r.isRetried result then s.stats
    else { s.stats with failedRecoveries := s.stats.failedRecoveries + 1 }
  { stats with
    lastRecoveryAt := now
    pendingRecoveries := requests.countP RecoveryRequest.isActive }

/-- The run that waited goes on. -/
def resume (sub : Submission) : List RecoverySweep :=
  match sub.sweep with
  | none => s.sweeps
  | some j => s.sweeps.modify j fun w => ⟨w.index + 1, false⟩

/-- The rest of `attemptRecovery`, when the orchestrator answers or throws. -/
def settle (now k : ℕ) (answer : Option RecoveryResult) (backoff : ℕ) : RecoveryService :=
  match s.running[k]? with
  | none => s
  | some sub =>
    match s.requests[sub.request]? with
    | none => s
    | some r =>
      let result := answer.getD (thrownResult r.chain)
      let requests := s.requests.set sub.request (r.conclude now backoff result)
      { requests := requests
        stats := s.concludeStats now r result requests
        running := s.running.eraseIdx k
        sweeps := s.resume sub
        log := s.log ++ [.returned r.orderId answer] }

end RecoveryService

/-! ### Everything that may happen -/

inductive RecoveryStep where
  | execute (orderId status type random : Text)
  /-- A run begins. -/
  | process
  | advance (sweep : ℕ) (status : Text)
  | settle (submission : ℕ) (answer : Option RecoveryResult) (backoff : ℕ)
  deriving DecidableEq

namespace RecoveryService

def exec (c : RecoveryStep × ℕ) (s : RecoveryService) : Except RecoveryResult RecoveryService :=
  match c.1 with
  | .execute orderId status type random => s.executeRecovery c.2 orderId status type random
  | .process => .ok { s with sweeps := s.sweeps ++ [⟨0, false⟩] }
  | .advance sweep status => .ok (s.advance c.2 sweep status)
  | .settle k answer backoff => .ok (s.settle c.2 k answer backoff)

def machine : Machine RecoveryService (RecoveryStep × ℕ) RecoveryResult := ⟨exec⟩

/-- The state after the first `n` steps. -/
def after (steps : List (RecoveryStep × ℕ)) (n : ℕ) : RecoveryService :=
  machine.stateAt initial steps n

end RecoveryService

end WaffleFinance.Relayer

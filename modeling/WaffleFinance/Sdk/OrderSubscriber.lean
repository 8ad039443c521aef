import WaffleFinance.Lib.Machine
import WaffleFinance.Coordinator.OrderMachine

/-!
# Watching an order

`OrderSubscriber` of the SDK asks the coordinator for an order again and again, and tells its
handlers what has changed.  A request that is under way is not given up when the subscriber is
stopped; more than one may be under way at once, and any of them may be answered next.

A handler may stop the subscriber.  `quits` says for which events one does.  The log is not in the
code: the requests that are sent, the events, the returns from `stop`, and the answers that have
been dealt with.
-/

namespace WaffleFinance.Sdk

open Lib Coordinator

/-- The part of a record that is about the secret. -/
structure SecretState where
  revealed : Bool
  preimage : Option Text
  revealedTx : Option Text
  deriving DecidableEq

/-- What the subscriber reads of a record. -/
structure PolledOrder where
  status : OrderStatus
  secret : SecretState
  deriving DecidableEq

inductive StopReason where
  | manual
  | terminal
  | maxErrors
  deriving DecidableEq

inductive SubscriptionEvent where
  | statusChanged (source target : OrderStatus) (record : PolledOrder)
  | secretRevealed (preimage revealedTx : Option Text) (record : PolledOrder)
  | settled (finalStatus : OrderStatus) (record : PolledOrder)
  | error (consecutiveFailures : ℕ)
  | started
  | stopped (reason : StopReason)
  deriving DecidableEq

inductive SubscriptionEntry where
  | polled
  | emitted (event : SubscriptionEvent)
  | stopReturned
  | handled (record : PolledOrder)
  deriving DecidableEq

/-- The answer to a request: it fails, there is no such order, or the order. -/
inductive PollAnswer where
  | failed
  | notFound
  | order (record : PolledOrder)
  deriving DecidableEq

structure OrderSubscriber where
  stopOnTerminal : Bool
  maxConsecutiveErrors : ℕ
  /-- The interval is set. -/
  timer : Bool
  lastStatus : Option OrderStatus
  lastSecretRevealed : Bool
  consecutiveErrors : ℕ
  running : Bool
  /-- The requests under way. -/
  requests : ℕ
  log : List SubscriptionEntry
  deriving DecidableEq

namespace OrderSubscriber

/-- `TERMINAL_STATUSES`. -/
def terminalStatuses : List OrderStatus := [.completed, .refunded, .failed]

/-- Whether a status is terminal for the subscriber. -/
def settles (status : OrderStatus) : Bool := terminalStatuses.contains status

variable (quits : SubscriptionEvent → Bool) (s : OrderSubscriber)

/-- A subscriber that has not been started. -/
def new (stopOnTerminal : Bool) (maxConsecutiveErrors : ℕ) : OrderSubscriber where
  stopOnTerminal := stopOnTerminal
  maxConsecutiveErrors := maxConsecutiveErrors
  timer := false
  lastStatus := none
  lastSecretRevealed := false
  consecutiveErrors := 0
  running := false
  requests := 0
  log := []

/-- What `stop` leaves in the log.  A handler that is told may call it once more. -/
def farewell : List SubscriptionEntry :=
  if s.running then
    .emitted (.stopped .manual) ::
      if quits (.stopped .manual) then [.stopReturned, .stopReturned] else [.stopReturned]
  else [.stopReturned]

def stop : OrderSubscriber :=
  { s with timer := false, running := false, log := s.log ++ s.farewell quits }

def emit (event : SubscriptionEvent) : OrderSubscriber :=
  let s := { s with log := s.log ++ [.emitted event] }
  if quits event then s.stop quits else s

/-- A request is sent. -/
def poll : OrderSubscriber := { s with requests := s.requests + 1, log := s.log ++ [.polled] }

def start : OrderSubscriber :=
  if s.running then s
  else emit quits { s.poll with running := true, timer := true } .started

def stopDueToReason (reason : StopReason) : OrderSubscriber :=
  emit quits { s with timer := false, running := false } (.stopped reason)

/-- The end of a successful answer: the secret, and what is known now. -/
def conclude (record : PolledOrder) : OrderSubscriber :=
  let s :=
    if !s.lastSecretRevealed && record.secret.revealed then
      s.emit quits (.secretRevealed record.secret.preimage record.secret.revealedTx record)
    else s
  { s with lastStatus := some record.status, lastSecretRevealed := record.secret.revealed }

/-- A successful answer. -/
def observe (record : PolledOrder) : OrderSubscriber :=
  match s.lastStatus with
  | none => s.conclude quits record
  | some last =>
    if last = record.status then s.conclude quits record
    else
      let s := s.emit quits (.statusChanged last record.status record)
      if settles record.status then
        let s := s.emit quits (.settled record.status record)
        if s.stopOnTerminal then
          stopDueToReason quits { s with lastStatus := some record.status } .terminal
        else s.conclude quits record
      else s.conclude quits record

/-- What happens in `poll` after the answer has come. -/
def receive : PollAnswer → OrderSubscriber
  | .failed =>
    let s := emit quits { s with consecutiveErrors := s.consecutiveErrors + 1 }
      (.error (s.consecutiveErrors + 1))
    if 0 < s.maxConsecutiveErrors ∧ s.maxConsecutiveErrors ≤ s.consecutiveErrors then
      s.stopDueToReason quits .maxErrors
    else s
  | .notFound => emit quits { s with consecutiveErrors := 0 } (.error 0)
  | .order record =>
    let s := observe quits { s with consecutiveErrors := 0 } record
    { s with log := s.log ++ [.handled record] }

end OrderSubscriber

/-- What happens after the start: the interval, an answer, or a call of `stop`. -/
inductive SubscriberStep where
  | tick
  | answer (answer : PollAnswer) (quits : SubscriptionEvent → Bool)
  | stop (quits : SubscriptionEvent → Bool)

namespace OrderSubscriber

def step (s : OrderSubscriber) : SubscriberStep → OrderSubscriber
  | .tick => if s.timer then s.poll else s
  | .answer answer quits =>
    if s.requests = 0 then s
    else receive quits { s with requests := s.requests - 1 } answer
  | .stop quits => s.stop quits

def machine : Machine OrderSubscriber SubscriberStep Empty := ⟨fun x s => .ok (s.step x)⟩

/-- The state after the start and the first `n` steps.  A handler may stop the subscriber when it
is told of the start. -/
def after (stopOnTerminal : Bool) (maxConsecutiveErrors : ℕ) (quits : SubscriptionEvent → Bool)
    (steps : List SubscriberStep) (n : ℕ) : OrderSubscriber :=
  machine.stateAt ((new stopOnTerminal maxConsecutiveErrors).start quits) steps n

end OrderSubscriber

/-! ### What is to hold -/

namespace SubscriptionEntry

def change : SubscriptionEntry → Option (OrderStatus × OrderStatus)
  | emitted (.statusChanged source target _) => some (source, target)
  | _ => none

def isSecret : SubscriptionEntry → Bool
  | emitted (.secretRevealed ..) => true
  | _ => false

def isSettled : SubscriptionEntry → Bool
  | emitted (.settled ..) => true
  | _ => false

def isEmitted : SubscriptionEntry → Bool
  | emitted _ => true
  | _ => false

def record : SubscriptionEntry → Option PolledOrder
  | handled record => some record
  | _ => none

end SubscriptionEntry

/-- The answers that were dealt with before `stop` has returned for the first time. -/
def observed (log : List SubscriptionEntry) : List PolledOrder :=
  (log.takeWhile (· ≠ .stopReturned)).filterMap SubscriptionEntry.record

/-- The protocol.  Changes of the status follow on one another; the secret and the settlement are
told once, as soon as an answer shows them; there is no request after the settlement, and no event
after `stop` has returned. -/
structure FollowsProtocol (log : List SubscriptionEntry) : Prop where
  chain : (log.filterMap SubscriptionEntry.change).IsChain fun a b => a.2 = b.1
  secret : log.countP SubscriptionEntry.isSecret ≤ 1
  secretTold : ∀ record ∈ observed log, record.secret.revealed = true →
    log.countP SubscriptionEntry.isSecret = 1
  settled : log.countP SubscriptionEntry.isSettled ≤ 1
  settledTold : ∀ record ∈ observed log, isTerminal record.status = true →
    log.countP SubscriptionEntry.isSettled = 1
  finished : log.Pairwise fun a b => a.isSettled = true → b ≠ .polled
  silent : log.Pairwise fun a b => a = .stopReturned → b.isEmitted = false

end WaffleFinance.Sdk

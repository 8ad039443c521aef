import WaffleFinance.Lib.Machine
import WaffleFinance.Lib.Slots
import WaffleFinance.Relayer.Orders

/-!
# Chain monitoring

The orchestrator of the relayer polls the chains only while orders are in flight.  A start runs in
segments: it waits for the number of a block, starts two pollers, waits for the contract poller and,
on the test network, for the listener of the bridge.  It may fail at each of them.  A stop waits
once, and an `onOrderStored` waits for the start or for its own helper function.  Any of them may go
on next.

A start is its place in the list of all starts.  The last two fields of `Orchestrator` are not in
the code: whether nothing was started since the last start failed or a stop was completed, and, for
each `onOrderStored` that has returned normally, whether a poller was live or being started then.
-/

namespace WaffleFinance.Relayer

open Lib

/-! ### Pollers and starts -/

inductive PollerKind where
  | ethIncoming
  | stellarIncoming
  | contractEvents
  deriving DecidableEq

/-- A poller, by the start that it belongs to. -/
structure ChainPoller where
  start : ℕ
  kind : PollerKind
  deriving DecidableEq

/-- What a start waits for. -/
inductive StartPhase where
  /-- The number of the latest block. -/
  | block
  /-- The block from which the contract poller begins. -/
  | contractBlock
  /-- The handle of the contract poller, which is live already. -/
  | contractHandle
  /-- The listener of the bridge. -/
  | listener
  /-- It has thrown, and what is done about it comes next. -/
  | failing
  | settled (ok : Bool)
  deriving DecidableEq

def StartPhase.isSettled : StartPhase → Bool
  | settled _ => true
  | _ => false

structure Orchestrator where
  testnet : Bool
  chainPollers : List ChainPoller
  escrowFactoryPoller : Option ChainPoller
  chainMonitoringStarted : Bool
  /-- The start whose promise it is. -/
  chainMonitoringPromise : Option ℕ
  starts : List StartPhase
  /-- The stops that wait, by the number of starts when they began. -/
  stops : List ℕ
  /-- The calls of `onOrderStored` that wait: for a start, or to return. -/
  calls : List (Option ℕ)
  live : List ChainPoller
  quiet : Bool
  returns : List Bool
  deriving DecidableEq

namespace Orchestrator

variable (s : Orchestrator)

def initial (testnet : Bool) : Orchestrator where
  testnet := testnet
  chainPollers := []
  escrowFactoryPoller := none
  chainMonitoringStarted := false
  chainMonitoringPromise := none
  starts := []
  stops := []
  calls := []
  live := []
  quiet := true
  returns := []

/-- A poller is live or being started. -/
def isMonitored : Bool := !s.live.isEmpty || s.starts.any fun phase => !phase.isSettled

/-- The first segment of `startChainMonitoring`, which may throw. -/
def beginStart (ok : Bool) : Orchestrator :=
  { s with
    chainMonitoringStarted := true
    chainMonitoringPromise := some s.starts.length
    starts := s.starts ++ [if ok then .block else .failing]
    quiet := false }

/-- `onOrderStored` up to its first wait. -/
def onOrderStored (activeOrders : Orders) (ok : Bool) : Orchestrator :=
  if !needsChainMonitoring activeOrders then s
  else if s.chainMonitoringStarted then { s with calls := s.calls ++ [none] }
  else
    match s.chainMonitoringPromise with
    | some k => { s with calls := s.calls ++ [some k] }
    | none => { s.beginStart ok with calls := s.calls ++ [some s.starts.length] }

/-- The next segment of a start. -/
def advance (k : ℕ) (ok : Bool) : Orchestrator :=
  match s.starts[k]? with
  | some .block =>
    if ok then
      { s with
        chainPollers := s.chainPollers ++ [⟨k, .ethIncoming⟩, ⟨k, .stellarIncoming⟩]
        live := s.live ++ [⟨k, .ethIncoming⟩, ⟨k, .stellarIncoming⟩]
        starts := s.starts.set k .contractBlock }
    else { s with starts := s.starts.set k .failing }
  | some .contractBlock =>
    if ok then
      { s with
        live := s.live ++ [⟨k, .contractEvents⟩]
        starts := s.starts.set k .contractHandle }
    else { s with starts := s.starts.set k .failing }
  | some .contractHandle =>
    { s with
      escrowFactoryPoller := some ⟨k, .contractEvents⟩
      starts := s.starts.set k (if s.testnet then .listener else .settled true) }
  | some .listener => { s with starts := s.starts.set k (if ok then .settled true else .failing) }
  | some .failing =>
    { s with
      chainMonitoringStarted := false
      chainMonitoringPromise := none
      starts := s.starts.set k (.settled false)
      quiet := s.quiet || k + 1 = s.starts.length }
  | _ => s

/-- `stopChainMonitoring` up to its wait. -/
def stopChainMonitoring : Orchestrator :=
  if s.chainMonitoringStarted then
    { s with
      live := s.live.filter fun p => p ∉ s.chainPollers && some p ≠ s.escrowFactoryPoller
      chainPollers := []
      escrowFactoryPoller := none
      stops := s.stops ++ [s.starts.length] }
  else s

def reconcileChainMonitoring (now : ℕ) (activeOrders : Orders) : Orchestrator :=
  if s.chainMonitoringStarted && !needsChainMonitoring (expireAbandonedOrders now activeOrders) then
    s.stopChainMonitoring
  else s

/-- The end of a stop. -/
def finishStop (i : ℕ) : Orchestrator :=
  match s.stops[i]? with
  | none => s
  | some begun =>
    { s with
      chainMonitoringStarted := false
      chainMonitoringPromise := none
      stops := s.stops.eraseIdx i
      quiet := s.quiet || begun = s.starts.length }

/-- A call of `onOrderStored` goes on: it returns, or it throws what the start has thrown. -/
def resume (i : ℕ) : Orchestrator :=
  match s.calls[i]? with
  | none => s
  | some none => { s with calls := s.calls.eraseIdx i, returns := s.returns ++ [s.isMonitored] }
  | some (some k) =>
    match s.starts[k]? with
    | some (.settled true) => { s with calls := s.calls.set i none }
    | some (.settled false) => { s with calls := s.calls.eraseIdx i }
    | _ => s

end Orchestrator

inductive MonitoringStep where
  | onOrderStored (activeOrders : Orders) (ok : Bool)
  | reconcile (now : ℕ) (activeOrders : Orders)
  | shutdown
  | advance (start : ℕ) (ok : Bool)
  | finishStop (i : ℕ)
  | resume (i : ℕ)

namespace Orchestrator

def step (s : Orchestrator) : MonitoringStep → Orchestrator
  | .onOrderStored activeOrders ok => s.onOrderStored activeOrders ok
  | .reconcile now activeOrders => s.reconcileChainMonitoring now activeOrders
  | .shutdown => s.stopChainMonitoring
  | .advance k ok => s.advance k ok
  | .finishStop i => s.finishStop i
  | .resume i => s.resume i

def machine : Machine Orchestrator MonitoringStep Empty := ⟨fun x s => .ok (s.step x)⟩

/-- The state after the first `n` steps. -/
def after (testnet : Bool) (steps : List MonitoringStep) (n : ℕ) : Orchestrator :=
  machine.stateAt (initial testnet) steps n

/-! ### What is to hold -/

/-- The live pollers are of one start and each of its kind, there are none when it is quiet, and no
`onOrderStored` has returned without any. -/
structure WellMonitored (s : Orchestrator) : Prop where
  oneSet : ∀ p ∈ s.live, ∀ q ∈ s.live, p.start = q.start
  nodup : s.live.Nodup
  quiet : s.quiet = true → s.live = []
  returns : ∀ monitored ∈ s.returns, monitored = true

end Orchestrator

end WaffleFinance.Relayer

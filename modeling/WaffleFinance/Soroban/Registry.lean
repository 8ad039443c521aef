import WaffleFinance.Soroban.Host

/-!
# The contract `ResolverRegistry`

The functions of `resolver-registry/src/lib.rs`, one definition each.  As for the other contract,
the instance storage is a record with an optional field for each key, and a function that panics
returns the error.  Calls to the stake token take the `Reply` of the token contract.
-/

namespace WaffleFinance.Soroban.Registry

open Lib

/-! ### Data -/

/-- Explicit lifecycle stage for a resolver entry. -/
inductive ResolverLifecycle where
  | active
  | unbonding
  | inactive
deriving DecidableEq, Repr

/-- Documented conditions under which the admin may slash a resolver. -/
inductive SlashCondition where
  | failedOrderFulfillment
  | fraudulentClaim
  | orderAbandonment
  | protocolViolation
deriving DecidableEq, Repr

/-- The errors of the contract, and below them the failures that come from the host and from the
contracts that are called. -/
inductive Error where
  | alreadyInitialised
  | notInitialised
  | unauthorized
  | resolverNotFound
  | stakeBelowMinimum
  | invalidAmount
  | alreadyRegistered
  | overflow
  | noPendingTransfer
  | unbondingNotFinished
  | unbondingNotRequested
  | alreadyUnbonding
  | unbondingPeriodTooShort
  /-- `require_auth` failed. -/
  | authRequired
  /-- The storage entry is archived. -/
  | archived
  /-- A key that must be stored is missing. -/
  | missing
  /-- A call to another contract failed. -/
  | callFailed
deriving DecidableEq, Repr

structure ResolverInfo where
  address : Address
  stake : ℤ
  registeredAt : ℕ
  lastSlashAt : ℕ
  totalSlashed : ℤ
  active : Bool
  /-- The time from which on `withdraw_stake` is valid, when an exit was requested. -/
  unbondingAt : Option ℕ
  lifecycle : ResolverLifecycle
deriving DecidableEq

/-- The storage entry of a resolver, with the last ledger it is live in. -/
structure Entry where
  info : ResolverInfo
  liveUntil : ℕ
deriving DecidableEq

inductive Event where
  | registered (resolver : Address) (stake : ℤ)
  | increased (resolver : Address) (additional : ℤ)
  | unbondRequested (resolver : Address) (unbondReadyAt : ℕ)
  | unbondDone (resolver : Address) (returned : ℤ)
  | slashed (resolver : Address) (take : ℤ) (condition : Option SlashCondition)
  | adminProposed (current newAdmin : Address)
  | adminAccepted (old newAdmin : Address)
  | adminRevoked (current pending : Address)
  | minStake (old new : ℤ)
  | slashBeneficiary (old new : Address)
  | unbondingPeriod (old new : ℕ)
deriving DecidableEq

/-- The storage of the contract, the balances of the tokens and the events published. -/
structure State where
  admin : Option Address
  pendingAdmin : Option Address
  stakeAsset : Option Address
  minStake : Option ℤ
  slashBeneficiary : Option Address
  unbondingPeriod : Option ℕ
  resolverList : Option (List Address)
  instanceLiveUntil : ℕ
  resolvers : Address → Option Entry
  balances : Balances
  events : List Event

/-- Seconds: the longest timelock of the other contract. -/
def minUnbondingPeriodSecs : ℕ := 86400

def defaultUnbondingPeriodSecs : ℕ := minUnbondingPeriodSecs

namespace State

def setResolver (s : State) (resolver : Address) (e : Option Entry) : State :=
  { s with resolvers := Function.update s.resolvers resolver e }

def emit (s : State) (e : Event) : State := { s with events := s.events ++ [e] }

/-- `list`. -/
def list (s : State) : List Address := s.resolverList.getD []

/-- A contract that is not set up yet. -/
def blank (balances : Balances) : State where
  admin := none
  pendingAdmin := none
  stakeAsset := none
  minStake := none
  slashBeneficiary := none
  unbondingPeriod := none
  resolverList := none
  instanceLiveUntil := 0
  resolvers := fun _ => none
  balances := balances
  events := []

end State

/-! ### Internal helpers -/

variable {E : Env}

def requireAuth (inv : Invocation E) (a : Address) : Except Error Unit :=
  failIf (inv.auth a = false) .authRequired

def requireInitialised (s : State) : Except Error Unit := failIf (s.admin = none) .notInitialised

/-- Read a key that is stored from the constructor on. -/
def stored {α : Type} (absent : Error) : Option α → Except Error α
  | some a => .ok a
  | none => .error absent

/-- The current admin. -/
def admin (s : State) : Except Error Address := stored .notInitialised s.admin

def requireAdmin (inv : Invocation E) (s : State) : Except Error Unit := do
  let admin ← admin s
  requireAuth inv admin

/-- Read the entry of a resolver. -/
def loadResolver (inv : Invocation E) (resolver : Address) (s : State) : Except Error Entry := do
  let entry ← stored .resolverNotFound (s.resolvers resolver)
  failIf (entry.liveUntil < inv.sequence) .archived
  pure entry

/-- Look whether there is an entry.  The host does not let an archived one pass as absent. -/
def requireUnregistered (inv : Invocation E) (resolver : Address) (s : State) :
    Except Error Unit :=
  match s.resolvers resolver with
  | none => .ok ()
  | some entry => do
    failIf (entry.liveUntil < inv.sequence) .archived
    .error .alreadyRegistered

/-- A transfer of the stake token. -/
def transferStake (source target : Address) (amount : ℤ) (r : Reply E Unit) (s : State) :
    Except Error State := do
  let asset ← stored .missing s.stakeAsset
  let balances ← tokenTransfer .callFailed asset source target amount r s.balances
  pure { s with balances := balances }

/-- `extend_ttl(50_000, 100_000)` on an entry made in this ledger. -/
def newLiveUntil (inv : Invocation E) : ℕ :=
  extendTtl inv.sequence 50000 100000 (inv.sequence + E.minPersistentTtl - 1)

/-! ### Deployment -/

structure Config where
  admin : Address
  stakeAsset : Address
  minStake : ℤ
  slashBeneficiary : Address
  unbondingPeriod : ℕ

/-- Configure the contract at deploy time. -/
def constructor (inv : Invocation E) (c : Config) (s : State) : Except Error State := do
  failIf (s.admin ≠ none) .alreadyInitialised
  failIf (c.minStake < 0) .invalidAmount
  failIf (c.unbondingPeriod < minUnbondingPeriodSecs) .unbondingPeriodTooShort
  pure { s with
    admin := some c.admin
    stakeAsset := some c.stakeAsset
    minStake := some c.minStake
    slashBeneficiary := some c.slashBeneficiary
    unbondingPeriod := some c.unbondingPeriod
    resolverList := some []
    instanceLiveUntil := newLiveUntil inv }

/-! ### Resolvers -/

/-- Register a resolver, with a stake that is transferred into the contract. -/
def register (inv : Invocation E) (resolver : Address) (stake : ℤ) (pull : Reply E Unit)
    (s : State) : Except Error State := do
  requireInitialised s
  requireAuth inv resolver
  failIf (stake < s.minStake.getD 0) .stakeBelowMinimum
  requireUnregistered inv resolver s
  let s ← transferStake resolver E.self stake pull s
  let info : ResolverInfo :=
    { address := resolver
      stake := stake
      registeredAt := inv.timestamp
      lastSlashAt := 0
      totalSlashed := 0
      active := true
      unbondingAt := none
      lifecycle := .active }
  let s := s.setResolver resolver (some ⟨info, newLiveUntil inv⟩)
  let s := { s with resolverList := some (s.list ++ [resolver]) }
  pure (s.emit (.registered resolver stake))

/-- Add more stake to an existing resolver. -/
def increaseStake (inv : Invocation E) (resolver : Address) (additional : ℤ)
    (pull : Reply E Unit) (s : State) : Except Error State := do
  requireInitialised s
  requireAuth inv resolver
  failIf (additional ≤ 0) .invalidAmount
  let entry ← loadResolver inv resolver s
  let s ← transferStake resolver E.self additional pull s
  -- an overflow after the transfer rolls the transfer back
  let stake ← checkedAddInt 128 .overflow entry.info.stake additional
  let s := s.setResolver resolver (some { entry with info := { entry.info with stake := stake } })
  pure (s.emit (.increased resolver additional))

/-- Phase 1 of an exit: the resolver is inactive at once, and its stake is locked for the
unbonding period. -/
def requestUnregister (inv : Invocation E) (resolver : Address) (s : State) :
    Except Error State := do
  requireInitialised s
  requireAuth inv resolver
  let entry ← loadResolver inv resolver s
  failIf (entry.info.unbondingAt ≠ none) .alreadyUnbonding
  let period := s.unbondingPeriod.getD defaultUnbondingPeriodSecs
  let unbondReadyAt ← checkedAdd 64 .overflow inv.timestamp period
  let info : ResolverInfo :=
    { entry.info with
      active := false
      unbondingAt := some unbondReadyAt
      lifecycle := .unbonding }
  let s := s.setResolver resolver (some { entry with info := info })
  pure (s.emit (.unbondRequested resolver unbondReadyAt))

/-- Pay out what is left of a stake, which may be nothing. -/
def returnStake (resolver : Address) (returned : ℤ) (push : Reply E Unit) (s : State) :
    Except Error State :=
  if 0 < returned then transferStake E.self resolver returned push s else .ok s

/-- Phase 2 of an exit: the stake is returned and the entry removed. -/
def withdrawStake (inv : Invocation E) (resolver : Address) (push : Reply E Unit) (s : State) :
    Except Error State := do
  requireInitialised s
  requireAuth inv resolver
  let entry ← loadResolver inv resolver s
  let unbondReadyAt ← stored .unbondingNotRequested entry.info.unbondingAt
  failIf (inv.timestamp < unbondReadyAt) .unbondingNotFinished
  let s ← returnStake resolver entry.info.stake push s
  let s := s.setResolver resolver none
  let s := { s with resolverList := some (s.list.filter (· ≠ resolver)) }
  pure (s.emit (.unbondDone resolver entry.info.stake))

/-- What a slash leaves of an entry. -/
def ResolverInfo.slashed (info : ResolverInfo) (take totalSlashed minStake : ℤ) (now : ℕ) :
    ResolverInfo :=
  let info := { info with
    stake := info.stake - take
    totalSlashed := totalSlashed
    lastSlashAt := now }
  -- a resolver that is leaving keeps its deadline
  if info.stake < minStake ∧ info.lifecycle ≠ .inactive then
    { info with active := false, lifecycle := .inactive }
  else info

/-- Slash a misbehaving resolver. -/
def slash (inv : Invocation E) (resolver : Address) (amount : ℤ) (push : Reply E Unit)
    (s : State) : Except Error State := do
  requireAdmin inv s
  failIf (amount ≤ 0) .invalidAmount
  let entry ← loadResolver inv resolver s
  -- a slash takes no more than there is
  let take := min amount entry.info.stake
  let beneficiary ← stored .missing s.slashBeneficiary
  let s ← transferStake E.self beneficiary take push s
  let totalSlashed ← checkedAddInt 128 .overflow entry.info.totalSlashed take
  let info := entry.info.slashed take totalSlashed (s.minStake.getD 0) inv.timestamp
  let s := s.setResolver resolver (some { entry with info := info })
  pure (s.emit (.slashed resolver take none))

/-- Slash a misbehaving resolver with an explicit condition code. -/
def slashWithReason (inv : Invocation E) (resolver : Address) (amount : ℤ)
    (condition : SlashCondition) (push : Reply E Unit) (s : State) : Except Error State := do
  requireAdmin inv s
  failIf (amount ≤ 0) .invalidAmount
  let entry ← loadResolver inv resolver s
  let take := min amount entry.info.stake
  let beneficiary ← stored .missing s.slashBeneficiary
  let s ← transferStake E.self beneficiary take push s
  let totalSlashed ← checkedAddInt 128 .overflow entry.info.totalSlashed take
  let info := entry.info.slashed take totalSlashed (s.minStake.getD 0) inv.timestamp
  let s := s.setResolver resolver (some { entry with info := info })
  pure (s.emit (.slashed resolver take (some condition)))

/-- The question that the other contract asks. -/
def isActive (inv : Invocation E) (resolver : Address) (s : State) : Except Error Bool :=
  match s.resolvers resolver with
  | none => .ok false
  | some entry => do
    failIf (entry.liveUntil < inv.sequence) .archived
    pure entry.info.active

/-! ### Config and governance -/

def setMinStake (inv : Invocation E) (newMinimum : ℤ) (s : State) : Except Error State := do
  requireAdmin inv s
  failIf (newMinimum < 0) .invalidAmount
  let s' := { s with minStake := some newMinimum }
  pure (s'.emit (.minStake (s.minStake.getD 0) newMinimum))

def setSlashBeneficiary (inv : Invocation E) (newBeneficiary : Address) (s : State) :
    Except Error State := do
  requireAdmin inv s
  let old ← stored .notInitialised s.slashBeneficiary
  let s' := { s with slashBeneficiary := some newBeneficiary }
  pure (s'.emit (.slashBeneficiary old newBeneficiary))

def setUnbondingPeriod (inv : Invocation E) (newPeriod : ℕ) (s : State) : Except Error State := do
  requireAdmin inv s
  failIf (newPeriod < minUnbondingPeriodSecs) .unbondingPeriodTooShort
  let old := s.unbondingPeriod.getD defaultUnbondingPeriodSecs
  let s' := { s with unbondingPeriod := some newPeriod }
  pure (s'.emit (.unbondingPeriod old newPeriod))

/-- Propose a new admin. -/
def transferAdmin (inv : Invocation E) (newAdmin : Address) (s : State) : Except Error State := do
  requireAdmin inv s
  let current ← admin s
  let s' := { s with pendingAdmin := some newAdmin }
  pure (s'.emit (.adminProposed current newAdmin))

/-- Complete a pending admin transfer. -/
def acceptAdmin (inv : Invocation E) (s : State) : Except Error State := do
  let pending ← stored .noPendingTransfer s.pendingAdmin
  requireAuth inv pending
  let old ← admin s
  let s' := { s with admin := some pending, pendingAdmin := none }
  pure (s'.emit (.adminAccepted old pending))

/-- Cancel a pending admin transfer. -/
def revokePendingAdmin (inv : Invocation E) (s : State) : Except Error State := do
  requireAdmin inv s
  let pending ← stored .noPendingTransfer s.pendingAdmin
  let current ← admin s
  let s' := { s with pendingAdmin := none }
  pure (s'.emit (.adminRevoked current pending))

end WaffleFinance.Soroban.Registry

import WaffleFinance.Soroban.Host

/-!
# The contract `HtlcContract`

The functions of `htlc/src/lib.rs`, with the schema gate of `htlc/src/migration.rs`, one
definition each.  The instance storage of the contract is a record with one optional field for
each key, read with the defaults that the source gives.  A function that panics returns the
error, and the host rolls the state back.

The calls that leave the contract take a `Reply`: what the token contract or the registry that
is called does.  The constructor is not modelled: as it stands in the source it does not
compile.  The runs start from a contract that is initialised.
-/

namespace WaffleFinance.Soroban.Htlc

open Lib

/-! ### Data -/

inductive AssetClass where
  | native
  | token
deriving DecidableEq, Repr

inductive ContractMode where
  /-- All settlement operations are permitted. -/
  | live
  /-- Emergency stop. -/
  | paused
  /-- Only refunds are permitted. -/
  | maintenance
deriving DecidableEq, Repr

inductive OrderStatus where
  | funded
  | claimed
  | refunded
deriving DecidableEq, Repr

inductive SchemaVersion where
  | v0
  | v1
deriving DecidableEq, Repr

/-- The schema version that the contract expects. -/
def currentSchemaVersion : SchemaVersion := .v1

/-- The errors of the contract, and below them the failures that come from the host and from the
contracts that are called. -/
inductive Error where
  | alreadyInitialised
  | notInitialised
  | unauthorized
  | orderNotFound
  | orderNotClaimable
  | orderNotRefundable
  | invalidPreimage
  | notExpired
  | expired
  | invalidAmount
  | invalidTimelock
  | safetyDepositTooSmall
  | resolverNotAuthorised
  | overflow
  | noPendingTransfer
  | contractPaused
  | invalidModeTransition
  | contractInMaintenance
  | invalidAsset
  | schemaMismatch
  /-- `require_auth` failed. -/
  | authRequired
  /-- The storage entry is archived. -/
  | archived
  /-- Arithmetic overflowed. -/
  | panicOverflow
  /-- A call to another contract failed. -/
  | callFailed
deriving DecidableEq, Repr

/-- A single hash + time-locked order. -/
structure Order where
  id : ℕ
  version : ℕ
  sender : Address
  beneficiary : Address
  refundAddress : Address
  asset : Address
  assetClass : AssetClass
  amount : ℤ
  safetyDeposit : ℤ
  hashlock : Bytes32
  timelock : ℕ
  status : OrderStatus
  preimage : Bytes
  createdAt : ℕ
  finalisedAt : ℕ
deriving DecidableEq

/-- The storage entry of an order, with the last ledger it is live in. -/
structure Entry where
  order : Order
  liveUntil : ℕ
deriving DecidableEq

inductive Event where
  | created (sender beneficiary : Address) (hashlock : Bytes32) (orderId : ℕ) (asset : Address)
      (amount safetyDeposit : ℤ) (timelock : ℕ)
  | claimed (beneficiary : Address) (hashlock : Bytes32) (orderId : ℕ) (caller : Address)
      (preimage : Bytes) (amount safetyDeposit : ℤ)
  | refunded (refundAddress : Address) (hashlock : Bytes32) (orderId : ℕ) (caller : Address)
      (amount safetyDeposit : ℤ)
  | registry (old new : Option Address)
  | minSafetyDeposit (old new : ℤ)
  | adminProposed (current newAdmin : Address)
  | adminAccepted (old newAdmin : Address)
  | adminRevoked (current pending : Address)
  | mode (old new : ContractMode)
deriving DecidableEq

/-- One payout made on account of an order. -/
structure Payout where
  orderId : ℕ
  asset : Address
  recipient : Address
  amount : ℤ
deriving DecidableEq

/-- The storage of the contract and the balances of the tokens.  `events` and `payouts` record
what the ledger has seen of the contract. -/
structure State where
  admin : Option Address
  pendingAdmin : Option Address
  nextOrderId : Option ℕ
  resolverRegistry : Option Address
  minSafetyDeposit : Option ℤ
  contractMode : Option ContractMode
  nativeToken : Option Address
  schemaVersion : Option SchemaVersion
  migrationLock : Option Bool
  instanceLiveUntil : ℕ
  orders : ℕ → Option Entry
  balances : Balances
  events : List Event
  payouts : List Payout

namespace State

def setOrder (s : State) (orderId : ℕ) (e : Entry) : State :=
  { s with orders := Function.update s.orders orderId (some e) }

def emit (s : State) (e : Event) : State := { s with events := s.events ++ [e] }

def record (s : State) (p : Payout) : State := { s with payouts := s.payouts ++ [p] }

/-- The current operational mode, `Live` when none is stored. -/
def mode (s : State) : ContractMode := s.contractMode.getD .live

end State

def maxTimelockSeconds : ℕ := 86400

def minTimelockSeconds : ℕ := 300

def assumedMinLedgerTimeSecs : ℕ := 4

def ledgersPerDay : ℕ := 24 * 3600 / assumedMinLedgerTimeSecs

def instanceTtlThreshold : ℕ := 14 * ledgersPerDay

def instanceTtlExtendTo : ℕ := 30 * ledgersPerDay

def orderTtlMarginLedgers : ℕ := 14 * ledgersPerDay

def finalisedOrderTtlLedgers : ℕ := 30 * ledgersPerDay

/-! ### Internal helpers -/

variable {E : Env}

def requireAuth (inv : Invocation E) (a : Address) : Except Error Unit :=
  failIf (inv.auth a = false) .authRequired

def requireInitialised (s : State) : Except Error Unit := failIf (s.admin = none) .notInitialised

/-- A missing version is read as `V0`. -/
def requireCurrentSchema (s : State) : Except Error Unit :=
  failIf (s.schemaVersion.getD .v0 ≠ currentSchemaVersion) .schemaMismatch

/-- Refuse to proceed if a migration batch is in flight. -/
def requireNoMigrationLock (s : State) : Except Error Unit :=
  failIf (s.migrationLock.getD false = true) .schemaMismatch

def requireAdmin (inv : Invocation E) (s : State) : Except Error Address :=
  match s.admin with
  | none => .error .notInitialised
  | some admin => do
    requireAuth inv admin
    pure admin

/-- Block `create_order` and `claim_order` when the contract is not live. -/
def requireCreateClaimAllowed (s : State) : Except Error Unit :=
  match s.mode with
  | .live => .ok ()
  | .paused => .error .contractPaused
  | .maintenance => .error .contractInMaintenance

/-- Block `refund_order` only when the contract is paused. -/
def requireRefundAllowed (s : State) : Except Error Unit :=
  failIf (s.mode = .paused) .contractPaused

def extendInstanceTtl (inv : Invocation E) (s : State) : State :=
  { s with
    instanceLiveUntil :=
      extendTtl inv.sequence instanceTtlThreshold instanceTtlExtendTo s.instanceLiveUntil }

/-- The lifetime of the entry of an order that is locked for some more seconds: the ledgers in
that time, cast to 32 bits, and a margin. -/
def orderTtlLedgers (timelockSeconds : ℕ) : Except Error ℕ :=
  checkedAdd 32 .panicOverflow
    ((timelockSeconds + (assumedMinLedgerTimeSecs - 1)) / assumedMinLedgerTimeSecs % 2 ^ 32)
    orderTtlMarginLedgers

/-- Canonical single-path settlement helper. -/
def settleTransfer (asset source target : Address) (amount : ℤ) (r : Reply E Unit) (s : State) :
    Except Error State := do
  let balances ← tokenTransfer .callFailed asset source target amount r s.balances
  pure { s with balances := balances }

/-- Read the entry of an order from storage. -/
def loadOrder (inv : Invocation E) (orderId : ℕ) (s : State) : Except Error Entry :=
  match s.orders orderId with
  | none => .error .orderNotFound
  | some entry => do
    failIf (entry.liveUntil < inv.sequence) .archived
    pure entry

/-- Write an order and extend the lifetime of its entry.  A new entry starts with the lifetime
that the network gives it. -/
def storeOrder (inv : Invocation E) (orderId : ℕ) (o : Order) (ttl : ℕ) (s : State) : State :=
  let liveUntil := match s.orders orderId with
    | some entry => entry.liveUntil
    | none => inv.sequence + E.minPersistentTtl - 1
  s.setOrder orderId ⟨o, extendTtl inv.sequence ttl ttl liveUntil⟩

/-! ### Core operations -/

structure CreateArgs where
  sender : Address
  beneficiary : Address
  refundAddress : Address
  asset : Address
  amount : ℤ
  safetyDeposit : ℤ
  hashlock : Bytes32
  timelockSeconds : ℕ

/-- Validation of the arguments of `create_order`. -/
def createChecks (self : Address) (minSafetyDeposit : ℤ) (a : CreateArgs) : Except Error Unit := do
  failIf (a.asset = self) .invalidAsset
  failIf (a.amount ≤ 0) .invalidAmount
  failIf (a.safetyDeposit < 0) .invalidAmount
  failIf (¬ (minTimelockSeconds ≤ a.timelockSeconds ∧ a.timelockSeconds ≤ maxTimelockSeconds))
    .invalidTimelock
  failIf (a.safetyDeposit < minSafetyDeposit) .safetyDepositTooSmall

/-- The resolver gate of `create_order`: where a registry is bound, it is asked. -/
def requireActiveResolver (gate : Reply E Bool) (s : State) : Except Error State :=
  match s.resolverRegistry with
  | none => .ok s
  | some _ => do
    failIf (gate.result = none) .callFailed
    failIf (gate.result = some false) .resolverNotAuthorised
    pure { s with balances := applyMoves gate.moves s.balances }

/-- The class of an asset. -/
def classify (nativeToken : Option Address) (asset : Address) : AssetClass :=
  if nativeToken = some asset then .native else .token

/-- Create and fund a new order; returns its id. -/
def createOrder (inv : Invocation E) (a : CreateArgs) (gate : Reply E Bool) (pull : Reply E Unit)
    (s : State) : Except Error (ℕ × State) := do
  requireInitialised s
  requireCurrentSchema s
  requireNoMigrationLock s
  requireAuth inv a.sender
  requireCreateClaimAllowed s
  createChecks E.self (s.minSafetyDeposit.getD 0) a
  let s ← requireActiveResolver gate s
  let timelock ← checkedAdd 64 .overflow inv.timestamp a.timelockSeconds
  let orderId := s.nextOrderId.getD 1
  let nextOrderId ← checkedAdd 64 .panicOverflow orderId 1
  let s := { s with nextOrderId := some nextOrderId }
  -- amount and deposit are pulled together, in the asset of the order
  let total ← checkedAddInt 128 .overflow a.amount a.safetyDeposit
  let s ← settleTransfer a.asset a.sender E.self total pull s
  let ttl ← orderTtlLedgers a.timelockSeconds
  let s := storeOrder inv orderId
    { id := orderId
      version := 1
      sender := a.sender
      beneficiary := a.beneficiary
      refundAddress := a.refundAddress
      asset := a.asset
      assetClass := classify s.nativeToken a.asset
      amount := a.amount
      safetyDeposit := a.safetyDeposit
      hashlock := a.hashlock
      timelock := timelock
      status := .funded
      preimage := []
      createdAt := inv.timestamp
      finalisedAt := 0 } ttl s
  let s := extendInstanceTtl inv s
  pure (orderId, s.emit (.created a.sender a.beneficiary a.hashlock orderId a.asset a.amount
    a.safetyDeposit timelock))

/-- The two transfers that end `claim_order` and `refund_order`: the locked amount to its
recipient, and the safety deposit, when there is one, to the caller. -/
def settleOrder (orderId : ℕ) (o : Order) (recipient caller : Address)
    (first second : Reply E Unit) (s : State) : Except Error State := do
  let s ← settleTransfer o.asset E.self recipient o.amount first s
  let s := s.record ⟨orderId, o.asset, recipient, o.amount⟩
  if 0 < o.safetyDeposit then do
    let s ← settleTransfer o.asset E.self caller o.safetyDeposit second s
    pure (s.record ⟨orderId, o.asset, caller, o.safetyDeposit⟩)
  else pure s

variable (E) in
/-- The digest of the preimage must be the hashlock. -/
def preimageCheck (hashlock : Bytes32) (preimage : Bytes) : Except Error Unit :=
  failIf (E.sha256 preimage ≠ hashlock) .invalidPreimage

variable (E) in
/-- The checks of `claim_order` on the order it has read. -/
def claimChecks (now : ℕ) (o : Order) (preimage : Bytes) : Except Error Unit := do
  failIf (o.status ≠ .funded) .orderNotClaimable
  failIf (o.timelock < now) .expired
  preimageCheck E o.hashlock preimage

/-- The checks of `refund_order` on the order it has read. -/
def refundChecks (now : ℕ) (o : Order) : Except Error Unit := do
  failIf (o.status ≠ .funded) .orderNotRefundable
  failIf (now ≤ o.timelock) .notExpired

/-- Reveal the preimage and transfer the locked amount to the beneficiary. -/
def claimOrder (inv : Invocation E) (orderId : ℕ) (preimage : Bytes) (caller : Address)
    (first second : Reply E Unit) (s : State) : Except Error State := do
  requireInitialised s
  requireCurrentSchema s
  requireAuth inv caller
  requireCreateClaimAllowed s
  let entry ← loadOrder inv orderId s
  let o := entry.order
  claimChecks E inv.timestamp o preimage
  let s ← settleOrder orderId o o.beneficiary caller first second s
  let s := storeOrder inv orderId
    { o with status := .claimed, preimage := preimage, finalisedAt := inv.timestamp }
    finalisedOrderTtlLedgers s
  let s := extendInstanceTtl inv s
  pure (s.emit (.claimed o.beneficiary o.hashlock orderId caller preimage o.amount
    o.safetyDeposit))

/-- Return an expired order to its refund address. -/
def refundOrder (inv : Invocation E) (orderId : ℕ) (caller : Address)
    (first second : Reply E Unit) (s : State) : Except Error State := do
  requireInitialised s
  requireCurrentSchema s
  requireAuth inv caller
  requireRefundAllowed s
  let entry ← loadOrder inv orderId s
  let o := entry.order
  refundChecks inv.timestamp o
  let s ← settleOrder orderId o o.refundAddress caller first second s
  let s := storeOrder inv orderId { o with status := .refunded, finalisedAt := inv.timestamp }
    finalisedOrderTtlLedgers s
  let s := extendInstanceTtl inv s
  pure (s.emit (.refunded o.refundAddress o.hashlock orderId caller o.amount o.safetyDeposit))

/-- The lifetime that `extend_order_ttl` gives to the entry of an order. -/
def remainingTtlLedgers (now : ℕ) (o : Order) : Except Error ℕ :=
  match o.status with
  -- `saturating_sub`: an expired order keeps the margin
  | .funded => orderTtlLedgers (o.timelock - now)
  | .claimed | .refunded => .ok finalisedOrderTtlLedgers

/-- Keep the entry of an order alive. -/
def extendOrderTtl (inv : Invocation E) (orderId : ℕ) (s : State) : Except Error State := do
  requireInitialised s
  let entry ← loadOrder inv orderId s
  let extendTo ← remainingTtlLedgers inv.timestamp entry.order
  let s := s.setOrder orderId
    { entry with liveUntil := extendTtl inv.sequence extendTo extendTo entry.liveUntil }
  pure (extendInstanceTtl inv s)

/-! ### Config and governance -/

def setResolverRegistry (inv : Invocation E) (registry : Address) (s : State) :
    Except Error State := do
  let _ ← requireAdmin inv s
  let s' := { s with resolverRegistry := some registry }
  pure ((extendInstanceTtl inv s').emit (.registry s.resolverRegistry (some registry)))

def clearResolverRegistry (inv : Invocation E) (s : State) : Except Error State := do
  let _ ← requireAdmin inv s
  let s' := { s with resolverRegistry := none }
  pure ((extendInstanceTtl inv s').emit (.registry s.resolverRegistry none))

def setMinSafetyDeposit (inv : Invocation E) (newMinimum : ℤ) (s : State) :
    Except Error State := do
  let _ ← requireAdmin inv s
  failIf (newMinimum < 0) .invalidAmount
  let s' := { s with minSafetyDeposit := some newMinimum }
  pure ((extendInstanceTtl inv s').emit
    (.minSafetyDeposit (s.minSafetyDeposit.getD 0) newMinimum))

/-- Propose a new admin. -/
def transferAdmin (inv : Invocation E) (newAdmin : Address) (s : State) : Except Error State := do
  let current ← requireAdmin inv s
  let s' := { s with pendingAdmin := some newAdmin }
  pure ((extendInstanceTtl inv s').emit (.adminProposed current newAdmin))

/-- Complete a pending admin transfer. -/
def acceptAdmin (inv : Invocation E) (s : State) : Except Error State :=
  match s.pendingAdmin with
  | none => .error .noPendingTransfer
  | some pending => do
    requireAuth inv pending
    let old ← match s.admin with
      | some admin => Except.ok admin
      | none => .error .notInitialised
    let s' := { s with admin := some pending, pendingAdmin := none }
    pure ((extendInstanceTtl inv s').emit (.adminAccepted old pending))

/-- Cancel a pending admin transfer. -/
def revokePendingAdmin (inv : Invocation E) (s : State) : Except Error State := do
  let admin ← requireAdmin inv s
  match s.pendingAdmin with
  | none => .error .noPendingTransfer
  | some pending =>
    let s' := { s with pendingAdmin := none }
    pure ((extendInstanceTtl inv s').emit (.adminRevoked admin pending))

/-- The permitted changes of the mode. -/
def ContractMode.allows : ContractMode → ContractMode → Bool
  | .live, .paused | .live, .maintenance | .paused, .live | .maintenance, .live => true
  | _, _ => false

/-- Transition the contract to a new operational mode. -/
def setMode (inv : Invocation E) (newMode : ContractMode) (s : State) : Except Error State := do
  let _ ← requireAdmin inv s
  requireInitialised s
  -- a mode that holds already is accepted, and nothing is published
  if s.mode = newMode then pure s
  else do
    failIf (s.mode.allows newMode = false) .invalidModeTransition
    let s' := { s with contractMode := some newMode }
    pure ((extendInstanceTtl inv s').emit (.mode s.mode newMode))

def setNativeToken (inv : Invocation E) (native : Address) (s : State) : Except Error State := do
  let _ ← requireAdmin inv s
  pure (extendInstanceTtl inv { s with nativeToken := some native })

def clearNativeToken (inv : Invocation E) (s : State) : Except Error State := do
  let _ ← requireAdmin inv s
  pure (extendInstanceTtl inv { s with nativeToken := none })

end WaffleFinance.Soroban.Htlc

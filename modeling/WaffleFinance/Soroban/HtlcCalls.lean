import WaffleFinance.Soroban.Htlc
import WaffleFinance.Lib.Handover

/-!
# Calls to the Soroban contract and what they do

A run of the contract is a list of calls, each made in a ledger whose timestamp does not lie
before that of the call before it.  Between the calls the holders of tokens may transfer them as
they like, and what is archived may be restored.

A call that succeeds has one of the effects that `Outcome` lists.
-/

namespace WaffleFinance.Soroban.Htlc

open Lib

/-- What can happen to the contract. -/
inductive Action (E : Env) where
  | createOrder (args : CreateArgs) (gate : Reply E Bool) (pull : Reply E Unit)
  | claimOrder (orderId : ℕ) (preimage : Bytes) (caller : Address) (first second : Reply E Unit)
  | refundOrder (orderId : ℕ) (caller : Address) (first second : Reply E Unit)
  | extendOrderTtl (orderId : ℕ)
  | setResolverRegistry (registry : Address)
  | clearResolverRegistry
  | setMinSafetyDeposit (newMinimum : ℤ)
  | transferAdmin (newAdmin : Address)
  | acceptAdmin
  | revokePendingAdmin
  | setMode (newMode : ContractMode)
  | setNativeToken (native : Address)
  | clearNativeToken
  /-- Not a call: holders of tokens transfer them. -/
  | transfers (moves : List (Move E))
  /-- Not a call: the entry of an order is restored when it is archived. -/
  | restore (orderId : ℕ)
  /-- Not a call: the instance is restored when it is archived. -/
  | restoreInstance

variable {E : Env}

/-- An archived entry gets the lifetime of a new one. -/
def restoreOrder (inv : Invocation E) (orderId : ℕ) (s : State) : State :=
  match s.orders orderId with
  | none => s
  | some entry =>
    if entry.liveUntil < inv.sequence then
      s.setOrder orderId { entry with liveUntil := inv.sequence + E.minPersistentTtl - 1 }
    else s

def restoreInstance (inv : Invocation E) (s : State) : State :=
  if s.instanceLiveUntil < inv.sequence then
    { s with instanceLiveUntil := inv.sequence + E.minPersistentTtl - 1 }
  else s

/-- The function of the contract that is called, or what happens otherwise. -/
def dispatch (inv : Invocation E) (a : Action E) (s : State) : Except Error State :=
  match a with
  | .createOrder args gate pull => (createOrder inv args gate pull s).map Prod.snd
  | .claimOrder orderId preimage caller first second =>
      claimOrder inv orderId preimage caller first second s
  | .refundOrder orderId caller first second => refundOrder inv orderId caller first second s
  | .extendOrderTtl orderId => extendOrderTtl inv orderId s
  | .setResolverRegistry registry => setResolverRegistry inv registry s
  | .clearResolverRegistry => clearResolverRegistry inv s
  | .setMinSafetyDeposit newMinimum => setMinSafetyDeposit inv newMinimum s
  | .transferAdmin newAdmin => transferAdmin inv newAdmin s
  | .acceptAdmin => acceptAdmin inv s
  | .revokePendingAdmin => revokePendingAdmin inv s
  | .setMode newMode => setMode inv newMode s
  | .setNativeToken native => setNativeToken inv native s
  | .clearNativeToken => clearNativeToken inv s
  | .transfers moves => .ok { s with balances := applyMoves moves s.balances }
  | .restore orderId => .ok (restoreOrder inv orderId s)
  | .restoreInstance => .ok (restoreInstance inv s)

def Action.isCall : Action E → Bool
  | .transfers _ | .restore _ | .restoreInstance => false
  | _ => true

/-- Execute one action.  While the instance is archived every call fails. -/
def exec (inv : Invocation E) (a : Action E) (s : State) : Except Error State := do
  failIf (a.isCall = true ∧ s.instanceLiveUntil < inv.sequence) .archived
  dispatch inv a s

lemma dispatch_of_exec {inv : Invocation E} {a : Action E} {s s' : State}
    (h : exec inv a s = .ok s') : dispatch inv a s = .ok s' := by
  simp only [exec, chain_eq_ok, failIf_eq_ok, exists_const] at h
  exact h.2

lemma exec_of_live {inv : Invocation E} {s : State} (h : inv.sequence ≤ s.instanceLiveUntil)
    (a : Action E) : exec inv a s = dispatch inv a s := by
  rw [exec, failIf_neg (by omega), ok_chain]

variable (E) in
/-- The contract as a machine. -/
def htlc : Machine State (Invocation E × Action E) Error where
  exec := fun c s => exec c.1 c.2 s

/-- A contract as it is after its initialisation, with the schema gate open and no migration
running. -/
structure Initialised (E : Env) (s : State) : Prop where
  admin : s.admin ≠ none
  schema : s.schemaVersion = some currentSchemaVersion
  lock : s.migrationLock.getD false = false
  nextOrderId : s.nextOrderId = some 1
  minSafetyDeposit : 0 ≤ s.minSafetyDeposit.getD 0
  orders : ∀ id, s.orders id = none
  payouts : s.payouts = []
  balances : ∀ asset, E.exact asset → 0 ≤ s.balances asset E.self

/-- A history of calls, whose ledger timestamps do not decrease. -/
structure History (E : Env) where
  start : State
  initialised : Initialised E start
  calls : List (Invocation E × Action E)
  timed : Machine.Timed (fun c => c.1.timestamp) calls

/-- The state after the first `n` calls of a history. -/
def History.stateAt (h : History E) (n : ℕ) : State := (htlc E).stateAt h.start h.calls n

/-- A state that the contract can be in between two calls. -/
def Reachable (E : Env) (s : State) : Prop := ∃ (h : History E) (n : ℕ), s = h.stateAt n

namespace Sample

open Soroban.Sample

/-- The secret of the sample orders. -/
def secret : Bytes := [7]

/-- The contract after its deployment by the first account, which has some tokens. -/
def start : State where
  admin := some alice
  pendingAdmin := none
  nextOrderId := some 1
  resolverRegistry := none
  minSafetyDeposit := some 0
  contractMode := none
  nativeToken := none
  schemaVersion := some .v1
  migrationLock := none
  instanceLiveUntil := 648000
  orders := fun _ => none
  balances := fun asset a => if asset = token ∧ a = alice then 1000 else 0
  events := []
  payouts := []

lemma initialised_start : Initialised (env 0) start where
  admin := by simp [start]
  schema := rfl
  lock := rfl
  nextOrderId := rfl
  minSafetyDeposit := le_rfl
  orders := fun _ => rfl
  payouts := rfl
  balances := fun asset _ => by simp [start, alice, env]

/-- The terms of an order whose lock lasts 300 seconds. -/
def args : CreateArgs where
  sender := alice
  beneficiary := bob
  refundAddress := alice
  asset := token
  amount := 100
  safetyDeposit := 10
  hashlock := (env 0).sha256 secret
  timelockSeconds := 300

/-- Two orders, both created at time `1000`.  The second account claims the first one in the last
second, and the first account takes back the second one in the next. -/
def history : History (env 0) where
  start := start
  initialised := initialised_start
  calls :=
    [(signedBy 1 1000, .createOrder args (quiet true) (quiet ())),
     (signedBy 1 1000, .createOrder args (quiet true) (quiet ())),
     (signedBy 2 1300, .claimOrder 1 secret bob (quiet ()) (quiet ())),
     (signedBy 1 1301, .refundOrder 2 alice (quiet ()) (quiet ()))]
  timed := by simp [Machine.Timed, signedBy]

end Sample

/-! ### Effects -/

/-- The order that is stored under an id. -/
def State.order? (s : State) (id : ℕ) : Option Order := (s.orders id).map Entry.order

/-- The order that `create_order` writes. -/
def newOrder (orderId now : ℕ) (cls : AssetClass) (a : CreateArgs) : Order where
  id := orderId
  version := 1
  sender := a.sender
  beneficiary := a.beneficiary
  refundAddress := a.refundAddress
  asset := a.asset
  assetClass := cls
  amount := a.amount
  safetyDeposit := a.safetyDeposit
  hashlock := a.hashlock
  timelock := now + a.timelockSeconds
  status := .funded
  preimage := []
  createdAt := now
  finalisedAt := 0

/-- The order after a claim. -/
def Order.claim (o : Order) (now : ℕ) (preimage : Bytes) : Order :=
  { o with status := .claimed, preimage := preimage, finalisedAt := now }

/-- The order after a refund. -/
def Order.refund (o : Order) (now : ℕ) : Order := { o with status := .refunded, finalisedAt := now }

/-- The payouts that settle an order. -/
def Order.payouts (o : Order) (orderId : ℕ) (recipient caller : Address) : List Payout :=
  ⟨orderId, o.asset, recipient, o.amount⟩ ::
    if 0 < o.safetyDeposit then [⟨orderId, o.asset, caller, o.safetyDeposit⟩] else []

/-- The balances after a settlement: the amount has gone to the recipient, and the deposit, where
there is one, to the caller. -/
def Order.settle (o : Order) (recipient caller : Address) (first second : Reply E Unit)
    (b : Balances) : Balances :=
  let b := transferred o.asset E.self recipient o.amount first b
  if 0 < o.safetyDeposit then transferred o.asset E.self caller o.safetyDeposit second b else b

/-- The amount of its asset that a settlement of the order takes. -/
def Order.taken (o : Order) : ℤ :=
  o.amount + if 0 < o.safetyDeposit then o.safetyDeposit else 0

/-- What the schema gate and the migration lock read stays as it is, and an initialised contract
stays initialised. -/
structure Configured (s s' : State) : Prop where
  schema : s'.schemaVersion = s.schemaVersion
  lock : s'.migrationLock = s.migrationLock
  admin : s.admin ≠ none → s'.admin ≠ none

variable (E) in
/-- Nothing happened to the orders, except perhaps to the lifetime of their entries. -/
structure Untouched (clean : Address → Prop) (s s' : State) : Prop where
  configured : Configured s s'
  order : s'.order? = s.order?
  nextOrderId : s'.nextOrderId = s.nextOrderId
  mode : s'.mode = s.mode ∨ s.mode.allows s'.mode = true
  payouts : s'.payouts = s.payouts
  flow : Flow E (fun _ => 0) clean s.balances s'.balances

/-- An order was created under the id `orderId`. -/
structure Created (inv : Invocation E) (a : CreateArgs) (gate : Reply E Bool)
    (pull : Reply E Unit) (orderId : ℕ) (s s' : State) : Prop where
  configured : Configured s s'
  mode : s.mode = .live
  auth : inv.auth a.sender = true
  checks : createChecks E.self (s.minSafetyDeposit.getD 0) a = .ok ()
  gated : s.resolverRegistry ≠ none → gate.result = some true
  id_eq : orderId = s.nextOrderId.getD 1
  id_lt : orderId + 1 < 2 ^ 64
  nextOrderId : s'.nextOrderId = some (orderId + 1)
  order : ∃ cls, s'.order? = Function.update s.order? orderId
    (some (newOrder orderId inv.timestamp cls a))
  mode_eq : s'.mode = s.mode
  payouts : s'.payouts = s.payouts
  flow : Flow E (fun t => if t = a.asset then a.amount + a.safetyDeposit else 0)
    (fun t => NoGifts t gate.moves ∧ NoGifts t pull.moves) s.balances s'.balances

/-- The order `o` stored under `orderId` was settled in favour of `recipient` and became `o'`. -/
structure Settled (orderId : ℕ) (o o' : Order) (recipient caller : Address)
    (first second : Reply E Unit) (s s' : State) : Prop where
  configured : Configured s s'
  found : s.order? orderId = some o
  order : s'.order? = Function.update s.order? orderId (some o')
  nextOrderId : s'.nextOrderId = s.nextOrderId
  mode_eq : s'.mode = s.mode
  payouts : s'.payouts = s.payouts ++ o.payouts orderId recipient caller
  balances : s'.balances = o.settle recipient caller first second s.balances
  flow : Flow E (fun t => if t = o.asset then -o.taken else 0)
    (fun t => (NoGifts t first.moves ∧ NoGifts t second.moves) ∧
      (t = o.asset → recipient ≠ E.self)) s.balances s'.balances

/-- An action by which nobody gives anything of an asset to the contract, neither by a transfer
nor by making the contract the recipient of an order. -/
def Action.Clean : Action E → Address → Prop
  | .createOrder a gate pull, asset =>
      (NoGifts asset gate.moves ∧ NoGifts asset pull.moves) ∧
        (a.asset = asset → a.beneficiary ≠ E.self ∧ a.refundAddress ≠ E.self)
  | .claimOrder _ _ _ first second, asset => NoGifts asset first.moves ∧ NoGifts asset second.moves
  | .refundOrder _ _ first second, asset => NoGifts asset first.moves ∧ NoGifts asset second.moves
  | .transfers moves, asset => NoGifts asset moves
  | _, _ => True

/-- What a call that succeeds has done. -/
inductive Outcome (inv : Invocation E) : Action E → State → State → Prop where
  | untouched {a : Action E} {s s' : State} : Untouched E a.Clean s s' → Outcome inv a s s'
  | created {args : CreateArgs} {gate : Reply E Bool} {pull : Reply E Unit} {orderId : ℕ}
      {s s' : State} : Created inv args gate pull orderId s s' →
      Outcome inv (.createOrder args gate pull) s s'
  | claimed {orderId : ℕ} {preimage : Bytes} {caller : Address} {first second : Reply E Unit}
      {o : Order} {s s' : State} : s.mode = .live → inv.auth caller = true →
      claimChecks E inv.timestamp o preimage = .ok () →
      Settled orderId o (o.claim inv.timestamp preimage) o.beneficiary caller first second s s' →
      Outcome inv (.claimOrder orderId preimage caller first second) s s'
  | refunded {orderId : ℕ} {caller : Address} {first second : Reply E Unit} {o : Order}
      {s s' : State} : s.mode ≠ .paused → inv.auth caller = true →
      refundChecks inv.timestamp o = .ok () →
      Settled orderId o (o.refund inv.timestamp) o.refundAddress caller first second s s' →
      Outcome inv (.refundOrder orderId caller first second) s s'

/-! ### What belongs to the admin -/

/-- What only the admin may change. -/
structure Settings where
  resolverRegistry : Option Address
  minSafetyDeposit : Option ℤ
  contractMode : Option ContractMode
  nativeToken : Option Address

def State.settings (s : State) : Settings where
  resolverRegistry := s.resolverRegistry
  minSafetyDeposit := s.minSafetyDeposit
  contractMode := s.contractMode
  nativeToken := s.nativeToken

/-- The part that an action has in the handover of the admin role. -/
def Action.part : Action E → HandoverPart Address
  | .transferAdmin newAdmin => .propose newAdmin
  | .acceptAdmin => .accept
  | .revokePendingAdmin => .revoke
  | _ => .other

/-- The configuration and handover calls. -/
def Action.isGovernance : Action E → Bool
  | .setResolverRegistry _ | .clearResolverRegistry | .setMinSafetyDeposit _ | .setNativeToken _
  | .clearNativeToken | .setMode _ | .transferAdmin _ | .acceptAdmin | .revokePendingAdmin => true
  | _ => false

/-- What a call does to the admin role. -/
abbrev RoleStep (inv : Invocation E) : HandoverPart Address → State → State → Prop :=
  HandoverStep State.admin State.pendingAdmin State.settings fun x => inv.auth x = true

/-- No order is written, created or paid out, and no token moves. -/
structure FundsKept (s s' : State) : Prop where
  orders : s'.orders = s.orders
  nextOrderId : s'.nextOrderId = s.nextOrderId
  balances : s'.balances = s.balances
  payouts : s'.payouts = s.payouts

lemma FundsKept.untouched {clean : Address → Prop} {s s' : State} (h : FundsKept s s')
    (hc : Configured s s') (hmode : s'.mode = s.mode ∨ s.mode.allows s'.mode = true) :
    Untouched E clean s s' := by
  refine ⟨hc, ?_, h.nextOrderId, hmode, h.payouts, ?_⟩
  · funext id
    rw [State.order?, State.order?, h.orders]
  · rw [h.balances]
    exact Flow.refl _ _

/-! ### When the checks pass -/

variable {s : State}

lemma requireCreateClaimAllowed_eq_ok {u : Unit} :
    requireCreateClaimAllowed s = .ok u ↔ s.mode = .live := by
  rw [requireCreateClaimAllowed]
  cases s.mode <;> simp

lemma claimChecks_eq_ok {now : ℕ} {o : Order} {preimage : Bytes} {u : Unit} :
    claimChecks E now o preimage = .ok u ↔
      o.status = .funded ∧ now ≤ o.timelock ∧ E.sha256 preimage = o.hashlock := by
  simp only [claimChecks, preimageCheck, chain_eq_ok, failIf_eq_ok, exists_const, not_not, not_lt]

lemma refundChecks_eq_ok {now : ℕ} {o : Order} {u : Unit} :
    refundChecks now o = .ok u ↔ o.status = .funded ∧ o.timelock < now := by
  simp only [refundChecks, chain_eq_ok, failIf_eq_ok, exists_const, not_not, not_le]

variable {inv : Invocation E} {orderId : ℕ}

lemma loadOrder_eq_ok {entry : Entry} :
    loadOrder inv orderId s = .ok entry ↔
      s.orders orderId = some entry ∧ inv.sequence ≤ entry.liveUntil := by
  rw [loadOrder]
  cases s.orders orderId with
  | none => simp
  | some e =>
    simp only [chain_eq_ok, failIf_eq_ok, exists_const, pure_eq_ok_iff, not_lt,
      Option.some.injEq]
    constructor
    · rintro ⟨hle, rfl⟩
      exact ⟨rfl, hle⟩
    · rintro ⟨rfl, hle⟩
      exact ⟨hle, rfl⟩

lemma requireAdmin_ok {admin : Address} (h : requireAdmin inv s = .ok admin) :
    s.admin = some admin ∧ inv.auth admin = true := by
  rw [requireAdmin] at h
  cases ha : s.admin with
  | none =>
    rw [ha] at h
    cases h
  | some a =>
    rw [ha] at h
    simp only [requireAuth, chain_eq_ok, failIf_eq_ok, exists_const, pure_eq_ok_iff,
      Bool.not_eq_false] at h
    obtain ⟨hauth, rfl⟩ := h
    exact ⟨rfl, hauth⟩

/-! ### Storing and settling -/

lemma order?_setOrder (s : State) (orderId : ℕ) (e : Entry) :
    (s.setOrder orderId e).order? = Function.update s.order? orderId (some e.order) := by
  funext id
  by_cases hid : id = orderId
  · subst hid
    simp [State.order?, State.setOrder]
  · simp [State.order?, State.setOrder, hid]

lemma order?_storeOrder (inv : Invocation E) (orderId : ℕ) (o : Order) (ttl : ℕ) (s : State) :
    (storeOrder inv orderId o ttl s).order? = Function.update s.order? orderId (some o) :=
  order?_setOrder s orderId _

lemma order?_setOrder_same {e e' : Entry} (h : s.orders orderId = some e)
    (he : e'.order = e.order) : (s.setOrder orderId e').order? = s.order? := by
  rw [order?_setOrder, he]
  refine Function.update_eq_self_iff.2 ?_
  simp [State.order?, h]

variable {caller : Address} {first second : Reply E Unit} {s' : State}

/-- The transfers of a settlement change the balances and the record of payouts, and nothing
else. -/
lemma settleOrder_ok {o : Order} {recipient : Address} (hcaller : caller ≠ E.self)
    (h : settleOrder orderId o recipient caller first second s = .ok s') :
    s' = { s with
        balances := o.settle recipient caller first second s.balances
        payouts := s.payouts ++ o.payouts orderId recipient caller } ∧
      Flow E (fun t => if t = o.asset then -o.taken else 0)
        (fun t => (NoGifts t first.moves ∧ NoGifts t second.moves) ∧
          (t = o.asset → recipient ≠ E.self)) s.balances s'.balances := by
  simp only [settleOrder, settleTransfer, chain_eq_ok, pure_eq_ok_iff] at h
  obtain ⟨s₁, ⟨b₁, htransfer, rfl⟩, h⟩ := h
  have hflow₁ := Flow.of_transfer_out htransfer
  -- the second transfer is left out where there is no deposit
  by_cases hd : 0 < o.safetyDeposit
  · rw [if_pos hd] at h
    simp only [chain_eq_ok, pure_eq_ok_iff] at h
    obtain ⟨s₂, ⟨b₂, htransfer₂, rfl⟩, rfl⟩ := h
    have hflow := hflow₁.trans (Flow.of_transfer_out htransfer₂)
    refine ⟨?_, show Flow E _ _ s.balances b₂ from ⟨fun t ht => ?_, fun t ht hc => ?_, hflow.total⟩⟩
    · simp [State.record, Order.payouts, Order.settle, hd, eq_transferred htransfer₂,
        eq_transferred htransfer]
    · have hle := hflow.le t ht
      simp only [Order.taken, if_pos hd]
      by_cases hta : t = o.asset
      · simp only [if_pos hta] at hle ⊢
        omega
      · simp only [if_neg hta] at hle ⊢
        omega
    · have heq := hflow.eq t ht ⟨⟨hc.1.1, hc.2⟩, hc.1.2, fun _ => hcaller⟩
      simp only [Order.taken, if_pos hd]
      by_cases hta : t = o.asset
      · simp only [if_pos hta] at heq ⊢
        omega
      · simp only [if_neg hta] at heq ⊢
        omega
  · rw [if_neg hd, pure_eq_ok_iff] at h
    subst h
    refine ⟨?_, ?_⟩
    · simp [State.record, Order.payouts, Order.settle, hd, eq_transferred htransfer]
    · simp only [Order.taken, if_neg hd, add_zero]
      exact ⟨hflow₁.le, fun t ht hc => hflow₁.eq t ht ⟨hc.1.1, hc.2⟩, hflow₁.total⟩

/-! ### The functions have these effects -/

/-- The gate lets pass, and other parties may have moved tokens meanwhile. -/
lemma requireActiveResolver_ok {gate : Reply E Bool} (h : requireActiveResolver gate s = .ok s') :
    (s.resolverRegistry ≠ none → gate.result = some true) ∧
      ∃ b, s' = { s with balances := b } ∧
        Flow E (fun _ => 0) (fun t => NoGifts t gate.moves) s.balances b := by
  rw [requireActiveResolver] at h
  cases hreg : s.resolverRegistry with
  | none =>
    rw [hreg] at h
    cases h
    exact ⟨fun hne => absurd rfl hne, s.balances, by rw [← hreg], Flow.refl _ _⟩
  | some registry =>
    rw [hreg] at h
    simp only [chain_eq_ok, failIf_eq_ok, exists_const, pure_eq_ok_iff] at h
    obtain ⟨hnone, hfalse, rfl⟩ := h
    refine ⟨fun _ => ?_, _, rfl, Flow.of_moves gate.moves s.balances⟩
    rcases hres : gate.result with _ | active
    · exact absurd hres hnone
    · cases active with
      | false => exact absurd hres hfalse
      | true => rfl

/-- `create_order` returns the id that the counter stood at, and creates that order. -/
lemma createOrder_created {a : CreateArgs} {gate : Reply E Bool} {pull : Reply E Unit}
    (h : createOrder inv a gate pull s = .ok (orderId, s')) :
    Created inv a gate pull orderId s s' ∧ RoleStep inv .other s s' ∧
      ∃ cls ttl, orderTtlLedgers a.timelockSeconds = .ok ttl ∧ s'.orders =
        (storeOrder inv orderId (newOrder orderId inv.timestamp cls a) ttl s).orders := by
  simp only [createOrder, requireInitialised, requireCurrentSchema, requireNoMigrationLock,
    requireAuth, chain_eq_ok, failIf_eq_ok, exists_const, requireCreateClaimAllowed_eq_ok,
    checkedAdd_eq_ok, checkedAddInt_eq_ok, settleTransfer, pure_eq_ok_iff,
    Bool.not_eq_false] at h
  obtain ⟨hadmin, -, -, hauth, hmode, ⟨⟩, hchecks, s₁, hgate, tl, ⟨-, rfl⟩, next, ⟨hlt, rfl⟩,
    total, ⟨-, rfl⟩, s₂, ⟨b, htransfer, rfl⟩, ttl, httl, h⟩ := h
  obtain ⟨hgated, b₁, rfl, hflow₁⟩ := requireActiveResolver_ok hgate
  obtain ⟨rfl, rfl⟩ := Prod.mk.inj h
  -- the sender has authorised the call, so it is not the contract
  have hflow₂ := Flow.of_transfer_in (inv.ne_self_of_auth hauth) htransfer
  refine ⟨⟨⟨rfl, rfl, fun _ => hadmin⟩, hmode, hauth, hchecks, hgated, rfl, hlt, rfl,
    ⟨_, order?_storeOrder inv _ _ ttl _⟩, rfl, rfl, ?_⟩, .kept rfl rfl rfl, _, ttl, httl, rfl⟩
  have hflow := hflow₁.trans hflow₂
  simp only [zero_add] at hflow
  exact hflow

/-- The common end of `claim_order` and `refund_order`. -/
lemma settle_settled {entry : Entry} {o' : Order} {recipient : Address} {ev : Event}
    (hcaller : caller ≠ E.self) (hadmin : s.admin ≠ none) (hentry : s.orders orderId = some entry)
    (h : settleOrder orderId entry.order recipient caller first second s = .ok s') :
    let final := (extendInstanceTtl inv
      (storeOrder inv orderId o' finalisedOrderTtlLedgers s')).emit ev
    Settled orderId entry.order o' recipient caller first second s final ∧
      RoleStep inv .other s final ∧
      final.orders = (storeOrder inv orderId o' finalisedOrderTtlLedgers s).orders := by
  obtain ⟨rfl, hflow⟩ := settleOrder_ok hcaller h
  refine ⟨⟨⟨rfl, rfl, fun _ => hadmin⟩, ?_, order?_storeOrder inv orderId o' _ _, rfl, rfl, rfl,
    rfl, hflow⟩, .kept rfl rfl rfl, rfl⟩
  simp [State.order?, hentry]

lemma claimOrder_settled {preimage : Bytes}
    (h : claimOrder inv orderId preimage caller first second s = .ok s') :
    s.mode = .live ∧ inv.auth caller = true ∧ ∃ o,
      claimChecks E inv.timestamp o preimage = .ok () ∧
      Settled orderId o (o.claim inv.timestamp preimage) o.beneficiary caller first second s s' ∧
      RoleStep inv .other s s' ∧ s'.orders = (storeOrder inv orderId
        (o.claim inv.timestamp preimage) finalisedOrderTtlLedgers s).orders := by
  simp only [claimOrder, requireInitialised, requireCurrentSchema, requireAuth, chain_eq_ok,
    failIf_eq_ok, exists_const, requireCreateClaimAllowed_eq_ok, loadOrder_eq_ok,
    pure_eq_ok_iff, Bool.not_eq_false] at h
  obtain ⟨hadmin, -, hauth, hmode, entry, ⟨hentry, -⟩, ⟨⟩, hchecks, s₁, hsettle, rfl⟩ := h
  exact ⟨hmode, hauth, entry.order, hchecks,
    settle_settled (inv.ne_self_of_auth hauth) hadmin hentry hsettle⟩

lemma refundOrder_settled (h : refundOrder inv orderId caller first second s = .ok s') :
    s.mode ≠ .paused ∧ inv.auth caller = true ∧ ∃ o,
      refundChecks inv.timestamp o = .ok () ∧
      Settled orderId o (o.refund inv.timestamp) o.refundAddress caller first second s s' ∧
      RoleStep inv .other s s' ∧ s'.orders = (storeOrder inv orderId
        (o.refund inv.timestamp) finalisedOrderTtlLedgers s).orders := by
  simp only [refundOrder, requireInitialised, requireCurrentSchema, requireAuth,
    requireRefundAllowed, chain_eq_ok, failIf_eq_ok, exists_const, loadOrder_eq_ok,
    pure_eq_ok_iff, Bool.not_eq_false] at h
  obtain ⟨hadmin, -, hauth, hmode, entry, ⟨hentry, -⟩, ⟨⟩, hchecks, s₁, hsettle, rfl⟩ := h
  exact ⟨hmode, hauth, entry.order, hchecks,
    settle_settled (inv.ne_self_of_auth hauth) hadmin hentry hsettle⟩

variable {clean : Address → Prop}

lemma extendOrderTtl_untouched (h : extendOrderTtl inv orderId s = .ok s') :
    Untouched E clean s s' := by
  simp only [extendOrderTtl, requireInitialised, chain_eq_ok, failIf_eq_ok, exists_const,
    loadOrder_eq_ok, pure_eq_ok_iff] at h
  obtain ⟨hadmin, entry, ⟨hentry, -⟩, extendTo, -, rfl⟩ := h
  exact ⟨⟨rfl, rfl, fun _ => hadmin⟩, order?_setOrder_same hentry rfl, rfl, .inl rfl, rfl,
    Flow.refl _ _⟩

lemma restoreOrder_untouched (inv : Invocation E) (orderId : ℕ) (s : State)
    (clean : Address → Prop) : Untouched E clean s (restoreOrder inv orderId s) := by
  have hsame : Untouched E clean s s :=
    ⟨⟨rfl, rfl, id⟩, rfl, rfl, .inl rfl, rfl, Flow.refl _ _⟩
  rw [restoreOrder]
  cases hentry : s.orders orderId with
  | none => exact hsame
  | some entry =>
    simp only
    split_ifs with harchived
    · exact ⟨⟨rfl, rfl, id⟩, order?_setOrder_same hentry rfl, rfl, .inl rfl, rfl, Flow.refl _ _⟩
    · exact hsame

lemma restoreInstance_funds (inv : Invocation E) (s : State) :
    RoleStep inv .other s (restoreInstance inv s) ∧ FundsKept s (restoreInstance inv s) ∧
      Configured s (restoreInstance inv s) ∧ (restoreInstance inv s).mode = s.mode := by
  rw [restoreInstance]
  split_ifs <;>
    exact ⟨.kept rfl rfl rfl, ⟨rfl, rfl, rfl, rfl⟩, ⟨rfl, rfl, id⟩, rfl⟩

lemma exists_of_requireAdmin {f : Address → Except Error State}
    (h : (requireAdmin inv s >>= f) = .ok s') :
    ∃ admin, s.admin = some admin ∧ inv.auth admin = true ∧ f admin = .ok s' := by
  rw [chain_eq_ok] at h
  obtain ⟨admin, hadmin, hf⟩ := h
  exact ⟨admin, (requireAdmin_ok hadmin).1, (requireAdmin_ok hadmin).2, hf⟩

lemma acceptAdmin_ok (h : acceptAdmin inv s = .ok s') :
    ∃ pending old, s.pendingAdmin = some pending ∧ inv.auth pending = true ∧
      s' = (extendInstanceTtl inv { s with admin := some pending, pendingAdmin := none }).emit
        (.adminAccepted old pending) := by
  rw [acceptAdmin] at h
  cases hpending : s.pendingAdmin with
  | none =>
    rw [hpending] at h
    cases h
  | some pending =>
    rw [hpending] at h
    cases hadmin : s.admin with
    | none =>
      rw [hadmin] at h
      simp only [chain_eq_ok] at h
      obtain ⟨-, -, old, hold, -⟩ := h
      cases hold
    | some old =>
      rw [hadmin] at h
      simp only [requireAuth, chain_eq_ok, failIf_eq_ok, exists_const, Bool.not_eq_false,
        ok_chain, pure_eq_ok_iff] at h
      exact ⟨pending, old, rfl, h.1, h.2.symm⟩

/-- What the configuration and handover calls do. -/
lemma governance_step {a : Action E} (h : dispatch inv a s = .ok s') (ha : a.isGovernance = true) :
    RoleStep inv a.part s s' ∧ FundsKept s s' ∧ Configured s s' ∧
      (s'.mode = s.mode ∨ s.mode.allows s'.mode = true) := by
  cases a with
  | setResolverRegistry _ | clearResolverRegistry | setNativeToken _ | clearNativeToken =>
    obtain ⟨admin, hadmin, hauth, hf⟩ := exists_of_requireAdmin h
    rw [pure_eq_ok_iff] at hf
    subst hf
    exact ⟨.configured hadmin hauth rfl rfl, ⟨rfl, rfl, rfl, rfl⟩, ⟨rfl, rfl, id⟩, .inl rfl⟩
  | setMinSafetyDeposit newMinimum =>
    obtain ⟨admin, hadmin, hauth, hf⟩ := exists_of_requireAdmin h
    simp only [chain_eq_ok, failIf_eq_ok, exists_const, pure_eq_ok_iff] at hf
    obtain ⟨-, rfl⟩ := hf
    exact ⟨.configured hadmin hauth rfl rfl, ⟨rfl, rfl, rfl, rfl⟩, ⟨rfl, rfl, id⟩, .inl rfl⟩
  | transferAdmin newAdmin =>
    obtain ⟨admin, hadmin, hauth, hf⟩ := exists_of_requireAdmin h
    rw [pure_eq_ok_iff] at hf
    subst hf
    exact ⟨.proposed hadmin hauth rfl rfl rfl, ⟨rfl, rfl, rfl, rfl⟩, ⟨rfl, rfl, id⟩, .inl rfl⟩
  | acceptAdmin =>
    obtain ⟨pending, old, hpending, hauth, rfl⟩ := acceptAdmin_ok h
    exact ⟨.accepted hpending hauth rfl rfl rfl, ⟨rfl, rfl, rfl, rfl⟩,
      ⟨rfl, rfl, fun _ => by simp [State.emit, extendInstanceTtl]⟩, .inl rfl⟩
  | revokePendingAdmin =>
    obtain ⟨admin, hadmin, hauth, hf⟩ := exists_of_requireAdmin h
    cases hpending : s.pendingAdmin with
    | none =>
      rw [hpending] at hf
      cases hf
    | some pending =>
      rw [hpending] at hf
      cases hf
      exact ⟨.revoked hadmin hauth rfl rfl rfl, ⟨rfl, rfl, rfl, rfl⟩, ⟨rfl, rfl, id⟩, .inl rfl⟩
  | setMode newMode =>
    obtain ⟨admin, hadmin, hauth, hf⟩ := exists_of_requireAdmin h
    simp only [requireInitialised, chain_eq_ok, failIf_eq_ok, exists_const] at hf
    obtain ⟨-, hf⟩ := hf
    split_ifs at hf with hsame
    · rw [pure_eq_ok_iff] at hf
      subst hf
      exact ⟨.configured hadmin hauth rfl rfl, ⟨rfl, rfl, rfl, rfl⟩, ⟨rfl, rfl, id⟩, .inl rfl⟩
    · simp only [chain_eq_ok, failIf_eq_ok, exists_const, pure_eq_ok_iff, Bool.not_eq_false] at hf
      obtain ⟨hallowed, rfl⟩ := hf
      exact ⟨.configured hadmin hauth rfl rfl, ⟨rfl, rfl, rfl, rfl⟩, ⟨rfl, rfl, id⟩,
        .inr hallowed⟩
  | _ => cases ha

lemma dispatch_createOrder {args : CreateArgs} {gate : Reply E Bool} {pull : Reply E Unit}
    (h : dispatch inv (.createOrder args gate pull) s = .ok s') :
    ∃ orderId, createOrder inv args gate pull s = .ok (orderId, s') := by
  rw [dispatch] at h
  cases hc : createOrder inv args gate pull s with
  | error e =>
    rw [hc] at h
    cases h
  | ok r =>
    rw [hc] at h
    cases h
    exact ⟨r.1, rfl⟩

/-- **Every call has one of the listed effects**, unless it fails. -/
theorem exec_outcome {a : Action E} (h : exec inv a s = .ok s') : Outcome inv a s s' := by
  replace h := dispatch_of_exec h
  by_cases ha : a.isGovernance = true
  · obtain ⟨-, hfunds, hconfigured, hmode⟩ := governance_step h ha
    exact .untouched (hfunds.untouched hconfigured hmode)
  cases a with
  | createOrder args gate pull =>
    obtain ⟨orderId, hc⟩ := dispatch_createOrder h
    exact .created (createOrder_created hc).1
  | claimOrder orderId preimage caller first second =>
    obtain ⟨hmode, hauth, o, hchecks, hset, -⟩ := claimOrder_settled h
    exact .claimed hmode hauth hchecks hset
  | refundOrder orderId caller first second =>
    obtain ⟨hmode, hauth, o, hchecks, hset, -⟩ := refundOrder_settled h
    exact .refunded hmode hauth hchecks hset
  | extendOrderTtl orderId => exact .untouched (extendOrderTtl_untouched h)
  | transfers moves =>
    cases h
    exact .untouched ⟨⟨rfl, rfl, id⟩, rfl, rfl, .inl rfl, rfl, Flow.of_moves moves s.balances⟩
  | restore orderId =>
    cases h
    exact .untouched (restoreOrder_untouched inv orderId s _)
  | restoreInstance =>
    cases h
    obtain ⟨-, hfunds, hconfigured, hmode⟩ := restoreInstance_funds inv s
    exact .untouched (hfunds.untouched hconfigured (.inl hmode))
  | _ => exact absurd rfl ha

/-! ### Histories -/

/-- What every call preserves holds at every point of a history where it holds at the start. -/
lemma History.invariant (h : History E) {I : State → Prop}
    (hI : ∀ c ∈ h.calls, ∀ s s', I s → Outcome c.1 c.2 s s' → I s') (hstart : I h.start) (n : ℕ) :
    I (h.stateAt n) := by
  show I ((htlc E).stateAt h.start h.calls n)
  exact Machine.stateAt_invariant (fun c hc s s' hs hok => hI c hc s s' hs (exec_outcome hok))
    hstart n

lemma History.stateAt_succ_cases (h : History E) (n : ℕ) :
    h.stateAt (n + 1) = h.stateAt n ∨ ∃ c, h.calls[n]? = some c ∧
      Outcome c.1 c.2 (h.stateAt n) (h.stateAt (n + 1)) := by
  rcases Machine.stateAt_succ_cases (htlc E) h.start h.calls n with hsame | ⟨c, hcall, hok⟩
  · exact .inl hsame
  · exact .inr ⟨c, hcall, exec_outcome hok⟩

end WaffleFinance.Soroban.Htlc

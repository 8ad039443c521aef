import WaffleFinance.Soroban.Htlc
import WaffleFinance.Lib.Machine

/-!
# Migration of the orders to a new layout

`migration.rs` takes the orders of a contract from the layout `V0` to the layout `V1`, in batches;
one that fails is rolled back.

The batch that finalises does not look at the entries outside of its own range.  So a migration is
complete if and only if that range has every entry that is still in the old layout.
-/

namespace WaffleFinance.Soroban.Migration

open Lib Htlc

/-! ### Data -/

/-- An order in the layout without timestamps. -/
structure OrderV0 where
  id : ℕ
  sender : Address
  beneficiary : Address
  refundAddress : Address
  asset : Address
  amount : ℤ
  safetyDeposit : ℤ
  hashlock : Bytes32
  timelock : ℕ
  status : OrderStatus
  preimage : Bytes
deriving DecidableEq

/-- The bytes under the key of an order, in one of the two layouts. -/
inductive Record where
  | v0 (order : OrderV0)
  | v1 (order : Order)
deriving DecidableEq

/-- The storage entry of an order, with the last ledger it is live in. -/
structure RecordEntry where
  record : Record
  liveUntil : ℕ
deriving DecidableEq

inductive Error where
  | schemaMismatch
  | migrationPreconditionFailed
  /-- The storage entry is archived. -/
  | archived
  /-- The entry has the other layout. -/
  | decodeFailed
  /-- The transaction runs out of its instruction budget. -/
  | budgetExceeded
  /-- Arithmetic overflowed. -/
  | panicOverflow
deriving DecidableEq, Repr

/-- The event of a schema transition. -/
structure SchemaEvent where
  fromVersion : ℕ
  toVersion : ℕ
  migrated : ℕ
deriving DecidableEq

/-- The part of the storage that a migration reads and writes, and the events. -/
structure State where
  schemaVersion : Option SchemaVersion
  records : ℕ → Option RecordEntry
  events : List SchemaEvent

def State.setRecord (s : State) (orderId : ℕ) (e : RecordEntry) : State :=
  { s with records := Function.update s.records orderId (some e) }

/-- What is stored about an order. -/
def State.record? (s : State) (orderId : ℕ) : Option Record :=
  (s.records orderId).map RecordEntry.record

/-! ### The functions -/

/-- The fields of an `Order` that `into_v1` gives no value to. -/
structure Unset where
  version : ℕ
  assetClass : AssetClass

/-- Upgrade an order.  The source leaves out the fields `version` and `asset_class`, which are
parameters here. -/
def OrderV0.intoV1 (unset : OrderV0 → Unset) (o : OrderV0) : Order where
  id := o.id
  version := (unset o).version
  sender := o.sender
  beneficiary := o.beneficiary
  refundAddress := o.refundAddress
  asset := o.asset
  assetClass := (unset o).assetClass
  amount := o.amount
  safetyDeposit := o.safetyDeposit
  hashlock := o.hashlock
  timelock := o.timelock
  status := o.status
  preimage := o.preimage
  createdAt := 0
  finalisedAt := 0

/-- The number of a version. -/
def versionNumber : SchemaVersion → ℕ
  | .v0 => 0
  | .v1 => 1

/-- A missing version is read as `V0`. -/
def readSchemaVersion (s : State) : SchemaVersion := s.schemaVersion.getD .v0

def writeSchemaVersion (version : SchemaVersion) (s : State) : State :=
  { s with schemaVersion := some version }

def requireMigrationPrecondition (source target : SchemaVersion) (s : State) :
    Except Error Unit := do
  let onChain := versionNumber (readSchemaVersion s)
  failIf (versionNumber target ≤ onChain) .schemaMismatch
  failIf (onChain < versionNumber source) .migrationPreconditionFailed

/-- `get::<OrderV0>`, with the last ledger the entry is live in. -/
def getLegacy (sequence orderId : ℕ) (s : State) : Except Error (Option (OrderV0 × ℕ)) :=
  match s.records orderId with
  | none => .ok none
  | some entry => do
    failIf (entry.liveUntil < sequence) .archived
    match entry.record with
    | .v0 o => pure (some (o, entry.liveUntil))
    | .v1 _ => .error .decodeFailed

/-- The body of the loop, for one id. -/
def migrateOrder (unset : OrderV0 → Unset) (sequence orderId migrated : ℕ) (s : State) :
    Except Error (ℕ × State) := do
  let legacy ← getLegacy sequence orderId s
  match legacy with
  | none => pure (migrated, s)
  | some (o, liveUntil) =>
    let extendTo := max (liveUntil - sequence) finalisedOrderTtlLedgers
    let s := s.setRecord orderId
      ⟨.v1 (o.intoV1 unset), extendTtl sequence extendTo extendTo liveUntil⟩
    let migrated ← checkedAdd 32 .panicOverflow migrated 1
    pure (migrated, s)

/-- The loop over the ids, as far as the budget goes. -/
def migrateOrders (unset : OrderV0 → Unset) (sequence : ℕ) :
    (budget : ℕ) → List ℕ → ℕ → State → Except Error (ℕ × State)
  | _, [], migrated, s => .ok (migrated, s)
  | 0, _ :: _, _, _ => .error .budgetExceeded
  | budget + 1, orderId :: ids, migrated, s => do
    let next ← migrateOrder unset sequence orderId migrated s
    migrateOrders unset sequence budget ids next.1 next.2

/-- A call of `execute_migration`: its arguments, the ledger it is made in and the number of ids
that its budget is good for. -/
structure Batch where
  sequence : ℕ
  budget : ℕ
  startOrderId : ℕ
  endOrderId : ℕ
  finalize : Bool

/-- The ids from `start_order_id` up to but not including `end_order_id`. -/
def Batch.ids (b : Batch) : List ℕ := List.range' b.startOrderId (b.endOrderId - b.startOrderId)

/-- Migrate a range of orders; returns how many, and the schema version afterwards. -/
def executeMigration (unset : OrderV0 → Unset) (b : Batch) (s : State) :
    Except Error ((ℕ × SchemaVersion) × State) := do
  let fromVersion := readSchemaVersion s
  requireMigrationPrecondition .v0 .v1 s
  let result ← migrateOrders unset b.sequence b.budget b.ids 0 s
  if b.finalize then
    let s := writeSchemaVersion .v1 result.2
    let event : SchemaEvent := ⟨versionNumber fromVersion, versionNumber .v1, result.1⟩
    pure ((result.1, .v1), { s with events := s.events ++ [event] })
  else pure ((result.1, fromVersion), result.2)

/-- Migration as a machine: a batch that fails is rolled back. -/
def migration (unset : OrderV0 → Unset) : Machine State Batch Error where
  exec := fun b s => (executeMigration unset b s).map Prod.snd

/-! ### What a batch does -/

section Batches

variable {unset : OrderV0 → Unset}

/-- What a record becomes. -/
def Record.upgraded (unset : OrderV0 → Unset) : Record → Record
  | .v0 o => .v1 (o.intoV1 unset)
  | .v1 o => .v1 o

lemma map_upgraded_twice (r : Option Record) :
    (r.map (Record.upgraded unset)).map (Record.upgraded unset) =
      r.map (Record.upgraded unset) := by
  rw [Option.map_map]
  congr 1
  funext r
  cases r <;> rfl

lemma record?_setRecord (s : State) (orderId : ℕ) (e : RecordEntry) :
    (s.setRecord orderId e).record? = Function.update s.record? orderId (some e.record) := by
  ext1 i
  by_cases hi : i = orderId
  · subst hi
    simp [State.record?, State.setRecord]
  · simp [State.record?, State.setRecord, hi]

lemma migrateOrder_record {sequence orderId migrated migrated' : ℕ} {s s' : State}
    (h : migrateOrder unset sequence orderId migrated s = .ok (migrated', s')) :
    s'.schemaVersion = s.schemaVersion ∧
      s'.record? = Function.update s.record? orderId
        ((s.record? orderId).map (Record.upgraded unset)) := by
  simp only [migrateOrder, chain_eq_ok] at h
  obtain ⟨legacy, hlegacy, h⟩ := h
  rw [getLegacy] at hlegacy
  cases hrecord : s.records orderId with
  | none =>
    rw [hrecord] at hlegacy
    cases hlegacy
    cases h
    refine ⟨rfl, (Function.update_eq_self_iff.2 ?_).symm⟩
    simp [State.record?, hrecord]
  | some entry =>
    rw [hrecord] at hlegacy
    obtain ⟨record, liveUntil⟩ := entry
    cases record with
    | v1 o =>
      -- an entry that is migrated already does not decode
      simp only [chain_eq_ok] at hlegacy
      obtain ⟨-, -, hlegacy⟩ := hlegacy
      cases hlegacy
    | v0 o =>
      simp only [chain_eq_ok, pure_eq_ok_iff] at hlegacy
      obtain ⟨-, -, rfl⟩ := hlegacy
      simp only [chain_eq_ok, pure_eq_ok_iff, Prod.mk.injEq] at h
      obtain ⟨-, -, -, rfl⟩ := h
      refine ⟨rfl, ?_⟩
      rw [record?_setRecord]
      simp [State.record?, hrecord, Record.upgraded]

lemma migrateOrders_record {sequence budget : ℕ} {ids : List ℕ} {migrated migrated' : ℕ}
    {s s' : State} (h : migrateOrders unset sequence budget ids migrated s = .ok (migrated', s')) :
    s'.schemaVersion = s.schemaVersion ∧ ∀ i, s'.record? i =
      if i ∈ ids then (s.record? i).map (Record.upgraded unset) else s.record? i := by
  induction ids generalizing budget migrated s with
  | nil =>
    rw [migrateOrders] at h
    cases h
    exact ⟨rfl, fun i => by simp⟩
  | cons orderId ids ih =>
    cases budget with
    | zero =>
      rw [migrateOrders] at h
      cases h
    | succ budget =>
      rw [migrateOrders, chain_eq_ok] at h
      obtain ⟨⟨m, s₁⟩, hfirst, hrest⟩ := h
      obtain ⟨hversion, hrecord⟩ := migrateOrder_record hfirst
      obtain ⟨hversion', hrecord'⟩ := ih hrest
      refine ⟨hversion'.trans hversion, fun i => ?_⟩
      rw [hrecord' i, hrecord]
      by_cases hi : i = orderId
      · subst hi
        rw [Function.update_self, if_pos (List.mem_cons_self ..), map_upgraded_twice, ite_self]
      · rw [Function.update_of_ne hi]
        simp [hi]

lemma Batch.mem_ids {b : Batch} {i : ℕ} :
    i ∈ b.ids ↔ b.startOrderId ≤ i ∧ i < b.endOrderId := by
  rw [Batch.ids, List.mem_range'_1]
  omega

/-- What a batch that succeeds does. -/
lemma exec_ok {b : Batch} {s s' : State} (h : (migration unset).exec b s = .ok s') :
    readSchemaVersion s = .v0 ∧
      s'.schemaVersion = (if b.finalize then some .v1 else s.schemaVersion) ∧
      ∀ i, s'.record? i = if b.startOrderId ≤ i ∧ i < b.endOrderId
        then (s.record? i).map (Record.upgraded unset) else s.record? i := by
  change (executeMigration unset b s).map Prod.snd = .ok s' at h
  cases hexec : executeMigration unset b s with
  | error e =>
    rw [hexec] at h
    cases h
  | ok r =>
    rw [hexec] at h
    obtain rfl : r.2 = s' := Except.ok.inj h
    simp only [executeMigration, requireMigrationPrecondition, chain_eq_ok, failIf_eq_ok,
      exists_const] at hexec
    obtain ⟨⟨hversion, -⟩, ⟨m, s₁⟩, hloop, hexec⟩ := hexec
    obtain ⟨hsame, hrecord⟩ := migrateOrders_record hloop
    have hold : readSchemaVersion s = .v0 := by
      cases hv : readSchemaVersion s with
      | v0 => rfl
      | v1 =>
        rw [hv] at hversion
        exact absurd le_rfl hversion
    simp only [Batch.mem_ids] at hrecord
    split_ifs at hexec with hfinal
    · rw [pure_eq_ok_iff] at hexec
      subst hexec
      exact ⟨hold, by simp [writeSchemaVersion, hfinal], hrecord⟩
    · rw [pure_eq_ok_iff] at hexec
      subst hexec
      exact ⟨hold, by simp [hfinal, hsame], hrecord⟩

/-! ### Whole migrations -/

/-- An order of the new layout has the fields of the old one. -/
structure Carries (o : OrderV0) (o' : Order) : Prop where
  id : o'.id = o.id
  sender : o'.sender = o.sender
  beneficiary : o'.beneficiary = o.beneficiary
  refundAddress : o'.refundAddress = o.refundAddress
  asset : o'.asset = o.asset
  amount : o'.amount = o.amount
  safetyDeposit : o'.safetyDeposit = o.safetyDeposit
  hashlock : o'.hashlock = o.hashlock
  timelock : o'.timelock = o.timelock
  status : o'.status = o.status
  preimage : o'.preimage = o.preimage

lemma carries_intoV1 (o : OrderV0) : Carries o (o.intoV1 unset) :=
  ⟨rfl, rfl, rfl, rfl, rfl, rfl, rfl, rfl, rfl, rfl, rfl⟩

/-- The migration from `s` to `s'` is complete: the version is the new one, every order is in the
new layout with its fields, and no record is left in the old one. -/
structure Complete (s s' : State) : Prop where
  current : s'.schemaVersion = some .v1
  carried : ∀ i o, s.record? i = some (.v0 o) → ∃ o', s'.record? i = some (.v1 o') ∧ Carries o o'
  noneLeft : ∀ i o, s'.record? i ≠ some (.v0 o)

/-- Some of the records are upgraded, and the others as they were. -/
def Upgrading (unset : OrderV0 → Unset) (s s' : State) : Prop :=
  ∀ i, s'.record? i = s.record? i ∨ s'.record? i = (s.record? i).map (Record.upgraded unset)

lemma Upgrading.exec {b : Batch} {s s₁ s₂ : State} (h : Upgrading unset s s₁)
    (hok : (migration unset).exec b s₁ = .ok s₂) : Upgrading unset s s₂ := by
  intro i
  rw [(exec_ok hok).2.2 i]
  split_ifs with hi
  · right
    rcases h i with hsame | hup
    · rw [hsame]
    · rw [hup, map_upgraded_twice]
  · exact h i

lemma Upgrading.run (s : State) (bs : List Batch) :
    Upgrading unset s ((migration unset).run s bs) :=
  Machine.run_invariant (I := Upgrading unset s) (fun _ _ _ _ hs hok => hs.exec hok)
    fun _ => .inl rfl

end Batches

/-- **When a migration is complete.**  After any batches on any store, a batch that finalises and
succeeds completes the migration if and only if its range has every record that is still in the
old layout. -/
theorem migration_complete_iff (unset : OrderV0 → Unset) (s : State) (bs : List Batch)
    (last : Batch) (hlast : last.finalize = true) (s' : State)
    (hok : (migration unset).exec last ((migration unset).run s bs) = .ok s') :
    Complete s s' ↔ ∀ i o, ((migration unset).run s bs).record? i = some (.v0 o) →
      last.startOrderId ≤ i ∧ i < last.endOrderId := by
  obtain ⟨-, hversion, hrecord⟩ := exec_ok hok
  have hbefore : Upgrading unset s ((migration unset).run s bs) := .run s bs
  constructor
  · -- a record outside of the range stays in the old layout
    intro hcomplete i o hi
    by_contra hout
    have hsame := hrecord i
    rw [if_neg hout, hi] at hsame
    exact hcomplete.noneLeft i o hsame
  · intro hrange
    have hafter := hbefore.exec hok
    refine ⟨by rw [hversion, if_pos hlast], ?_, ?_⟩
    · intro i o hi
      refine ⟨o.intoV1 unset, ?_, carries_intoV1 o⟩
      rw [hrecord i]
      rcases hbefore i with hsame | hup
      · -- still in the old layout before the last batch
        rw [hi] at hsame
        rw [if_pos (hrange i o hsame), hsame]
        rfl
      · rw [hi] at hup
        rw [hup]
        split_ifs <;> rfl
    · intro i o hi
      rw [hrecord i] at hi
      split_ifs at hi with hin
      · -- no record in the range is in the old layout any more
        cases hr : ((migration unset).run s bs).record? i with
        | none =>
          rw [hr] at hi
          cases hi
        | some r =>
          rw [hr] at hi
          cases r <;> cases hi
      · exact hin (hrange i o hi)

namespace Sample

open Soroban.Sample

def order : OrderV0 where
  id := 1
  sender := alice
  beneficiary := bob
  refundAddress := alice
  asset := token
  amount := 100
  safetyDeposit := 10
  hashlock := 5
  timelock := 1300
  status := .funded
  preimage := []

/-- A contract with one order of the old layout. -/
def start : State where
  schemaVersion := none
  records := fun i => if i = 1 then some ⟨.v0 order, 1000⟩ else none
  events := []

def unset : OrderV0 → Unset := fun _ => ⟨1, .token⟩

/-- A batch of one id that does not finalise. -/
def first : Batch where
  sequence := 10
  budget := 5
  startOrderId := 1
  endOrderId := 2
  finalize := false

/-- A batch of no ids that finalises. -/
def empty : Batch where
  sequence := 11
  budget := 5
  startOrderId := 2
  endOrderId := 2
  finalize := true

end Sample

/-- With the order migrated before, the empty batch completes the migration. -/
theorem migration_complete_sample :
    ∃ s', (migration Sample.unset).exec Sample.empty
      ((migration Sample.unset).run Sample.start [Sample.first]) = .ok s' ∧
      Complete Sample.start s' := by
  refine ⟨_, rfl, (migration_complete_iff Sample.unset Sample.start
    [Sample.first] Sample.empty rfl _ rfl).2 ?_⟩
  intro i o hi
  by_cases h1 : i = 1
  · subst h1
    cases hi
  have hnone : ((migration Sample.unset).run Sample.start [Sample.first]).record? i = none := by
    show ((Function.update Sample.start.records 1 _) i).map RecordEntry.record = none
    simp [Sample.start, h1]
  rw [hnone] at hi
  cases hi

/-- Without it the empty batch succeeds as well: the version is the new one, and the order is
left in the old layout. -/
theorem finalised_with_legacy_order :
    ∃ s', (migration Sample.unset).exec Sample.empty Sample.start = .ok s' ∧
      s'.schemaVersion = some .v1 ∧ s'.record? 1 = some (.v0 Sample.order) ∧
      ¬ Complete Sample.start s' := by
  refine ⟨_, rfl, rfl, rfl, ?_⟩
  intro h
  exact h.noneLeft 1 Sample.order rfl

end WaffleFinance.Soroban.Migration

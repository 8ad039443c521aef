import WaffleFinance.Coordinator.EventSpec

/-!
# Deliveries

Events reach the coordinator one after the other, through the reconciler or through the listeners.
A delivery changes the database and what the process remembers of earlier ones.  What it can do to
the orders is its `Reaction`: where the order is looked up, and the job that comes of it.
-/

namespace WaffleFinance.Coordinator

open Lib OrdersRepository SorobanListener Fallible
open SolanaListener (watch handleLogs)
open Option (bind_eq_some_iff some map_eq_some_iff map_eq_none_iff map)

/-! ### The machine -/

/-- An event on one of the five ways, or the start of a run of the reconciler or of the process. -/
inductive Delivery where
  | ethCreated (log : EthCreated)
  | ethClaimed (log : EthClaimed)
  | ethRefunded (log : EthRefunded)
  | sorobanReconciler (ev : SorobanEvent) (eventIndex : ℕ)
  | solanaReconciler (tx : SolanaTx)
  | sorobanListener (ev : SorobanEvent) (path : WorkflowPath)
  | solanaListener (tx : SolanaTx)
  | newRun
  | restart

/-- What the process remembers. -/
structure Memory where
  seen : EventSeenSet
  soroban : List SorobanListener.Key
  solana : List Text

def Memory.fresh : Memory := ⟨.empty, [], []⟩

/-- The outcome of a service that runs alone, with what goes wrong in it. -/
def performed {α : Type} (x : Serve α) (rs : Answers Call fun _ => Fate) (d : Db) :
    Except ServiceError α × Db :=
  ((Process.play x.run rs d).1, (Process.play x.run rs d).2.2)

/-- An event that the reconciler has not seen in this run. -/
def deliverEntry (replay : Entry → Serve Bool) (entry : Option Entry)
    (rs : Answers Call fun _ => Fate) (s : Db × Memory) : Db × Memory :=
  match entry with
  | none => s
  | some e =>
    match s.2.seen.checkAndMark e.key e.semKey with
    | (some _, seen) => (s.1, { s.2 with seen := seen })
    | (none, seen) => ((performed (replay e) rs s.1).2, { s.2 with seen := seen })

/-- The value of a service that does not throw. -/
def valueOr {α : Type} (a : α) : Except ServiceError α → α
  | .ok b => b
  | .error _ => a

def Delivery.deliver (hashes : Hashes) (rs : Answers Call fun _ => Fate) (s : Db × Memory) :
    Delivery → Db × Memory
  | ethCreated log => deliverEntry Reconciler.replayEntry log.entry rs s
  | ethClaimed log => deliverEntry Reconciler.replayEntry (log.entry hashes) rs s
  | ethRefunded log => deliverEntry Reconciler.replayEntry log.entry rs s
  | sorobanReconciler ev eventIndex =>
    deliverEntry Reconciler.replayEntry (ev.entry hashes eventIndex) rs s
  | solanaReconciler tx => deliverEntry (fun e => e.handling.replay) (tx.entry hashes) rs s
  | sorobanListener ev path =>
    let r := performed (SorobanListener.processSorobanEvent s.2.soroban ev path) rs s.1
    (r.2, { s.2 with soroban := valueOr s.2.soroban r.1 })
  | solanaListener tx =>
    let r := performed (SolanaListener.handleLogs s.2.solana tx) rs s.1
    (r.2, { s.2 with solana := valueOr s.2.solana r.1 })
  | newRun => (s.1, { s.2 with seen := .empty })
  | restart => (s.1, .fresh)

abbrev Deliveries := List (Delivery × Answers Call fun _ => Fate)

def deliveryMachine (hashes : Hashes) :
    Machine (Db × Memory) (Delivery × Answers Call fun _ => Fate) Unit where
  exec x s := .ok (x.1.deliver hashes x.2 s)

/-- The database and the memory after the first `n` deliveries. -/
def deliveredAt (hashes : Hashes) (d : Db) (xs : Deliveries) (n : ℕ) : Db × Memory :=
  (deliveryMachine hashes).stateAt (d, .fresh) xs n

/-! ### Reactions -/

/-- Where the order is looked up and what is done for it. -/
structure Reaction where
  lookups : List Lookup
  job : Text → OrderRow → Option Job

namespace Delivery

variable (hashes : Hashes)

def ofEntry (e : Entry) : Reaction := ⟨[e.handling.lookup], e.handling.job⟩

def ofWatch (w : Watch) : Reaction := ⟨w.lookups, w.jobFor⟩

def reaction : Delivery → Option Reaction
  | ethCreated log => log.entry.map ofEntry
  | ethClaimed log => (log.entry hashes).map ofEntry
  | ethRefunded log => log.entry.map ofEntry
  | sorobanReconciler ev eventIndex => (ev.entry hashes eventIndex).map ofEntry
  | solanaReconciler tx => (tx.entry hashes).map ofEntry
  | sorobanListener ev path => (SorobanListener.decode ev path).map fun kw => ofWatch kw.2
  | solanaListener tx => (SolanaListener.watch tx).map ofWatch
  | newRun => none
  | restart => none

end Delivery

/-! ### Jobs of the three kinds of events -/

section Jobs

variable {hashes : Hashes} {chain : Chain} {p : Text} {r : OrderRow} {j : Job}

lemma job_eq_some {h : Handling} (hj : h.job p r = some j) :
    ∃ position, h.position = some position ∧ h.alreadyApplied r = false ∧
      h.plan p r position = .apply j := by
  obtain ⟨position, hposition, hat⟩ := bind_eq_some_iff.1 hj
  unfold Handling.jobAt at hat
  split at hat
  · cases hat
  split at hat
  · rename_i happly
    refine ⟨position, hposition, ?_, ?_⟩
    · cases happlied : h.alreadyApplied r with
      | false => rfl
      | true =>
        rw [happlied, decideDispatch_alreadyApplied] at happly
        cases happly
    · cases hplan : h.plan p r position with
      | drop => simp [hplan] at hat
      | pass => simp [hplan] at hat
      | apply j' =>
        rw [hplan] at hat
        rw [some.inj hat]
  · cases hat

variable {position : Option ℕ} {last : Option EventKey}

lemma createdHandling_job {hashlock : Text} {lock : Text → ℕ → Option SrcLockInput}
    (hj : (createdHandling chain hashlock position lock last).job p r = some j) :
    ∃ pos input, position = some pos ∧ lock p pos = some input ∧ j = .recordSrcLock input ∧
      r.srcOrderId = none := by
  obtain ⟨pos, hposition, happlied, hplan⟩ := job_eq_some hj
  obtain ⟨input, hinput, rfl⟩ := createdHandling_plan hplan
  exact ⟨pos, input, hposition, hinput, rfl, by simpa [createdHandling] using happlied⟩

lemma claimedHandling_job {orderId preimage txHash : Text}
    (hj : (claimedHandling hashes chain orderId position preimage txHash last).job p r = some j) :
    j = .recordSecret p preimage txHash none ∧ r.preimage = none := by
  obtain ⟨pos, -, happlied, hplan⟩ := job_eq_some hj
  exact ⟨claimedHandling_plan hplan, by simpa [claimedHandling] using happlied⟩

lemma refundedHandling_job {orderId : Text}
    (hj : (refundedHandling chain orderId position last).job p r = some j) :
    j = .markStatus p .refunded := by
  obtain ⟨pos, -, -, hplan⟩ := job_eq_some hj
  exact refundedHandling_plan hplan

lemma jobFor_eq_some {w : Watch} (hj : w.jobFor p r = some j) :
    w.alreadyApplied r = false ∧ j = w.job p := by
  unfold Watch.jobFor at hj
  split at hj
  · rename_i happly
    refine ⟨?_, (some.inj hj).symm⟩
    cases happlied : w.alreadyApplied r with
    | false => rfl
    | true =>
      rw [happlied, decideDispatch_alreadyApplied] at happly
      cases happly
  · cases hj

variable {lookups : List Lookup} {path : WorkflowPath}

lemma createdWatch_job {position : ℕ} {lock : Text → SrcLockInput}
    (hj : (createdWatch lookups path position lock).jobFor p r = some j) :
    j = .recordSrcLock (lock p) ∧ r.srcOrderId = none := by
  obtain ⟨happlied, rfl⟩ := jobFor_eq_some hj
  exact ⟨rfl, by simpa [createdWatch] using happlied⟩

lemma claimedWatch_job {position : ℕ} {preimage txHash : Text}
    (hj : (claimedWatch lookups path position preimage txHash).jobFor p r = some j) :
    j = .recordSecret p preimage txHash none ∧ r.preimage = none := by
  obtain ⟨happlied, rfl⟩ := jobFor_eq_some hj
  exact ⟨rfl, by simpa [claimedWatch] using happlied⟩

lemma refundedWatch_job {position : ℕ}
    (hj : (refundedWatch lookups path position).jobFor p r = some j) :
    j = .markStatus p .refunded :=
  (jobFor_eq_some hj).2

end Jobs

/-! ### Deposits -/

/-- A deposit as it was reported, with its hashlock as it is looked up.  Numbers that are not exact
are missing. -/
structure Created where
  chain : Chain
  hashlock : Text
  deposit : Deposit
  orderId : Text
  txHash : Text
  position : Option ℕ
  timelock : Option ℕ

/-- A claim as it was reported. -/
structure Claimed where
  chain : Chain
  orderId : Text
  preimage : Text

/-- The columns of the source lock are those of the deposit. -/
def Created.Fills (c : Created) (r : OrderRow) : Prop :=
  r.srcLock = (some c.orderId, some c.txHash, c.position, c.timelock)

namespace Delivery

def created : Delivery → Option Created
  | ethCreated log => do
    let hashlock ← truthy log.hashlock
    let orderId ← log.orderId
    pure ⟨.ethereum, hashlock, log.deposit, decimal orderId, log.place.txHash, log.place.block,
      safeToNumber log.timelock⟩
  | sorobanReconciler ev _ =>
    match ev.decoded with
    | some (.created orderId hashlock timelock deposit) =>
      some ⟨.stellar, hashlock, deposit, decimal orderId, ev.txHash, some ev.ledger, some timelock⟩
    | _ => none
  | solanaReconciler tx =>
    if tx.eventType = some .orderCreated then do
      let hashlock ← truthy tx.payload.hashlock
      let orderId ← truthy tx.payload.orderId
      pure ⟨.solana, hashlock, tx.deposit, orderId, tx.signature, some tx.slot,
        some (tx.payload.timelock.getD 0)⟩
    else none
  | sorobanListener ev _ =>
    match ev.decoded with
    | some (.created orderId hashlock timelock deposit) =>
      some ⟨.stellar, SorobanListener.withHex hashlock, deposit, decimal orderId, ev.txHash,
        some ev.ledger, some timelock⟩
    | _ => none
  | solanaListener tx =>
    if tx.eventType = some .orderCreated then do
      let hashlock ← truthy (tx.payload.hashlock <|> tx.payload.hash_lock)
      let orderId ← truthy (tx.payload.orderId <|> tx.payload.order_id)
      let timelock ← tx.payload.timelock <|> tx.payload.time_lock
      pure ⟨.solana, hashlock, tx.deposit, orderId, tx.signature, some tx.slot, some timelock⟩
    else none
  | _ => none

def claimed : Delivery → Option Claimed
  | ethClaimed log => do
    let orderId ← nonzero log.orderId
    let preimage ← truthy log.preimage
    pure ⟨.ethereum, decimal orderId, preimage⟩
  | sorobanReconciler ev _ =>
    match ev.decoded with
    | some (.claimed orderId _ preimage) => some ⟨.stellar, decimal orderId, preimage⟩
    | _ => none
  | solanaReconciler tx =>
    if tx.eventType = some .orderClaimed then do
      let preimage ← truthy tx.payload.preimage
      let orderId ← truthy tx.payload.orderId
      pure ⟨.solana, orderId, preimage⟩
    else none
  | sorobanListener ev _ =>
    match ev.decoded with
    | some (.claimed orderId _ preimage) => some ⟨.stellar, decimal orderId, preimage⟩
    | _ => none
  | solanaListener tx =>
    if tx.eventType = some .orderClaimed then do
      let preimage ← truthy tx.payload.preimage
      let orderId ← truthy tx.payload.orderId
      pure ⟨.solana, orderId, preimage⟩
    else none
  | _ => none

/-- The jobs that a delivery can come to. -/
inductive Works (x : Delivery) (ρ : Reaction) (p : Text) (r : OrderRow) : Job → Prop
  | locks {c : Created} {input : SrcLockInput} (created_eq : x.created = some c)
      (lookups_eq : ρ.lookups = [.byHashlock c.hashlock]) (unlocked : r.srcOrderId = none)
      (publicId_eq : input.publicId = p) (orderId_eq : input.orderId = c.orderId)
      (txHash_eq : input.txHash = c.txHash) (position_eq : some input.blockNumber = c.position)
      (timelock_eq : some input.timelock = c.timelock) : Works x ρ p r (.recordSrcLock input)
  | reveals (created_eq : x.created = none) (preimage txHash : Text) :
      Works x ρ p r (.recordSecret p preimage txHash none)
  | refunds (created_eq : x.created = none) : Works x ρ p r (.markStatus p .refunded)

variable {hashes : Hashes} {x : Delivery} {ρ : Reaction} {p : Text} {r : OrderRow} {j : Job}

/-- What a delivery comes to: a deposit is looked up by its hashlock, every job comes from the
event, and that of a claim is its preimage, unless the order has one. -/
structure Reacts (x : Delivery) (ρ : Reaction) : Prop where
  lookups : ∀ {c}, x.created = some c → ρ.lookups = [.byHashlock c.hashlock]
  works : ∀ {p r j}, ρ.job p r = some j → Works x ρ p r j
  reveals : ∀ {c p r j}, x.claimed = some c → ρ.job p r = some j →
    ∃ txHash, j = .recordSecret p c.preimage txHash none ∧ r.preimage = none

lemma Reacts.of_created {c : Created} (hcreated : x.created = some c) (hclaimed : x.claimed = none)
    (hlookups : ρ.lookups = [.byHashlock c.hashlock])
    (hworks : ∀ {p r j}, ρ.job p r = some j → Works x ρ p r j) : Reacts x ρ := by
  refine ⟨fun h => ?_, hworks, fun h => ?_⟩
  · obtain rfl := some.inj (hcreated.symm.trans h)
    exact hlookups
  · rw [hclaimed] at h
    cases h

lemma Reacts.of_claimed {c : Claimed} (hcreated : x.created = none) (hclaimed : x.claimed = some c)
    (hjob : ∀ {p r j}, ρ.job p r = some j →
      ∃ txHash, j = .recordSecret p c.preimage txHash none ∧ r.preimage = none) : Reacts x ρ := by
  refine ⟨fun h => ?_, fun hj => ?_, fun h hj => ?_⟩
  · rw [hcreated] at h
    cases h
  · obtain ⟨txHash, rfl, -⟩ := hjob hj
    exact .reveals hcreated _ _
  · obtain rfl := some.inj (hclaimed.symm.trans h)
    exact hjob hj

lemma Reacts.of_refunded (hcreated : x.created = none) (hclaimed : x.claimed = none)
    (hjob : ∀ {p r j}, ρ.job p r = some j → j = .markStatus p .refunded) : Reacts x ρ := by
  refine ⟨fun h => ?_, fun hj => ?_, fun h => ?_⟩
  · rw [hcreated] at h
    cases h
  · obtain rfl := hjob hj
    exact .refunds hcreated
  · rw [hclaimed] at h
    cases h

lemma reacts_ethCreated {log : EthCreated} (hρ : (ethCreated log).reaction hashes = some ρ) :
    Reacts (ethCreated log) ρ := by
  obtain ⟨e, he, rfl⟩ := map_eq_some_iff.1 hρ
  obtain ⟨hashlock, hhashlock, he⟩ := bind_eq_some_iff.1 he
  obtain ⟨orderId, horderId, he⟩ := bind_eq_some_iff.1 he
  cases he
  have hcreated : (ethCreated log).created = some ⟨.ethereum, hashlock, log.deposit,
      decimal orderId, log.place.txHash, log.place.block, safeToNumber log.timelock⟩ := by
    simp [created, hhashlock, horderId]
  refine .of_created hcreated rfl rfl fun hj => ?_
  dsimp only [ofEntry] at hj
  obtain ⟨position, input, hposition, hlock, rfl, hunlocked⟩ := createdHandling_job hj
  obtain ⟨timelock, htimelock, rfl⟩ := map_eq_some_iff.1 hlock
  exact .locks hcreated rfl hunlocked rfl rfl rfl hposition.symm htimelock.symm

lemma reacts_ethClaimed {log : EthClaimed} (hρ : (ethClaimed log).reaction hashes = some ρ) :
    Reacts (ethClaimed log) ρ := by
  obtain ⟨e, he, rfl⟩ := map_eq_some_iff.1 hρ
  obtain ⟨orderId, horderId, he⟩ := bind_eq_some_iff.1 he
  obtain ⟨preimage, hpreimage, he⟩ := bind_eq_some_iff.1 he
  cases he
  have hclaimed : (ethClaimed log).claimed = some ⟨.ethereum, decimal orderId, preimage⟩ := by
    simp [claimed, horderId, hpreimage]
  refine .of_claimed rfl hclaimed fun hj => ?_
  dsimp only [ofEntry] at hj
  exact ⟨_, claimedHandling_job hj⟩

lemma reacts_ethRefunded {log : EthRefunded} (hρ : (ethRefunded log).reaction hashes = some ρ) :
    Reacts (ethRefunded log) ρ := by
  obtain ⟨e, he, rfl⟩ := map_eq_some_iff.1 hρ
  obtain ⟨orderId, -, he⟩ := bind_eq_some_iff.1 he
  cases he
  refine .of_refunded rfl rfl fun hj => ?_
  dsimp only [ofEntry] at hj
  exact refundedHandling_job hj

lemma reacts_sorobanReconciler {ev : SorobanEvent} {eventIndex : ℕ}
    (hρ : (sorobanReconciler ev eventIndex).reaction hashes = some ρ) :
    Reacts (sorobanReconciler ev eventIndex) ρ := by
  obtain ⟨e, he, rfl⟩ := map_eq_some_iff.1 hρ
  obtain ⟨decoded, hdecoded, he⟩ := bind_eq_some_iff.1 he
  cases decoded with
  | created orderId hashlock timelock deposit =>
    cases he
    have hcreated : (sorobanReconciler ev eventIndex).created = some ⟨.stellar, hashlock, deposit,
        decimal orderId, ev.txHash, some ev.ledger, some timelock⟩ := by
      simp [created, hdecoded]
    refine .of_created hcreated (by simp [claimed, hdecoded]) rfl fun hj => ?_
    dsimp only [ofEntry] at hj
    obtain ⟨position, input, hposition, hlock, rfl, hunlocked⟩ := createdHandling_job hj
    cases hlock
    exact .locks hcreated rfl hunlocked rfl rfl rfl hposition.symm rfl
  | claimed orderId hashlock preimage =>
    cases he
    have hclaimed : (sorobanReconciler ev eventIndex).claimed =
        some ⟨.stellar, decimal orderId, preimage⟩ := by
      simp [claimed, hdecoded]
    refine .of_claimed (by simp [created, hdecoded]) hclaimed fun hj => ?_
    dsimp only [ofEntry] at hj
    exact ⟨_, claimedHandling_job hj⟩
  | refunded orderId hashlock =>
    cases he
    refine .of_refunded (by simp [created, hdecoded]) (by simp [claimed, hdecoded]) fun hj => ?_
    dsimp only [ofEntry] at hj
    exact refundedHandling_job hj

lemma reacts_solanaReconciler {tx : SolanaTx}
    (hρ : (solanaReconciler tx).reaction hashes = some ρ) : Reacts (solanaReconciler tx) ρ := by
  obtain ⟨e, he, rfl⟩ := map_eq_some_iff.1 hρ
  obtain ⟨eventType, htype, he⟩ := bind_eq_some_iff.1 he
  cases eventType with
  | orderCreated =>
    obtain ⟨hashlock, hhashlock, he⟩ := bind_eq_some_iff.1 he
    obtain ⟨orderId, horderId, he⟩ := bind_eq_some_iff.1 he
    cases he
    have hcreated : (solanaReconciler tx).created = some ⟨.solana, hashlock, tx.deposit, orderId,
        tx.signature, some tx.slot, some (tx.payload.timelock.getD 0)⟩ := by
      simp [created, htype, hhashlock, horderId]
    refine .of_created hcreated (by simp [claimed, htype]) rfl fun hj => ?_
    dsimp only [ofEntry] at hj
    obtain ⟨position, input, hposition, hlock, rfl, hunlocked⟩ := createdHandling_job hj
    cases hlock
    exact .locks hcreated rfl hunlocked rfl rfl rfl hposition.symm rfl
  | orderClaimed =>
    obtain ⟨preimage, hpreimage, he⟩ := bind_eq_some_iff.1 he
    obtain ⟨orderId, horderId, he⟩ := bind_eq_some_iff.1 he
    cases he
    have hclaimed : (solanaReconciler tx).claimed = some ⟨.solana, orderId, preimage⟩ := by
      simp [claimed, htype, hpreimage, horderId]
    refine .of_claimed (by simp [created, htype]) hclaimed fun hj => ?_
    dsimp only [ofEntry] at hj
    exact ⟨_, claimedHandling_job hj⟩
  | orderRefunded =>
    obtain ⟨orderId, -, he⟩ := bind_eq_some_iff.1 he
    cases he
    refine .of_refunded (by simp [created, htype]) (by simp [claimed, htype]) fun hj => ?_
    dsimp only [ofEntry] at hj
    exact refundedHandling_job hj

lemma reacts_sorobanListener {ev : SorobanEvent} {path : WorkflowPath}
    (hρ : (sorobanListener ev path).reaction hashes = some ρ) :
    Reacts (sorobanListener ev path) ρ := by
  obtain ⟨kw, hdecode, rfl⟩ := map_eq_some_iff.1 hρ
  unfold decode at hdecode
  split at hdecode
  · cases hdecode
  obtain ⟨decoded, hdecoded, rfl⟩ := map_eq_some_iff.1 hdecode
  cases decoded with
  | created orderId hashlock timelock deposit =>
    have hcreated : (sorobanListener ev path).created = some ⟨.stellar,
        withHex hashlock, deposit, decimal orderId, ev.txHash, some ev.ledger,
        some timelock⟩ := by
      simp [created, hdecoded]
    refine .of_created hcreated (by simp [claimed, hdecoded]) rfl fun hj => ?_
    obtain ⟨rfl, hunlocked⟩ := createdWatch_job hj
    exact .locks hcreated rfl hunlocked rfl rfl rfl rfl rfl
  | claimed orderId hashlock preimage =>
    have hclaimed : (sorobanListener ev path).claimed =
        some ⟨.stellar, decimal orderId, preimage⟩ := by
      simp [claimed, hdecoded]
    exact .of_claimed (by simp [created, hdecoded]) hclaimed fun hj => ⟨_, claimedWatch_job hj⟩
  | refunded orderId hashlock =>
    exact .of_refunded (by simp [created, hdecoded]) (by simp [claimed, hdecoded])
      fun hj => refundedWatch_job hj

lemma reacts_solanaListener {tx : SolanaTx} (hρ : (solanaListener tx).reaction hashes = some ρ) :
    Reacts (solanaListener tx) ρ := by
  obtain ⟨w, hw, rfl⟩ := map_eq_some_iff.1 hρ
  obtain ⟨eventType, htype, hw⟩ := bind_eq_some_iff.1 hw
  cases eventType with
  | orderCreated =>
    obtain ⟨hashlock, hhashlock, hw⟩ := bind_eq_some_iff.1 hw
    obtain ⟨orderId, horderId, hw⟩ := bind_eq_some_iff.1 hw
    obtain ⟨timelock, htimelock, hw⟩ := bind_eq_some_iff.1 hw
    cases hw
    have hcreated : (solanaListener tx).created = some ⟨.solana, hashlock, tx.deposit, orderId,
        tx.signature, some tx.slot, some timelock⟩ := by
      simp only [created, htype, if_true, hhashlock, horderId, htimelock]
      rfl
    refine .of_created hcreated (by simp [claimed, htype]) rfl fun hj => ?_
    obtain ⟨rfl, hunlocked⟩ := createdWatch_job hj
    exact .locks hcreated rfl hunlocked rfl rfl rfl rfl rfl
  | orderClaimed =>
    obtain ⟨preimage, hpreimage, hw⟩ := bind_eq_some_iff.1 hw
    obtain ⟨orderId, horderId, hw⟩ := bind_eq_some_iff.1 hw
    cases hw
    have hclaimed : (solanaListener tx).claimed = some ⟨.solana, orderId, preimage⟩ := by
      simp [claimed, htype, hpreimage, horderId]
    exact .of_claimed (by simp [created, htype]) hclaimed fun hj => ⟨_, claimedWatch_job hj⟩
  | orderRefunded =>
    obtain ⟨orderId, -, hw⟩ := bind_eq_some_iff.1 hw
    cases hw
    exact .of_refunded (by simp [created, htype]) (by simp [claimed, htype])
      fun hj => refundedWatch_job hj

lemma reacts (hρ : x.reaction hashes = some ρ) : Reacts x ρ := by
  cases x with
  | ethCreated log => exact reacts_ethCreated hρ
  | ethClaimed log => exact reacts_ethClaimed hρ
  | ethRefunded log => exact reacts_ethRefunded hρ
  | sorobanReconciler ev eventIndex => exact reacts_sorobanReconciler hρ
  | solanaReconciler tx => exact reacts_solanaReconciler hρ
  | sorobanListener ev path => exact reacts_sorobanListener hρ
  | solanaListener tx => exact reacts_solanaListener hρ
  | newRun => cases hρ
  | restart => cases hρ

/-- Every job comes from the event, and a source lock from a deposit. -/
lemma works (hρ : x.reaction hashes = some ρ) (hj : ρ.job p r = some j) : Works x ρ p r j :=
  (reacts hρ).works hj

lemma Works.publicId (h : Works x ρ p r j) : j.publicId = p := by
  cases h with
  | locks _ _ _ hid => exact hid
  | reveals => rfl
  | refunds => rfl

end Delivery

/-! ### The claim of the key -/

lemma orders_claimEvent (key : EventKey) (fate : Fate) (d : Db) :
    (repository.run (.claimEvent key) fate d).2.orders = d.orders := by
  rw [run_snd]
  show ((claimEvent key).exec fate d).2.orders = d.orders
  unfold claimEvent
  rw [Sql.exec_statement]
  by_cases hkey : key ∈ d.processedEvents
  · cases fate 0 <;> simp [hkey]
  · cases fate 0 <;> simp [hkey]

lemma claimed_of_mem {key : EventKey} {fate : Fate} {d : Db} {claimed : Bool}
    (hkey : key ∈ d.processedEvents)
    (h : (repository.run (.claimEvent key) fate d).1 = .ok claimed) : claimed = false := by
  have hrun : (repository.run (.claimEvent key) fate d).1 =
      ((claimEvent key).exec fate d).1.mapError DbError.service := rfl
  rw [hrun] at h
  unfold claimEvent at h
  rw [Sql.exec_statement] at h
  cases hfate : fate 0 with
  | none => simpa [hfate, hkey, Except.mapError, eq_comm] using h
  | some e => simp [hfate, Except.mapError] at h

/-- The key is claimed first, which leaves the orders alone. -/
lemma ensures_replayEntry {e : Entry} {d : Db}
    (hid : ∀ p r j, e.handling.job p r = some j → j.publicId = p) :
    (Reconciler.replayEntry e).Ensures
      (fun _ d' => EventMoves (e.handling.lookup.first d) e.handling.job d d')
      (fun _ d' => EventMoves (e.handling.lookup.first d) e.handling.job d d') d := by
  have horders := fun fate => orders_claimEvent e.key fate d
  have hidle : ∀ fate, EventMoves (e.handling.lookup.first d) e.handling.job d
      (repository.run (.claimEvent e.key) fate d).2 := by
    intro fate p
    rw [horders fate]
    exact .still rfl
  refine ensures_bind (Store.ensures_call (fun fate claimed _ => ?_) fun fate _ _ =>
    hidle fate)
  cases claimed with
  | false => exact (ensures_pure _).2 (hidle fate)
  | true =>
    have hfirst : e.handling.lookup.first (repository.run (.claimEvent e.key) fate d).2 =
        e.handling.lookup.first d := by
      unfold Lookup.first
      rw [horders fate]
    have hmoves : ∀ {d'}, EventMoves (e.handling.lookup.first
        (repository.run (.claimEvent e.key) fate d).2) e.handling.job
        (repository.run (.claimEvent e.key) fate d).2 d' →
        EventMoves (e.handling.lookup.first d) e.handling.job d d' := by
      intro d' h p
      have hp := h p
      rw [hfirst, horders fate] at hp
      exact hp
    exact (Handling.ensures_replay hid).mono hmoves hmoves

/-! ### What a delivery does -/

/-- An event that the reconciler has not seen in this run. -/
def Entry.Unseen (e : Entry) (s : Db × Memory) : Prop :=
  (s.2.seen.checkAndMark e.key e.semKey).1 = none

/-- The event is not taken for one that was there before. -/
def Delivery.Heard (hashes : Hashes) (s : Db × Memory) : Delivery → Prop
  | ethCreated log => ∀ e ∈ log.entry, e.Unseen s ∧ e.key ∉ s.1.processedEvents
  | ethClaimed log => ∀ e ∈ log.entry hashes, e.Unseen s ∧ e.key ∉ s.1.processedEvents
  | ethRefunded log => ∀ e ∈ log.entry, e.Unseen s ∧ e.key ∉ s.1.processedEvents
  | sorobanReconciler ev eventIndex =>
    ∀ e ∈ ev.entry hashes eventIndex, e.Unseen s ∧ e.key ∉ s.1.processedEvents
  | solanaReconciler tx => ∀ e ∈ tx.entry hashes, e.Unseen s
  | sorobanListener ev path => ∀ kw ∈ SorobanListener.decode ev path, kw.1 ∉ s.2.soroban
  | solanaListener tx => tx.signature ∉ s.2.solana
  | newRun => True
  | restart => True

/-- The order for which the event has a job. -/
def Delivery.target (hashes : Hashes) (d : Db) (x : Delivery) : Option (Text × OrderRow) := do
  let ρ ← x.reaction hashes
  let o ← firstOf d ρ.lookups
  if (ρ.job o.1 o.2).isSome then some o else none

section Deliver

variable {hashes : Hashes} {s : Db × Memory} {rs : Answers Call fun _ => Fate}

variable {entry : Option Entry}

lemma deliverEntry_moves {replay : Entry → Serve Bool} {e : Entry} (he : entry = some e)
    (hreplay : (replay e).Ensures
      (fun _ d' => EventMoves (e.handling.lookup.first s.1) e.handling.job s.1 d')
      (fun _ d' => EventMoves (e.handling.lookup.first s.1) e.handling.job s.1 d') s.1) :
    EventMoves (firstOf s.1 [e.handling.lookup]) e.handling.job s.1
      (deliverEntry replay entry rs s).1 := by
  rw [firstOf_singleton]
  subst he
  unfold deliverEntry
  dsimp only
  rcases s.2.seen.checkAndMark e.key e.semKey with ⟨_ | kind, seen⟩
  · exact hreplay.play rs
  · exact (Still.refl s.1).eventMoves

lemma ensures_processSorobanEvent {cache : List SorobanListener.Key} {ev : SorobanEvent}
    {path : WorkflowPath} {kw : SorobanListener.Key × Watch} {d : Db}
    (hkw : decode ev path = some kw)
    (hid : ∀ p r j, kw.2.jobFor p r = some j → j.publicId = p) :
    (processSorobanEvent cache ev path).Ensures
      (fun _ d' => EventMoves (firstOf d kw.2.lookups) kw.2.jobFor d d')
      (fun _ d' => EventMoves (firstOf d kw.2.lookups) kw.2.jobFor d d') d := by
  unfold processSorobanEvent
  rw [hkw]
  dsimp only
  split
  · exact (ensures_pure _).2 (Still.refl d).eventMoves
  · refine ensures_bind ((Watch.ensures_handle hid).mono (fun {outcome _} h => ?_)
      fun h => h)
    cases outcome <;> exact (ensures_pure _).2 h

lemma ensures_handleLogs {cache : List Text} {tx : SolanaTx} {w : Watch} {d : Db}
    (hw : watch tx = some w)
    (hid : ∀ p r j, w.jobFor p r = some j → j.publicId = p) :
    (handleLogs cache tx).Ensures
      (fun _ d' => EventMoves (firstOf d w.lookups) w.jobFor d d')
      (fun _ d' => EventMoves (firstOf d w.lookups) w.jobFor d d') d := by
  unfold handleLogs
  rw [hw]
  dsimp only
  split
  · exact (ensures_pure _).2 (Still.refl d).eventMoves
  · refine ensures_bind ((Watch.ensures_handle hid).mono (fun {outcome _} h => ?_)
      fun h => h)
    cases outcome <;> exact (ensures_pure _).2 h

variable {x : Delivery}

lemma Delivery.deliver_moves (rs : Answers Call fun _ => Fate) (s : Db × Memory) {ρ : Reaction}
    (hρ : x.reaction hashes = some ρ) :
    EventMoves (firstOf s.1 ρ.lookups) ρ.job s.1 (x.deliver hashes rs s).1 := by
  have hid : ∀ p r j, ρ.job p r = some j → j.publicId = p := fun p r j hj => (works hρ hj).publicId
  cases x with
  | solanaReconciler tx =>
    obtain ⟨e, he, rfl⟩ := map_eq_some_iff.1 hρ
    exact deliverEntry_moves he (Handling.ensures_replay hid)
  | sorobanListener ev path =>
    obtain ⟨kw, hkw, rfl⟩ := map_eq_some_iff.1 hρ
    exact (ensures_processSorobanEvent hkw hid).play rs
  | solanaListener tx =>
    obtain ⟨w, hw, rfl⟩ := map_eq_some_iff.1 hρ
    exact (ensures_handleLogs hw hid).play rs
  | newRun => cases hρ
  | restart => cases hρ
  | _ =>
    obtain ⟨e, he, rfl⟩ := map_eq_some_iff.1 hρ
    exact deliverEntry_moves he (ensures_replayEntry hid)

lemma Delivery.deliver_of_none (hρ : x.reaction hashes = none) :
    (x.deliver hashes rs s).1 = s.1 := by
  have hentry : ∀ {replay : Entry → Serve Bool} {entry : Option Entry},
      entry.map Delivery.ofEntry = none → (deliverEntry replay entry rs s).1 = s.1 := by
    intro replay entry h
    obtain rfl := map_eq_none_iff.1 h
    rfl
  cases x with
  | sorobanListener ev path =>
    have hdecode := map_eq_none_iff.1 hρ
    have hprocess : processSorobanEvent s.2.soroban ev path =
        pure s.2.soroban := by
      unfold processSorobanEvent
      rw [hdecode]
    show (performed (processSorobanEvent s.2.soroban ev path) rs s.1).2 = s.1
    rw [hprocess]
    rfl
  | solanaListener tx =>
    have hwatch := map_eq_none_iff.1 hρ
    show (performed (handleLogs s.2.solana tx) rs s.1).2 = s.1
    unfold handleLogs
    rw [hwatch]
    split <;> rfl
  | newRun => rfl
  | restart => rfl
  | _ => exact hentry hρ

lemma deliverEntry_seen {replay : Entry → Serve Bool} {e : Entry} (he : entry = some e)
    (hseen : ¬ e.Unseen s) : (deliverEntry replay entry rs s).1 = s.1 := by
  subst he
  unfold Entry.Unseen at hseen
  unfold deliverEntry
  dsimp only
  revert hseen
  rcases s.2.seen.checkAndMark e.key e.semKey with ⟨_ | kind, seen⟩
  · exact fun h => absurd rfl h
  · exact fun _ => rfl

lemma deliverEntry_processed {e : Entry} (he : entry = some e)
    (hkey : e.key ∈ s.1.processedEvents) :
    (deliverEntry Reconciler.replayEntry entry rs s).1.orders = s.1.orders := by
  subst he
  have hreplay : (Reconciler.replayEntry e).Ensures (fun _ d' => d'.orders = s.1.orders)
      (fun _ d' => d'.orders = s.1.orders) s.1 := by
    refine ensures_bind (Store.ensures_call (fun fate claimed hclaimed => ?_)
      fun fate _ _ => orders_claimEvent e.key fate s.1)
    obtain rfl := claimed_of_mem hkey hclaimed
    exact (ensures_pure _).2 (orders_claimEvent e.key fate s.1)
  unfold deliverEntry
  dsimp only
  rcases s.2.seen.checkAndMark e.key e.semKey with ⟨_ | kind, seen⟩
  · exact hreplay.play rs
  · rfl

/-- An event that is taken for one that was there before changes no order. -/
lemma Delivery.orders_deliver_unheard (h : ¬ x.Heard hashes s) :
    (x.deliver hashes rs s).1.orders = s.1.orders := by
  have hentry : ∀ {entry : Option Entry},
      ¬ (∀ e ∈ entry, e.Unseen s ∧ e.key ∉ s.1.processedEvents) →
      (deliverEntry Reconciler.replayEntry entry rs s).1.orders = s.1.orders := by
    intro entry hold
    push Not at hold
    obtain ⟨e, he, hkey⟩ := hold
    by_cases hunseen : e.Unseen s
    · exact deliverEntry_processed he (hkey hunseen)
    · rw [deliverEntry_seen he hunseen]
  cases x with
  | solanaReconciler tx =>
    unfold Heard at h
    push Not at h
    obtain ⟨e, he, hseen⟩ := h
    show (deliverEntry _ _ rs s).1.orders = s.1.orders
    rw [deliverEntry_seen he hseen]
  | sorobanListener ev path =>
    unfold Heard at h
    push Not at h
    obtain ⟨kw, hkw, hkey⟩ := h
    have hprocess : processSorobanEvent s.2.soroban ev path =
        pure s.2.soroban := by
      unfold processSorobanEvent
      rw [hkw]
      exact if_pos hkey
    show (performed (processSorobanEvent s.2.soroban ev path) rs s.1).2.orders = _
    rw [hprocess]
    rfl
  | solanaListener tx =>
    have hkey : tx.signature ∈ s.2.solana := not_not.1 h
    have hlogs : handleLogs s.2.solana tx = pure s.2.solana := if_pos hkey
    show (performed (handleLogs s.2.solana tx) rs s.1).2.orders = _
    rw [hlogs]
    rfl
  | newRun => exact absurd trivial h
  | restart => exact absurd trivial h
  | _ => exact hentry h

end Deliver

/-! ### Where nothing fails -/

section Calm

variable {hashes : Hashes} {s : Db × Memory} {p : Text} {r : OrderRow} {j : Job}

lemma deliverEntry_unseen {replay : Entry → Serve Bool} {entry : Option Entry} {e : Entry}
    (he : entry = some e) (hunseen : e.Unseen s) :
    (deliverEntry replay entry (fun _ _ => Fate.calm) s).1 =
      ((replay e).eval (fun _ => Fate.calm) s.1).2 := by
  subst he
  unfold Entry.Unseen at hunseen
  unfold deliverEntry
  dsimp only
  revert hunseen
  rcases s.2.seen.checkAndMark e.key e.semKey with ⟨_ | kind, seen⟩
  · exact fun _ => rfl
  · exact nofun

lemma body_eval_replayEntry {e : Entry} {d : Db} (hnew : e.key ∉ d.processedEvents)
    (hfirst : e.handling.lookup.first d = some (p, r)) (hjob : e.handling.job p r = some j)
    (hid : j.publicId = p) (hwritable : j.Writable) (hverdict : j.verdict r = .proceed) :
    (((Reconciler.replayEntry e).eval (fun _ => Fate.calm) d).2.orders.get p).map OrderRow.body =
      some (j.write.row r).body := by
  unfold Reconciler.replayEntry
  rw [eval_bind_ok (eval_claimEvent hnew)]
  exact Handling.body_eval_replay hfirst hjob hid hwritable hverdict

/-- Where nothing fails, an event that is heard and whose job goes through has its effect. -/
lemma Delivery.body_deliver {x : Delivery} {ρ : Reaction} (hρ : x.reaction hashes = some ρ)
    (hheard : x.Heard hashes s) (hfirst : firstOf s.1 ρ.lookups = some (p, r))
    (hjob : ρ.job p r = some j) (hwritable : j.Writable) (hverdict : j.verdict r = .proceed) :
    ((x.deliver hashes (fun _ _ => Fate.calm) s).1.orders.get p).map OrderRow.body =
      some (j.write.row r).body := by
  have hid := (works hρ hjob).publicId
  -- the ways through the reconciler that claim the key first
  have hentry : ∀ {entry : Option Entry}, entry.map ofEntry = some ρ →
      (∀ e ∈ entry, e.Unseen s ∧ e.key ∉ s.1.processedEvents) →
      ((deliverEntry Reconciler.replayEntry entry (fun _ _ => Fate.calm) s).1.orders.get p).map
        OrderRow.body = some (j.write.row r).body := by
    intro entry hρ hnew
    obtain ⟨e, he, rfl⟩ := map_eq_some_iff.1 hρ
    obtain ⟨hunseen, hkey⟩ := hnew e he
    rw [deliverEntry_unseen he hunseen]
    rw [ofEntry, firstOf_singleton] at hfirst
    exact body_eval_replayEntry hkey hfirst hjob hid hwritable hverdict
  cases x with
  | solanaReconciler tx =>
    obtain ⟨e, he, rfl⟩ := map_eq_some_iff.1 hρ
    rw [ofEntry, firstOf_singleton] at hfirst
    show (map OrderRow.body ((deliverEntry _ _ _ s).1.orders.get p)) = _
    rw [deliverEntry_unseen he (hheard e he)]
    exact Handling.body_eval_replay hfirst hjob hid hwritable hverdict
  | sorobanListener ev path =>
    obtain ⟨kw, hkw, rfl⟩ := map_eq_some_iff.1 hρ
    have hbody := Watch.body_eval_handle hfirst hjob hid hwritable hverdict
    show map OrderRow.body (((processSorobanEvent s.2.soroban ev path).eval
      (fun _ => Fate.calm) s.1).2.orders.get p) = _
    unfold processSorobanEvent
    rw [hkw]
    dsimp only
    rw [if_neg (hheard kw hkw), eval_bind]
    revert hbody
    rcases kw.2.handle.eval (fun _ => Fate.calm) s.1 with ⟨e | outcome, d'⟩
    · exact fun hbody => hbody
    · cases outcome <;> exact fun hbody => hbody
  | solanaListener tx =>
    obtain ⟨w, hw, rfl⟩ := map_eq_some_iff.1 hρ
    have hbody := Watch.body_eval_handle hfirst hjob hid hwritable hverdict
    have hsignature : tx.signature ∉ s.2.solana := hheard
    show map OrderRow.body (((handleLogs s.2.solana tx).eval
      (fun _ => Fate.calm) s.1).2.orders.get p) = _
    unfold handleLogs
    rw [if_neg hsignature, hw]
    dsimp only
    rw [eval_bind]
    revert hbody
    rcases w.handle.eval (fun _ => Fate.calm) s.1 with ⟨e | outcome, d'⟩
    · exact fun hbody => hbody
    · cases outcome <;> exact fun hbody => hbody
  | newRun => cases hρ
  | restart => cases hρ
  | _ => exact hentry hρ hheard

end Calm

end WaffleFinance.Coordinator

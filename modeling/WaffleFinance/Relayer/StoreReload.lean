import WaffleFinance.Relayer.Idempotency
import WaffleFinance.Relayer.RefundGate
import WaffleFinance.Relayer.TxStateRuns

/-!
# What a restart finds

The relayer has four stores with a file for each key: the two ledgers, the store of transaction
states and the idempotency manager.  Each is meant to find after a restart what it had written
before.  That is so, over every history, for a set of keys exactly if the keys have different files
(`stores_survive_restart`).  Keys come from clients, and the names of the files are not injective:
the files of `a:b` and `a/b` are one.
-/

namespace WaffleFinance.Relayer

open Lib

/-! ### Refunds -/

namespace RefundStore

/-- The store after some calls. -/
def run (calls : List RefundCall) : RefundStore := calls.foldl step initial

/-- A new process finds what was to survive. -/
def Survives (s : RefundStore) : Prop :=
  ∀ listing : List Text, listing.Perm s.files.keys →
    (s.loadFromDisk listing).entries = s.entries.reload

lemma onDisk_run {orderIds : Set Text} (hnames : Set.InjOn refundFile orderIds)
    (calls : List RefundCall) (hcalls : ∀ c ∈ calls, ∀ orderId ∈ c.orderId, orderId ∈ orderIds) :
    (run calls).OnDisk orderIds :=
  List.foldlRecOn (motive := OnDisk orderIds) calls step Directory.Mirrors.empty
    fun _ h c hc => h.step hnames c (hcalls c hc)

lemma reload_eq_filter (l : RefundLedger) :
    l.reload = fun orderId => (l orderId).filter (·.isPersisted) := by
  funext orderId
  unfold RefundLedger.reload
  rcases l orderId with _ | _ | _ | _ <;> rfl

lemma survives_iff (orderIds : Set Text) :
    (∀ calls, (∀ c ∈ calls, ∀ orderId ∈ RefundCall.orderId c, orderId ∈ orderIds) →
      (run calls).Survives) ↔ Set.InjOn refundFile orderIds := by
  constructor
  · intro h orderId hid orderId' hid' hfile
    by_contra hne
    -- both refunds are committed, and the file is that of the second
    let calls : List RefundCall :=
      [.commit 0 orderId [] 0 none, .commit 0 orderId' [] 0 none]
    have hfirst : (run calls).entries orderId = some (.committed [] 0 none 0) := by
      simp [calls, run, step, commit, initial, RefundLedger.commit, hne, Ne.symm hne]
    refine Directory.not_reloads (fun _ state => RefundState.isPersisted state) hfile.symm hne (by
      simp [calls, run, step, commit, initial, persist, RefundLedger.commit, Ne.symm hne]
      rfl) ?_ (h calls (by simp [calls, RefundCall.orderId, hid, hid']))
    simp [RefundLedger.reload, hfirst]
  · intro hnames calls hcalls listing hlisting
    rw [reload_eq_filter]
    have hload : (Directory.load (fun _ state => RefundState.isPersisted state) (run calls).files
        listing).get = _ :=
      (onDisk_run hnames calls hcalls).get_load hlisting fun _ _ _ hkept => hkept
    simpa [loadFromDisk] using hload

end RefundStore

/-! ### Payments -/

/-- The consumed payments in memory and the files. -/
structure ProofStore where
  entries : StellarProofLedger
  files : Directory Text Text ConsumedProof

inductive ProofCall where
  | consume (stellarTxHash : Text) (entry : ConsumedProof)
  | restart (listing : List Text)

/-- The hash that a call is about. -/
def ProofCall.stellarTxHash : ProofCall → Option Text
  | consume stellarTxHash _ => stellarTxHash
  | restart _ => none

namespace ProofStore

def initial : ProofStore := ⟨fun _ => none, .empty⟩

/-- A hash that is consumed for the first time is written to disk. -/
def consume (s : ProofStore) (stellarTxHash : Text) (entry : ConsumedProof) : Bool × ProofStore :=
  let result := s.entries.consume stellarTxHash entry
  (result.1,
    { entries := result.2
      files := if result.1 then s.files.write proofFile stellarTxHash entry else s.files })

def loadFromDisk (s : ProofStore) (listing : List Text) : ProofStore :=
  { s with entries := (s.files.load (fun _ _ => true) listing).get }

def step (s : ProofStore) : ProofCall → ProofStore
  | .consume stellarTxHash entry => (s.consume stellarTxHash entry).2
  | .restart listing => if listing.Perm s.files.keys then s.loadFromDisk listing else s

def run (calls : List ProofCall) : ProofStore := calls.foldl step initial

def Survives (s : ProofStore) : Prop :=
  ∀ listing : List Text, listing.Perm s.files.keys →
    (s.loadFromDisk listing).entries = s.entries

abbrev OnDisk (hashes : Set Text) (s : ProofStore) : Prop :=
  Directory.Mirrors proofFile hashes (fun _ => True) s.entries s.files

lemma OnDisk.step {hashes : Set Text} {s : ProofStore} (h : s.OnDisk hashes)
    (hnames : Set.InjOn proofFile hashes) (c : ProofCall)
    (hhash : ∀ stellarTxHash ∈ c.stellarTxHash, stellarTxHash ∈ hashes) :
    (s.step c).OnDisk hashes := by
  cases c with
  | consume stellarTxHash entry =>
    cases hentry : s.entries stellarTxHash with
    | some e =>
      have hstep : s.step (.consume stellarTxHash entry) = s := by
        simp [ProofStore.step, consume, StellarProofLedger.consume_of_some hentry]
      rw [hstep]
      exact h
    | none =>
      have hwrite := h.write (v := entry) hnames (hhash stellarTxHash rfl) trivial
      simpa [ProofStore.step, consume, StellarProofLedger.consume_of_none hentry] using hwrite
  | restart listing =>
    simp only [ProofStore.step]
    split
    · rename_i hlisting
      exact h.load hlisting fun _ _ _ _ => rfl
    · exact h

lemma onDisk_run {hashes : Set Text} (hnames : Set.InjOn proofFile hashes)
    (calls : List ProofCall)
    (hcalls : ∀ c ∈ calls, ∀ stellarTxHash ∈ c.stellarTxHash, stellarTxHash ∈ hashes) :
    (run calls).OnDisk hashes :=
  List.foldlRecOn (motive := OnDisk hashes) calls step Directory.Mirrors.empty
    fun _ h c hc => h.step hnames c (hcalls c hc)

lemma survives_iff (hashes : Set Text) :
    (∀ calls, (∀ c ∈ calls, ∀ stellarTxHash ∈ ProofCall.stellarTxHash c, stellarTxHash ∈ hashes) →
      (run calls).Survives) ↔ Set.InjOn proofFile hashes := by
  constructor
  · intro h hash hmem hash' hmem' hfile
    by_contra hne
    let entry : ConsumedProof := ⟨[], 0, 0, 0⟩
    let calls : List ProofCall := [.consume hash entry, .consume hash' entry]
    have hfirst : (run calls).entries hash = some entry := by
      simp [calls, run, step, consume, initial, StellarProofLedger.consume, hne, Ne.symm hne]
    refine Directory.not_reloads (fun _ _ => true) hfile.symm hne (by
      simp [calls, run, step, consume, initial, StellarProofLedger.consume, Ne.symm hne]
      rfl) ?_ (h calls (by simp [calls, ProofCall.stellarTxHash, hmem, hmem']))
    simp [hfirst]
  · intro hnames calls hcalls listing hlisting
    exact (onDisk_run hnames calls hcalls).get_load_of_forall (fun _ => trivial) hlisting
      fun _ _ _ => rfl

end ProofStore

/-! ### Transactions -/

inductive TxEvent where
  | step (c : TxStep) (now : ℕ)
  | restart (listing : List Text)

/-- The order for which an event may make a record. -/
def TxEvent.newOrder : TxEvent → Option Text
  | step c _ => c.newOrder
  | restart _ => none

/-- The receipt that comes with an event. -/
def TxEvent.receipt : TxEvent → Option TxReceipt
  | step c _ => c.receipt
  | restart _ => none

namespace TxStateStore

def loadFromDisk (s : TxStateStore) (listing : List Text) : TxStateStore :=
  { s with records := s.files.load (fun _ r => isValidBlockNumber r.minedBlock) listing }

def Survives (s : TxStateStore) : Prop :=
  ∀ listing : List Text, listing.Perm s.files.keys →
    (s.loadFromDisk listing).records.get = s.records.get

lemma create_of_none {s : TxStateStore} {now : ℕ} {orderId correlationId route : Text}
    (h : s.get orderId = none) : (s.create now orderId correlationId route).2 =
      s.put (newRecord now orderId correlationId route) := by
  simp [create, h]

/-- The files are the records, which may all be read. -/
structure OnDisk (orderIds : Set Text) (s : TxStateStore) : Prop where
  sound : s.Sound
  mirrors : Directory.Mirrors txFile orderIds (fun _ => True) s.records.get s.files
  valid : ∀ orderId r, s.get orderId = some r → isValidBlockNumber r.minedBlock = true

variable {orderIds : Set Text} {s s' : TxStateStore}

lemma OnDisk.put (h : s.OnDisk orderIds) (hnames : Set.InjOn txFile orderIds) {r : TxStateRecord}
    (hsound : (s.put r).Sound) (hid : r.orderId ∈ orderIds)
    (hvalid : isValidBlockNumber r.minedBlock = true) : (s.put r).OnDisk orderIds where
  sound := hsound
  mirrors := by
    show Directory.Mirrors _ _ _ (s.records.insert r.orderId r).get _
    rw [InsertionMap.get_insert]
    exact h.mirrors.write hnames hid trivial
  valid orderId r' hget := by
    rw [get_put] at hget
    split at hget
    · rw [← Option.some.inj hget]
      exact hvalid
    · exact h.valid orderId r' hget

lemma OnDisk.move (h : s.OnDisk orderIds) (hnames : Set.InjOn txFile orderIds)
    (hmove : TxMove (· ∈ orderIds) (0 ≤ ·) s s') : s'.OnDisk orderIds := by
  have hsound := h.sound.move hmove
  cases hmove with
  | create now correlationId route hnew hknown => exact h.put hnames hsound hknown rfl
  | recover hget hmax =>
    rename_i orderId r
    have hkey := (h.sound _ _ hget).1
    exact h.put hnames hsound (h.mirrors.key _ r (hkey.symm ▸ hget)) (h.valid orderId r hget)
  | advance now note hget hallowed hfits hvalid =>
    rename_i orderId r target patch
    have hkey := (h.sound _ _ hget).1
    refine h.put hnames hsound (h.mirrors.key _ r (hkey.symm ▸ hget)) ?_
    show isValidBlockNumber (patch.minedBlock.or r.minedBlock) = true
    cases hblock : patch.minedBlock with
    | none => simpa using h.valid orderId r hget
    | some b => simpa [isValidBlockNumber] using hvalid b hblock

lemma OnDisk.moves (h : s.OnDisk orderIds) (hnames : Set.InjOn txFile orderIds)
    (hmoves : TxMoves (· ∈ orderIds) (0 ≤ ·) s s') : s'.OnDisk orderIds := by
  induction hmoves with
  | refl => exact h
  | tail _ hmove ih => exact ih.move hnames hmove

lemma OnDisk.survives (h : s.OnDisk orderIds) : s.Survives := fun _ hlisting =>
  h.mirrors.get_load_of_forall (fun _ => trivial) hlisting h.valid

end TxStateStore

namespace TxRelay

/-- A restart ends the runs of `reconcile`. -/
def handle (x : TxRelay) : TxEvent → TxRelay
  | .step c now => x.step now c
  | .restart listing =>
    if listing.Perm x.store.files.keys then ⟨x.store.loadFromDisk listing, []⟩ else x

def run (pendingTimeoutMs maxRecovery : ℕ) (events : List TxEvent) : TxRelay :=
  events.foldl handle (initial pendingTimeoutMs maxRecovery)

lemma onDisk_run {orderIds : Set Text} (hnames : Set.InjOn txFile orderIds)
    (pendingTimeoutMs maxRecovery : ℕ) (events : List TxEvent)
    (hevents : ∀ e ∈ events, (∀ orderId ∈ e.newOrder, orderId ∈ orderIds) ∧
      ∀ receipt ∈ e.receipt, 0 ≤ receipt.blockNumber) :
    (run pendingTimeoutMs maxRecovery events).store.OnDisk orderIds := by
  refine List.foldlRecOn (motive := fun x => x.store.OnDisk orderIds) events handle ?_ ?_
  · refine ⟨fun orderId r hget => ?_, Directory.Mirrors.empty, fun orderId r hget => ?_⟩
    · simp [initial, TxStateStore.get] at hget
    · simp [initial, TxStateStore.get] at hget
  intro x hbefore e he
  obtain ⟨hnew, hvalid⟩ := hevents e he
  cases e with
  | step c now => exact hbefore.moves hnames (step_moves _ now c hnew hvalid)
  | restart listing =>
    simp only [handle]
    split
    · rename_i hlisting
      -- the records are the same as before
      have hsame := hbefore.survives listing hlisting
      refine ⟨fun orderId r hget => ?_, ?_, fun orderId r hget => ?_⟩
      · exact hbefore.sound orderId r ((congrFun hsame orderId).symm.trans hget)
      · have hmirrors := hbefore.mirrors
        rw [← hsame] at hmirrors
        exact hmirrors
      · exact hbefore.valid orderId r ((congrFun hsame orderId).symm.trans hget)
    · exact hbefore

lemma survives_iff (orderIds : Set Text) :
    (∀ pendingTimeoutMs maxRecovery events,
      (∀ e ∈ events, (∀ orderId ∈ TxEvent.newOrder e, orderId ∈ orderIds) ∧
        ∀ receipt ∈ e.receipt, 0 ≤ receipt.blockNumber) →
      (run pendingTimeoutMs maxRecovery events).store.Survives) ↔ Set.InjOn txFile orderIds := by
  constructor
  · intro h orderId hid orderId' hid' hfile
    by_contra hne
    let events : List TxEvent :=
      [.step (.create orderId [] []) 0, .step (.create orderId' [] []) 0]
    have hcreate : (run 0 0 events).store =
        ((initial 0 0).store.put (TxStateStore.newRecord 0 orderId [] [])).put
          (TxStateStore.newRecord 0 orderId' [] []) := by
      have hnone : (initial 0 0).store.get orderId = none := rfl
      have hnone' :
          ((initial 0 0).store.put (TxStateStore.newRecord 0 orderId [] [])).get orderId' =
            none := by
        rw [TxStateStore.get_put, if_neg]
        · rfl
        · exact Ne.symm hne
      simp only [events, run, List.foldl_cons, List.foldl_nil, handle, step]
      rw [TxStateStore.create_of_none hnone, TxStateStore.create_of_none hnone']
    have hfirst : (run 0 0 events).store.get orderId =
        some (TxStateStore.newRecord 0 orderId [] []) := by
      simp [hcreate, TxStateStore.get_put, TxStateStore.newRecord, hne]
    refine Directory.not_reloads (fun _ r => isValidBlockNumber (TxStateRecord.minedBlock r))
      hfile.symm hne (by rw [hcreate]; rfl) (Option.isSome_iff_exists.2 ⟨_, hfirst⟩)
      (h 0 0 events ?_)
    simp [events, TxEvent.newOrder, TxStep.newOrder, TxEvent.receipt, TxStep.receipt, hid, hid']
  · intro hnames pendingTimeoutMs maxRecovery events hevents
    exact (onDisk_run hnames pendingTimeoutMs maxRecovery events hevents).survives

end TxRelay

/-! ### Actions -/

inductive ManagerEvent where
  | call (c : IdempotencyCall) (now : ℕ)
  | restart (listing : List Text)

/-- The action that an event is about. -/
def ManagerEvent.action : ManagerEvent → Option (Text × ActionType)
  | call (.record orderId actionType _ _ _) _ => some (orderId, actionType)
  | call (.submitted orderId actionType _) _ => some (orderId, actionType)
  | call (.complete orderId actionType _ _) _ => some (orderId, actionType)
  | call (.fail orderId actionType _ _) _ => some (orderId, actionType)
  | call (.remove orderId actionType) _ => some (orderId, actionType)
  | call .reconcile _ | call .clear _ | restart _ => none

def ManagerEvent.key (e : ManagerEvent) : Option Text :=
  e.action.map fun a => IdempotencyManager.makeKey a.1 a.2

namespace IdempotencyManager

def loadFromDisk (m : IdempotencyManager) (listing : List Text) : IdempotencyManager :=
  { m with records := m.files.load (fun key _ => key ≠ []) listing }

def Survives (m : IdempotencyManager) : Prop :=
  ∀ listing : List Text, listing.Perm m.files.keys →
    (m.loadFromDisk listing).records.get = m.records.get

def handle (m : IdempotencyManager) : ManagerEvent → IdempotencyManager
  | .call c now => machine.step m (c, now)
  | .restart listing => if listing.Perm m.files.keys then m.loadFromDisk listing else m

def run (events : List ManagerEvent) : IdempotencyManager := events.foldl handle fresh

/-- The files are the records, each under its key, which is not empty. -/
structure OnDisk (keys : Set Text) (m : IdempotencyManager) : Prop where
  mirrors : Directory.Mirrors actionFile keys (fun _ => True) m.records.get m.files
  key : ∀ key r, m.records.get key = some r → r.key = key ∧ key ≠ []

variable {keys : Set Text} {m m' : IdempotencyManager} {key : Text} {now : ℕ}

lemma makeKey_ne_nil (orderId : Text) (actionType : ActionType) :
    makeKey orderId actionType ≠ [] := by
  simp [makeKey]

lemma OnDisk.put (h : m.OnDisk keys) (hnames : Set.InjOn actionFile keys) {r : ActionRecord}
    (hr : r.key = key) (hkey : key ∈ keys) (hne : key ≠ []) : (m.put key r).OnDisk keys where
  mirrors := by
    show Directory.Mirrors _ _ _ (m.records.insert key r).get (m.files.write actionFile r.key r)
    rw [InsertionMap.get_insert, hr]
    exact h.mirrors.write hnames hkey trivial
  key key' r' hget := by
    rw [get_put] at hget
    split at hget
    · rename_i heq
      rw [← Option.some.inj hget, heq]
      exact ⟨hr, hne⟩
    · exact h.key key' r' hget

variable {orderId : Text} {actionType : ActionType}

lemma OnDisk.update (h : m.OnDisk keys) (hnames : Set.InjOn actionFile keys)
    {change : ActionRecord → ActionRecord} (hok : m.update orderId actionType change = .ok m')
    (hchange : ∀ r, (change r).key = r.key) : m'.OnDisk keys := by
  unfold IdempotencyManager.update at hok
  split at hok
  · cases hok
  rename_i r hget
  cases hok
  refine h.put hnames ?_ (h.mirrors.key _ r hget) (makeKey_ne_nil _ _)
  rw [hchange]
  exact (h.key _ r hget).1

lemma OnDisk.record (h : m.OnDisk keys) (hnames : Set.InjOn actionFile keys)
    {correlationId : Option Text} {forceNew : Bool} {attemptId : Text}
    (hkey : makeKey orderId actionType ∈ keys)
    (hok : m.record orderId actionType correlationId forceNew attemptId now = .ok m') :
    m'.OnDisk keys := by
  rcases record_ok hok with rfl | ⟨r, rfl, hr⟩
  · exact h
  refine h.put hnames ?_ hkey (makeKey_ne_nil _ _)
  rcases hr with hr | ⟨existing, hget, hr⟩
  · exact hr
  · exact hr.trans (h.key _ existing hget).1

@[simp] lemma key_reconcileRecord (m : IdempotencyManager) (now : ℕ) (r : ActionRecord) :
    (m.reconcileRecord now r).key = r.key := by
  unfold reconcileRecord
  split <;> rfl

/-- The records after the stale ones have changed one by one. -/
lemma updateAll_stale (m : IdempotencyManager) (now : ℕ)
    (hkey : ∀ key r, m.records.get key = some r → r.key = key) :
    Directory.updateAll (fun e => e.2.key) (fun e => m.reconcileRecord now e.2) m.records.get
        (m.stale now) =
      (m.records.mapValues fun _ r => m.reconcileRecord now r).get := by
  have hkeys : ∀ e ∈ m.stale now, e.2.key = e.1 := fun e he =>
    hkey e.1 e.2 (InsertionMap.get_eq_some.2 (List.mem_filter.1 he).1)
  have hmap : (m.stale now).map (fun e => e.2.key) = (m.stale now).map Prod.fst :=
    List.map_congr_left hkeys
  have hnodup : ((m.stale now).map fun e => e.2.key).Nodup := by
    rw [hmap]
    exact m.records.nodup.sublist (List.filter_sublist.map _)
  funext key
  rw [InsertionMap.get_mapValues]
  by_cases hstale : key ∈ (m.stale now).map fun e => e.2.key
  · obtain ⟨e, he, rfl⟩ := List.mem_map.1 hstale
    have hget : m.records.get e.2.key = some e.2 := by
      rw [hkeys e he]
      exact InsertionMap.get_eq_some.2 (List.mem_filter.1 he).1
    rw [hget]
    exact Directory.updateAll_of_mem hnodup he
  rw [Directory.updateAll_of_notMem hstale]
  cases hget : m.records.get key with
  | none => rfl
  | some r =>
    -- a record that is not stale stays as it is
    have hsame : m.reconcileRecord now r = r := by
      by_contra hne
      refine hstale (List.mem_map.2 ⟨(key, r), ?_, hkey key r hget⟩)
      exact List.mem_filter.2 ⟨InsertionMap.get_eq_some.1 hget, by simpa using hne⟩
    rw [Option.map_some, hsame]

lemma OnDisk.reconcile (h : m.OnDisk keys) (hnames : Set.InjOn actionFile keys) (now : ℕ) :
    (m.reconcile now).2.OnDisk keys where
  mirrors := by
    show Directory.Mirrors _ _ _ (m.records.mapValues fun _ r => m.reconcileRecord now r).get _
    rw [← updateAll_stale m now fun key r hget => (h.key key r hget).1]
    refine h.mirrors.writeAll hnames (fun e he => ?_) fun _ _ => trivial
    have hget := InsertionMap.get_eq_some.2 (List.mem_filter.1 he).1
    rw [(h.key e.1 e.2 hget).1]
    exact h.mirrors.key e.1 e.2 hget
  key key r hget := by
    have hmap : ((m.records.get key).map fun r => m.reconcileRecord now r) = some r := by
      rw [← InsertionMap.get_mapValues (fun _ r => m.reconcileRecord now r)]
      exact hget
    obtain ⟨r₀, hget₀, rfl⟩ := Option.map_eq_some_iff.1 hmap
    rw [key_reconcileRecord]
    exact h.key key r₀ hget₀

lemma OnDisk.remove (h : m.OnDisk keys) (hnames : Set.InjOn actionFile keys) (orderId : Text)
    (actionType : ActionType) (hkey : makeKey orderId actionType ∈ keys) :
    (m.remove orderId actionType).OnDisk keys where
  mirrors := by
    show Directory.Mirrors _ _ _ (m.records.delete (makeKey orderId actionType)).get _
    rw [InsertionMap.get_delete]
    exact h.mirrors.unlink hnames hkey
  key key r hget := h.key key r (InsertionMap.get_of_delete hget)

lemma OnDisk.survives (h : m.OnDisk keys) : m.Survives := fun _ hlisting =>
  h.mirrors.get_load_of_forall (fun _ => trivial) hlisting fun key r hget => by
    simpa using (h.key key r hget).2

/-- Every event keeps the files up to date, if the keys have different files. -/
lemma OnDisk.handle (h : m.OnDisk keys) (hnames : Set.InjOn actionFile keys) (e : ManagerEvent)
    (hkey : ∀ key ∈ e.key, key ∈ keys) : (m.handle e).OnDisk keys := by
  cases e with
  | call c now =>
    rcases Machine.step_cases machine m (c, now) with hsame | ⟨m', hok, hstep⟩
    · show (machine.step m (c, now)).OnDisk keys
      rw [hsame]
      exact h
    show (machine.step m (c, now)).OnDisk keys
    rw [hstep]
    cases c with
    | record orderId actionType correlationId forceNew attemptId =>
      exact h.record hnames (hkey _ rfl) hok
    | reconcile =>
      cases hok
      exact h.reconcile hnames now
    | remove orderId actionType =>
      cases hok
      exact h.remove hnames orderId actionType (hkey _ rfl)
    | clear =>
      cases hok
      refine ⟨Directory.Mirrors.empty, fun key r hget => ?_⟩
      cases hget
    | _ => exact h.update hnames hok fun _ => rfl
  | restart listing =>
    simp only [IdempotencyManager.handle]
    split
    · rename_i hlisting
      have hsame := h.survives listing hlisting
      refine ⟨?_, fun key r hget => h.key key r ((congrFun hsame key).symm.trans hget)⟩
      have hmirrors := h.mirrors
      rw [← hsame] at hmirrors
      exact hmirrors
    · exact h

lemma onDisk_run (hnames : Set.InjOn actionFile keys) (events : List ManagerEvent)
    (hevents : ∀ e ∈ events, ∀ key ∈ e.key, key ∈ keys) : (run events).OnDisk keys :=
  List.foldlRecOn (motive := OnDisk keys) events IdempotencyManager.handle
    ⟨Directory.Mirrors.empty, fun key r hget => by cases hget⟩
    fun _ h e he => h.handle hnames e (hevents e he)

lemma record_of_none (h : m.get orderId actionType = none) (correlationId : Option Text)
    (forceNew : Bool) (attemptId : Text) (now : ℕ) :
    m.record orderId actionType correlationId forceNew attemptId now =
      .ok (m.put (makeKey orderId actionType)
        (newRecord orderId actionType correlationId attemptId now)) := by
  have hnone : m.records.get (makeKey orderId actionType) = none := h
  simp [IdempotencyManager.record, hnone]

lemma survives_iff (actions : Set (Text × ActionType)) :
    (∀ events, (∀ e ∈ events, ∀ action ∈ ManagerEvent.action e, action ∈ actions) →
      (run events).Survives) ↔
      Set.InjOn actionFile ((fun a => makeKey a.1 a.2) '' actions) := by
  constructor
  · rintro h _ ⟨⟨orderId, type⟩, ha, rfl⟩ _ ⟨⟨orderId', type'⟩, ha', rfl⟩ hfile
    by_contra hne
    dsimp only at hfile hne
    let r := newRecord orderId type none [] 0
    let r' := newRecord orderId' type' none [] 0
    let events : List ManagerEvent :=
      [.call (.record orderId type none false []) 0, .call (.record orderId' type' none false []) 0]
    have hrun : run events =
        (fresh.put (makeKey orderId type) r).put (makeKey orderId' type') r' := by
      have hnone : (fresh.put (makeKey orderId type) r).get orderId' type' = none := by
        rw [get, get_put, if_neg (Ne.symm hne)]
        rfl
      have hempty : fresh.get orderId type = none := rfl
      have hfirst : machine.exec (.record orderId type none false [], 0) fresh =
          .ok (fresh.put (makeKey orderId type) r) := record_of_none hempty none false [] 0
      have hsecond : machine.exec (.record orderId' type' none false [], 0)
          (fresh.put (makeKey orderId type) r) =
          .ok ((fresh.put (makeKey orderId type) r).put (makeKey orderId' type') r') :=
        record_of_none hnone none false [] 0
      simp only [events, run, List.foldl_cons, List.foldl_nil, IdempotencyManager.handle]
      rw [Machine.step_of_ok hfirst, Machine.step_of_ok hsecond]
    have hkept : (run events).records.get (makeKey orderId type) = some r := by
      rw [hrun, get_put, if_neg hne, get_put, if_pos rfl]
    exact Directory.not_reloads (fun key _ => key ≠ []) hfile.symm hne (by rw [hrun]; rfl)
      (Option.isSome_iff_exists.2 ⟨r, hkept⟩)
      (h events (by simp [events, ManagerEvent.action, ha, ha']))
  · intro hnames events hevents
    refine (onDisk_run hnames events fun e he key hkey => ?_).survives
    obtain ⟨a, ha, rfl⟩ := Option.map_eq_some_iff.1 hkey
    exact ⟨a, hevents e he a ha, rfl⟩

end IdempotencyManager

/-- For a set of keys, the four stores find after every history what they had written exactly if the
keys have different files.  The store of transactions is told block numbers that are not negative;
it does not read others. -/
theorem stores_survive_restart (keys : Set Text) (actions : Set (Text × ActionType)) :
    ((∀ calls, (∀ c ∈ calls, ∀ orderId ∈ RefundCall.orderId c, orderId ∈ keys) →
      (RefundStore.run calls).Survives) ↔ Set.InjOn refundFile keys) ∧
    ((∀ calls, (∀ c ∈ calls, ∀ stellarTxHash ∈ ProofCall.stellarTxHash c, stellarTxHash ∈ keys) →
      (ProofStore.run calls).Survives) ↔ Set.InjOn proofFile keys) ∧
    ((∀ pendingTimeoutMs maxRecovery events,
      (∀ e ∈ events, (∀ orderId ∈ TxEvent.newOrder e, orderId ∈ keys) ∧
        ∀ receipt ∈ e.receipt, 0 ≤ receipt.blockNumber) →
      (TxRelay.run pendingTimeoutMs maxRecovery events).store.Survives) ↔
      Set.InjOn txFile keys) ∧
    ((∀ events, (∀ e ∈ events, ∀ action ∈ ManagerEvent.action e, action ∈ actions) →
      (IdempotencyManager.run events).Survives) ↔
      Set.InjOn actionFile ((fun a => IdempotencyManager.makeKey a.1 a.2) '' actions)) :=
  ⟨RefundStore.survives_iff keys, ProofStore.survives_iff keys, TxRelay.survives_iff keys,
    IdempotencyManager.survives_iff actions⟩

/-- A refund that was paid is forgotten: the refund of another order is in its file. -/
theorem refund_lost_at_restart :
    let calls : List RefundCall :=
      [.claim "a:b".toList, .commit 0 "a:b".toList "1".toList 70 none,
        .claim "a/b".toList, .commit 1 "a/b".toList "2".toList 30 none]
    refundFile "a:b".toList = refundFile "a/b".toList ∧
    (RefundStore.run calls).entries "a:b".toList = some (.committed "1".toList 70 none 0) ∧
    (RefundStore.run calls).files.keys = ["a_b.json".toList] ∧
    ((RefundStore.run calls).loadFromDisk ["a_b.json".toList]).entries "a:b".toList = none := by
  decide +kernel

end WaffleFinance.Relayer

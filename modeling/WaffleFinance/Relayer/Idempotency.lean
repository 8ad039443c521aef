import WaffleFinance.Lib.Machine
import WaffleFinance.Relayer.Files

/-!
# The idempotency manager

`IdempotencyManager` keeps a record for each order and action.  It is meant to keep an action that
is over as it is, and to give out no second attempt while a transaction is on its way.

Only `record` looks at the state of a record; the operations that change the state do not.  And
`reconcile` abandons a transaction of which nothing was heard for some time, after which `record`
gives out a new attempt.
-/

namespace WaffleFinance.Relayer

open Lib

/-! ### Records -/

inductive ActionType where
  | claim
  | refund
  | createEscrow
  | revealPreimage
  | registerResolver
  | increaseStake
  deriving DecidableEq

def ActionType.name : ActionType → Text
  | claim => "claim".toList
  | refund => "refund".toList
  | createEscrow => "create_escrow".toList
  | revealPreimage => "reveal_preimage".toList
  | registerResolver => "register_resolver".toList
  | increaseStake => "increase_stake".toList

inductive AttemptState where
  | pending
  | submitted
  | completed
  | failed
  | abandoned
  deriving DecidableEq

def AttemptState.name : AttemptState → Text
  | pending => "pending".toList
  | submitted => "submitted".toList
  | completed => "completed".toList
  | failed => "failed".toList
  | abandoned => "abandoned".toList

structure ActionRecord where
  key : Text
  orderId : Text
  actionType : ActionType
  state : AttemptState
  attemptId : Text
  txHash : Option Text
  minedBlock : Option ℕ
  failureReason : Option Text
  retryCount : ℕ
  createdAt : ℕ
  updatedAt : ℕ
  correlationId : Option Text
  deriving DecidableEq

inductive IdempotencyCode where
  | alreadyCompleted
  | notFound
  deriving DecidableEq

structure IdempotencyError where
  orderId : Text
  actionType : ActionType
  message : Text
  code : IdempotencyCode
  deriving DecidableEq

namespace ActionRecord

/-- The action is over. -/
def IsFinal (r : ActionRecord) : Prop := r.state = .completed ∨ r.state = .failed

instance isFinalDecidable (r : ActionRecord) : Decidable r.IsFinal :=
  inferInstanceAs (Decidable (_ ∨ _))

/-- A transaction is on its way. -/
def IsSubmitted (r : ActionRecord) : Prop := r.state = .submitted ∧ (given r.txHash).isSome = true

instance isSubmittedDecidable (r : ActionRecord) : Decidable r.IsSubmitted :=
  inferInstanceAs (Decidable (_ ∧ _))

/-- A block number that JavaScript takes for true. -/
def isMined (r : ActionRecord) : Bool := r.minedBlock.any fun block => block ≠ 0

/-- A transaction was sent and nothing was heard of it yet. -/
def IsWaiting (r : ActionRecord) : Prop := r.state = .submitted ∧ r.isMined = false

instance isWaitingDecidable (r : ActionRecord) : Decidable r.IsWaiting :=
  inferInstanceAs (Decidable (_ ∧ _))

end ActionRecord

structure IdempotencyManager where
  records : InsertionMap Text ActionRecord
  files : Directory Text Text ActionRecord
  maxRetryCount : ℕ
  pendingTimeoutMs : ℕ

/-- Whether an action may be retried, and why. -/
structure RecoveryContext where
  originalAttemptId : Text
  orderId : Text
  actionType : ActionType
  state : AttemptState
  canRetry : Bool
  retryReason : Text
  deriving DecidableEq

structure ReconcileResult where
  scanned : ℕ
  recovered : ℕ
  failed : ℕ
  skipped : ℕ
  deriving DecidableEq

namespace IdempotencyManager

variable (m : IdempotencyManager)

/-! ### Operations -/

def makeKey (orderId : Text) (actionType : ActionType) : Text :=
  orderId ++ ':' :: actionType.name

def get (orderId : Text) (actionType : ActionType) : Option ActionRecord :=
  m.records.get (makeKey orderId actionType)

/-- The record in memory and on disk. -/
def put (key : Text) (r : ActionRecord) : IdempotencyManager :=
  { m with
    records := m.records.insert key r
    files := m.files.write actionFile r.key r }

def newRecord (orderId : Text) (actionType : ActionType) (correlationId : Option Text)
    (attemptId : Text) (now : ℕ) : ActionRecord where
  key := makeKey orderId actionType
  orderId := orderId
  actionType := actionType
  state := .pending
  attemptId := attemptId
  txHash := none
  minedBlock := none
  failureReason := none
  retryCount := 0
  createdAt := now
  updatedAt := now
  correlationId := correlationId

/-- A new attempt, if there is nothing that stands against it. -/
def record (orderId : Text) (actionType : ActionType) (correlationId : Option Text)
    (forceNew : Bool) (attemptId : Text) (now : ℕ) : Except IdempotencyError IdempotencyManager :=
  let key := makeKey orderId actionType
  let create := m.put key (newRecord orderId actionType correlationId attemptId now)
  match m.records.get key with
  | none => .ok create
  | some existing =>
    if forceNew then .ok create
    else
      match existing.state with
      | .submitted => if (given existing.txHash).isSome then .ok m else .ok create
      | .completed | .failed =>
        .error ⟨orderId, actionType, "Action already ".toList ++ existing.state.name,
          .alreadyCompleted⟩
      | .pending =>
        .ok (m.put key { existing with retryCount := existing.retryCount + 1, updatedAt := now })
      | .abandoned => .ok create

/-- `_update` of the record that is there. -/
def update (orderId : Text) (actionType : ActionType) (change : ActionRecord → ActionRecord) :
    Except IdempotencyError IdempotencyManager :=
  match m.get orderId actionType with
  | none => .error ⟨orderId, actionType, "No record found".toList, .notFound⟩
  | some r => .ok (m.put (makeKey orderId actionType) (change r))

def submitted (orderId : Text) (actionType : ActionType) (txHash : Text) (now : ℕ) :
    Except IdempotencyError IdempotencyManager :=
  m.update orderId actionType fun r =>
    { r with state := .submitted, updatedAt := now, txHash := some txHash }

def complete (orderId : Text) (actionType : ActionType) (txHash : Text) (minedBlock : Option ℕ)
    (now : ℕ) : Except IdempotencyError IdempotencyManager :=
  m.update orderId actionType fun r =>
    { r with
      state := .completed
      updatedAt := now
      txHash := some txHash
      minedBlock := minedBlock.or r.minedBlock }

def fail (orderId : Text) (actionType : ActionType) (reason : Text) (isTerminal : Bool)
    (now : ℕ) : Except IdempotencyError IdempotencyManager :=
  m.update orderId actionType fun r =>
    { r with
      state := if isTerminal then .failed else .abandoned
      updatedAt := now
      failureReason := some reason }

/-- What `reconcile` does with a record: stale ones are abandoned. -/
def reconcileRecord (now : ℕ) (r : ActionRecord) : ActionRecord :=
  if (r.state = .pending ∧ r.createdAt + m.pendingTimeoutMs < now) ∨
      (r.IsWaiting ∧ r.updatedAt + m.pendingTimeoutMs < now) then
    { r with state := .abandoned, updatedAt := now }
  else r

/-- The records that `reconcile` changes. -/
def stale (now : ℕ) : List (Text × ActionRecord) :=
  m.records.entries.filter fun e => m.reconcileRecord now e.2 ≠ e.2

def reconcile (now : ℕ) : ReconcileResult × IdempotencyManager :=
  let failed := (m.stale now).length
  let completed := m.records.entries.countP fun e => e.2.state = .completed
  let scanned := m.records.entries.length
  (⟨scanned, scanned - failed - completed, failed, completed⟩,
    { m with
      records := m.records.mapValues fun _ r => m.reconcileRecord now r
      files := (m.stale now).foldl
        (fun d e => d.write actionFile e.2.key (m.reconcileRecord now e.2)) m.files })

def remove (orderId : Text) (actionType : ActionType) : IdempotencyManager :=
  { m with
    records := m.records.delete (makeKey orderId actionType)
    files := m.files.unlink actionFile (makeKey orderId actionType) }

def clear : IdempotencyManager := { m with records := .empty, files := .empty }

/-- A new manager with the defaults. -/
def fresh : IdempotencyManager := ⟨.empty, .empty, 10, 900000⟩

/-! ### May an action be retried? -/

/-- Ages are compared without a difference, which may be negative. -/
def canRetry (orderId : Text) (actionType : ActionType) (now : ℕ) : Bool :=
  match m.get orderId actionType with
  | none => true
  | some r =>
    if r.state = .pending ∨ r.state = .abandoned then r.retryCount < m.maxRetryCount
    else if r.IsWaiting then now < r.updatedAt + m.pendingTimeoutMs
    else false

def retryReason (r : ActionRecord) (now : ℕ) : Text :=
  let limit := decimal m.maxRetryCount
  match r.state with
  | .completed => "Action already completed successfully".toList
  | .failed =>
    "Action failed permanently: ".toList ++ r.failureReason.getD "undefined".toList
  | .pending =>
    if r.retryCount < m.maxRetryCount then
      "Retry attempt ".toList ++ decimal (r.retryCount + 1) ++ '/' :: limit
    else "Max retries (".toList ++ limit ++ ") exceeded".toList
  | .submitted =>
    if r.isMined then "Transaction already mined".toList
    else if r.updatedAt + m.pendingTimeoutMs < now then
      "Submission pending too long, safe to retry".toList
    else
      "Submission pending ".toList ++ roundedSeconds ((now : ℤ) - r.updatedAt) ++
        "s, safe to retry".toList
  | .abandoned =>
    "Abandoned attempt, ".toList ++ decimal r.retryCount ++ '/' :: limit ++ " retries".toList

def getRecoveryContext (orderId : Text) (actionType : ActionType) (now : ℕ) : RecoveryContext :=
  match m.get orderId actionType with
  | none =>
    ⟨[], orderId, actionType, .pending, true,
      "No previous attempt found, safe to start new attempt".toList⟩
  | some r =>
    let allowed := match r.state with
      | .completed | .failed => false
      | .pending | .abandoned => decide (r.retryCount < m.maxRetryCount)
      | .submitted => !r.isMined
    ⟨r.attemptId, r.orderId, r.actionType, r.state, allowed, m.retryReason r now⟩

end IdempotencyManager

/-! ### Runs -/

inductive IdempotencyCall where
  | record (orderId : Text) (actionType : ActionType) (correlationId : Option Text)
      (forceNew : Bool) (attemptId : Text)
  | submitted (orderId : Text) (actionType : ActionType) (txHash : Text)
  | complete (orderId : Text) (actionType : ActionType) (txHash : Text) (minedBlock : Option ℕ)
  | fail (orderId : Text) (actionType : ActionType) (reason : Text) (isTerminal : Bool)
  | reconcile
  | remove (orderId : Text) (actionType : ActionType)
  | clear
  deriving DecidableEq

namespace IdempotencyCall

/-- A call at a time. -/
def exec (now : ℕ) (m : IdempotencyManager) :
    IdempotencyCall → Except IdempotencyError IdempotencyManager
  | record orderId actionType correlationId forceNew attemptId =>
    m.record orderId actionType correlationId forceNew attemptId now
  | submitted orderId actionType txHash => m.submitted orderId actionType txHash now
  | complete orderId actionType txHash minedBlock =>
    m.complete orderId actionType txHash minedBlock now
  | fail orderId actionType reason isTerminal => m.fail orderId actionType reason isTerminal now
  | reconcile => .ok (m.reconcile now).2
  | remove orderId actionType => .ok (m.remove orderId actionType)
  | clear => .ok m.clear

/-- The caller says what has become of the transaction. -/
def Resolves (key : Text) : IdempotencyCall → Prop
  | complete orderId actionType _ _ => IdempotencyManager.makeKey orderId actionType = key
  | fail orderId actionType _ _ => IdempotencyManager.makeKey orderId actionType = key
  | _ => False

end IdempotencyCall

namespace IdempotencyManager

def machine : Machine IdempotencyManager (IdempotencyCall × ℕ) IdempotencyError :=
  ⟨fun c m => c.1.exec c.2 m⟩

/-- The manager after the first `n` calls. -/
def after (m : IdempotencyManager) (calls : List (IdempotencyCall × ℕ)) (n : ℕ) :
    IdempotencyManager :=
  machine.stateAt m calls n

/-- The condition on a call: it does not change an action that is over, nor forget it or a
transaction that is on its way. -/
def Respects (m : IdempotencyManager) (now : ℕ) : IdempotencyCall → Prop
  | .record orderId actionType _ forceNew _ =>
    forceNew = true → ∀ r ∈ m.get orderId actionType, ¬ r.IsFinal ∧ ¬ r.IsSubmitted
  | .submitted orderId actionType txHash =>
    ∀ r ∈ m.get orderId actionType, ¬ r.IsFinal ∧ (r.IsSubmitted → txHash ≠ [])
  | .complete orderId actionType _ _ => ∀ r ∈ m.get orderId actionType, r.state ≠ .failed
  | .fail orderId actionType _ isTerminal =>
    ∀ r ∈ m.get orderId actionType, r.state ≠ .completed ∧ (r.state = .failed → isTerminal = true)
  | .reconcile =>
    ∀ e ∈ m.records.entries, e.2.IsSubmitted → e.2.isMined = false →
      now ≤ e.2.updatedAt + m.pendingTimeoutMs
  | .remove orderId actionType => ∀ r ∈ m.get orderId actionType, ¬ r.IsFinal ∧ ¬ r.IsSubmitted
  | .clear => ∀ e ∈ m.records.entries, ¬ e.2.IsFinal ∧ ¬ e.2.IsSubmitted

instance respectsDecidable (m : IdempotencyManager) (now : ℕ) (c : IdempotencyCall) :
    Decidable (m.Respects now c) := by
  unfold Respects
  split <;> infer_instance

/-- The transaction was sent so long ago that it counts as lost. -/
def Overdue (m : IdempotencyManager) (orderId : Text) (actionType : ActionType) (now : ℕ) : Prop :=
  ∃ r ∈ m.get orderId actionType, r.IsWaiting ∧ r.updatedAt + m.pendingTimeoutMs ≤ now

/-- What the manager is to guarantee along a run. -/
structure IsFinality (m : IdempotencyManager) (calls : List (IdempotencyCall × ℕ)) : Prop where
  /-- An action that is over stays as it is. -/
  final : ∀ i j, i ≤ j → ∀ key r, (m.after calls i).records.get key = some r → r.IsFinal →
    ∃ r', (m.after calls j).records.get key = some r' ∧ r'.state = r.state
  /-- While a transaction is on its way there is no new attempt. -/
  submitted : ∀ i j, i ≤ j → ∀ key r, (m.after calls i).records.get key = some r → r.IsSubmitted →
    (∀ k, i ≤ k → k < j → ∀ c ∈ calls[k]?, ¬ c.1.Resolves key) →
    ∃ r', (m.after calls j).records.get key = some r' ∧ r'.attemptId = r.attemptId

/-! ### One call -/

variable {m m' : IdempotencyManager} {now : ℕ} {key : Text} {r : ActionRecord}

lemma get_put (m : IdempotencyManager) (key key' : Text) (r : ActionRecord) :
    (m.put key r).records.get key' = if key' = key then some r else m.records.get key' := by
  unfold put
  split
  · rename_i h
    rw [h, InsertionMap.get_insert_self]
  · rename_i h
    exact InsertionMap.get_insert_of_ne _ h _

variable {orderId : Text} {actionType : ActionType}

lemma mem_get (hkey : key = makeKey orderId actionType) (hget : m.records.get key = some r) :
    r ∈ m.get orderId actionType := by
  rw [hkey] at hget
  exact hget

lemma reconcileRecord_final (h : r.IsFinal) : m.reconcileRecord now r = r := by
  unfold reconcileRecord ActionRecord.IsWaiting
  rcases h with h | h <;> simp [h]

lemma reconcileRecord_submitted (h : r.IsSubmitted)
    (hnow : r.isMined = false → now ≤ r.updatedAt + m.pendingTimeoutMs) :
    m.reconcileRecord now r = r := by
  refine if_neg ?_
  rintro (⟨hpending, -⟩ | ⟨hwaiting, hlate⟩)
  · exact absurd (h.1.symm.trans hpending) (by decide)
  · exact absurd (hnow hwaiting.2) hlate.not_ge

lemma update_cases {change : ActionRecord → ActionRecord}
    (h : m.update orderId actionType change = .ok m') (hget : m.records.get key = some r) :
    m'.records.get key =
      some (if key = makeKey orderId actionType then change r else r) := by
  unfold update get at h
  split at h
  · cases h
  rename_i r₀ hr₀
  cases h
  rw [get_put]
  split
  · rename_i hkey
    rw [← hkey, hget] at hr₀
    rw [Option.some.inj hr₀]
  · exact hget

/-- What `record` may do: nothing, or a record of the action is put in its place. -/
lemma record_ok {correlationId : Option Text} {forceNew : Bool} {attemptId : Text}
    (h : m.record orderId actionType correlationId forceNew attemptId now = .ok m') :
    m' = m ∨ ∃ r', m' = m.put (makeKey orderId actionType) r' ∧
      (r'.key = makeKey orderId actionType ∨
        ∃ existing ∈ m.get orderId actionType, r'.key = existing.key) := by
  simp only [record] at h
  split at h
  · cases h
    exact Or.inr ⟨_, rfl, Or.inl rfl⟩
  rename_i existing hget
  split at h
  · cases h
    exact Or.inr ⟨_, rfl, Or.inl rfl⟩
  split at h
  · split at h
    · cases h
      exact Or.inl rfl
    · cases h
      exact Or.inr ⟨_, rfl, Or.inl rfl⟩
  · cases h
  · cases h
  · cases h
    exact Or.inr ⟨_, rfl, Or.inr ⟨existing, hget, rfl⟩⟩
  · cases h
    exact Or.inr ⟨_, rfl, Or.inl rfl⟩

/-- A record is kept, or counted up, unless a new one takes its place. -/
lemma record_cases {correlationId : Option Text} {forceNew : Bool} {attemptId : Text}
    (h : m.record orderId actionType correlationId forceNew attemptId now = .ok m')
    (hget : m.records.get key = some r) (hkeep : key = makeKey orderId actionType →
      forceNew = false ∧ (r.IsFinal ∨ r.IsSubmitted)) : m'.records.get key = some r := by
  by_cases hkey : key = makeKey orderId actionType
  · obtain ⟨rfl, hr⟩ := hkeep hkey
    subst hkey
    unfold record at h
    simp only [hget, Bool.false_eq_true, if_false] at h
    rcases hr with (hstate | hstate) | ⟨hstate, hhash⟩
    · simp [hstate] at h
    · simp [hstate] at h
    · simp only [hstate, hhash, if_true] at h
      cases h
      exact hget
  rcases record_ok h with rfl | ⟨r', rfl, -⟩
  · exact hget
  · rw [get_put, if_neg hkey]
    exact hget

lemma get_reconcile (hget : m.records.get key = some r) :
    (m.reconcile now).2.records.get key = some (m.reconcileRecord now r) := by
  show (m.records.mapValues fun _ r => m.reconcileRecord now r).get key = _
  rw [InsertionMap.get_mapValues, hget]
  rfl

lemma get_remove_of_ne (hkey : key ≠ makeKey orderId actionType)
    (hget : m.records.get key = some r) : (m.remove orderId actionType).records.get key = some r :=
  InsertionMap.get_filter_eq_some.2 ⟨hget, by simpa using hkey⟩

/-- A call that meets the condition keeps the state of an action that is over. -/
lemma exec_final {c : IdempotencyCall} (hrespects : m.Respects now c) (h : c.exec now m = .ok m')
    (hget : m.records.get key = some r) (hfinal : r.IsFinal) :
    ∃ r', m'.records.get key = some r' ∧ r'.state = r.state := by
  cases c with
  | record orderId actionType correlationId forceNew attemptId =>
    refine ⟨r, record_cases h hget fun hkey => ⟨?_, Or.inl hfinal⟩, rfl⟩
    by_contra hforce
    exact (hrespects (by simpa using hforce) r (mem_get hkey hget)).1 hfinal
  | submitted orderId actionType txHash =>
    refine ⟨_, update_cases h hget, ?_⟩
    split
    · rename_i hkey
      exact absurd hfinal (hrespects r (mem_get hkey hget)).1
    · rfl
  | complete orderId actionType txHash minedBlock =>
    refine ⟨_, update_cases h hget, ?_⟩
    split
    · rename_i hkey
      exact (hfinal.resolve_right (hrespects r (mem_get hkey hget))).symm
    · rfl
  | fail orderId actionType reason isTerminal =>
    refine ⟨_, update_cases h hget, ?_⟩
    split
    · rename_i hkey
      obtain ⟨hcompleted, hterminal⟩ := hrespects r (mem_get hkey hget)
      have hfailed := hfinal.resolve_left hcompleted
      rw [hfailed]
      exact if_pos (hterminal hfailed)
    · rfl
  | reconcile =>
    cases h
    exact ⟨_, get_reconcile hget, by rw [reconcileRecord_final hfinal]⟩
  | remove orderId actionType =>
    cases h
    refine ⟨r, get_remove_of_ne (fun hkey => ?_) hget, rfl⟩
    exact (hrespects r (mem_get hkey hget)).1 hfinal
  | clear => exact absurd hfinal (hrespects (key, r) (InsertionMap.get_eq_some.1 hget)).1

/-- A call that meets the condition keeps a transaction that is on its way, unless it says what has
become of it. -/
lemma exec_submitted {c : IdempotencyCall} (hrespects : m.Respects now c)
    (h : c.exec now m = .ok m') (hresolves : ¬ c.Resolves key)
    (hget : m.records.get key = some r) (hsubmitted : r.IsSubmitted) :
    ∃ r', m'.records.get key = some r' ∧ r'.IsSubmitted ∧ r'.attemptId = r.attemptId := by
  cases c with
  | record orderId actionType correlationId forceNew attemptId =>
    refine ⟨r, record_cases h hget fun hkey => ⟨?_, Or.inr hsubmitted⟩, hsubmitted, rfl⟩
    by_contra hforce
    exact (hrespects (by simpa using hforce) r (mem_get hkey hget)).2 hsubmitted
  | submitted orderId actionType txHash =>
    refine ⟨_, update_cases h hget, ?_⟩
    split
    · rename_i hkey
      have hhash := (hrespects r (mem_get hkey hget)).2 hsubmitted
      refine ⟨⟨rfl, ?_⟩, rfl⟩
      cases txHash with
      | nil => exact absurd rfl hhash
      | cons a as => rfl
    · exact ⟨hsubmitted, rfl⟩
  | reconcile =>
    cases h
    refine ⟨_, get_reconcile hget, ?_⟩
    have hnow := hrespects (key, r) (InsertionMap.get_eq_some.1 hget) hsubmitted
    rw [reconcileRecord_submitted hsubmitted hnow]
    exact ⟨hsubmitted, rfl⟩
  | remove orderId actionType =>
    cases h
    refine ⟨r, get_remove_of_ne (fun hkey => ?_) hget, hsubmitted, rfl⟩
    exact (hrespects r (mem_get hkey hget)).2 hsubmitted
  | clear => exact absurd hsubmitted (hrespects (key, r) (InsertionMap.get_eq_some.1 hget)).2
  | _ =>
    refine ⟨_, update_cases h hget, ?_⟩
    rw [if_neg fun hkey => hresolves hkey.symm]
    exact ⟨hsubmitted, rfl⟩

/-! ### A whole run -/

section Run

variable {calls : List (IdempotencyCall × ℕ)}

lemma final_after
    (hrespects : ∀ n, ∀ c ∈ calls[n]?, (m.after calls n).Respects c.2 c.1) {i j : ℕ} (hij : i ≤ j)
    (hget : (m.after calls i).records.get key = some r) (hfinal : r.IsFinal) :
    ∃ r', (m.after calls j).records.get key = some r' ∧ r'.state = r.state := by
  refine Machine.stateAt_from (M := machine)
    (I := fun m => ∃ r', m.records.get key = some r' ∧ r'.state = r.state) hij ?_ ⟨r, hget, rfl⟩
  rintro n c - - ⟨hc, hok⟩ ⟨r', hget', hstate⟩
  have hfinal' : r'.IsFinal := by
    unfold ActionRecord.IsFinal
    rw [hstate]
    exact hfinal
  obtain ⟨r'', hget'', hstate'⟩ := exec_final (hrespects n c hc) hok hget' hfinal'
  exact ⟨r'', hget'', hstate'.trans hstate⟩

lemma submitted_after
    (hrespects : ∀ n, ∀ c ∈ calls[n]?, (m.after calls n).Respects c.2 c.1) {i j : ℕ} (hij : i ≤ j)
    (hget : (m.after calls i).records.get key = some r) (hsubmitted : r.IsSubmitted)
    (hopen : ∀ k, i ≤ k → k < j → ∀ c ∈ calls[k]?, ¬ c.1.Resolves key) :
    ∃ r', (m.after calls j).records.get key = some r' ∧ r'.IsSubmitted ∧
      r'.attemptId = r.attemptId := by
  refine Machine.stateAt_from (M := machine) (I := fun m => ∃ r', m.records.get key = some r' ∧
    r'.IsSubmitted ∧ r'.attemptId = r.attemptId) hij ?_ ⟨r, hget, hsubmitted, rfl⟩
  rintro n c hin hnj ⟨hc, hok⟩ ⟨r', hget', hsubmitted', hid⟩
  obtain ⟨r'', hget'', hsubmitted'', hid'⟩ :=
    exec_submitted (hrespects n c hc) hok (hopen n hin hnj c hc) hget' hsubmitted'
  exact ⟨r'', hget'', hsubmitted'', hid'.trans hid⟩

end Run

/-! ### The two answers -/

lemma canRetry_eq_iff (m : IdempotencyManager) (orderId : Text) (actionType : ActionType)
    (now : ℕ) :
    m.canRetry orderId actionType now = (m.getRecoveryContext orderId actionType now).canRetry ↔
      ¬ m.Overdue orderId actionType now := by
  unfold canRetry getRecoveryContext Overdue
  cases hget : m.get orderId actionType with
  | none => simp
  | some r =>
    cases hstate : r.state with
    | submitted =>
      cases hmined : r.isMined with
      | true | false => simp [hstate, hmined, ActionRecord.IsWaiting]
    | _ => simp [hstate, ActionRecord.IsWaiting]

end IdempotencyManager

open IdempotencyManager

/-- In a run whose calls meet the condition an action that is over stays as it is, and there is no
new attempt while a transaction is on its way.  The two ways to ask whether an action may be retried
agree exactly where its transaction does not count as lost. -/
theorem idempotency_manager_final (m : IdempotencyManager) (calls : List (IdempotencyCall × ℕ))
    (hrespects : ∀ n, ∀ c ∈ calls[n]?, (m.after calls n).Respects c.2 c.1) :
    m.IsFinality calls ∧
      ∀ n orderId actionType now, (m.after calls n).canRetry orderId actionType now =
          ((m.after calls n).getRecoveryContext orderId actionType now).canRetry ↔
        ¬ (m.after calls n).Overdue orderId actionType now := by
  refine ⟨⟨fun i j hij key r hget hfinal => ?_, fun i j hij key r hget hsubmitted hopen => ?_⟩, ?_⟩
  · exact final_after hrespects hij hget hfinal
  · obtain ⟨r', hget', -, hid⟩ := submitted_after hrespects hij hget hsubmitted hopen
    exact ⟨r', hget', hid⟩
  · exact fun n orderId actionType now => canRetry_eq_iff _ orderId actionType now

/-- A refund from the first attempt to its end, with a look at it in between. -/
def refundRun : List (IdempotencyCall × ℕ) :=
  let order := "order".toList
  [(.record order .refund none false "attempt-1".toList, 0),
    (.submitted order .refund "0x1".toList, 1000),
    (.reconcile, 5000),
    (.record order .refund none false "attempt-2".toList, 6000),
    (.complete order .refund "0x1".toList (some 7), 9000)]

theorem idempotency_manager_final_refund :
    fresh.IsFinality refundRun ∧
      ∀ n orderId actionType now, (fresh.after refundRun n).canRetry orderId actionType now =
          ((fresh.after refundRun n).getRecoveryContext orderId actionType now).canRetry ↔
        ¬ (fresh.after refundRun n).Overdue orderId actionType now := by
  have hrespects : ∀ n : Fin refundRun.length,
      (fresh.after refundRun n).Respects refundRun[n].2 refundRun[n].1 := by
    decide +kernel
  refine idempotency_manager_final fresh refundRun fun n c hc => ?_
  obtain ⟨hn, rfl⟩ := List.getElem?_eq_some_iff.1 hc
  exact hrespects ⟨n, hn⟩

/-- A claim that is over is submitted once more. -/
def reopenRun : List (IdempotencyCall × ℕ) :=
  let order := "order".toList
  [(.record order .claim none false "attempt-1".toList, 0),
    (.complete order .claim "0x1".toList (some 7), 1000),
    (.submitted order .claim "0x2".toList, 2000)]

/-- A restart comes after the timeout, and the next attempt is a new one. -/
def resendRun : List (IdempotencyCall × ℕ) :=
  let order := "order".toList
  [(.record order .claim none false "attempt-1".toList, 0),
    (.submitted order .claim "0x1".toList, 0),
    (.reconcile, 900001),
    (.record order .claim none false "attempt-2".toList, 900002)]

theorem idempotency_manager_reopens :
    (((fresh.after reopenRun 2).get "order".toList .claim).map ActionRecord.state =
        some .completed ∧
      ((fresh.after reopenRun 3).get "order".toList .claim).map ActionRecord.state =
        some .submitted) ∧
    (((fresh.after resendRun 2).get "order".toList .claim).map
          (fun r => (r.attemptId, decide r.IsSubmitted)) = some ("attempt-1".toList, true) ∧
      ((fresh.after resendRun 4).get "order".toList .claim).map ActionRecord.attemptId =
        some "attempt-2".toList) ∧
    (fresh.after resendRun 2).canRetry "order".toList .claim 900000 = false ∧
      ((fresh.after resendRun 2).getRecoveryContext "order".toList .claim 900000).canRetry =
        true := by
  decide +kernel

end WaffleFinance.Relayer

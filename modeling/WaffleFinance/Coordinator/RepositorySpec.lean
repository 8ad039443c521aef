import WaffleFinance.Coordinator.Repository

/-!
# What the methods of the repository do

The methods that change an order all work the same way: they look at the row, and then they either
throw, or do nothing, or store a row and add to the trail.  The choice is a function of the row
alone, `setStatusDecision` and its kind, and the body of each method carries it out.

`Mutation` puts the eight methods together.
-/

namespace WaffleFinance.Coordinator

open Lib OrdersRepository
open Except (map ok)

/-- Nothing to do, or the row to store and what to add to the trail. -/
abbrev Decision := Except DbError (Option (OrderRow × OrderEvent))

/-- Carry out a decision. -/
def Db.record (d : Db) (publicId : Text) : Option (OrderRow × OrderEvent) → Db
  | none => d
  | some (r, e) => (d.put publicId r).append e

namespace OrdersRepository

open Statement

lemma exec_atomic {α : Type} {body : DbProgram α} (h : body.Steady) (fate : Fate) (d : Db) :
    (∃ e, (atomic body).exec fate d = (.error e, d)) ∨
      ∃ a d', body.attempt d = .ok (a, d') ∧ (atomic body).exec fate d = (.ok a, d') :=
  ((Sql.atomic_transaction h nestedTransaction).retry shouldRetry (maxAttempts - 1)).exec fate d

lemma exec_atomic_calm {α : Type} {body : DbProgram α} (h : body.Steady) {d d' : Db} {a : α}
    (hbody : body.attempt d = .ok (a, d')) : (atomic body).exec Fate.calm d = (.ok a, d') :=
  ((Sql.atomic_transaction h nestedTransaction).retry shouldRetry (maxAttempts - 1)).exec_calm hbody

lemma steady_updateOrder (p : Text) (f : OrderRow → OrderRow) : (updateOrder p f).Steady := by
  unfold updateOrder
  exact Sql.steady_statement _

/-! ### Status -/

section SetStatus

variable (p : Text) (status : OrderStatus) (actor : Option MutationActor)
  (expected : Option OrderStatus)

def setStatusRow (r : OrderRow) : OrderRow :=
  if expected.all (fun s => r.status = s) then r.withStatus status else r

def setStatusDecision : Option OrderRow → Decision
  | none => .error (orderNotFound p)
  | some r =>
    if expected = none ∧ r.status = status then
      .ok (some (r,
        plainEvent p .statusNoOp (actor.getD .system) status status .noOpAlreadyAtTarget))
    else if expected.all (fun s => r.status = s) then
      .ok (some (r.withStatus status,
        plainEvent p .statusTransitioned (actor.getD .system) r.status status .transitioned))
    else .error (staleStatus p r.status expected)

lemma steady_setStatusBody : (setStatusBody p status actor expected).Steady := by
  refine Sql.steady_statement_bind _ fun order => ?_
  split
  · exact Sql.steady_statement _
  refine Sql.steady_statement_bind _ fun changed => ?_
  cases order with
  | none => exact Sql.steady_throw _
  | some order =>
    dsimp only
    split
    · exact Sql.steady_throw _
    · exact Sql.steady_statement _

lemma attempt_setStatusBody (d : Db) :
    (setStatusBody p status actor expected).attempt d =
      (setStatusDecision p status actor expected (d.orders.get p)).map
        fun o => ((), d.record p o) := by
  unfold setStatusBody setStatusDecision byPublicId updateWhere changes appendTransitionEvent
  simp only [Sql.attempt_statement_bind]
  cases h : d.orders.get p with
  | none => simp [map]
  | some r =>
    simp only [Option.any_some, decide_eq_true_eq]
    by_cases hnoop : expected = none ∧ r.status = status
    · simp [hnoop, map, Db.record, Db.put_self h]
    simp only [hnoop, if_false, Sql.attempt_statement_bind, h, Option.any_some,
      Db.update_eq_put h]
    by_cases hexpected : expected.all (fun s => r.status = s) = true
    · simp [hexpected, map, Db.record]
    · simp [hexpected, map]

end SetStatus

/-! ### Locks -/

section Lock

variable (l : LockRecord)

def lockRow (r : OrderRow) : OrderRow :=
  if isTerminal r.status then r else (l.fill r).withStatus (nextLockStatus r.status l.target)

def lockEvent (r : OrderRow) : OrderEvent :=
  if isTerminal r.status then l.event r.status r.status l.noOp .noOpTerminal
  else if nextLockStatus r.status l.target = r.status then
    l.event r.status (nextLockStatus r.status l.target) l.noOp .noOpAlreadyAtTarget
  else l.event r.status (nextLockStatus r.status l.target) l.transitioned .transitioned

def lockDecision : Option OrderRow → Decision
  | none => .ok none
  | some r => .ok (some (lockRow l r, lockEvent l r))

lemma steady_recordLockBody : (recordLockBody l).Steady := by
  refine Sql.steady_statement_bind _ fun order => ?_
  cases order with
  | none => exact Sql.steady_pure _
  | some order =>
    dsimp only
    split
    · exact Sql.steady_statement _
    · exact (steady_updateOrder _ _).bind fun _ => Sql.steady_statement _

lemma attempt_recordLockBody (d : Db) :
    (recordLockBody l).attempt d =
      (lockDecision l (d.orders.get l.publicId)).map fun o => ((), d.record l.publicId o) := by
  unfold recordLockBody lockDecision lockRow lockEvent byPublicId updateOrder updateWhere
    appendTransitionEvent
  simp only [Sql.attempt_statement_bind]
  cases h : d.orders.get l.publicId with
  | none => simp [map, Db.record]
  | some r =>
    by_cases hterminal : isTerminal r.status = true
    · simp [hterminal, map, Db.record, Db.put_self h]
    · simp [hterminal, map, Db.record, Db.update_eq_put h]

end Lock

/-! ### Secrets -/

section Secret

variable (input : SecretInput)

def secretRow (r : OrderRow) : OrderRow :=
  if isTerminal r.status ∨ r.preimage = some input.preimage ∨
    ¬ encVersionAllowed input.encVersion then r
  else fillSecret input r

def secretDecision : Option OrderRow → Decision
  | none => .ok none
  | some r =>
    if isTerminal r.status then
      .ok (some (r, secretEvent input r.status r.status .secretRevealedNoOp .noOpTerminal))
    else if r.preimage = some input.preimage then
      .ok (some (r, secretEvent input r.status r.status .secretRevealedNoOp .noOpIdempotent))
    else if encVersionAllowed input.encVersion then
      .ok (some (fillSecret input r,
        secretEvent input r.status .secretRevealed .secretRevealedTransitioned .transitioned))
    else .error ⟨"CHECK constraint failed: preimage_enc_version".toList, none⟩

lemma steady_recordSecretBody : (recordSecretBody input).Steady := by
  refine Sql.steady_statement_bind _ fun order => ?_
  cases order with
  | none => exact Sql.steady_pure _
  | some order =>
    dsimp only
    split
    · exact Sql.steady_statement _
    · split
      · exact Sql.steady_statement _
      · exact Sql.steady_statement_bind _ fun _ => Sql.steady_statement _

lemma attempt_recordSecretBody (d : Db) :
    (recordSecretBody input).attempt d =
      (secretDecision input (d.orders.get input.publicId)).map
        fun o => ((), d.record input.publicId o) := by
  unfold recordSecretBody secretDecision byPublicId updateSecret appendTransitionEvent
  simp only [Sql.attempt_statement_bind]
  cases h : d.orders.get input.publicId with
  | none => simp [map, Db.record]
  | some r =>
    by_cases hterminal : isTerminal r.status = true
    · simp [hterminal, map, Db.record, Db.put_self h]
    by_cases hsame : r.preimage = some input.preimage
    · simp [hterminal, hsame, map, Db.record, Db.put_self h]
    · by_cases henc : encVersionAllowed input.encVersion = true
      · simp [hterminal, hsame, henc, Db.update_eq_put h, map, Db.record]
      · simp [hterminal, hsame, henc, map]

end Secret

/-! ### Rollbacks -/

section Rollback

variable (b : Rollback)

def rollbackRow (r : OrderRow) : OrderRow :=
  if r.status = b.locked then (b.clear r).withStatus b.before else r

def rollbackEvent (r : OrderRow) : OrderEvent :=
  if r.status = b.locked then
    plainEvent b.publicId b.eventType b.actor r.status b.before .transitioned
  else plainEvent b.publicId b.eventType b.actor r.status r.status b.noOp

def rollbackDecision : Option OrderRow → Decision
  | none => .ok none
  | some r => .ok (some (rollbackRow b r, rollbackEvent b r))

lemma steady_rollbackBody : (rollbackBody b).Steady := by
  refine Sql.steady_statement_bind _ fun order => ?_
  cases order with
  | none => exact Sql.steady_pure _
  | some order => exact Sql.steady_statement_bind _ fun _ => Sql.steady_statement _

lemma attempt_rollbackBody (d : Db) :
    (rollbackBody b).attempt d =
      (rollbackDecision b (d.orders.get b.publicId)).map fun o => ((), d.record b.publicId o) := by
  unfold rollbackBody rollbackDecision rollbackRow rollbackEvent byPublicId updateWhere changes
    appendTransitionEvent
  simp only [Sql.attempt_statement_bind]
  cases h : d.orders.get b.publicId with
  | none => simp [map, Db.record]
  | some r =>
    by_cases hlocked : r.status = b.locked
    · simp [h, hlocked, Db.update_eq_put h, map, Db.record]
    · simp [h, hlocked, Db.update_eq_put h, map, Db.record]

end Rollback

/-! ### Withdrawals -/

section Withdraw

variable (w : Withdrawal)

def withdrawRow (r : OrderRow) : OrderRow := if canTransition r.status w.target then w.mark r else r

def withdrawDecision : Option OrderRow → Decision
  | none => w.unknown.map fun _ => none
  | some r =>
    if isTerminal r.status then .ok (some (r, w.event r.status r.status w.noOp .noOpTerminal))
    else if canTransition r.status w.target then
      .ok (some (w.mark r, w.event r.status w.target w.transitioned .transitioned))
    else (w.refused r).map fun _ => none

lemma steady_outcome (r : Except DbError Unit) :
    Sql.Steady (ExceptT.mk (pure r) : DbProgram Unit) := by
  cases r with
  | error e => exact Sql.steady_throw e
  | ok u => exact Sql.steady_pure u

lemma attempt_outcome (r : Except DbError Unit) (d : Db) :
    Sql.attempt (ExceptT.mk (pure r) : DbProgram Unit) d = r.map fun _ => ((), d) := by
  cases r <;> rfl

lemma steady_withdrawBody : (withdrawBody w).Steady := by
  refine Sql.steady_statement_bind _ fun order => ?_
  cases order with
  | none => exact steady_outcome _
  | some order =>
    dsimp only
    split
    · exact Sql.steady_statement _
    · split
      · exact steady_outcome _
      · exact (steady_updateOrder _ _).bind fun _ => Sql.steady_statement _

lemma attempt_withdrawBody (d : Db) :
    (withdrawBody w).attempt d =
      (withdrawDecision w (d.orders.get w.publicId)).map fun o => ((), d.record w.publicId o) := by
  unfold withdrawBody withdrawDecision byPublicId updateOrder updateWhere appendTransitionEvent
  simp only [Sql.attempt_statement_bind]
  cases h : d.orders.get w.publicId with
  | none =>
    simp only [attempt_outcome]
    cases w.unknown <;> rfl
  | some r =>
    by_cases hterminal : isTerminal r.status = true
    · simp [hterminal, map, Db.record, Db.put_self h]
    by_cases hcan : canTransition r.status w.target = true
    · simp [hterminal, hcan, Db.update_eq_put h, map, Db.record]
    · simp only [hterminal, hcan]
      cases w.refused r <;> rfl

end Withdraw

end OrdersRepository

/-! ### Announcing -/

/-- `announce` stores the row of a new order, whether or not it then reports an error. -/
lemma exec_announce_insert (input : AnnounceOrderInput) (fate : Fate) (d : Db) :
    ((announce input).exec fate d).2 = d ∨
      ∃ p, orderIdFromHashlock input.hashlock = .ok p ∧ d.orders.get p = none ∧
        ((announce input).exec fate d).2 =
          { d with orders := d.orders.insert p input.row } := by
  unfold announce
  cases hid : orderIdFromHashlock input.hashlock with
  | error e => exact Or.inl rfl
  | ok p =>
    simp only [insertOrder, Statement.byPublicId, Sql.exec_statement_bind]
    cases fate 0 with
    | some e => exact Or.inl rfl
    | none =>
      by_cases hp : p ∈ d.orders.keys
      · simp [hp]
      refine Or.inr ⟨p, rfl, InsertionMap.get_eq_none.2 hp, ?_⟩
      -- the row stays whatever becomes of the read
      cases fate 1 with
      | some e => simp [hp]
      | none => simp [hp]

lemma exec_announce_snd (input : AnnounceOrderInput) (fate : Fate) (d : Db) :
    ((announce input).exec fate d).2 = d ∨
      ∃ p, d.orders.get p = none ∧
        ((announce input).exec fate d).2 =
          { d with orders := d.orders.insert p input.row } := by
  rcases exec_announce_insert input fate d with hsame | ⟨p, -, hinsert⟩
  · exact Or.inl hsame
  · exact Or.inr ⟨p, hinsert⟩

/-- An order from Ethereum to Stellar. -/
def sampleInput : AnnounceOrderInput where
  direction := .ethToXlm
  hashlock := '0' :: 'x' :: List.replicate 64 'a'
  srcChain := .ethereum
  srcAddress := "0xc1".toList
  srcAsset := "native".toList
  srcAmount := "100".toList
  srcSafetyDeposit := "1".toList
  dstChain := .stellar
  dstAddress := "GA1".toList
  dstAsset := "native".toList
  dstAmount := "50".toList

def sampleId : Text := "wf_0x".toList ++ List.replicate 64 'a'

/-! ### The eight methods -/

/-- A call of a method that changes an order. -/
inductive Mutation where
  | setStatus (publicId : Text) (status : OrderStatus) (actor : Option MutationActor)
      (expectedStatus : Option OrderStatus)
  | recordSrcLock (input : SrcLockInput)
  | recordDstLock (input : DstLockInput)
  | recordSecretRevealed (input : SecretInput)
  | rollbackSrcLock (publicId : Text) (actor : Option MutationActor)
  | rollbackDstLock (publicId : Text) (actor : Option MutationActor)
  | cancelOrder (publicId reason : Text) (actor : Option MutationActor)
  | abandonOrder (publicId reason : Text) (actor : Option MutationActor)
  deriving DecidableEq

namespace Mutation

open OrdersRepository

def publicId : Mutation → Text
  | setStatus p _ _ _ => p
  | recordSrcLock input => input.publicId
  | recordDstLock input => input.publicId
  | recordSecretRevealed input => input.publicId
  | rollbackSrcLock p _ => p
  | rollbackDstLock p _ => p
  | cancelOrder p _ _ => p
  | abandonOrder p _ _ => p

def body : Mutation → DbProgram Unit
  | setStatus p status actor expected => setStatusBody p status actor expected
  | recordSrcLock input => recordLockBody (srcLockRecord input)
  | recordDstLock input => recordLockBody (dstLockRecord input)
  | recordSecretRevealed input => recordSecretBody input
  | rollbackSrcLock p actor => rollbackBody (srcRollback p actor)
  | rollbackDstLock p actor => rollbackBody (dstRollback p actor)
  | cancelOrder p reason actor => withdrawBody (cancellation p reason actor)
  | abandonOrder p reason actor => withdrawBody (abandonment p reason actor)

/-- The method of the repository. -/
def program : Mutation → DbProgram Unit
  | setStatus p status actor expected => OrdersRepository.setStatus p status actor expected
  | recordSrcLock input => OrdersRepository.recordSrcLock input
  | recordDstLock input => OrdersRepository.recordDstLock input
  | recordSecretRevealed input => OrdersRepository.recordSecretRevealed input
  | rollbackSrcLock p actor => OrdersRepository.rollbackSrcLock p actor
  | rollbackDstLock p actor => OrdersRepository.rollbackDstLock p actor
  | cancelOrder p reason actor => OrdersRepository.cancelOrder p reason actor
  | abandonOrder p reason actor => OrdersRepository.abandonOrder p reason actor

def decision : Mutation → Option OrderRow → Decision
  | setStatus p status actor expected => setStatusDecision p status actor expected
  | recordSrcLock input => lockDecision (srcLockRecord input)
  | recordDstLock input => lockDecision (dstLockRecord input)
  | recordSecretRevealed input => secretDecision input
  | rollbackSrcLock p actor => rollbackDecision (srcRollback p actor)
  | rollbackDstLock p actor => rollbackDecision (dstRollback p actor)
  | cancelOrder p reason actor => withdrawDecision (cancellation p reason actor)
  | abandonOrder p reason actor => withdrawDecision (abandonment p reason actor)

/-- What becomes of a row. -/
def row : Mutation → OrderRow → OrderRow
  | setStatus _ status _ expected => setStatusRow status expected
  | recordSrcLock input => lockRow (srcLockRecord input)
  | recordDstLock input => lockRow (dstLockRecord input)
  | recordSecretRevealed input => secretRow input
  | rollbackSrcLock p actor => rollbackRow (srcRollback p actor)
  | rollbackDstLock p actor => rollbackRow (dstRollback p actor)
  | cancelOrder p reason actor => withdrawRow (cancellation p reason actor)
  | abandonOrder p reason actor => withdrawRow (abandonment p reason actor)

lemma program_eq (m : Mutation) : m.program = atomic m.body := by
  cases m <;> rfl

lemma steady_body (m : Mutation) : m.body.Steady := by
  cases m with
  | setStatus p status actor expected => exact steady_setStatusBody p status actor expected
  | recordSrcLock input | recordDstLock input => exact steady_recordLockBody _
  | recordSecretRevealed input => exact steady_recordSecretBody input
  | rollbackSrcLock p actor | rollbackDstLock p actor => exact steady_rollbackBody _
  | _ => exact steady_withdrawBody _

lemma attempt_body (m : Mutation) (d : Db) :
    m.body.attempt d =
      (m.decision (d.orders.get m.publicId)).map fun o => ((), d.record m.publicId o) := by
  cases m with
  | setStatus p status actor expected => exact attempt_setStatusBody p status actor expected d
  | recordSrcLock input | recordDstLock input => exact attempt_recordLockBody _ d
  | recordSecretRevealed input => exact attempt_recordSecretBody input d
  | rollbackSrcLock p actor | rollbackDstLock p actor => exact attempt_rollbackBody _ d
  | _ => exact attempt_withdrawBody _ d

lemma exec_cases (m : Mutation) (fate : Fate) (d : Db) :
    (∃ e, m.program.exec fate d = (.error e, d)) ∨
      ∃ o, m.decision (d.orders.get m.publicId) = .ok o ∧
        m.program.exec fate d = (.ok (), d.record m.publicId o) := by
  rw [program_eq]
  rcases exec_atomic m.steady_body fate d with herror | ⟨_, d', hbody, hexec⟩
  · exact Or.inl herror
  rw [attempt_body] at hbody
  cases ho : m.decision (d.orders.get m.publicId) with
  | error e => simp [ho, map] at hbody
  | ok o =>
    rw [ho] at hbody
    obtain ⟨-, rfl⟩ := Prod.mk.inj (ok.inj hbody)
    exact Or.inr ⟨o, rfl, hexec⟩

variable {m : Mutation} {o : Option (OrderRow × OrderEvent)}

lemma exec_calm {d : Db} (h : m.decision (d.orders.get m.publicId) = .ok o) :
    m.program.exec Fate.calm d = (.ok (), d.record m.publicId o) := by
  rw [program_eq]
  refine exec_atomic_calm m.steady_body ?_
  rw [attempt_body, h]
  rfl

/-! ### Decisions -/

/-- What a decision about a row can be: the row of the trail always tells the change. -/
inductive Decided (m : Mutation) (r : OrderRow) : Option (OrderRow × OrderEvent) → Prop
  | idle (same : m.row r = r) : Decided m r none
  | entry {r' : OrderRow} {e : OrderEvent} (row_eq : r' = m.row r)
      (publicId_eq : e.publicId = m.publicId) (from_eq : e.fromStatus = r.status)
      (to_eq : e.toStatus = r'.status) : Decided m r (some (r', e))

variable {r : OrderRow}

lemma decided_lock {l : LockRecord} (hrow : m.row r = lockRow l r) (hid : l.publicId = m.publicId)
    (h : lockDecision l (some r) = .ok o) : m.Decided r o := by
  cases h
  refine .entry hrow.symm ?_ ?_ ?_
  · unfold lockEvent
    split_ifs <;> exact hid
  · unfold lockEvent
    split_ifs <;> rfl
  · unfold lockEvent lockRow
    split_ifs <;> rfl

lemma decided_rollback {b : Rollback} (hrow : m.row r = rollbackRow b r)
    (hid : b.publicId = m.publicId) (h : rollbackDecision b (some r) = .ok o) : m.Decided r o := by
  cases h
  refine .entry hrow.symm ?_ ?_ ?_
  · unfold rollbackEvent
    split_ifs <;> exact hid
  · unfold rollbackEvent
    split_ifs <;> rfl
  · unfold rollbackEvent rollbackRow
    split_ifs <;> rfl

lemma decided_withdraw {w : Withdrawal} (hrow : m.row r = withdrawRow w r)
    (hid : w.publicId = m.publicId) (h : withdrawDecision w (some r) = .ok o) : m.Decided r o := by
  simp only [withdrawDecision] at h
  unfold withdrawRow at hrow
  by_cases hterminal : isTerminal r.status = true
  · rw [if_pos hterminal] at h
    cases h
    simp only [canTransition_of_isTerminal hterminal, Bool.false_eq_true, if_false] at hrow
    exact .entry hrow.symm hid rfl rfl
  rw [if_neg hterminal] at h
  by_cases hcan : canTransition r.status w.target = true
  · rw [if_pos hcan] at h hrow
    cases h
    exact .entry hrow.symm hid rfl rfl
  rw [if_neg hcan] at h hrow
  cases hrefused : w.refused r with
  | error e => simp [hrefused, map] at h
  | ok u =>
    rw [hrefused] at h
    cases h
    exact .idle hrow

lemma decided_secret {input : SecretInput} (h : secretDecision input (some r) = .ok o) :
    (recordSecretRevealed input).Decided r o := by
  simp only [secretDecision] at h
  have hrow : (recordSecretRevealed input).row r = secretRow input r := rfl
  unfold secretRow at hrow
  by_cases hterminal : isTerminal r.status = true
  · rw [if_pos hterminal] at h
    cases h
    exact .entry (by simp [hrow, hterminal]) rfl rfl rfl
  rw [if_neg hterminal] at h
  by_cases hsame : r.preimage = some input.preimage
  · rw [if_pos hsame] at h
    cases h
    exact .entry (by simp [hrow, hsame]) rfl rfl rfl
  rw [if_neg hsame] at h
  by_cases henc : encVersionAllowed input.encVersion = true
  · rw [if_pos henc] at h
    cases h
    exact .entry (by simp [hrow, hterminal, hsame, henc]) rfl rfl rfl
  · simp [henc] at h

lemma decided_setStatus {p : Text} {status : OrderStatus} {actor : Option MutationActor}
    {expected : Option OrderStatus}
    (h : setStatusDecision p status actor expected (some r) = .ok o) :
    (setStatus p status actor expected).Decided r o := by
  simp only [setStatusDecision] at h
  have hrow : (setStatus p status actor expected).row r = setStatusRow status expected r := rfl
  unfold setStatusRow at hrow
  by_cases hnoop : expected = none ∧ r.status = status
  · rw [if_pos hnoop] at h
    cases h
    obtain ⟨rfl, rfl⟩ := hnoop
    exact .entry (by simp [hrow, OrderRow.withStatus]) rfl rfl rfl
  rw [if_neg hnoop] at h
  by_cases hexpected : expected.all (fun s => r.status = s) = true
  · rw [if_pos hexpected] at h hrow
    cases h
    exact .entry hrow.symm rfl rfl rfl
  · simp [hexpected] at h

/-- Every decision about a row is one of these. -/
lemma decided (h : m.decision (some r) = .ok o) : m.Decided r o := by
  cases m with
  | setStatus p status actor expected => exact decided_setStatus h
  | recordSrcLock input | recordDstLock input => exact decided_lock rfl rfl h
  | recordSecretRevealed input => exact decided_secret h
  | rollbackSrcLock p actor | rollbackDstLock p actor => exact decided_rollback rfl rfl h
  | _ => exact decided_withdraw rfl rfl h

lemma decision_none (h : m.decision none = .ok o) : o = none := by
  cases m <;> simp [decision, setStatusDecision, lockDecision, secretDecision, rollbackDecision,
    withdrawDecision, cancellation, abandonment, map] at h <;> exact h.symm

/-- What a call leaves: the database as it was, or one row changed and that told in the trail. -/
lemma exec_snd (m : Mutation) (fate : Fate) (d : Db) :
    (m.program.exec fate d).2 = d ∨
      ∃ r e, d.orders.get m.publicId = some r ∧ e.publicId = m.publicId ∧
        e.fromStatus = r.status ∧ e.toStatus = (m.row r).status ∧
        (m.program.exec fate d).2 = (d.put m.publicId (m.row r)).append e := by
  rcases m.exec_cases fate d with ⟨e, hexec⟩ | ⟨o, ho, hexec⟩
  · exact Or.inl (by rw [hexec])
  rw [hexec]
  cases hget : d.orders.get m.publicId with
  | none =>
    rw [hget] at ho
    rw [decision_none ho]
    exact Or.inl rfl
  | some r =>
    rw [hget] at ho
    cases decided ho with
    | idle => exact Or.inl rfl
    | @entry r' e hrow hid hfrom hto =>
      subst hrow
      exact Or.inr ⟨r, e, rfl, hid, hfrom, hto, rfl⟩

end Mutation

end WaffleFinance.Coordinator

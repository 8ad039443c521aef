import WaffleFinance.Coordinator.FirstWrite

/-!
# The shape of a row follows its status

Operations of the service that run one after the other.  A row that is read is then still there
when it is written, so that the checks of the service hold for the row that is changed.  Then the
status of an order says which of its columns are set (`Shape`), and the rollback of a lock brings
back the columns of the locks and the status from before the lock.
-/

namespace WaffleFinance.Coordinator

open Lib OrdersRepository Fallible

/-! ### Shapes -/

namespace OrderRow

variable (r : OrderRow)

/-- The columns of the source lock are all empty, or all set. -/
def SrcNull : Prop :=
  r.srcOrderId = none ∧ r.srcLockTx = none ∧ r.srcLockBlock = none ∧ r.srcTimelock = none

def SrcSet : Prop :=
  r.srcOrderId ≠ none ∧ r.srcLockTx ≠ none ∧ r.srcLockBlock ≠ none ∧ r.srcTimelock ≠ none

def DstNull : Prop :=
  r.dstOrderId = none ∧ r.dstLockTx = none ∧ r.dstLockBlock = none ∧ r.dstTimelock = none ∧
    r.resolverAddress = none

/-- The resolver of a destination lock need not be known. -/
def DstSet : Prop :=
  r.dstOrderId ≠ none ∧ r.dstLockTx ≠ none ∧ r.dstLockBlock ≠ none ∧ r.dstTimelock ≠ none

def SecretNull : Prop :=
  r.preimage = none ∧ r.preimageEncVersion = none ∧ r.secretRevealedTx = none

/-- The row without its cursors. -/
def body : OrderRow :=
  { r with lastEthBlock := none, lastSorobanLedger := none, lastSolanaSlot := none }

/-- The columns of the source lock. -/
def srcLock : Option Text × Option Text × Option ℕ × Option ℕ :=
  (r.srcOrderId, r.srcLockTx, r.srcLockBlock, r.srcTimelock)

def dstLock : Option Text × Option Text × Option ℕ × Option ℕ × Option Text :=
  (r.dstOrderId, r.dstLockTx, r.dstLockBlock, r.dstTimelock, r.resolverAddress)

variable {r}

lemma SrcNull.srcLock_eq (h : r.SrcNull) : r.srcLock = (none, none, none, none) := by
  obtain ⟨hid, htx, hblock, htimelock⟩ := h
  simp [srcLock, hid, htx, hblock, htimelock]

lemma DstNull.dstLock_eq (h : r.DstNull) : r.dstLock = (none, none, none, none, none) := by
  obtain ⟨hid, htx, hblock, htimelock, hresolver⟩ := h
  simp [dstLock, hid, htx, hblock, htimelock, hresolver]

end OrderRow

/-- Which columns a status asks for. -/
def ShapeOf : OrderStatus → OrderRow → Prop
  | .announced, r | .cancelled, r | .abandoned, r => r.SrcNull ∧ r.DstNull ∧ r.SecretNull
  | .srcLocked, r => r.SrcSet ∧ r.DstNull ∧ r.SecretNull
  | .dstLocked, r => r.SrcSet ∧ r.DstSet ∧ r.SecretNull
  | .secretRevealed, r | .completed, r => r.preimage ≠ none
  | .refunded, _ | .failed, _ | .expired, _ => True

def Shape (r : OrderRow) : Prop := ShapeOf r.status r

lemma Shape.of_status {r : OrderRow} (h : Shape r) {status : OrderStatus}
    (hstatus : r.status = status) : ShapeOf status r :=
  hstatus ▸ h

/-- The cursors do not matter. -/
lemma Shape.congr {r r' : OrderRow} (h : Shape r) (hbody : r'.body = r.body) : Shape r' := by
  have hiff : ∀ r : OrderRow, Shape r.body ↔ Shape r := by
    intro r
    unfold Shape
    cases hstatus : r.status <;> simp only [OrderRow.body, hstatus] <;> exact Iff.rfl
  rw [← hiff, hbody, hiff]
  exact h

lemma shape_announced (input : AnnounceOrderInput) : Shape input.row :=
  ⟨⟨rfl, rfl, rfl, rfl⟩, ⟨rfl, rfl, rfl, rfl, rfl⟩, ⟨rfl, rfl, rfl⟩⟩

/-! ### Steps of the operations -/

/-- The statuses that are set directly. -/
def Job.Routine : Job → Prop
  | .markStatus _ status =>
    status = .refunded ∨ status = .completed ∨ status = .failed ∨ status = .expired
  | _ => True

/-- What an operation that runs alone does to the row of an order, apart from its cursors. -/
inductive RowMove (p : Text) : Option OrderRow → Option OrderRow → Prop
  | absent : RowMove p none none
  | announced (input : AnnounceOrderInput) : RowMove p none (some input.row)
  | kept {r r' : OrderRow} (body_eq : r'.body = r.body) : RowMove p (some r) (some r')
  | written {r r' : OrderRow} (job : Job) (routine : job.Routine)
      (verdict_eq : job.verdict r = .proceed) (body_eq : r'.body = (job.write.row r).body) :
      RowMove p (some r) (some r')
  | rolledBackSrc (r : OrderRow) : RowMove p (some r) (some (rollbackRow (srcRollback p none) r))
  | rolledBackDst (r : OrderRow) : RowMove p (some r) (some (rollbackRow (dstRollback p none) r))
  | withdrawn (r : OrderRow) (w : Withdrawal)
      (target_eq : w.target = .cancelled ∨ w.target = .abandoned) :
      RowMove p (some r) (some (withdrawRow w r))

section Shape

variable {r : OrderRow}

lemma announced_of_srcLock {input : SrcLockInput} (hshape : Shape r)
    (h : srcLockVerdict input r = .proceed) : r.status = .announced := by
  obtain ⟨hnone, hverdict⟩ := lockVerdict_proceed h
  rcases (recordVerdict_proceed hverdict).2 with hcan | hlocked
  · exact canTransition_srcLocked.1 hcan
  · exact absurd hnone (hshape.of_status hlocked).1.1

lemma srcLocked_of_dstLock {input : DstLockInput} (hshape : Shape r)
    (h : dstLockVerdict input r = .proceed) : r.status = .srcLocked := by
  obtain ⟨hnone, hverdict⟩ := lockVerdict_proceed h
  rcases (recordVerdict_proceed hverdict).2 with hcan | hlocked
  · exact canTransition_dstLocked.1 hcan
  · exact absurd hnone (hshape.of_status hlocked).2.1.1

lemma srcLock_row {input : SrcLockInput} (hshape : Shape r)
    (h : srcLockVerdict input r = .proceed) :
    lockRow (srcLockRecord input) r = ((srcLockRecord input).fill r).withStatus .srcLocked := by
  have hstatus := announced_of_srcLock hshape h
  simp [lockRow, nextLockStatus, hstatus, srcLockRecord, isTerminal, canTransition,
    orderStatusTransitions]

lemma dstLock_row {input : DstLockInput} (hshape : Shape r)
    (h : dstLockVerdict input r = .proceed) :
    lockRow (dstLockRecord input) r = ((dstLockRecord input).fill r).withStatus .dstLocked := by
  have hstatus := srcLocked_of_dstLock hshape h
  simp [lockRow, nextLockStatus, hstatus, dstLockRecord, isTerminal, canTransition,
    orderStatusTransitions]

lemma canTransition_completed {status : OrderStatus} :
    canTransition status .completed = true ↔ status = .secretRevealed := by
  cases status <;> decide

lemma canTransition_withdrawn {status target : OrderStatus}
    (htarget : target = .cancelled ∨ target = .abandoned) :
    canTransition status target = true ↔ status = .announced := by
  rcases htarget with rfl | rfl <;> cases status <;> decide

lemma shape_written {job : Job} (hshape : Shape r) (hroutine : job.Routine)
    (h : job.verdict r = .proceed) : Shape (job.write.row r) := by
  cases job with
  | recordSrcLock input =>
    obtain ⟨-, hdst, hsecret⟩ := hshape.of_status (announced_of_srcLock hshape h)
    show Shape (lockRow (srcLockRecord input) r)
    rw [srcLock_row hshape h]
    exact ⟨⟨nofun, nofun, nofun, nofun⟩, hdst, hsecret⟩
  | recordDstLock input =>
    obtain ⟨hsrc, -, hsecret⟩ := hshape.of_status (srcLocked_of_dstLock hshape h)
    show Shape (lockRow (dstLockRecord input) r)
    rw [dstLock_row hshape h]
    exact ⟨hsrc, ⟨nofun, nofun, nofun, nofun⟩, hsecret⟩
  | recordSecret p preimage txHash encVersion =>
    show Shape (secretRow _ r)
    unfold secretRow
    split_ifs
    · exact hshape
    · show some preimage ≠ none
      exact nofun
  | markStatus p status =>
    have hcan := statusVerdict_proceed h
    show ShapeOf status (r.withStatus status)
    rcases hroutine with rfl | rfl | rfl | rfl
    · exact trivial
    · exact hshape.of_status (canTransition_completed.1 hcan)
    · exact trivial
    · exact trivial

/-- Every move keeps the shape. -/
lemma RowMove.shape {p : Text} {o o' : Option OrderRow} (h : RowMove p o o')
    (hshape : ∀ r ∈ o, Shape r) : ∀ r' ∈ o', Shape r' := by
  cases h with
  | absent => simp
  | announced input =>
    rintro _ ⟨⟩
    exact shape_announced input
  | kept hbody =>
    rintro _ ⟨⟩
    exact (hshape _ rfl).congr hbody
  | written job hroutine hverdict hbody =>
    rintro _ ⟨⟩
    exact (shape_written (hshape _ rfl) hroutine hverdict).congr hbody
  | rolledBackSrc r =>
    rintro _ ⟨⟩
    have hr := hshape r rfl
    unfold rollbackRow
    split_ifs with hlocked
    · obtain ⟨-, hdst, hsecret⟩ := hr.of_status hlocked
      exact ⟨⟨rfl, rfl, rfl, rfl⟩, hdst, hsecret⟩
    · exact hr
  | rolledBackDst r =>
    rintro _ ⟨⟩
    have hr := hshape r rfl
    unfold rollbackRow
    split_ifs with hlocked
    · obtain ⟨hsrc, -, hsecret⟩ := hr.of_status hlocked
      exact ⟨hsrc, ⟨rfl, rfl, rfl, rfl, rfl⟩, hsecret⟩
    · exact hr
  | withdrawn r w htarget =>
    rintro _ ⟨⟩
    have hr := hshape r rfl
    unfold withdrawRow
    split_ifs with hcan
    · have hbare := hr.of_status ((canTransition_withdrawn htarget).1 hcan)
      show ShapeOf w.target (w.mark r)
      rcases htarget with htarget | htarget
      · rw [htarget]
        exact hbare
      · rw [htarget]
        exact hbare
    · exact hr

end Shape

/-! ### Operations alone -/

/-- What a job that runs alone does to the row of an order, apart from its cursors. -/
inductive JobMove (job : Job) (p : Text) : Option OrderRow → Option OrderRow → Prop
  | absent : JobMove job p none none
  | kept {r r' : OrderRow} (body_eq : r'.body = r.body) : JobMove job p (some r) (some r')
  | written {r r' : OrderRow} (publicId_eq : job.publicId = p)
      (verdict_eq : job.verdict r = .proceed)
      (body_eq : r'.body = (job.write.row r).body) : JobMove job p (some r) (some r')

lemma body_advanceRow (chain : Chain) (position : ℕ) (r : OrderRow) :
    (advanceRow chain position r).body = r.body := by
  cases chain <;> rfl

lemma status_eq_of_body {r r' : OrderRow} (h : r'.body = r.body) : r'.status = r.status := by
  show r'.body.status = r.body.status
  rw [h]

/-- A call that neither changes nor announces an order moves cursors at most. -/
lemma RowStep.body {q : Call} {p : Text} {o o' : Option OrderRow} (h : RowStep q p o o')
    (hmutation : q.mutation = none) (hannounce : ∀ input, q ≠ .announce input) :
    o'.map OrderRow.body = o.map OrderRow.body := by
  cases h with
  | same => rfl
  | advanced r chain position => exact congrArg some (body_advanceRow chain position r)
  | mutated r hm hid =>
    rw [hmutation] at hm
    cases hm
  | announced hq => exact absurd hq (hannounce _)

namespace JobMove

variable {job : Job} {p : Text} {o o' o'' : Option OrderRow}

lemma refl (job : Job) (p : Text) (o : Option OrderRow) : JobMove job p o o := by
  cases o with
  | none => exact .absent
  | some r => exact .kept rfl

lemma trans_body (h : JobMove job p o o') (hbody : o''.map OrderRow.body = o'.map OrderRow.body) :
    JobMove job p o o'' := by
  cases o'' with
  | none =>
    cases h with
    | absent => exact .absent
    | kept => cases hbody
    | written => cases hbody
  | some r'' =>
    cases h with
    | absent => cases hbody
    | kept h => exact .kept ((Option.some.inj hbody).trans h)
    | written hid hverdict h => exact .written hid hverdict ((Option.some.inj hbody).trans h)

lemma rowMove (h : JobMove job p o o') (hroutine : job.Routine) : RowMove p o o' := by
  cases h with
  | absent => exact .absent
  | kept h => exact .kept h
  | written _ hverdict h => exact .written job hroutine hverdict h

end JobMove

lemma jobMove_commit {job : Job} {d : Db} {r : OrderRow} (hget : d.orders.get job.publicId = some r)
    (hverdict : job.verdict r = .proceed) (seen : OrderRow) (fate : Fate) (p : Text) :
    JobMove job p (d.orders.get p) ((repository.run (.commit job seen) fate d).2.orders.get p) := by
  have hstep := rowStep (.commit job seen) fate d p
  generalize (repository.run (.commit job seen) fate d).2.orders.get p = after at hstep
  generalize hbefore : d.orders.get p = before at hstep
  cases hstep with
  | same => exact .refl job p _
  | advanced r chain position => exact .kept (body_advanceRow chain position r)
  | @mutated m r' hm hid =>
    cases hm
    rw [job.publicId_write] at hid
    rw [← hid, hget] at hbefore
    cases hbefore
    exact .written hid hverdict rfl
  | announced hq => cases hq

lemma ensures_run_call {q : Call} {d : Db} {post : Db → Prop}
    (h : ∀ fate, post (repository.run q fate d).2) :
    (call q).Ensures (fun _ d' => post d') (fun _ d' => post d') d :=
  Store.ensures_call (fun fate _ _ => h fate) fun fate _ _ => h fate

lemma ensures_run (job : Job) (d : Db) :
    (OrderService.run job).Ensures
      (fun _ d' => ∀ p, JobMove job p (d.orders.get p) (d'.orders.get p))
      (fun _ d' => ∀ p, JobMove job p (d.orders.get p) (d'.orders.get p)) d := by
  have hidle : ∀ p, JobMove job p (d.orders.get p) (d.orders.get p) := fun p => .refl job p _
  unfold OrderService.run
  refine ensures_bind (Store.ensures_call (fun fate o ho => ?_) fun fate _ _ => ?_)
  · obtain rfl := run_check_ok ho
    rw [run_check_snd]
    cases hget : d.orders.get job.publicId with
    | none => exact (ensures_throw _).2 hidle
    | some r =>
      dsimp only
      cases hverdict : job.verdict r with
      | ignore => exact (ensures_pure _).2 hidle
      | refuse m => exact (ensures_throw _).2 hidle
      | proceed =>
        refine ensures_bind
          (Store.ensures_call (S := repository) (q := Call.commit job r) (fun fate _ _ => ?_)
            fun fate _ _ => ?_)
        · have hcommit := jobMove_commit hget hverdict r fate
          cases job.cursor r with
          | none => exact (ensures_pure _).2 hcommit
          | some cursor =>
            refine ensures_run_call (q := .updateOrderCursor job.publicId cursor.1 cursor.2) ?_
            intro fate' p
            exact (hcommit p).trans_body ((rowStep _ fate' _ p).body rfl (by simp))
        · exact jobMove_commit hget hverdict r fate
  · rw [run_check_snd]
    exact hidle

lemma JobMove.trans_expired {p : Text} {o o' o'' : Option OrderRow}
    (h : JobMove (.markStatus p .expired) p o o') (h' : JobMove (.markStatus p .expired) p o' o'') :
    JobMove (.markStatus p .expired) p o o'' := by
  cases h' with
  | absent => exact h
  | kept hbody => exact h.trans_body (congrArg some hbody)
  | @written r' r'' hid hverdict hbody' =>
    cases h with
    | @kept r _ hbody =>
      have hstatus : r'.status = r.status := status_eq_of_body hbody
      refine .written rfl ?_ ?_
      · show statusVerdict p .expired r = .proceed
        unfold statusVerdict
        rw [← hstatus]
        exact hverdict
      · rw [hbody']
        exact congrArg (fun x : OrderRow => x.withStatus .expired) hbody
    | @written r _ _ _ hbody =>
      have hstatus : r'.status = .expired := status_eq_of_body hbody
      have hignore : (Job.markStatus p .expired).verdict r' = .ignore := by
        show statusVerdict p .expired r' = .ignore
        simp [statusVerdict, hstatus]
      rw [hignore] at hverdict
      cases hverdict

/-- What an operation does to all orders. -/
def Moves (d d' : Db) : Prop := ∀ p, RowMove p (d.orders.get p) (d'.orders.get p)

lemma RowMove.refl (p : Text) (o : Option OrderRow) : RowMove p o o := by
  cases o with
  | none => exact .absent
  | some r => exact .kept rfl

/-- A job about another order leaves this one alone. -/
lemma JobMove.expired {p p' : Text} {o o' : Option OrderRow}
    (h : JobMove (.markStatus p' .expired) p o o') : JobMove (.markStatus p .expired) p o o' := by
  cases h with
  | absent => exact .absent
  | kept h => exact .kept h
  | written hid hverdict h =>
    obtain rfl : p' = p := hid
    exact .written rfl hverdict h

lemma ensures_expireEach (orders : List (Text × OrderRow)) (count : ℕ) {d d₀ : Db}
    (h : ∀ p, JobMove (.markStatus p .expired) p (d₀.orders.get p) (d.orders.get p)) :
    (OrderService.expireEach orders count).Ensures
      (fun _ d' => ∀ p, JobMove (.markStatus p .expired) p (d₀.orders.get p) (d'.orders.get p))
      (fun _ d' => ∀ p, JobMove (.markStatus p .expired) p (d₀.orders.get p) (d'.orders.get p))
      d := by
  induction orders generalizing count d with
  | nil => exact (ensures_pure _).2 h
  | cons order orders ih =>
    unfold OrderService.expireEach
    split
    · exact ih count h
    split
    · exact ih count h
    refine ensures_bind (ensures_tryCatch (ensures_bind ?_))
    refine (ensures_run (.markStatus order.1 .expired) d).mono (fun hrun => ?_) fun hrun => ?_
    · exact (ensures_pure _).2 (ih _ fun p => (h p).trans_expired (hrun p).expired)
    · exact (ensures_pure _).2 (ih _ fun p => (h p).trans_expired (hrun p).expired)

/-- The operations in question: a status is set directly only to one of four. -/
def OrderRequest.Routine : OrderRequest → Prop
  | .run job => job.Routine
  | _ => True

lemma moves_of_mutation {q : Call} {m : Mutation} {d : Db} (hm : q.mutation = some m)
    (hannounce : ∀ input, q ≠ .announce input)
    (hrow : ∀ r, RowMove m.publicId (some r) (some (m.row r))) (fate : Fate) :
    Moves d (repository.run q fate d).2 := by
  intro p
  have hstep := rowStep q fate d p
  generalize (repository.run q fate d).2.orders.get p = after at hstep
  generalize d.orders.get p = before at hstep
  cases hstep with
  | same => exact .refl p _
  | advanced r chain position => exact .kept (body_advanceRow chain position r)
  | mutated r hm' hid =>
    rw [hm] at hm'
    cases hm'
    rw [← hid]
    exact hrow r
  | announced hq => exact absurd hq (hannounce _)

lemma moves_announce (input : AnnounceOrderInput) (fate : Fate) (d : Db) :
    Moves d (repository.run (.announce input) fate d).2 := by
  intro p
  have hstep := rowStep (.announce input) fate d p
  generalize (repository.run (.announce input) fate d).2.orders.get p = after at hstep
  generalize d.orders.get p = before at hstep
  cases hstep with
  | same => exact .refl p _
  | advanced r chain position => exact .kept (body_advanceRow chain position r)
  | mutated r hm hid => cases hm
  | announced hq =>
    obtain rfl := Call.announce.inj hq
    exact .announced input

/-- Every operation moves the rows, whatever fails in it. -/
lemma ensures_code (r : OrderRequest) (hroutine : r.Routine) (d : Db) :
    r.code.Ensures (fun _ d' => Moves d d') (fun _ d' => Moves d d') d := by
  have hidle : Moves d d := fun p => .refl p _
  cases r with
  | announce input =>
    have hsame : ∀ fate, (repository.run (.findByHashlock input.hashlock) fate d).2 = d :=
      fun fate =>
        exec_read_snd (fun d => d.orders.first fun _ r => r.hashlock = input.hashlock) fate d
    refine ensures_bind (ensures_bind (Store.ensures_call ?_ ?_))
    · intro fate o _
      rw [hsame fate]
      cases o with
      | none =>
        refine (ensures_run_call fun fate => moves_announce input fate d).mono ?_ fun h => h
        intro _ _ h
        exact (ensures_pure _).2 h
      | some order => exact (ensures_throw _).2 hidle
    · intro fate _ _
      rw [hsame fate]
      exact hidle
  | run job =>
    exact (ensures_run job d).mono (fun h p => (h p).rowMove hroutine)
      fun h p => (h p).rowMove hroutine
  | rollbackSrcLock p =>
    exact ensures_run_call (moves_of_mutation (q := .rollbackSrcLock p) rfl (by simp)
      RowMove.rolledBackSrc)
  | rollbackDstLock p =>
    exact ensures_run_call (moves_of_mutation (q := .rollbackDstLock p) rfl (by simp)
      RowMove.rolledBackDst)
  | expireStaleOrders now =>
    have hread : ∀ fate, (repository.run (.findExpiredCandidates now) fate d).2 = d :=
      fun fate => exec_read_snd (expiredCandidates now) fate d
    have hexpired : Job.Routine (.markStatus [] .expired) := Or.inr (Or.inr (Or.inr rfl))
    refine ensures_bind (ensures_bind (Store.ensures_call ?_ ?_))
    · intro fate orders _
      rw [hread]
      refine (ensures_expireEach orders 0 fun p => .refl _ p _).mono (fun h => ?_) fun h p => ?_
      · exact (ensures_pure _).2 fun p => (h p).rowMove hexpired
      · exact (h p).rowMove hexpired
    · intro fate _ _
      rw [hread]
      exact hidle
  | cancelOrder p reason actor =>
    exact ensures_run_call (moves_of_mutation (q := .cancelOrder p reason actor) rfl (by simp)
      fun r => RowMove.withdrawn r (cancellation p reason actor) (Or.inl rfl))
  | abandonOrder p reason actor =>
    exact ensures_run_call (moves_of_mutation (q := .abandonOrder p reason actor) rfl (by simp)
      fun r => RowMove.withdrawn r (abandonment p reason actor) (Or.inr rfl))

/-! ### Legs -/

namespace RowMove

variable {p : Text} {r r' : OrderRow}

lemma stored_of_body {r r' : OrderRow} (h : r'.body = r.body) (leg : Leg) :
    leg.stored r' = leg.stored r := by
  have hstored : ∀ r : OrderRow, leg.stored r.body = leg.stored r := by
    intro r
    cases leg <;> rfl
  rw [← hstored, h, hstored]

lemma srcLock_of_body {r r' : OrderRow} (h : r'.body = r.body) : r'.srcLock = r.srcLock := by
  show r'.body.srcLock = r.body.srcLock
  rw [h]

/-- A leg is left as it is, recorded by a job, or rolled back. -/
lemma stored_cases (h : RowMove p (some r) (some r')) (leg : Leg) :
    leg.stored r' = leg.stored r ∨
      (∃ (job : Job) (v : Text), job.payload = some (leg, v) ∧ job.verdict r = .proceed ∧
        r'.body = (job.write.row r).body) ∨
      (leg = .src ∧ r.status = .srcLocked ∧ r' = rollbackRow (srcRollback p none) r) ∨
      (leg = .dst ∧ r.status = .dstLocked ∧ r' = rollbackRow (dstRollback p none) r) := by
  cases h with
  | kept hbody => exact Or.inl (stored_of_body hbody leg)
  | written job _ hverdict hbody =>
    rcases stored_row leg (r := r) job.write with hsame | ⟨hclears, -⟩ | ⟨v, hrecords, -⟩
    · exact Or.inl ((stored_of_body hbody leg).trans hsame)
    · cases job <;> cases hclears
    · exact Or.inr (Or.inl ⟨job, v, hrecords, hverdict, hbody⟩)
  | rolledBackSrc =>
    rcases stored_row leg (r := r) (.rollbackSrcLock p none) with hsame | ⟨hclears, -⟩ | ⟨v, hv, -⟩
    · exact Or.inl hsame
    · cases hclears
      by_cases hlocked : r.status = .srcLocked
      · exact Or.inr (Or.inr (Or.inl ⟨rfl, hlocked, rfl⟩))
      · exact Or.inl (by simp [rollbackRow, srcRollback, hlocked])
    · cases hv
  | rolledBackDst =>
    rcases stored_row leg (r := r) (.rollbackDstLock p none) with hsame | ⟨hclears, -⟩ | ⟨v, hv, -⟩
    · exact Or.inl hsame
    · cases hclears
      by_cases hlocked : r.status = .dstLocked
      · exact Or.inr (Or.inr (Or.inr ⟨rfl, hlocked, rfl⟩))
      · exact Or.inl (by simp [rollbackRow, dstRollback, hlocked])
    · cases hv
  | withdrawn _ w _ => exact Or.inl (stored_withdrawRow leg w)

/-- An order whose lock is recorded was announced, or locked on its source chain. -/
lemma recorded (h : RowMove p (some r) (some r')) (hshape : Shape r) {leg : Leg}
    (hnone : leg.stored r = none) (hsome : leg.stored r' ≠ none) :
    (leg = .src → r.status = .announced) ∧ (leg = .dst → r.status = .srcLocked) := by
  rcases h.stored_cases leg with hsame | ⟨job, v, hpayload, hverdict, -⟩ | ⟨rfl, hlocked, rfl⟩ |
    ⟨rfl, hlocked, rfl⟩
  · exact absurd (hsame.trans hnone) hsome
  · refine ⟨?_, ?_⟩
    · rintro rfl
      cases job <;> cases hpayload
      exact announced_of_srcLock hshape hverdict
    · rintro rfl
      cases job <;> cases hpayload
      exact srcLocked_of_dstLock hshape hverdict
  · exact absurd hnone (hshape.of_status hlocked).1.1
  · exact absurd hnone (hshape.of_status hlocked).2.1.1

/-- An order whose lock is gone is announced again, or locked on its source chain. -/
lemma cleared (h : RowMove p (some r) (some r')) {leg : Leg} (hsome : leg.stored r ≠ none)
    (hnone : leg.stored r' = none) :
    (leg = .src ∧ r'.status = .announced) ∨ (leg = .dst ∧ r'.status = .srcLocked) := by
  rcases h.stored_cases leg with hsame | ⟨job, v, hpayload, hverdict, -⟩ | ⟨rfl, hlocked, rfl⟩ |
    ⟨rfl, hlocked, rfl⟩
  · exact absurd (hsame.symm.trans hnone) hsome
  · exact absurd (stored_of_proceed hpayload hverdict) hsome
  · exact Or.inl ⟨rfl, by simp [rollbackRow, srcRollback, hlocked, OrderRow.withStatus]⟩
  · exact Or.inr ⟨rfl, by simp [rollbackRow, dstRollback, hlocked, OrderRow.withStatus]⟩

/-- While there is a destination lock the source lock stays. -/
lemma srcLock_eq (h : RowMove p (some r) (some r')) (hshape : Shape r)
    (hdst : r.dstOrderId ≠ none ∨ r'.dstOrderId ≠ none) : r'.srcLock = r.srcLock := by
  cases h with
  | kept hbody => exact srcLock_of_body hbody
  | written job _ hverdict hbody =>
    rw [srcLock_of_body hbody]
    cases job with
    | recordSrcLock input =>
      exfalso
      obtain ⟨-, hnull, -⟩ := hshape.of_status (announced_of_srcLock hshape hverdict)
      have hrow := srcLock_row hshape hverdict
      have hafter : r'.dstOrderId = none := by
        rw [show r'.dstOrderId = _ from stored_of_body hbody .dst]
        show (lockRow (srcLockRecord input) r).dstOrderId = none
        rw [hrow]
        exact hnull.1
      exact hdst.elim (fun h => h hnull.1) fun h => h hafter
    | recordDstLock input =>
      show (lockRow (dstLockRecord input) r).srcLock = r.srcLock
      rw [dstLock_row hshape hverdict]
      rfl
    | recordSecret q preimage txHash encVersion =>
      show (secretRow _ r).srcLock = r.srcLock
      unfold secretRow
      split_ifs <;> rfl
    | markStatus q status => rfl
  | rolledBackSrc =>
    by_cases hlocked : r.status = .srcLocked
    · exfalso
      obtain ⟨-, hnull, -⟩ := hshape.of_status hlocked
      refine hdst.elim (fun h => h hnull.1) fun h => h ?_
      simpa [rollbackRow, srcRollback, hlocked, OrderRow.withStatus] using hnull.1
    · simp [rollbackRow, srcRollback, hlocked]
  | rolledBackDst =>
    unfold rollbackRow
    split_ifs <;> rfl
  | withdrawn _ w _ =>
    unfold withdrawRow
    split_ifs <;> rfl

end RowMove

/-! ### Runs -/

/-- Operations, each with what goes wrong in it. -/
abbrev OrderOperations := List (OrderRequest × Answers Call fun _ => Fate)

/-- One operation after the other. -/
def orderMachine : Machine Db (OrderRequest × Answers Call fun _ => Fate) Unit where
  exec op d := .ok (Process.play op.1.code.run op.2 d).2.2

/-- The database after the first `n` operations. -/
def dbAt (ops : OrderOperations) (n : ℕ) : Db := orderMachine.stateAt Db.empty ops n

section Runs

variable {ops : OrderOperations}

lemma dbAt_moves (hroutine : ∀ op ∈ ops, op.1.Routine) (n : ℕ) :
    Moves (dbAt ops n) (dbAt ops (n + 1)) := by
  cases hop : ops[n]? with
  | none =>
    have hsame : dbAt ops (n + 1) = dbAt ops n := Machine.stateAt_succ_of_none hop
    rw [hsame]
    exact fun p => .refl p _
  | some op =>
    have hstep : dbAt ops (n + 1) = (Process.play op.1.code.run op.2 (dbAt ops n)).2.2 := by
      rw [dbAt, Machine.stateAt_succ hop]
      rfl
    rw [hstep]
    exact (ensures_code op.1 (hroutine op (List.mem_of_getElem? hop)) (dbAt ops n)).play op.2

lemma dbAt_shape (hroutine : ∀ op ∈ ops, op.1.Routine) (n : ℕ) {p : Text} {r : OrderRow}
    (h : (dbAt ops n).orders.get p = some r) : Shape r := by
  induction n generalizing p r with
  | zero =>
    rw [dbAt, Machine.stateAt_zero] at h
    simp [Db.empty] at h
  | succ n ih => exact (dbAt_moves hroutine n p).shape (fun r hr => ih hr) r h

lemma dbAt_get_succ (hroutine : ∀ op ∈ ops, op.1.Routine) {n : ℕ} {p : Text} {r : OrderRow}
    (h : (dbAt ops n).orders.get p = some r) :
    ∃ r', (dbAt ops (n + 1)).orders.get p = some r' ∧ RowMove p (some r) (some r') := by
  have hmove := dbAt_moves hroutine n p
  rw [h] at hmove
  generalize (dbAt ops (n + 1)).orders.get p = after at hmove
  cases after with
  | none => cases hmove
  | some r' => exact ⟨r', rfl, hmove⟩

lemma srcLock_while_dst (hroutine : ∀ op ∈ ops, op.1.Routine) {i j : ℕ} {p : Text} {r : OrderRow}
    (hr : (dbAt ops i).orders.get p = some r) (hij : i ≤ j)
    (hbetween : ∀ k, i < k → k ≤ j →
      ∃ r, (dbAt ops k).orders.get p = some r ∧ r.dstOrderId ≠ none) :
    ∃ r', (dbAt ops j).orders.get p = some r' ∧ r'.srcLock = r.srcLock := by
  induction j, hij using Nat.le_induction with
  | base => exact ⟨r, hr, rfl⟩
  | succ j hij ih =>
    obtain ⟨r₁, hr₁, heq⟩ := ih fun k hik hkj => hbetween k hik (by omega)
    obtain ⟨r₂, hr₂, hsome⟩ := hbetween (j + 1) (by omega) le_rfl
    obtain ⟨r₂', hr₂', hmove⟩ := dbAt_get_succ hroutine hr₁
    rw [hr₂] at hr₂'
    obtain rfl := Option.some.inj hr₂'
    refine ⟨r₂, hr₂, ?_⟩
    rw [hmove.srcLock_eq (dbAt_shape hroutine j hr₁) (Or.inr hsome), heq]

/-- A leg that is gone again leaves the status and the locks as they were before it. -/
lemma restored_of_cleared (hroutine : ∀ op ∈ ops, op.1.Routine) {i j : ℕ} {p : Text}
    {r r' : OrderRow} {leg : Leg} (hij : i < j) (hr : (dbAt ops i).orders.get p = some r)
    (hnone : leg.stored r = none)
    (hbetween : ∀ k, i < k → k ≤ j →
      ∃ rₖ, (dbAt ops k).orders.get p = some rₖ ∧ leg.stored rₖ ≠ none)
    (hr' : (dbAt ops (j + 1)).orders.get p = some r') (hnone' : leg.stored r' = none) :
    r'.status = r.status ∧ r'.srcLock = r.srcLock ∧ r'.dstLock = r.dstLock := by
  have hshape := dbAt_shape hroutine i hr
  have hshape' := dbAt_shape hroutine (j + 1) hr'
  obtain ⟨r₁, hr₁, hmove⟩ := dbAt_get_succ hroutine hr
  obtain ⟨r₁', hr₁', hsome⟩ := hbetween (i + 1) (by omega) (by omega)
  obtain rfl := Option.some.inj (hr₁.symm.trans hr₁')
  obtain ⟨hsrc, hdst⟩ := hmove.recorded hshape hnone hsome
  obtain ⟨rₖ, hrₖ, hsomeₖ⟩ := hbetween j hij le_rfl
  obtain ⟨r₂, hr₂, hmove'⟩ := dbAt_get_succ hroutine hrₖ
  obtain rfl := Option.some.inj (hr₂.symm.trans hr')
  rcases hmove'.cleared hsomeₖ hnone' with ⟨rfl, hstatus⟩ | ⟨rfl, hstatus⟩
  · -- both rows are those of an order that is only announced
    obtain ⟨hsrcNull, hdstNull, -⟩ := hshape.of_status (hsrc rfl)
    obtain ⟨hsrcNull', hdstNull', -⟩ := hshape'.of_status hstatus
    exact ⟨hstatus.trans (hsrc rfl).symm, hsrcNull'.srcLock_eq.trans hsrcNull.srcLock_eq.symm,
      hdstNull'.dstLock_eq.trans hdstNull.dstLock_eq.symm⟩
  -- both are locked on the source chain only, and that lock has stayed
  obtain ⟨-, hdstNull, -⟩ := hshape.of_status (hdst rfl)
  obtain ⟨-, hdstNull', -⟩ := hshape'.of_status hstatus
  obtain ⟨rₖ', hrₖ', hsame⟩ := srcLock_while_dst hroutine hr hij.le hbetween
  obtain rfl := Option.some.inj (hrₖ.symm.trans hrₖ')
  have hlast := hmove'.srcLock_eq (dbAt_shape hroutine j hrₖ) (Or.inl hsomeₖ)
  exact ⟨hstatus.trans (hdst rfl).symm, hlast.trans hsame,
    hdstNull'.dstLock_eq.trans hdstNull.dstLock_eq.symm⟩

end Runs

/-- `leg.Rollback p status request`: the request rolls the leg of the order `p` back, if the order
has this status. -/
inductive Leg.Rollback (p : Text) : Leg → OrderStatus → OrderRequest → Prop
  | src : Rollback p .src .srcLocked (.rollbackSrcLock p)
  | dst : Rollback p .dst .dstLocked (.rollbackDstLock p)

/-- A rollback that the repository confirms is made. -/
lemma get_of_rollback {b : Rollback} {fate : Fate} {d : Db} {r : OrderRow} {u : Unit}
    (hget : d.orders.get b.publicId = some r) (hstatus : r.status = b.locked)
    (hok : (((atomic (rollbackBody b)).exec fate d).1.mapError DbError.service) = .ok u) :
    ((atomic (rollbackBody b)).exec fate d).2.orders.get b.publicId
      = some ((b.clear r).withStatus b.before) := by
  rcases exec_atomic (steady_rollbackBody b) fate d with ⟨e, hexec⟩ | ⟨_, d', hbody, hexec⟩
  · rw [hexec] at hok
    cases hok
  rw [attempt_rollbackBody, hget] at hbody
  obtain ⟨-, rfl⟩ := Prod.mk.inj (Except.ok.inj hbody)
  rw [hexec]
  show ((d.put b.publicId (rollbackRow b r)).append _).orders.get b.publicId = _
  simp [Db.put, rollbackRow, hstatus, hget]

lemma Leg.Rollback.ensures {leg : Leg} {p : Text} {status : OrderStatus} {request : OrderRequest}
    (h : leg.Rollback p status request) {d : Db} {r : OrderRow} (hget : d.orders.get p = some r)
    (hstatus : r.status = status) :
    request.code.Ensures
      (fun _ d' => ∃ r', d'.orders.get p = some r' ∧ leg.stored r' = none) (fun _ _ => True) d := by
  have hcalled : ∀ {q : Call} {post : Db → Prop},
      (∀ fate a, (repository.run q fate d).1 = .ok a → post (repository.run q fate d).2) →
      (call q).Ensures (fun _ d' => post d') (fun _ _ => True) d :=
    fun hok => Store.ensures_call hok fun _ _ _ => trivial
  cases h with
  | src =>
    refine hcalled (q := Call.rollbackSrcLock p) fun fate _ hok => ?_
    exact ⟨_, get_of_rollback (b := srcRollback p none) hget hstatus hok, rfl⟩
  | dst =>
    refine hcalled (q := Call.rollbackDstLock p) fun fate _ hok => ?_
    exact ⟨_, get_of_rollback (b := dstRollback p none) hget hstatus hok, rfl⟩

/-- Status and columns in a sequence of operations. -/
structure ShapeFollows (ops : OrderOperations) : Prop where
  /-- Every order has the shape that its status asks for. -/
  shape : ∀ n p r, (dbAt ops n).orders.get p = some r → Shape r
  /-- A leg that was recorded after `i` operations and is gone again after `j + 1` leaves the status
  and the locks as they were. -/
  restored : ∀ i j p r r' (leg : Leg), i < j → (dbAt ops i).orders.get p = some r →
    leg.stored r = none →
    (∀ k, i < k → k ≤ j → ∃ rₖ, (dbAt ops k).orders.get p = some rₖ ∧ leg.stored rₖ ≠ none) →
    (dbAt ops (j + 1)).orders.get p = some r' → leg.stored r' = none →
    r'.status = r.status ∧ r'.srcLock = r.srcLock ∧ r'.dstLock = r.dstLock
  /-- The rollback of a leg, made while the order has the status of that leg and confirmed by the
  repository, gives the order the status and the locks back that it had before. -/
  rolledBack : ∀ i j p r r₁ (leg : Leg) status request fates, i < j →
    (dbAt ops i).orders.get p = some r → leg.stored r = none →
    (∀ k, i < k → k ≤ j → ∃ rₖ, (dbAt ops k).orders.get p = some rₖ ∧ leg.stored rₖ ≠ none) →
    ops[j]? = some (request, fates) → leg.Rollback p status request →
    (dbAt ops j).orders.get p = some r₁ → r₁.status = status →
    (Process.play request.code.run fates (dbAt ops j)).1 = .ok () →
    ∃ r', (dbAt ops (j + 1)).orders.get p = some r' ∧
      r'.status = r.status ∧ r'.srcLock = r.srcLock ∧ r'.dstLock = r.dstLock

/-- Whatever the operations are, and whatever fails in them, status and columns belong together. -/
theorem shape_follows_status (ops : OrderOperations) (hroutine : ∀ op ∈ ops, op.1.Routine) :
    ShapeFollows ops := by
  refine ⟨fun n p r h => dbAt_shape hroutine n h,
    fun i j p r r' leg => restored_of_cleared hroutine, ?_⟩
  intro i j p r r₁ leg status request fates hij hr hnone hbetween hop hrollback hr₁ hstatus hok
  have hend := Process.Always.play (hrollback.ensures hr₁ hstatus) fates
  obtain ⟨r', hr', hnone'⟩ := hend.1 () hok
  have hstep : dbAt ops (j + 1) = (Process.play request.code.run fates (dbAt ops j)).2.2 := by
    rw [dbAt, Machine.stateAt_succ hop]
    rfl
  rw [← hstep] at hr'
  exact ⟨r', hr', restored_of_cleared hroutine hij hr hnone hbetween hr' hnone'⟩

namespace Sample

/-- An operation in which nothing fails. -/
def calmly (r : OrderRequest) : OrderRequest × Answers Call fun _ => Fate :=
  (r, fun _ _ => Fate.calm)

def dstLock : DstLockInput := ⟨sampleId, "9".toList, "st9".toList, 8, 700, none, none⟩

/-- Both locks are recorded and rolled back. -/
def rollingBack : OrderOperations :=
  [calmly (.announce sampleInput), calmly (.run (.recordSrcLock srcLock)),
    calmly (.run (.recordDstLock dstLock)), calmly (.rollbackDstLock sampleId),
    calmly (.rollbackSrcLock sampleId), calmly (.expireStaleOrders 1000)]

end Sample

theorem shape_follows_status_sample :
    (∀ op ∈ Sample.rollingBack, op.1.Routine) ∧
      (List.range 7).map (fun n =>
        ((dbAt Sample.rollingBack n).orders.get sampleId).map OrderRow.status) =
          [none, some .announced, some .srcLocked, some .dstLocked, some .srcLocked,
            some .announced, some .announced] ∧
      ShapeFollows Sample.rollingBack := by
  have hroutine : ∀ op ∈ Sample.rollingBack, op.1.Routine := by
    simp [Sample.rollingBack, Sample.calmly, OrderRequest.Routine, Job.Routine]
  exact ⟨hroutine, by decide +kernel, shape_follows_status Sample.rollingBack hroutine⟩

end WaffleFinance.Coordinator

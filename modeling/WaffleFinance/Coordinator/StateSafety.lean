import WaffleFinance.Coordinator.ServiceSpec

/-!
# The status follows the table

Every change of the status of an order should be a transition of the table, or one of the two
rollbacks.  The service checks that on the row that it has read, and the repository then writes a
status or a secret without looking again.  If somebody else has changed the status in between, the
write may lead anywhere, even out of a terminal status (`refunded_order_expires`).
-/

namespace WaffleFinance.Coordinator

open Lib OrdersRepository

/-! ### Verdicts and statuses -/

lemma recordVerdict_proceed {what publicId : Text} {target status : OrderStatus}
    (h : recordVerdict what publicId target status = .proceed) :
    isTerminal status = false ∧ (canTransition status target = true ∨ status = target) := by
  unfold recordVerdict at h
  split_ifs at h with hterminal hstatus
  refine ⟨by simpa using hterminal, ?_⟩
  by_cases hcan : canTransition status target = true
  · exact Or.inl hcan
  · exact Or.inr (by simpa [hcan] using hstatus)

lemma lockVerdict_proceed {what publicId orderId txHash : Text} {target status : OrderStatus}
    {storedId storedTx : Option Text}
    (h : lockVerdict what publicId orderId txHash target storedId storedTx status = .proceed) :
    storedId = none ∧ recordVerdict what publicId target status = .proceed := by
  unfold lockVerdict at h
  split_ifs at h with hsame hconflict
  refine ⟨?_, h⟩
  by_contra hne
  -- what is stored is neither the same nor different
  refine hconflict ⟨hne, ?_⟩
  by_cases hid : storedId = some orderId
  · exact Or.inr fun htx => hsame ⟨hid, htx⟩
  · exact Or.inl hid

lemma secretVerdict_proceed {publicId preimage : Text} {r : OrderRow}
    (h : secretVerdict publicId preimage r = .proceed) :
    r.preimage = none ∧
      recordVerdict "secret".toList publicId .secretRevealed r.status = .proceed := by
  unfold secretVerdict at h
  split_ifs at h with hsame hconflict
  refine ⟨?_, h⟩
  by_contra hne
  exact hconflict ⟨hne, hsame⟩

lemma statusVerdict_proceed {publicId : Text} {status : OrderStatus} {r : OrderRow}
    (h : statusVerdict publicId status r = .proceed) : canTransition r.status status = true := by
  unfold statusVerdict at h
  split_ifs at h with hsame hterminal hcan
  simpa using hcan

/-! ### Changes of one row -/

/-- The status stays or takes a transition of the table. -/
def Lawful (r r' : OrderRow) : Prop :=
  r'.status = r.status ∨ canTransition r.status r'.status = true

lemma lawful_lockRow (l : LockRecord) (r : OrderRow) : Lawful r (lockRow l r) := by
  unfold Lawful lockRow nextLockStatus
  split_ifs with hterminal hcan
  · exact Or.inl rfl
  · exact Or.inr hcan
  · exact Or.inl rfl

lemma lawful_withdrawRow (w : Withdrawal) (r : OrderRow) : Lawful r (withdrawRow w r) := by
  unfold Lawful withdrawRow
  split_ifs with hcan
  · exact Or.inr hcan
  · exact Or.inl rfl

/-- A job whose checks the row passes, by its status at least, is lawful. -/
lemma lawful_write {job : Job} {r seen : OrderRow} (hseen : job.verdict seen = .proceed)
    (h : (job.write.row r).status ≠ r.status → r.status = seen.status ∨ job.verdict r = .proceed) :
    Lawful r (job.write.row r) := by
  by_cases hsame : (job.write.row r).status = r.status
  · exact Or.inl hsame
  cases job with
  | recordSecret p preimage txHash encVersion =>
    have hrow : ((Job.recordSecret p preimage txHash encVersion).write.row r).status = r.status ∨
        ((Job.recordSecret p preimage txHash encVersion).write.row r).status = .secretRevealed := by
      show (secretRow _ r).status = _ ∨ (secretRow _ r).status = _
      unfold secretRow
      split_ifs
      · exact Or.inl rfl
      · exact Or.inr rfl
    have hnew := hrow.resolve_left hsame
    have hchecked : recordVerdict "secret".toList p .secretRevealed r.status = .proceed := by
      rcases h hsame with hstatus | hverdict
      · rw [hstatus]
        exact (secretVerdict_proceed hseen).2
      · exact (secretVerdict_proceed hverdict).2
    unfold Lawful
    rw [hnew]
    rcases (recordVerdict_proceed hchecked).2 with hcan | hstatus
    · exact Or.inr hcan
    · exact Or.inl hstatus.symm
  | markStatus p status =>
    have hnew : ((Job.markStatus p status).write.row r).status = status := rfl
    unfold Lawful
    rw [hnew]
    rcases h hsame with hstatus | hverdict
    · rw [hstatus]
      exact Or.inr (statusVerdict_proceed hseen)
    · exact Or.inr (statusVerdict_proceed hverdict)
  | _ => exact lawful_lockRow _ r

/-- The rollback of a lock that is the last thing that has happened to an order. -/
def RollsBack (q : Call) (p : Text) (r r' : OrderRow) : Prop :=
  (q = .rollbackSrcLock p ∧ r.status = .srcLocked ∧ r'.status = .announced) ∨
    (q = .rollbackDstLock p ∧ r.status = .dstLocked ∧ r'.status = .srcLocked)

/-- What a call of the protocol does to a status, if the write of a job is lawful. -/
lemma lawful_of_mutation {q : Call} {m : Mutation} {r : OrderRow} (hm : q.mutation = some m)
    (hcommit : ∀ job seen, q = .commit job seen → Lawful r (job.write.row r)) :
    Lawful r (m.row r) ∨ RollsBack q m.publicId r (m.row r) := by
  cases q <;> simp only [Call.mutation, Option.some.injEq, reduceCtorEq] at hm <;> subst hm
  case commit job seen => exact Or.inl (hcommit job seen rfl)
  case rollbackSrcLock p =>
    show Lawful r (rollbackRow _ r) ∨ RollsBack _ p r (rollbackRow _ r)
    unfold rollbackRow
    split_ifs with hlocked
    · exact Or.inr (Or.inl ⟨rfl, hlocked, rfl⟩)
    · exact Or.inl (Or.inl rfl)
  case rollbackDstLock p =>
    show Lawful r (rollbackRow _ r) ∨ RollsBack _ p r (rollbackRow _ r)
    unfold rollbackRow
    split_ifs with hlocked
    · exact Or.inr (Or.inr ⟨rfl, hlocked, rfl⟩)
    · exact Or.inl (Or.inl rfl)
  case cancelOrder p reason actor => exact Or.inl (lawful_withdrawRow _ r)
  case abandonOrder p reason actor => exact Or.inl (lawful_withdrawRow _ r)

lemma advanceRow_status (chain : Chain) (position : ℕ) (r : OrderRow) :
    (advanceRow chain position r).status = r.status := by
  cases chain <;> rfl

/-! ### Runs -/

/-- The pool of requests after `n` events. -/
abbrev orderPool (d : Db) (es : OrderEventLog) (n : ℕ) :=
  (Store.server serveRequest).poolAt d es n

/-- The write that has its turn, with the row that was read for it. -/
def commitOf {Req : Type} : Option (CallCause Req) → Option (Job × OrderRow)
  | some (.answer (.commit job seen) _) => some (job, seen)
  | _ => none

/-- A write that changes the status finds the status that was read, or a row that passes the same
checks. -/
def Timely {Req : Type} (x : Option (CallCause Req)) (s : Db) (_ : Multiset Call) : Prop :=
  ∀ w ∈ commitOf x, ∀ r ∈ s.orders.get w.1.publicId, (w.1.write.row r).status ≠ r.status →
    r.status = w.2.status ∨ w.1.verdict r = .proceed

instance timelyDecidable {Req : Type} (x : Option (CallCause Req)) (s : Db) (qs : Multiset Call) :
    Decidable (Timely x s qs) :=
  inferInstanceAs (Decidable (∀ w ∈ commitOf x, ∀ r ∈ s.orders.get w.1.publicId,
    (w.1.write.row r).status ≠ r.status → r.status = w.2.status ∨ w.1.verdict r = .proceed))

/-- The rows for which somebody waits to write have passed the checks. -/
def Checked (_ : Db) (qs : Multiset Call) : Prop :=
  ∀ job seen, Call.commit job seen ∈ qs → job.verdict seen = .proceed

lemma checked_keeps {allowed : Option (CallCause OrderRequest) → Db → Multiset Call → Prop} :
    repository.Keeps Orderly allowed Checked := by
  have hnext : ∀ {c : CallCause OrderRequest} {s : Db} {o : Option Call} {qs : Multiset Call},
      Checked s qs → Orderly c s o → ∀ s', Checked s' ((o.toList : Multiset Call) + qs) := by
    intro c s o qs h ho s' job seen hmem
    rcases mem_issued.1 hmem with hmem | hmem
    · obtain ⟨-, -, -, hverdict⟩ := ho.commit hmem
      exact hverdict
    · exact h job seen hmem
  refine ⟨fun h _ ho => hnext h ho _, fun {q f s qs o} h _ ho => ?_, fun _ _ => ?_⟩
  · have hrest : Checked s qs := fun job seen hmem => h job seen (Multiset.mem_cons_of_mem hmem)
    exact hnext hrest ho _
  · rintro job seen hmem
    exact absurd hmem (Multiset.notMem_zero _)

/-- In every run in which the writes are timely, whatever the interleaving and whatever fails, a
step leaves the status of an order, takes a transition of the table, or is a rollback; and nothing
leads out of a terminal status. -/
theorem status_changes_are_transitions (d : Db) (es : OrderEventLog)
    (hes : Store.Permits serveRequest Timely d es) (n : ℕ) (p : Text) (r : OrderRow)
    (hr : (orderPool d es n).state.orders.get p = some r) :
    ∃ r', (orderPool d es (n + 1)).state.orders.get p = some r' ∧
      (r'.status = r.status ∨ canTransition r.status r'.status = true ∨
        ∃ q ∈ (orderPool d es n).pending, RollsBack q p r r') ∧
      (isTerminal r.status = true → r'.status = r.status) := by
  have hchecked := Store.invariant serveRequest_follows checked_keeps (s := d)
    (by rintro _ _ ⟨⟩) hes n
  rcases Store.step_cases serveRequest_follows checked_keeps (by rintro _ _ ⟨⟩) hes n with
    hsame | ⟨q, fate, qs, hpending, hstate, hallowed⟩
  · exact ⟨r, hsame ▸ hr, Or.inl rfl, fun _ => rfl⟩
  have hq : q ∈ (orderPool d es n).pending := by
    rw [hpending]
    exact Multiset.mem_cons_self q qs
  -- a lawful change leaves a terminal status alone
  have hterminal : ∀ {r'}, Lawful r r' → isTerminal r.status = true → r'.status = r.status := by
    intro r' hlawful hterminal
    refine hlawful.resolve_right ?_
    simp [canTransition_of_isTerminal hterminal]
  have hstep := rowStep q fate (orderPool d es n).state p
  rw [hr] at hstep
  rw [hstate]
  generalize hafter : (repository.run q fate (orderPool d es n).state).2.orders.get p = after
  rw [hafter] at hstep
  cases hstep with
  | same => exact ⟨r, rfl, Or.inl rfl, fun _ => rfl⟩
  | advanced _ chain position =>
    have hstatus := advanceRow_status chain position r
    exact ⟨_, rfl, Or.inl hstatus, fun _ => hstatus⟩
  | @mutated m _ hm hid =>
    refine ⟨_, rfl, ?_⟩
    have hcommit : ∀ job seen, q = .commit job seen → Lawful r (job.write.row r) := by
      rintro job seen rfl
      refine lawful_write (hchecked job seen hq) (hallowed (job, seen) rfl r ?_)
      have hm' : job.write = m := Option.some.inj hm
      show (orderPool d es n).state.orders.get job.publicId = some r
      rw [← job.publicId_write, hm', hid]
      exact hr
    rcases lawful_of_mutation hm hcommit with hlawful | hrolls
    · refine ⟨?_, hterminal hlawful⟩
      rcases hlawful with hsame | hcan
      · exact Or.inl hsame
      · exact Or.inr (Or.inl hcan)
    rw [hid] at hrolls
    refine ⟨Or.inr (Or.inr ⟨q, hq, hrolls⟩), fun hend => ?_⟩
    rcases hrolls with ⟨-, hlocked, -⟩ | ⟨-, hlocked, -⟩
    · rw [hlocked] at hend
      exact absurd hend (by decide)
    · rw [hlocked] at hend
      exact absurd hend (by decide)

/-! ### Runs to evaluate -/

namespace Sample

/-- The call that waits at place `i` is carried out. -/
def turn (i : ℕ) : Event Call (fun _ => Fate) OrderRequest := .answer i fun _ => Fate.calm

def srcLock : SrcLockInput := ⟨sampleId, "7".toList, "0xt7".toList, 5, 900, none⟩

/-- An order is announced and locked on its source chain. -/
def locking : OrderEventLog :=
  [.start (.announce sampleInput), turn 0, turn 0, turn 0,
    .start (.run (.recordSrcLock srcLock)), turn 0, turn 0, turn 0, turn 0]

/-- Then it is refunded, while the lock is recorded once more. -/
def refunding : OrderEventLog :=
  locking ++ [.start (.run (.markStatus sampleId .refunded)),
    .start (.run (.recordSrcLock srcLock)), turn 0, turn 1, turn 0, turn 1, turn 0]

/-- Two requests read the order before either of them writes. -/
def racing : OrderEventLog :=
  locking ++ [.start (.run (.markStatus sampleId .refunded)),
    .start (.run (.markStatus sampleId .expired)), turn 1, turn 1, turn 1, turn 1]

end Sample

open Sample in
/-- The refund is written while the lock waits. -/
theorem status_changes_are_transitions_sample :
    Store.Permits serveRequest Timely Db.empty refunding ∧
      (orderPool Db.empty refunding 13).pending.card = 2 ∧
      ∃ r, (orderPool Db.empty refunding 13).state.orders.get sampleId = some r ∧
        ∃ r', (orderPool Db.empty refunding 14).state.orders.get sampleId = some r' ∧
          (r'.status = r.status ∨ canTransition r.status r'.status = true ∨
            ∃ q ∈ (orderPool Db.empty refunding 13).pending, RollsBack q sampleId r r') ∧
          (isTerminal r.status = true → r'.status = r.status) := by
  have hes : Store.Permits serveRequest Timely Db.empty refunding :=
    Store.permits_of_permitted (by decide +kernel)
  have hsome : ((orderPool Db.empty refunding 13).state.orders.get sampleId).isSome = true := by
    decide +kernel
  obtain ⟨r, hr⟩ := Option.isSome_iff_exists.1 hsome
  exact ⟨hes, by decide +kernel, r, hr,
    status_changes_are_transitions Db.empty refunding hes 13 sampleId r hr⟩

/-- A request that has read the order before it was refunded marks it as expired afterwards. -/
theorem refunded_order_expires :
    ((orderPool Db.empty Sample.racing 14).state.orders.get sampleId).map OrderRow.status =
        some .refunded ∧
      isTerminal .refunded = true ∧
      ((orderPool Db.empty Sample.racing 15).state.orders.get sampleId).map OrderRow.status =
        some .expired ∧
      canTransition .refunded .expired = false := by
  decide +kernel

end WaffleFinance.Coordinator

import WaffleFinance.Coordinator.StateSafety

/-!
# The first write wins

The source lock, the destination lock and the secret of an order are each recorded once.  A second
writer with other data is refused, because the service finds the first in the row that it reads.
The repository does not look again, so that a writer who has read the row before the first write
replaces it (`second_lock_replaces_first`).
-/

namespace WaffleFinance.Coordinator

open Lib OrdersRepository

namespace Leg

/-- The column that says that the leg is recorded. -/
def stored : Leg → OrderRow → Option Text
  | src, r => r.srcOrderId
  | dst, r => r.dstOrderId
  | secret, r => r.preimage

end Leg

/-- The leg and the value that a call records. -/
def Mutation.records : Mutation → Option (Leg × Text)
  | .recordSrcLock input => some (.src, input.orderId)
  | .recordDstLock input => some (.dst, input.orderId)
  | .recordSecretRevealed input => some (.secret, input.preimage)
  | _ => none

/-- The leg that a call rolls back. -/
def Mutation.clears : Mutation → Option Leg
  | .rollbackSrcLock .. => some .src
  | .rollbackDstLock .. => some .dst
  | _ => none

def Job.payload (job : Job) : Option (Leg × Text) := job.write.records

/-! ### Changes of one row -/

section Row

variable {r : OrderRow} (leg : Leg)

lemma stored_withStatus (status : OrderStatus) :
    leg.stored (r.withStatus status) = leg.stored r := by
  cases leg <;> rfl

lemma stored_advanceRow (chain : Chain) (position : ℕ) :
    leg.stored (advanceRow chain position r) = leg.stored r := by
  cases chain <;> cases leg <;> rfl

lemma stored_withdrawRow (w : Withdrawal) : leg.stored (withdrawRow w r) = leg.stored r := by
  unfold withdrawRow
  split_ifs
  · cases leg <;> rfl
  · rfl

/-- A call leaves the column, empties it in a rollback, or records its own value. -/
lemma stored_row (m : Mutation) :
    leg.stored (m.row r) = leg.stored r ∨ (m.clears = some leg ∧ leg.stored (m.row r) = none) ∨
      ∃ v, m.records = some (leg, v) ∧ leg.stored (m.row r) = some v := by
  cases m with
  | setStatus p status actor expected =>
    refine Or.inl ?_
    show leg.stored (setStatusRow status expected r) = _
    unfold setStatusRow
    split_ifs
    · exact stored_withStatus leg status
    · rfl
  | recordSrcLock input =>
    show leg.stored (lockRow _ r) = _ ∨ _ ∨ ∃ v, _ ∧ leg.stored (lockRow _ r) = _
    unfold lockRow
    split_ifs
    · exact Or.inl rfl
    cases leg with
    | src => exact Or.inr (Or.inr ⟨input.orderId, rfl, rfl⟩)
    | dst => exact Or.inl rfl
    | secret => exact Or.inl rfl
  | recordDstLock input =>
    show leg.stored (lockRow _ r) = _ ∨ _ ∨ ∃ v, _ ∧ leg.stored (lockRow _ r) = _
    unfold lockRow
    split_ifs
    · exact Or.inl rfl
    cases leg with
    | src => exact Or.inl rfl
    | dst => exact Or.inr (Or.inr ⟨input.orderId, rfl, rfl⟩)
    | secret => exact Or.inl rfl
  | recordSecretRevealed input =>
    show leg.stored (secretRow _ r) = _ ∨ _ ∨ ∃ v, _ ∧ leg.stored (secretRow _ r) = _
    unfold secretRow
    split_ifs
    · exact Or.inl rfl
    cases leg with
    | src => exact Or.inl rfl
    | dst => exact Or.inl rfl
    | secret => exact Or.inr (Or.inr ⟨input.preimage, rfl, rfl⟩)
  | rollbackSrcLock p actor =>
    show leg.stored (rollbackRow _ r) = _ ∨ (_ ∧ leg.stored (rollbackRow _ r) = _) ∨ _
    unfold rollbackRow
    split_ifs
    · cases leg with
      | src => exact Or.inr (Or.inl ⟨rfl, rfl⟩)
      | dst => exact Or.inl rfl
      | secret => exact Or.inl rfl
    · exact Or.inl rfl
  | rollbackDstLock p actor =>
    show leg.stored (rollbackRow _ r) = _ ∨ (_ ∧ leg.stored (rollbackRow _ r) = _) ∨ _
    unfold rollbackRow
    split_ifs
    · cases leg with
      | src => exact Or.inl rfl
      | dst => exact Or.inr (Or.inl ⟨rfl, rfl⟩)
      | secret => exact Or.inl rfl
    · exact Or.inl rfl
  | _ => exact Or.inl (stored_withdrawRow leg _)

lemma stored_of_proceed {job : Job} {v : Text} {leg : Leg} (hpayload : job.payload = some (leg, v))
    (h : job.verdict r = .proceed) : leg.stored r = none := by
  cases job with
  | recordSecret p preimage txHash encVersion =>
    obtain ⟨rfl, -⟩ := Prod.mk.inj (Option.some.inj hpayload)
    exact (secretVerdict_proceed h).1
  | markStatus p status => cases hpayload
  | _ =>
    obtain ⟨rfl, -⟩ := Prod.mk.inj (Option.some.inj hpayload)
    exact (lockVerdict_proceed h).1

end Row

/-! ### Rivals -/

/-- Two jobs that would record different values for the same leg of the same order. -/
def Rivals (job job' : Job) : Prop :=
  job.publicId = job'.publicId ∧ job.payload.map Prod.fst = job'.payload.map Prod.fst ∧
    job.payload ≠ job'.payload

instance rivalsDecidable (job job' : Job) : Decidable (Rivals job job') :=
  inferInstanceAs (Decidable (_ ∧ _ ∧ _))

lemma Rivals.symm {job job' : Job} (h : Rivals job job') : Rivals job' job :=
  ⟨h.1.symm, h.2.1.symm, h.2.2.symm⟩

/-- The job whose read has its turn. -/
def checkOf {Req : Type} : Option (CallCause Req) → Option Job
  | some (.answer (.check job) _) => some job
  | _ => none

/-- The job that waits for its write. -/
def Call.writes : Call → Option Job
  | .commit job _ => some job
  | _ => none

/-- Nobody passes the checks while a rival waits for their write. -/
def Unrivalled {Req : Type} (x : Option (CallCause Req)) (s : Db) (qs : Multiset Call) : Prop :=
  ∀ job ∈ checkOf x, ∀ r ∈ s.orders.get job.publicId, job.verdict r = .proceed →
    ∀ q ∈ qs, ∀ job' ∈ q.writes, ¬ Rivals job job'

instance unrivalledDecidable {Req : Type} (x : Option (CallCause Req)) (s : Db)
    (qs : Multiset Call) : Decidable (Unrivalled x s qs) :=
  inferInstanceAs (Decidable (∀ job ∈ checkOf x, ∀ r ∈ s.orders.get job.publicId,
    job.verdict r = .proceed → ∀ q ∈ qs, ∀ job' ∈ q.writes, ¬ Rivals job job'))

/-- Nobody who waits for their write has a rival, in the row or among the others. -/
structure Peaceful (s : Db) (qs : Multiset Call) : Prop where
  open_leg : ∀ {job seen leg v r}, Call.commit job seen ∈ qs → job.payload = some (leg, v) →
    s.orders.get job.publicId = some r → leg.stored r = none ∨ leg.stored r = some v
  no_rivals : ∀ {job seen job' seen'}, Call.commit job seen ∈ qs → Call.commit job' seen' ∈ qs →
    ¬ Rivals job job'

namespace Peaceful

variable {Req : Type} {s : Db} {q : Call} {qs : Multiset Call}

lemma of_cons (h : Peaceful s (q ::ₘ qs)) : Peaceful s qs where
  open_leg hmem := h.open_leg (Multiset.mem_cons_of_mem hmem)
  no_rivals hmem hmem' :=
    h.no_rivals (Multiset.mem_cons_of_mem hmem) (Multiset.mem_cons_of_mem hmem')

/-- A call leaves those in peace who wait beside it. -/
lemma run (h : Peaceful s (q ::ₘ qs)) (fate : Fate) : Peaceful (repository.run q fate s).2 qs where
  no_rivals := h.of_cons.no_rivals
  open_leg {job seen leg v r} hmem hpayload hr := by
    have hold : ∀ r', s.orders.get job.publicId = some r' →
        leg.stored r' = none ∨ leg.stored r' = some v := fun _ => h.of_cons.open_leg hmem hpayload
    have hstep := rowStep q fate s job.publicId
    rw [hr] at hstep
    generalize hbefore : s.orders.get job.publicId = before at hstep hold
    cases hstep with
    | same => exact hold _ rfl
    | advanced r chain position =>
      rw [stored_advanceRow]
      exact hold _ rfl
    | announced => cases leg <;> exact Or.inl rfl
    | @mutated m r hm hid =>
      rcases stored_row leg (r := r) m with hsame | ⟨-, hcleared⟩ | ⟨v', hrecords, hstored⟩
      · rw [hsame]
        exact hold _ rfl
      · exact Or.inl hcleared
      · -- a write of the same leg, hence of the same value
        right
        rw [hstored]
        cases q <;> simp only [Call.mutation, Option.some.injEq, reduceCtorEq] at hm <;>
          subst hm <;> try cases hrecords
        case commit job' seen' =>
          have hpeace := h.no_rivals (Multiset.mem_cons_self _ _) (Multiset.mem_cons_of_mem hmem)
          have hpayload' : job'.payload = some (leg, v') := hrecords
          by_contra hne
          refine hpeace ⟨by rw [← job'.publicId_write, hid], ?_, ?_⟩
          · simp [hpayload', hpayload]
          · rw [hpayload', hpayload]
            intro heq
            exact hne (congrArg (fun x => x.map Prod.snd) heq)

/-- Somebody asks who does not want to write. -/
lemma ask (h : Peaceful s qs) {o : Option Call} (ho : ∀ job seen, o ≠ some (.commit job seen)) :
    Peaceful s ((o.toList : Multiset Call) + qs) := by
  have hold : ∀ {job seen}, Call.commit job seen ∈ (o.toList : Multiset Call) + qs →
      Call.commit job seen ∈ qs := by
    intro job seen hmem
    exact (mem_issued.1 hmem).resolve_left (ho job seen)
  exact ⟨fun hmem => h.open_leg (hold hmem), fun hmem hmem' => h.no_rivals (hold hmem) (hold hmem')⟩

/-- Somebody wants to write who has no rivals and has found their leg empty. -/
lemma commit (h : Peaceful s qs) {job : Job} {r : OrderRow}
    (hget : s.orders.get job.publicId = some r) (hverdict : job.verdict r = .proceed)
    (hrivals : ∀ job' seen', Call.commit job' seen' ∈ qs → ¬ Rivals job job') :
    Peaceful s (.commit job r ::ₘ qs) where
  open_leg {job' seen' leg v r'} hmem hpayload hr' := by
    rcases Multiset.mem_cons.1 hmem with heq | hmem
    · obtain ⟨rfl, rfl⟩ := Call.commit.inj heq
      rw [hget] at hr'
      cases hr'
      exact Or.inl (stored_of_proceed hpayload hverdict)
    · exact h.open_leg hmem hpayload hr'
  no_rivals {job₁ seen₁ job₂ seen₂} hmem₁ hmem₂ := by
    rcases Multiset.mem_cons.1 hmem₁ with heq₁ | hold₁
    · obtain ⟨rfl, rfl⟩ := Call.commit.inj heq₁
      rcases Multiset.mem_cons.1 hmem₂ with heq₂ | hmem₂
      · obtain ⟨rfl, rfl⟩ := Call.commit.inj heq₂
        exact fun hrival => hrival.2.2 rfl
      · exact hrivals _ _ hmem₂
    rcases Multiset.mem_cons.1 hmem₂ with heq₂ | hmem₂
    · obtain ⟨rfl, rfl⟩ := Call.commit.inj heq₂
      exact fun hrival => hrivals _ _ hold₁ hrival.symm
    · exact h.no_rivals hold₁ hmem₂

end Peaceful

lemma run_check_snd (job : Job) (fate : Fate) (s : Db) :
    (repository.run (.check job) fate s).2 = s :=
  exec_read_snd (fun d => d.orders.get job.publicId) fate s

lemma peaceful_keeps {Req : Type} :
    repository.Keeps (@Orderly Req) Unrivalled Peaceful := by
  refine ⟨fun {r s qs o} h _ ho => h.ask ?_, fun {q fate s qs o} h hallowed ho => ?_, ?_⟩
  · intro job seen hcommit
    obtain ⟨fate, hcause, -⟩ := ho.commit hcommit
    cases hcause
  · by_cases hcommit : ∃ job seen, o = some (.commit job seen)
    · obtain ⟨job, seen, rfl⟩ := hcommit
      obtain ⟨fate', hcause, hget, hverdict⟩ := ho.commit rfl
      cases hcause
      rw [run_check_snd]
      show Peaceful s ({Call.commit job seen} + qs)
      rw [Multiset.singleton_add]
      refine h.of_cons.commit hget hverdict fun job' seen' hmem => ?_
      exact hallowed job rfl seen hget hverdict _ (Multiset.mem_cons_of_mem hmem) job' rfl
    · refine (h.run fate).ask fun job seen heq => hcommit ⟨job, seen, heq⟩
  · intro s qs _ _
    refine ⟨fun hmem => ?_, fun hmem => ?_⟩
    · exact absurd hmem (Multiset.notMem_zero _)
    · exact absurd hmem (Multiset.notMem_zero _)

/-! ### Runs -/

/-- The job would replace what is recorded. -/
def Conflicts (job : Job) (r : OrderRow) : Prop :=
  ∃ leg v v', job.payload = some (leg, v) ∧ leg.stored r = some v' ∧ v' ≠ v

/-- Who conflicts with what they read is refused. -/
lemma Conflicts.refused {job : Job} {r : OrderRow} (h : Conflicts job r) :
    job.leg ≠ none ∧ ∃ m, job.verdict r = .refuse m := by
  obtain ⟨leg, v, v', hpayload, hstored, hne⟩ := h
  have hlock : ∀ {what publicId orderId txHash : Text} {target status : OrderStatus}
      {storedTx : Option Text}, v' ≠ orderId →
      ∃ m,
        lockVerdict what publicId orderId txHash target (some v') storedTx status = .refuse m := by
    intro what publicId orderId txHash target status storedTx hne
    unfold lockVerdict
    exact ⟨_, by rw [if_neg (by simp [hne]), if_pos (by simp [hne])]⟩
  cases job with
  | recordSrcLock input =>
    obtain ⟨rfl, rfl⟩ := Prod.mk.inj (Option.some.inj hpayload)
    have hid : r.srcOrderId = some v' := hstored
    refine ⟨by simp [Job.leg], ?_⟩
    show ∃ m, srcLockVerdict input r = _
    unfold srcLockVerdict
    rw [hid]
    exact hlock hne
  | recordDstLock input =>
    obtain ⟨rfl, rfl⟩ := Prod.mk.inj (Option.some.inj hpayload)
    have hid : r.dstOrderId = some v' := hstored
    refine ⟨by simp [Job.leg], ?_⟩
    show ∃ m, dstLockVerdict input r = _
    unfold dstLockVerdict
    rw [hid]
    exact hlock hne
  | recordSecret p preimage txHash encVersion =>
    obtain ⟨rfl, rfl⟩ := Prod.mk.inj (Option.some.inj hpayload)
    have hid : r.preimage = some v' := hstored
    refine ⟨by simp [Job.leg], ?_⟩
    show ∃ m, secretVerdict p preimage r = _
    unfold secretVerdict
    exact ⟨_, by rw [hid, if_neg (by simpa using hne), if_pos (by simpa using hne)]⟩
  | markStatus p status => cases hpayload

/-- The call is the rollback of this leg of this order. -/
def Call.Undoes (q : Call) (leg : Leg) (p : Text) : Prop :=
  ∃ m, q.mutation = some m ∧ m.clears = some leg ∧ m.publicId = p

/-- One call keeps what is recorded, unless it is a rollback. -/
lemma stored_step {s : Db} {q : Call} {qs : Multiset Call} (h : Peaceful s (q ::ₘ qs)) (fate : Fate)
    {p : Text} {r : OrderRow} (hr : s.orders.get p = some r) :
    ∃ r', (repository.run q fate s).2.orders.get p = some r' ∧
      ∀ leg v, leg.stored r = some v →
        leg.stored r' = some v ∨ (leg.stored r' = none ∧ q.Undoes leg p) := by
  have hstep := rowStep q fate s p
  rw [hr] at hstep
  generalize hafter : (repository.run q fate s).2.orders.get p = after at hstep
  cases hstep with
  | same => exact ⟨r, rfl, fun _ _ h => Or.inl h⟩
  | advanced _ chain position =>
    refine ⟨_, rfl, fun leg v hv => Or.inl ?_⟩
    rw [stored_advanceRow]
    exact hv
  | @mutated m _ hm hid =>
    refine ⟨_, rfl, fun leg v hv => ?_⟩
    rcases stored_row leg (r := r) m with hsame | ⟨hclears, hcleared⟩ | ⟨v', hrecords, hstored⟩
    · exact Or.inl (hsame.trans hv)
    · exact Or.inr ⟨hcleared, m, hm, hclears, hid⟩
    · refine Or.inl ?_
      cases q <;> simp only [Call.mutation, Option.some.injEq, reduceCtorEq] at hm <;> subst hm <;>
        try cases hrecords
      case commit job seen =>
        have hget : s.orders.get job.publicId = some r := by
          rw [← job.publicId_write, hid]
          exact hr
        have hpeace :=
          h.open_leg (Multiset.mem_cons_self _ _) (show job.payload = _ from hrecords) hget
        rw [hv] at hpeace
        rw [hstored]
        exact (hpeace.resolve_left (by simp)).symm

/-- At the step after `n` events the first write wins. -/
structure FirstWins (d : Db) (es : OrderEventLog) (n : ℕ) : Prop where
  /-- What is recorded stays until its rollback. -/
  kept : ∀ p r, (orderPool d es n).state.orders.get p = some r →
    ∃ r', (orderPool d es (n + 1)).state.orders.get p = some r' ∧
      ∀ leg v, leg.stored r = some v → leg.stored r' = some v ∨
        (leg.stored r' = none ∧ ∃ q ∈ (orderPool d es n).pending, q.Undoes leg p)
  /-- Who reads something else than they want to write gets an error and changes nothing. -/
  refused : ∀ e job fate r, es[n]? = some e →
    (orderPool d es n).stimulus e = some (some (.answer (.check job) fate)) →
    (orderPool d es n).state.orders.get job.publicId = some r → Conflicts job r →
    (orderPool d es (n + 1)).state = (orderPool d es n).state ∧
      ∃ error, Call.reply (.error error) ∈ (orderPool d es (n + 1)).pending
  /-- Who gets to write does not replace anything. -/
  unopposed : ∀ job seen r, Call.commit job seen ∈ (orderPool d es n).pending →
    (orderPool d es n).state.orders.get job.publicId = some r → ¬ Conflicts job r

/-- In every run in which nobody passes their checks while a rival waits for their write, the first
write wins at every step, whatever the interleaving and whatever fails. -/
theorem first_write_wins (d : Db) (es : OrderEventLog)
    (hes : Store.Permits serveRequest Unrivalled d es) (n : ℕ) : FirstWins d es n := by
  have hinitial : Peaceful d 0 := by
    refine ⟨fun hmem => ?_, fun hmem => ?_⟩
    · exact absurd hmem (Multiset.notMem_zero _)
    · exact absurd hmem (Multiset.notMem_zero _)
  have hpeace : Peaceful (orderPool d es n).state (orderPool d es n).pending :=
    Store.invariant serveRequest_follows peaceful_keeps hinitial hes n
  refine ⟨fun p r hr => ?_, fun e job fate r he hcause hr hconflict => ?_, ?_⟩
  · rcases Store.step_cases serveRequest_follows peaceful_keeps hinitial hes n with
      hsame | ⟨q, fate, qs, hpending, hstate, -⟩
    · exact ⟨r, hsame ▸ hr, fun _ _ h => Or.inl h⟩
    · have hpeace' := hpeace
      rw [hpending] at hpeace' ⊢
      obtain ⟨r', hr', hkept⟩ := stored_step hpeace' fate hr
      refine ⟨r', hstate ▸ hr', fun leg v hv => (hkept leg v hv).imp id ?_⟩
      exact fun hundone => ⟨hundone.1, q, Multiset.mem_cons_self q qs, hundone.2⟩
  · obtain ⟨o, qs, -, hstate, hpending, horderly⟩ :=
      Store.turn serveRequest_follows peaceful_keeps hinitial hes he hcause
    obtain ⟨hleg, m, hrefuse⟩ := hconflict.refused
    obtain ⟨error, rfl⟩ := horderly.refused rfl hleg hr hrefuse
    refine ⟨hstate.trans (run_check_snd job fate _), error, ?_⟩
    rw [hpending]
    simp
  · rintro job seen r hmem hr ⟨leg, v, v', hpayload, hstored, hne⟩
    rcases hpeace.open_leg hmem hpayload hr with hnone | hsome
    · rw [hstored] at hnone
      cases hnone
    · rw [hstored] at hsome
      exact hne (Option.some.inj hsome)

namespace Sample

def otherLock : SrcLockInput := ⟨sampleId, "8".toList, "0xt8".toList, 6, 900, none⟩

/-- A second lock for an order that is locked. -/
def lateLock : OrderEventLog :=
  locking ++ [.start (.run (.recordSrcLock otherLock)), turn 0, turn 0]

/-- Two locks for an order that is not locked. -/
def racingLocks : OrderEventLog :=
  [.start (.announce sampleInput), turn 0, turn 0, turn 0,
    .start (.run (.recordSrcLock srcLock)), .start (.run (.recordSrcLock otherLock)),
    turn 1, turn 1, turn 1, turn 1]

end Sample

theorem first_write_wins_sample :
    Store.Permits serveRequest Unrivalled Db.empty Sample.lateLock ∧
      FirstWins Db.empty Sample.lateLock 10 := by
  have hes : Store.Permits serveRequest Unrivalled Db.empty Sample.lateLock :=
    Store.permits_of_permitted (by decide +kernel)
  exact ⟨hes, first_write_wins Db.empty Sample.lateLock hes 10⟩

/-- Both requests find the order without a lock, and the second write replaces the first. -/
theorem second_lock_replaces_first :
    ((orderPool Db.empty Sample.racingLocks 9).state.orders.get sampleId).map OrderRow.srcOrderId =
        some (some "7".toList) ∧
      ((orderPool Db.empty Sample.racingLocks 10).state.orders.get sampleId).map
        OrderRow.srcOrderId = some (some "8".toList) := by
  decide +kernel

end WaffleFinance.Coordinator

import WaffleFinance.Coordinator.Requests

/-!
# The order of the timelocks

The two locks of an order come in with different requests, each with its own timelock.  A swap is
safe only if the lock on the destination chain runs out before the one on the source chain, but no
request compares the two (`Job.Spaced` is the comparison that is missing).
-/

namespace WaffleFinance.Coordinator

open Lib OrdersRepository
open Multiset (mem_cons_self mem_cons_of_mem mem_add notMem_zero)

/-- The lock on the destination chain runs out before the one on the source chain. -/
def OrderRow.InOrder (r : OrderRow) : Prop :=
  ∃ src dst, r.srcTimelock = some src ∧ r.dstTimelock = some dst ∧ dst < src

/-- `dst_locked` and the statuses of success after it. -/
def OrderStatus.pastDstLock : OrderStatus → Bool
  | .dstLocked | .secretRevealed | .completed => true
  | _ => false

/-- An order that is locked on both sides has its timelocks in order. -/
def Db.TimelocksInOrder (d : Db) : Prop :=
  ∀ p r, d.orders.get p = some r → r.status.pastDstLock = true → r.InOrder

/-! ### Requests that announce and lock -/

inductive LockRequest where
  | announce (input : AnnounceOrderInput)
  | recordSrcLock (input : SrcLockInput)
  | recordDstLock (input : DstLockInput)

def LockRequest.code : LockRequest → Serve Unit
  | announce input => do
    let _ ← OrderService.announce input
    pure ()
  | recordSrcLock input => OrderService.recordSrcLock input
  | recordDstLock input => OrderService.recordDstLock input

abbrev LockEventLog := List (Event Call (fun _ => Fate) LockRequest)

/-- The pool of requests after `n` events. -/
abbrev lockPool (d : Db) (es : LockEventLog) (n : ℕ) :=
  (Store.server LockRequest.code).poolAt d es n

/-- A timelock that is written fits the other one, if that is there. -/
def Job.Spaced : Job → OrderRow → Prop
  | .recordSrcLock input, r => ∀ dst ∈ r.dstTimelock, dst < input.timelock
  | .recordDstLock input, r => ∀ src ∈ r.srcTimelock, input.timelock < src
  | _, _ => True

instance Job.spacedDecidable : (job : Job) → (r : OrderRow) → Decidable (job.Spaced r)
  | .recordSrcLock input, r =>
    inferInstanceAs (Decidable (∀ dst ∈ r.dstTimelock, dst < input.timelock))
  | .recordDstLock input, r =>
    inferInstanceAs (Decidable (∀ src ∈ r.srcTimelock, input.timelock < src))
  | .recordSecret .., _ => inferInstanceAs (Decidable True)
  | .markStatus .., _ => inferInstanceAs (Decidable True)

/-- A lock that is written fits the row that it is written to. -/
def Spaced {Req : Type} (x : Option (CallCause Req)) (s : Db) (_ : Multiset Call) : Prop :=
  ∀ w ∈ commitOf x, ∀ r ∈ s.orders.get w.1.publicId, w.1.Spaced r

instance spacedDecidable {Req : Type} (x : Option (CallCause Req)) (s : Db) (qs : Multiset Call) :
    Decidable (Spaced x s qs) :=
  inferInstanceAs (Decidable (∀ w ∈ commitOf x, ∀ r ∈ s.orders.get w.1.publicId, w.1.Spaced r))

/-! ### The calls of these requests -/

def Job.locks : Job → Bool
  | .recordSrcLock _ | .recordDstLock _ => true
  | _ => false

/-- An order is changed only by the write of a job. -/
def WritesByJobs {Req : Type} (_ : CallCause Req) (_ : Db) (o : Option Call) : Prop :=
  ∀ q ∈ o, ∀ m, q.mutation = some m → ∃ job seen, q = .commit job seen

/-- Locks are written after a read that has passed the checks, and nothing else is. -/
def LockTurn (c : CallCause LockRequest) (s : Db) (o : Option Call) : Prop :=
  Supervised (fun _ job => job.locks = true) c s o ∧ WritesByJobs c s o

lemma heeds_writesByJobs {q : Call} (hq : q.mutation = none) :
    repository.Heeds (@WritesByJobs LockRequest) (call q) := by
  refine Store.heeds_call fun c s => ?_
  rintro _ ⟨⟩ m hm
  rw [hq] at hm
  cases hm

lemma run_writesByJobs (job : Job) :
    repository.Heeds (@WritesByJobs LockRequest) (OrderService.run job) := by
  refine Store.heeds_bind (heeds_writesByJobs rfl) fun o => ?_
  cases o with
  | none => exact Store.heeds_throw _
  | some order =>
    dsimp only
    cases job.verdict order with
    | ignore => exact Store.heeds_pure _
    | refuse m => exact Store.heeds_throw _
    | proceed =>
      refine Store.heeds_bind (Store.heeds_call ?_) fun _ => ?_
      · rintro c s _ ⟨⟩ m -
        exact ⟨job, order, rfl⟩
      · cases job.cursor order with
        | none => exact Store.heeds_pure _
        | some cursor => exact heeds_writesByJobs rfl

lemma LockRequest.follows_code (r : LockRequest) (s : Db) :
    repository.Follows LockTurn r.code (.start r) s := by
  have hsupervised : repository.Heeds
      (@Supervised LockRequest fun _ job => job.locks = true) r.code := by
    have hadmits := @admits_supervised LockRequest fun _ job => job.locks = true
    cases r with
    | announce input =>
      refine Store.heeds_bind (Store.heeds_bind (hadmits.heeds_plain rfl) ?_)
        fun _ => Store.heeds_pure _
      intro o
      cases o with
      | none => exact hadmits.heeds_plain rfl
      | some order => exact Store.heeds_throw _
    | recordSrcLock input =>
      exact @Admits.heeds_run _ _ _ hadmits (.recordSrcLock input) fun _ => rfl
    | recordDstLock input =>
      exact @Admits.heeds_run _ _ _ hadmits (.recordDstLock input) fun _ => rfl
  have hwrites : repository.Heeds (@WritesByJobs LockRequest) r.code := by
    cases r with
    | announce input =>
      refine Store.heeds_bind (Store.heeds_bind (heeds_writesByJobs rfl) fun o => ?_)
        fun _ => Store.heeds_pure _
      cases o with
      | none => exact heeds_writesByJobs rfl
      | some order => exact Store.heeds_throw _
    | recordSrcLock input => exact run_writesByJobs (.recordSrcLock input)
    | recordDstLock input => exact run_writesByJobs (.recordDstLock input)
  have hend : ∀ {c s}, LockTurn c s none :=
    ⟨(admits_supervised _).last, fun q hq => absurd hq (Option.not_mem_none q)⟩
  exact ((hsupervised (.start r) s).and (hwrites (.start r) s)).mono (fun _ => hend) fun _ => hend

/-! ### Stages of an order -/

/-- What is known of the timelocks of an order that was announced and locked, nothing else. -/
inductive Stage (r : OrderRow) : Prop
  | announced (status_eq : r.status = .announced) (dst_eq : r.dstTimelock = none)
  | srcLocked (status_eq : r.status = .srcLocked) (src_ne : r.srcTimelock ≠ none)
      (dst_eq : r.dstTimelock = none)
  | dstLocked (status_eq : r.status = .dstLocked) (inOrder : r.InOrder)

namespace Stage

variable {r : OrderRow}

lemma inOrder (h : Stage r) (hpast : r.status.pastDstLock = true) : r.InOrder := by
  cases h with
  | announced hstatus | srcLocked hstatus => simp [hstatus, OrderStatus.pastDstLock] at hpast
  | dstLocked _ hinOrder => exact hinOrder

lemma of_announce (input : AnnounceOrderInput) : Stage input.row := .announced rfl rfl

lemma advanceRow (h : Stage r) (chain : Chain) (position : ℕ) :
    Stage (advanceRow chain position r) := by
  cases h with
  | announced hstatus hdst => cases chain <;> exact .announced hstatus hdst
  | srcLocked hstatus hsrc hdst => cases chain <;> exact .srcLocked hstatus hsrc hdst
  | dstLocked hstatus hinOrder => cases chain <;> exact .dstLocked hstatus hinOrder

/-- A source lock that fits.  On a row that has one already it replaces the timelock. -/
lemma recordSrcLock (h : Stage r) {input : SrcLockInput}
    (hspaced : ∀ dst ∈ r.dstTimelock, dst < input.timelock) :
    Stage (lockRow (srcLockRecord input) r) ∧
      (lockRow (srcLockRecord input) r).status ≠ .announced := by
  have hlocked : lockRow (srcLockRecord input) r =
      ((srcLockRecord input).fill r).withStatus .srcLocked → r.dstTimelock = none →
      Stage (lockRow (srcLockRecord input) r) ∧
        (lockRow (srcLockRecord input) r).status ≠ .announced := by
    intro hrow hdst
    rw [hrow]
    exact ⟨.srcLocked rfl (by simp [srcLockRecord, OrderRow.withStatus]) hdst,
      by simp [OrderRow.withStatus]⟩
  cases h with
  | announced hstatus hdst | srcLocked hstatus _ hdst =>
    refine hlocked ?_ hdst
    simp only [lockRow, hstatus]
    rfl
  | dstLocked hstatus hinOrder =>
    have hrow : lockRow (srcLockRecord input) r =
        ((srcLockRecord input).fill r).withStatus .dstLocked := by
      simp only [lockRow, hstatus]
      rfl
    obtain ⟨-, dst, -, hdst, -⟩ := hinOrder
    rw [hrow]
    exact ⟨.dstLocked rfl ⟨input.timelock, dst, rfl, hdst, hspaced dst hdst⟩,
      by simp [OrderRow.withStatus]⟩

lemma recordDstLock (h : Stage r) (hlocked : r.status ≠ .announced) {input : DstLockInput}
    (hspaced : ∀ src ∈ r.srcTimelock, input.timelock < src) :
    Stage (lockRow (dstLockRecord input) r) ∧
      (lockRow (dstLockRecord input) r).status ≠ .announced := by
  have hsrc : ∃ src, r.srcTimelock = some src := by
    cases h with
    | announced hstatus => exact absurd hstatus hlocked
    | srcLocked _ hsrc => exact Option.ne_none_iff_exists'.1 hsrc
    | dstLocked _ hinOrder =>
      obtain ⟨src, -, hsrc, -⟩ := hinOrder
      exact ⟨src, hsrc⟩
  have hrow : lockRow (dstLockRecord input) r =
      ((dstLockRecord input).fill r).withStatus .dstLocked := by
    cases h with
    | announced hstatus => exact absurd hstatus hlocked
    | srcLocked hstatus | dstLocked hstatus =>
      simp only [lockRow, hstatus]
      rfl
  obtain ⟨src, hsrc⟩ := hsrc
  rw [hrow]
  exact ⟨.dstLocked rfl ⟨src, input.timelock, hsrc, rfl, hspaced src hsrc⟩,
    by simp [OrderRow.withStatus]⟩

end Stage

/-- Every order is in a stage, and the order for which a write of a destination lock waits has left
the first one. -/
structure Staged (s : Db) (qs : Multiset Call) : Prop where
  row : ∀ p r, s.orders.get p = some r → Stage r
  jobs : ∀ q ∈ qs, ∀ m, q.mutation = some m → ∃ job seen, q = .commit job seen
  checks : ∀ job, Call.check job ∈ qs → job.locks = true
  locks : ∀ job seen, Call.commit job seen ∈ qs → job.locks = true
  waiting : ∀ input seen, Call.commit (.recordDstLock input) seen ∈ qs →
    ∃ r, s.orders.get input.publicId = some r ∧ r.status ≠ .announced

namespace Staged

variable {s : Db} {q : Call} {qs : Multiset Call}

/-- What a call that has its turn does to an order. -/
lemma rowStep (h : Staged s (q ::ₘ qs))
    (hspaced : ∀ job seen, q = .commit job seen → ∀ r ∈ s.orders.get job.publicId, job.Spaced r)
    {p : Text} {o o' : Option OrderRow} (ho : s.orders.get p = o) (hstep : RowStep q p o o') :
    ∀ r' ∈ o', Stage r' ∧ ∀ r ∈ o, r.status ≠ .announced → r'.status ≠ .announced := by
  cases hstep with
  | same =>
    intro r hr
    refine ⟨h.row p r (ho.trans hr), fun r₀ hr₀ => ?_⟩
    obtain rfl := Option.mem_unique hr hr₀
    exact id
  | advanced r chain position =>
    rintro _ ⟨⟩
    refine ⟨(h.row p r ho).advanceRow chain position, ?_⟩
    rintro _ ⟨⟩ hlocked
    rw [advanceRow_status]
    exact hlocked
  | announced =>
    rintro _ ⟨⟩
    exact ⟨.of_announce _, fun r hr => absurd hr (Option.not_mem_none r)⟩
  | @mutated m r hm hid =>
    rintro _ ⟨⟩
    obtain ⟨job, seen, rfl⟩ := h.jobs q (mem_cons_self _ _) m hm
    obtain rfl : job.write = m := Option.some.inj hm
    have hlocks := h.locks job seen (mem_cons_self _ _)
    have hget : s.orders.get job.publicId = some r := by
      rw [← job.publicId_write, hid]
      exact ho
    have hfits := hspaced job seen rfl r hget
    cases job with
    | recordSrcLock input =>
      obtain ⟨hstage, hlocked⟩ := (h.row p r ho).recordSrcLock hfits
      exact ⟨hstage, fun _ _ _ => hlocked⟩
    | recordDstLock input =>
      obtain ⟨r₀, hget₀, hlocked₀⟩ := h.waiting input seen (mem_cons_self _ _)
      obtain rfl := Option.some.inj (hget₀.symm.trans hget)
      obtain ⟨hstage, hlocked⟩ := (h.row p r₀ ho).recordDstLock hlocked₀ hfits
      exact ⟨hstage, fun _ _ _ => hlocked⟩
    | recordSecret _ _ _ _ => cases hlocks
    | markStatus _ _ => cases hlocks

/-- After a call that has its turn. -/
lemma run (h : Staged s (q ::ₘ qs))
    (hspaced : ∀ job seen, q = .commit job seen → ∀ r ∈ s.orders.get job.publicId, job.Spaced r)
    (fate : Fate) : Staged (repository.run q fate s).2 qs where
  row p r hr := (h.rowStep hspaced rfl (Coordinator.rowStep q fate s p) r hr).1
  jobs q' hq' := h.jobs q' (mem_cons_of_mem hq')
  checks job hmem := h.checks job (mem_cons_of_mem hmem)
  locks job seen hmem := h.locks job seen (mem_cons_of_mem hmem)
  waiting input seen hmem := by
    obtain ⟨r, hget, hlocked⟩ := h.waiting input seen (mem_cons_of_mem hmem)
    have hstep := Coordinator.rowStep q fate s input.publicId
    -- a row that is there stays there
    have hsome : ∃ r', (repository.run q fate s).2.orders.get input.publicId = some r' := by
      rw [hget] at hstep
      generalize (repository.run q fate s).2.orders.get input.publicId = after at hstep
      cases hstep with
      | same => exact ⟨r, rfl⟩
      | mutated _ hm hid => exact ⟨_, rfl⟩
      | advanced _ chain position => exact ⟨_, rfl⟩
    obtain ⟨r', hr'⟩ := hsome
    exact ⟨r', hr', (h.rowStep hspaced rfl hstep r' hr').2 r hget hlocked⟩

/-- The next call of a request waits for its turn. -/
lemma ask {o : Option Call} (h : Staged s qs)
    (hwrites : ∀ q ∈ o, ∀ m, q.mutation = some m → ∃ job seen, q = .commit job seen)
    (hcheck : ∀ job, o = some (.check job) → job.locks = true)
    (hcommit : ∀ job seen, o = some (.commit job seen) → job.locks = true ∧
      s.orders.get job.publicId = some seen ∧ job.verdict seen = .proceed) :
    Staged s ((o.toList : Multiset Call) + qs) where
  row := h.row
  jobs q hq := by
    rcases mem_issued.1 hq with hq | hq
    · exact hwrites q hq
    · exact h.jobs q hq
  checks job hmem := by
    rcases mem_issued.1 hmem with hmem | hmem
    · exact hcheck job hmem
    · exact h.checks job hmem
  locks job seen hmem := by
    rcases mem_issued.1 hmem with hmem | hmem
    · exact (hcommit job seen hmem).1
    · exact h.locks job seen hmem
  waiting input seen hmem := by
    rcases mem_issued.1 hmem with hmem | hmem
    · obtain ⟨-, hget, hverdict⟩ := hcommit (.recordDstLock input) seen hmem
      refine ⟨seen, hget, fun hstatus => ?_⟩
      -- an announced order has no source lock yet, so that the check has refused
      rcases (recordVerdict_proceed (lockVerdict_proceed hverdict).2).2 with hcan | hlocked
      · rw [hstatus] at hcan
        exact absurd hcan (by decide)
      · rw [hstatus] at hlocked
        cases hlocked
    · exact h.waiting input seen hmem

lemma keeps : repository.Keeps LockTurn Spaced Staged := by
  refine ⟨fun h _ ho => ?_, fun {q fate s qs o} h hspaced ho => ?_, fun {s qs} h _ => ?_⟩
  · refine h.ask ho.2 (fun job => ho.1.check) fun job seen hcommit => ?_
    obtain ⟨_, hstart, -⟩ := ho.1.commit hcommit
    cases hstart
  · have hrun := h.run (fun job seen hq r hr => hspaced (job, seen) (by rw [hq]; rfl) r hr) fate
    refine hrun.ask ho.2 (fun job => ho.1.check) fun job seen hcommit => ?_
    obtain ⟨_, hcause, hget, hverdict⟩ := ho.1.commit hcommit
    cases hcause
    rw [run_check_snd]
    exact ⟨h.checks job (mem_cons_self _ _), hget, hverdict⟩
  · exact ⟨h.row, fun q hq => absurd hq (notMem_zero q),
      fun _ hq => absurd hq (notMem_zero _),
      fun _ _ hq => absurd hq (notMem_zero _),
      fun _ _ hq => absurd hq (notMem_zero _)⟩

lemma empty : Staged Db.empty 0 where
  row p r hr := by cases hr
  jobs q hq := absurd hq (notMem_zero q)
  checks _ hq := absurd hq (notMem_zero _)
  locks _ _ hq := absurd hq (notMem_zero _)
  waiting _ _ hq := absurd hq (notMem_zero _)

end Staged

/-- In every run of requests that announce and lock, whatever the interleaving and whatever fails,
the timelocks are in order if each lock that is written fits the row that it is written to. -/
theorem timelocks_in_order (es : LockEventLog)
    (hes : Store.Permits LockRequest.code Spaced Db.empty es) (n : ℕ) :
    (lockPool Db.empty es n).state.TimelocksInOrder := by
  have hstaged := Store.invariant LockRequest.follows_code Staged.keeps Staged.empty hes n
  exact fun p r hr hpast => (hstaged.row p r hr).inOrder hpast

/-! ### Runs to evaluate -/

namespace Sample

/-- An order is announced and locked on both chains, the destination lock with a given timelock. -/
def lockingBoth (timelock : ℕ) : LockEventLog :=
  let turn : Event Call (fun _ => Fate) LockRequest := .answer 0 fun _ => Fate.calm
  [.start (.announce sampleInput), turn, turn,
    .start (.recordSrcLock srcLock), turn, turn, turn,
    .start (.recordDstLock ⟨sampleId, "9".toList, "st9".toList, 8, timelock, none, none⟩),
    turn, turn, turn]

end Sample

theorem timelocks_in_order_sample :
    Store.Permits LockRequest.code Spaced Db.empty (Sample.lockingBoth 700) ∧
      ((lockPool Db.empty (Sample.lockingBoth 700) 11).state.orders.get sampleId).map
        OrderRow.status = some .dstLocked ∧
      (lockPool Db.empty (Sample.lockingBoth 700) 11).state.TimelocksInOrder := by
  have hes : Store.Permits LockRequest.code Spaced Db.empty (Sample.lockingBoth 700) :=
    Store.permits_of_permitted (by decide +kernel)
  exact ⟨hes, by decide +kernel, timelocks_in_order _ hes 11⟩

/-- The source lock runs out at 900.  A destination lock until 1000 is recorded all the same. -/
theorem late_dst_lock_accepted :
    ((lockPool Db.empty (Sample.lockingBoth 1000) 11).state.orders.get sampleId).map
        (fun r => (r.status, r.srcTimelock, r.dstTimelock)) =
      some (.dstLocked, some 900, some 1000) ∧
    ¬ (lockPool Db.empty (Sample.lockingBoth 1000) 11).state.TimelocksInOrder := by
  have hrow : ((lockPool Db.empty (Sample.lockingBoth 1000) 11).state.orders.get sampleId).map
      (fun r => (r.status, r.srcTimelock, r.dstTimelock)) =
        some (.dstLocked, some 900, some 1000) := by
    decide +kernel
  refine ⟨hrow, fun hinOrder => ?_⟩
  obtain ⟨r, hget, hr⟩ := Option.map_eq_some_iff.1 hrow
  obtain ⟨hstatus, hsrc, hdst⟩ : r.status = .dstLocked ∧ r.srcTimelock = some 900 ∧
      r.dstTimelock = some 1000 := by simpa using hr
  obtain ⟨src, dst, hsrc', hdst', hlt⟩ := hinOrder sampleId r hget (by rw [hstatus]; rfl)
  rw [hsrc] at hsrc'
  rw [hdst] at hdst'
  cases hsrc'
  cases hdst'
  omega

end WaffleFinance.Coordinator

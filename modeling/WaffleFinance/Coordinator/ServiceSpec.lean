import WaffleFinance.Coordinator.OrderService

/-!
# What the service for orders does

First what one call of the repository can do to the row of an order (`RowStep`).  Then the protocol
of the service (`Orderly`): a write comes right after a read whose row has passed the checks, and
whoever is refused gets an error.  Every request keeps to it (`serveRequest_follows`), whatever
else happens meanwhile.
-/

namespace WaffleFinance.Coordinator

open Lib OrdersRepository Store

/-! ### Rows -/

/-- What a call can do to the row of an order. -/
inductive RowStep (q : Call) (p : Text) : Option OrderRow → Option OrderRow → Prop
  | same (o : Option OrderRow) : RowStep q p o o
  | mutated {m : Mutation} (r : OrderRow) (mutation_eq : q.mutation = some m)
      (publicId_eq : m.publicId = p) : RowStep q p (some r) (some (m.row r))
  | advanced (r : OrderRow) (chain : Chain) (position : ℕ) :
      RowStep q p (some r) (some (OrdersRepository.advanceRow chain position r))
  | announced {input : AnnounceOrderInput} (call_eq : q = .announce input) :
      RowStep q p none (some input.row)

lemma mem_issued {q : Call} {o : Option Call} {qs : Multiset Call} :
    q ∈ (o.toList : Multiset Call) + qs ↔ o = some q ∨ q ∈ qs := by
  simp [Multiset.mem_add, Option.mem_toList]

lemma run_snd (q : Call) (fate : Fate) (d : Db) :
    (repository.run q fate d).2 = (q.program.exec fate d).2 := rfl

lemma run_mutation {q : Call} {m : Mutation} (h : q.mutation = some m) (fate : Fate) (d : Db) :
    (repository.run q fate d).2 = (m.program.exec fate d).2 := by
  cases q <;> simp only [Call.mutation, Option.some.injEq, reduceCtorEq] at h <;> subst h <;> rfl

lemma exec_read_snd {α : Type} (f : Db → α) (fate : Fate) (d : Db) :
    ((Sql.statement fun d => .ok (f d, d) : DbProgram α).exec fate d).2 = d := by
  rw [Sql.exec_statement]
  cases fate 0 <;> rfl

lemma rowStep_mutation {q : Call} {m : Mutation} (h : q.mutation = some m) (fate : Fate) (d : Db)
    (p : Text) : RowStep q p (d.orders.get p) ((repository.run q fate d).2.orders.get p) := by
  rw [run_mutation h]
  rcases m.exec_snd fate d with hsame | ⟨r, e, hget, -, -, -, hput⟩
  · rw [hsame]
    exact .same _
  rw [hput, Db.orders_append]
  by_cases hp : p = m.publicId
  · subst hp
    rw [Db.get_put_self hget, hget]
    exact .mutated r h rfl
  · rw [Db.get_put_of_ne hp]
    exact .same _

lemma rowStep_update {q : Call} (p p' : Text) (chain : Chain) (position : ℕ) (d : Db) :
    RowStep q p (d.orders.get p)
      ((d.update p' (advanceRow chain position)).orders.get p) := by
  rw [Db.orders_update]
  by_cases hp : p = p'
  · subst hp
    rw [InsertionMap.get_update_self]
    cases d.orders.get p with
    | none => exact .same _
    | some r => exact .advanced r chain position
  · rw [InsertionMap.get_update_of_ne _ hp]
    exact .same _

lemma rowStep_advance (q : Call) (p p' : Text) (chain : Chain) (position : ℕ) (fate : Fate)
    (d : Db) :
    RowStep q p (d.orders.get p)
      (((updateOrderCursor p' chain position).exec fate d).2.orders.get p) := by
  unfold updateOrderCursor
  rw [Sql.exec_statement]
  cases fate 0 with
  | some e => exact .same _
  | none => exact rowStep_update p p' chain position d

/-- Every call does one of these to every row. -/
lemma rowStep (q : Call) (fate : Fate) (d : Db) (p : Text) :
    RowStep q p (d.orders.get p) ((repository.run q fate d).2.orders.get p) := by
  have hread {d' : Db} (h : d' = d) : RowStep q p (d.orders.get p) (d'.orders.get p) := by
    rw [h]
    exact .same _
  cases q with
  | check job => exact hread (exec_read_snd (fun d => d.orders.get job.publicId) fate d)
  | announce input =>
    rw [run_snd]
    rcases exec_announce_snd input fate d with hsame | ⟨p', hfresh, hinsert⟩
    · exact hread hsame
    show RowStep _ p _ (((announce input).exec fate d).2.orders.get p)
    rw [hinsert]
    show RowStep _ p _ ((d.orders.insert p' input.row).get p)
    by_cases hp : p = p'
    · subst hp
      rw [InsertionMap.get_insert_self, hfresh]
      exact .announced rfl
    · rw [InsertionMap.get_insert_of_ne _ hp]
      exact .same _
  | get p' => exact hread (exec_read_snd (fun d => d.orders.get p') fate d)
  | findByHashlock hashlock =>
    exact hread (exec_read_snd (fun d => d.orders.first fun _ r => r.hashlock = hashlock) fate d)
  | findBySrcOrderId chain orderId =>
    exact hread (exec_read_snd (fun d => d.orders.first fun _ r =>
      r.srcChain = chain ∧ r.srcOrderId = some orderId) fate d)
  | findExpiredCandidates now =>
    exact hread (exec_read_snd (expiredCandidates now) fate d)
  | updateOrderCursor p' chain position => exact rowStep_advance _ p p' chain position fate d
  | advanceOrderLedgerCursor p' chain position =>
    rw [run_snd]
    show RowStep _ p _
      (((advanceOrderLedgerCursor p' chain position).exec fate d).2.orders.get p)
    unfold advanceOrderLedgerCursor
    split
    · exact .same _
    · exact rowStep_advance _ p p' chain position fate d
  | claimEvent key =>
    rw [run_snd]
    show RowStep _ p _ (((claimEvent key).exec fate d).2.orders.get p)
    unfold claimEvent
    rw [Sql.exec_statement]
    by_cases hkey : key ∈ d.processedEvents
    · cases fate 0 <;> simp [hkey] <;> exact .same _
    · cases fate 0 <;> simp [hkey] <;> exact .same _
  | getChainCursor chain => exact hread (exec_read_snd (fun d => d.chainCursors chain) fate d)
  | setChainCursor chain position =>
    rw [run_snd]
    show RowStep _ p _
      (((setChainCursor chain position).exec fate d).2.orders.get p)
    unfold setChainCursor
    rw [Sql.exec_statement]
    cases fate 0 <;> exact .same _
  | getMinActiveOrderCursor chain =>
    exact hread (exec_read_snd (fun d => (activeCursors d chain).min?) fate d)
  | rpc => exact hread (exec_read_snd (fun _ => ()) fate d)
  | reply outcome => exact .same _
  | _ => exact rowStep_mutation rfl fate d p

lemma run_read_ok {q : Call} {f : Db → q.Result} {fate : Fate} {d : Db} {a : q.Result}
    (hq : q.program = .statement fun d => .ok (f d, d)) (h : (repository.run q fate d).1 = .ok a) :
    a = f d := by
  have hrun : (repository.run q fate d).1 = (q.program.exec fate d).1.mapError DbError.service :=
    rfl
  rw [hrun, hq, Sql.exec_statement] at h
  cases hfate : fate 0 with
  | some e => simp [hfate, Except.mapError] at h
  | none =>
    rw [hfate] at h
    exact (Except.ok.inj h).symm

lemma run_check_ok {job : Job} {fate : Fate} {d : Db} {o : Option OrderRow}
    (h : (repository.run (.check job) fate d).1 = .ok o) : o = d.orders.get job.publicId :=
  @run_read_ok (.check job) (fun d => d.orders.get job.publicId) fate d o rfl h

lemma run_get_ok {p : Text} {fate : Fate} {d : Db} {o : Option OrderRow}
    (h : (repository.run (.get p) fate d).1 = .ok o) : o = d.orders.get p :=
  @run_read_ok (.get p) (fun d => d.orders.get p) fate d o rfl h

/-! ### Protocol -/

/-- The parts of an order that are recorded once. -/
inductive Leg where
  | src
  | dst
  | secret
  deriving DecidableEq

def Job.leg : Job → Option Leg
  | .recordSrcLock _ => some .src
  | .recordDstLock _ => some .dst
  | .recordSecret .. => some .secret
  | .markStatus .. => none

/-- A write comes right after a read that has passed the checks; who was refused gets an error. -/
structure Orderly {Req : Type} (c : CallCause Req) (s : Db) (o : Option Call) : Prop where
  commit : ∀ {job r}, o = some (.commit job r) → ∃ fate, c = .answer (.check job) fate ∧
    s.orders.get job.publicId = some r ∧ job.verdict r = .proceed
  refused : ∀ {job fate r m}, c = .answer (.check job) fate → job.leg ≠ none →
    s.orders.get job.publicId = some r → job.verdict r = .refuse m →
    ∃ e, o = some (.reply (.error e))

section Issues

variable {Req : Type} {c : CallCause Req} {s : Db} {q : Call}

/-- The last call was not the read of a lock or a secret that is then refused. -/
def Unrefused (c : CallCause Req) (s : Db) : Prop :=
  ∀ job fate r m, c = .answer (.check job) fate → job.leg ≠ none →
    s.orders.get job.publicId = some r → job.verdict r ≠ .refuse m

lemma Unrefused.orderly (h : Unrefused c s) {o : Option Call}
    (ho : ∀ job r, o ≠ some (.commit job r)) : Orderly c s o where
  commit hcommit := absurd hcommit (ho _ _)
  refused hcheck hleg hget hverdict := absurd hverdict (h _ _ _ _ hcheck hleg hget)

lemma unrefused_start (r : Req) : Unrefused (.start r : CallCause Req) s := by
  rintro _ _ _ _ ⟨⟩

lemma unrefused_of_ne_check (h : ∀ job, q ≠ .check job) (fate : Fate) :
    Unrefused (.answer q fate : CallCause Req) s := by
  rintro job _ _ _ ⟨⟩
  exact absurd rfl (h job)

lemma unrefused_check {job : Job} {fate : Fate}
    (h : job.leg ≠ none → ∀ r m, s.orders.get job.publicId = some r → job.verdict r ≠ .refuse m) :
    Unrefused (.answer (.check job) fate : CallCause Req) s := by
  rintro job' _ r m ⟨⟩ hleg
  exact h hleg r m

lemma issues_plain (hcheck : ∀ job, q ≠ .check job) (hcommit : ∀ job r, q ≠ .commit job r)
    (h : Unrefused c s) :
    repository.Issues Orderly (fun c s _ => Unrefused c s) (fun c s _ => Unrefused c s)
      (call q) c s :=
  issues_call (h.orderly fun job r => by simpa using hcommit job r)
    (fun fate _ _ _ => unrefused_of_ne_check hcheck fate)
    (fun fate _ _ _ => unrefused_of_ne_check hcheck fate)

/-- A job keeps to the protocol.  If it throws after a refusal it is one of a lock or a secret. -/
lemma issues_run (job : Job) (h : Unrefused c s) :
    repository.Issues Orderly (fun c s _ => Unrefused c s)
      (fun c s _ => job.leg = none → Unrefused c s) (OrderService.run job) c s := by
  have hrefused : ∀ {fate s}, job.leg = none →
      Unrefused (.answer (.check job) fate : CallCause Req) s :=
    fun hleg => unrefused_check fun hsome => absurd hleg hsome
  have hcommitted : ∀ {r fate s}, Unrefused (.answer (.commit job r) fate : CallCause Req) s :=
    unrefused_of_ne_check (by simp) _
  unfold OrderService.run
  refine issues_bind (issues_call (h.orderly (by simp)) ?_ fun _ _ _ _ => hrefused)
  intro fate s o ho
  obtain rfl := run_check_ok ho
  cases hget : s.orders.get job.publicId with
  | none => exact (issues_throw _).2 hrefused
  | some r =>
    dsimp only
    cases hverdict : job.verdict r with
    | ignore =>
      refine (issues_pure _).2 (unrefused_check fun _ r' m hget' => ?_)
      rw [hget] at hget'
      cases hget'
      simp [hverdict]
    | refuse m => exact (issues_throw _).2 hrefused
    | proceed =>
      have horderly : Orderly (.answer (.check job) fate : CallCause Req) s
          (some (.commit job r)) := by
        refine ⟨?_, ?_⟩
        · rintro _ _ ⟨⟩
          exact ⟨fate, rfl, hget, hverdict⟩
        · rintro _ _ r' m ⟨⟩ - hget' hrefuse
          rw [hget] at hget'
          cases hget'
          rw [hverdict] at hrefuse
          exact absurd hrefuse (by simp)
      refine issues_bind (issues_call horderly ?_ fun _ _ _ _ _ => hcommitted)
      intro fate' s' _ _
      cases job.cursor r with
      | none => exact (issues_pure _).2 hcommitted
      | some cursor =>
        exact (issues_plain (by simp) (by simp) hcommitted).mono (fun h => h) (fun h _ => h)

lemma issues_announce (input : AnnounceOrderInput) (h : Unrefused c s) :
    repository.Issues Orderly (fun c s _ => Unrefused c s) (fun c s _ => Unrefused c s)
      (OrderService.announce input) c s := by
  unfold OrderService.announce
  refine issues_bind ((issues_plain (by simp) (by simp) h).mono (fun h => ?_) fun h => h)
  rename_i o
  cases o with
  | none => exact issues_plain (by simp) (by simp) h
  | some order => exact (issues_throw _).2 h

lemma issues_expireEach (orders : List (Text × OrderRow)) (count : ℕ) (h : Unrefused c s) :
    repository.Issues Orderly (fun c s _ => Unrefused c s) (fun c s _ => Unrefused c s)
      (OrderService.expireEach orders count) c s := by
  induction orders generalizing count c s with
  | nil => exact (issues_pure _).2 h
  | cons order orders ih =>
    unfold OrderService.expireEach
    split
    · exact ih count h
    split
    · exact ih count h
    refine issues_bind (issues_tryCatch (issues_bind ?_))
    refine (issues_run (.markStatus order.1 .expired) h).mono (fun h => ?_) fun h => ?_
    · exact (issues_pure _).2 (ih _ h)
    · exact (issues_pure _).2 (ih _ (h rfl))

lemma issues_expireStaleOrders (now : ℕ) (h : Unrefused c s) :
    repository.Issues Orderly (fun c s _ => Unrefused c s) (fun c s _ => Unrefused c s)
      (OrderService.expireStaleOrders now) c s :=
  issues_bind ((issues_plain (by simp) (by simp) h).mono
    (fun h => issues_expireEach _ 0 h) fun h => h)

end Issues

lemma issues_code (r : OrderRequest) (s : Db) :
    repository.Issues Orderly (fun c s _ => Unrefused c s) (fun _ _ _ => True)
      r.code (.start r) s := by
  have h := unrefused_start (s := s) r
  cases r with
  | announce input =>
    exact issues_bind ((issues_announce input h).mono (fun h => (issues_pure _).2 h)
      fun _ => trivial)
  | run job => exact (issues_run job h).mono (fun h => h) fun _ => trivial
  | expireStaleOrders now =>
    exact issues_bind ((issues_expireStaleOrders now h).mono
      (fun h => (issues_pure _).2 h) fun _ => trivial)
  | _ =>
    exact (issues_plain (by simp) (by simp) h).mono (fun h => h) fun _ => trivial

lemma serveRequest_follows (r : OrderRequest) (s : Db) :
    repository.Follows Orderly (serveRequest r) (.start r) s := by
  have hend : ∀ {outcome fate s},
      Orderly (.answer (.reply outcome) fate : CallCause OrderRequest) s none :=
    (unrefused_of_ne_check (by simp) _).orderly (by simp)
  refine issues_bind (issues_tryCatch (issues_bind ?_))
  refine (issues_code r s).mono (fun {c s _} h => ?_) (fun {c s e} _ => ?_)
  · refine (issues_pure _).2 (issues_call ?_ (fun _ _ _ _ => hend) fun _ _ _ _ => hend)
    exact h.orderly (by simp)
  · refine (issues_pure _).2 (issues_call ?_ (fun _ _ _ _ => hend) fun _ _ _ _ => hend)
    exact ⟨by simp, fun _ _ _ _ => ⟨e, rfl⟩⟩

end WaffleFinance.Coordinator

import WaffleFinance.Coordinator.Authenticity

/-!
# Archived orders

Two maintenance jobs look for orders that were announced long ago and never locked.
`StaleCleanupService` abandons them, which also stamps `archived_at`; `ArchivalPolicy` only stamps.
Both say that this can be undone when a lock turns up late.  But nothing does: an abandoned order
refuses the lock, an archived one is locked and stays archived, and an order that is locked while
`ArchivalPolicy` is on its way through its list is archived afterwards.
-/

namespace WaffleFinance.Coordinator

open Lib OrdersRepository

/-! ### The jobs -/

inductive Cleaner where
  | staleCleanup
  | archivalPolicy
  deriving DecidableEq

/-- A maintenance job on its way through its list. -/
structure MaintenanceRun where
  cleaner : Cleaner
  /-- The orders it has still to come to. -/
  batch : List Text

/-- The database with two more columns, and the maintenance jobs that are running. -/
structure Archive where
  db : Db
  createdAt : Text → ℕ
  archivedAt : Text → Option ℕ
  runs : List MaintenanceRun

/-- The order that a call of the repository abandons. -/
def Call.abandons : Call → Option Text
  | .abandonOrder p _ _ => some p
  | _ => none

namespace Archive

def empty : Archive := ⟨.empty, fun _ => 0, fun _ => none, []⟩

variable (s : Archive)

def status (p : Text) : Option OrderStatus := (s.db.orders.get p).map OrderRow.status

/-- A call of the repository.  A new row is created now and not archived, and the statement that
abandons an order stamps it. -/
def call (q : Call) (fate : Fate) (now : ℕ) : Archive :=
  let s' := { s with db := (repository.run q fate s.db).2 }
  { s' with
    createdAt := fun p => if s.status p = none ∧ s'.status p ≠ none then now else s.createdAt p
    archivedAt := fun p =>
      if s.status p = none then none
      else if q.abandons = some p ∧ s.status p ≠ some .abandoned ∧
        s'.status p = some .abandoned then some now
      else s.archivedAt p }

def findStaleAnnounced (now retentionWindow : ℕ) : List Text :=
  (s.db.orders.entries.filter fun e =>
    e.2.status = .announced && e.2.srcOrderId = none && s.archivedAt e.1 = none &&
      s.createdAt e.1 + retentionWindow < now).map Prod.fst

/-- A maintenance job starts and reads its list, unless the read fails. -/
def begin (cleaner : Cleaner) (now retentionWindow batchSize : ℕ) (fails : Bool) : Archive :=
  if fails then s
  else { s with
    runs := s.runs ++ [⟨cleaner, (s.findStaleAnnounced now retentionWindow).take batchSize⟩] }

def archiveOrder (p : Text) (now : ℕ) : Archive :=
  { s with
    archivedAt := fun p' =>
      if p' = p ∧ s.status p ≠ none ∧ s.archivedAt p = none then some now else s.archivedAt p' }

def unarchiveOrder (p : Text) : Archive :=
  { s with archivedAt := Function.update s.archivedAt p none }

/-- The call by which an order is abandoned. -/
def staleAbandonment (p : Text) : Call :=
  .abandonOrder p "stale:no_src_lock".toList (some .staleCleanup)

/-- A maintenance job comes to an order.  The answer says whether it can go on. -/
def clean (p : Text) (fate : Fate) (now : ℕ) : Cleaner → Bool × Archive
  | .staleCleanup =>
    ((repository.run (staleAbandonment p) fate s.db).1.isOk, s.call (staleAbandonment p) fate now)
  | .archivalPolicy =>
    match fate 0 with
    | some _ => (false, s)
    | none => (true, s.archiveOrder p now)

/-- A maintenance job goes on: it comes to the next order, or it is over. -/
def handle (i : ℕ) (fate : Fate) (now : ℕ) : Archive :=
  match s.runs[i]? with
  | none => s
  | some run =>
    match run.batch with
    | [] => { s with runs := s.runs.eraseIdx i }
    | p :: rest =>
      let outcome := s.clean p fate now run.cleaner
      { outcome.2 with
        runs := if outcome.1 then s.runs.set i ⟨run.cleaner, rest⟩ else s.runs.eraseIdx i }

end Archive

inductive ArchiveEvent where
  /-- Somebody else calls the repository. -/
  | call (q : Call) (fate : Fate) (now : ℕ)
  | begin (cleaner : Cleaner) (now retentionWindow batchSize : ℕ) (fails : Bool)
  | handle (i : ℕ) (fate : Fate) (now : ℕ)
  /-- The write of `reactivateOrder`. -/
  | unarchive (p : Text)

namespace ArchiveEvent

def exec (s : Archive) : ArchiveEvent → Archive
  | call q fate now => s.call q fate now
  | begin cleaner now retentionWindow batchSize fails =>
    s.begin cleaner now retentionWindow batchSize fails
  | handle i fate now => s.handle i fate now
  | unarchive p => s.unarchiveOrder p

def isMaintenance : ArchiveEvent → Bool
  | begin .. | handle .. => true
  | _ => false

/-- The order that a maintenance job comes to, and does its work on. -/
def cleaned (s : Archive) : ArchiveEvent → Option Text
  | handle i fate now => do
    let run ← s.runs[i]?
    let p ← run.batch.head?
    if (s.clean p fate now run.cleaner).1 then some p else none
  | _ => none

end ArchiveEvent

def archiveMachine : Machine Archive ArchiveEvent Unit where
  exec e s := .ok (e.exec s)

/-- The state after the first `n` events. -/
def archiveAt (s : Archive) (es : List ArchiveEvent) (n : ℕ) : Archive :=
  archiveMachine.stateAt s es n

/-! ### Orders that are under way -/

/-- The statuses in which an order must not be archived. -/
def OrderStatus.underWay : OrderStatus → Bool
  | .srcLocked | .dstLocked | .secretRevealed | .expired => true
  | _ => false

/-- An order that is archived, or that `ArchivalPolicy` is about to archive. -/
def Archive.Shelved (s : Archive) (p : Text) : Prop :=
  s.archivedAt p ≠ none ∨ ∃ run ∈ s.runs, run.cleaner = .archivalPolicy ∧ p ∈ run.batch

/-- No write gets an order under way that is shelved. -/
def ArchiveEvent.Spares (s : Archive) : ArchiveEvent → Prop
  | call q _ _ => ∀ m ∈ q.mutation, ∀ r ∈ s.db.orders.get m.publicId, s.Shelved m.publicId →
      (m.row r).status.underWay = true → r.status.underWay = true
  | _ => True

/-- No order that is shelved is under way. -/
def Archive.Apart (s : Archive) : Prop :=
  ∀ p, s.Shelved p → ∀ r ∈ s.db.orders.get p, r.status.underWay = false

namespace Archive

variable {s : Archive}

lemma archivedAt_call {q : Call} {fate : Fate} {now : ℕ} {p : Text}
    (h : (s.call q fate now).archivedAt p ≠ none) :
    s.archivedAt p ≠ none ∨ (s.call q fate now).status p = some .abandoned := by
  dsimp only [call] at h
  split at h
  · exact absurd rfl h
  split at h
  · rename_i hstamped
    exact Or.inr hstamped.2.2
  · exact Or.inl h

lemma Apart.call (h : s.Apart) {q : Call} {fate : Fate} {now : ℕ}
    (hspares : (ArchiveEvent.call q fate now).Spares s) : (s.call q fate now).Apart := by
  intro p hshelved r' hr'
  have hbefore : s.Shelved p ∨ (s.call q fate now).status p = some .abandoned := by
    rcases hshelved with harchived | hbatch
    · exact (archivedAt_call harchived).imp_left Or.inl
    · exact Or.inl (Or.inr hbatch)
  rcases hbefore with hshelved | habandoned
  · have hr : (repository.run q fate s.db).2.orders.get p = some r' := hr'
    have hstep := rowStep q fate s.db p
    rw [hr] at hstep
    generalize hget : s.db.orders.get p = before at hstep
    cases hstep with
    | same => exact h p hshelved r' hget
    | mutated r hm hid =>
      subst hid
      by_contra hunder
      have hold := hspares _ hm r hget hshelved (by simpa using hunder)
      exact absurd (h _ hshelved r hget) (by simp [hold])
    | advanced r chain position =>
      have hold := h p hshelved r hget
      cases chain <;> exact hold
    | announced => rfl
  · obtain ⟨r, hr, hstatus⟩ := Option.map_eq_some_iff.1 habandoned
    obtain rfl : r = r' := Option.some_inj.1 (hr.symm.trans hr')
    rw [hstatus]
    rfl

lemma Apart.with_runs (h : s.Apart) {runs : List MaintenanceRun}
    (hruns : ∀ run ∈ runs, ∃ run' ∈ s.runs, run.cleaner = run'.cleaner ∧ run.batch ⊆ run'.batch) :
    Apart { s with runs := runs } := by
  intro p hshelved
  refine h p (hshelved.imp_right ?_)
  rintro ⟨run, hrun, hcleaner, hp⟩
  obtain ⟨run', hrun', hsame, hsubset⟩ := hruns run hrun
  exact ⟨run', hrun', hsame.symm.trans hcleaner, hsubset hp⟩

/-- `abandonOrder` gets no order under way. -/
lemma spares_staleAbandonment (p : Text) (fate : Fate) (now : ℕ) :
    (ArchiveEvent.call (staleAbandonment p) fate now).Spares s := by
  intro m hm r _ _ hunder
  obtain rfl := Option.some_inj.1 hm
  dsimp only [Mutation.row, withdrawRow] at hunder
  split at hunder
  · cases hunder
  · exact hunder

lemma Apart.archiveOrder (h : s.Apart) {p : Text} (hp : s.Shelved p) (now : ℕ) :
    (s.archiveOrder p now).Apart := by
  intro p' hshelved
  refine h p' ?_
  rcases hshelved with harchived | hbatch
  · dsimp only [Archive.archiveOrder] at harchived
    split at harchived
    · rename_i hstamped
      obtain ⟨rfl, -⟩ := hstamped
      exact hp
    · exact Or.inl harchived
  · exact Or.inr hbatch

lemma mem_findStaleAnnounced {now retentionWindow : ℕ} {p : Text}
    (h : p ∈ s.findStaleAnnounced now retentionWindow) :
    ∃ r, s.db.orders.get p = some r ∧ r.status = .announced := by
  obtain ⟨e, he, rfl⟩ := List.mem_map.1 h
  obtain ⟨hmem, hstale⟩ := List.mem_filter.1 he
  simp only [Bool.and_eq_true, decide_eq_true_eq] at hstale
  exact ⟨e.2, InsertionMap.get_eq_some.2 hmem, hstale.1.1.1⟩

lemma Apart.begin (h : s.Apart) (cleaner : Cleaner) (now retentionWindow batchSize : ℕ)
    (fails : Bool) : (s.begin cleaner now retentionWindow batchSize fails).Apart := by
  unfold Archive.begin
  split
  · exact h
  intro p hshelved r hr
  rcases hshelved with harchived | ⟨run, hrun, hcleaner, hp⟩
  · exact h p (Or.inl harchived) r hr
  rcases List.mem_append.1 hrun with hrun | hrun
  · exact h p (Or.inr ⟨run, hrun, hcleaner, hp⟩) r hr
  obtain rfl := List.mem_singleton.1 hrun
  obtain ⟨r', hr', hstatus⟩ := mem_findStaleAnnounced (List.mem_of_mem_take hp)
  obtain rfl : r' = r := Option.some_inj.1 (hr'.symm.trans hr)
  rw [hstatus]
  rfl

lemma runs_clean (p : Text) (fate : Fate) (now : ℕ) (cleaner : Cleaner) :
    (s.clean p fate now cleaner).2.runs = s.runs := by
  cases cleaner with
  | staleCleanup => rfl
  | archivalPolicy =>
    dsimp only [clean]
    split <;> rfl

lemma handle_cases (s : Archive) (i : ℕ) (fate : Fate) (now : ℕ) :
    (∃ runs, s.handle i fate now = { s with runs := runs } ∧ runs ⊆ s.runs ∧
      (ArchiveEvent.handle i fate now).cleaned s = none) ∨
    ∃ run ∈ s.runs, ∃ p rest runs, run.batch = p :: rest ∧
      s.handle i fate now = { (s.clean p fate now run.cleaner).2 with runs := runs } ∧
      (∀ run' ∈ runs, run' ∈ s.runs ∨ run' = ⟨run.cleaner, rest⟩) ∧
      (ArchiveEvent.handle i fate now).cleaned s =
        if (s.clean p fate now run.cleaner).1 then some p else none := by
  cases hrun : s.runs[i]? with
  | none => exact Or.inl ⟨s.runs, by simp [handle, hrun], List.Subset.refl _, by
      simp [ArchiveEvent.cleaned, hrun]⟩
  | some run =>
    cases hbatch : run.batch with
    | nil => exact Or.inl ⟨s.runs.eraseIdx i, by simp [handle, hrun, hbatch],
        List.eraseIdx_subset, by simp [ArchiveEvent.cleaned, hrun, hbatch]⟩
    | cons p rest =>
      refine Or.inr ⟨run, List.mem_of_getElem? hrun, p, rest,
        if (s.clean p fate now run.cleaner).1 then s.runs.set i ⟨run.cleaner, rest⟩
        else s.runs.eraseIdx i, hbatch, by simp only [handle, hrun, hbatch],
        fun run' hrun' => ?_, by simp [ArchiveEvent.cleaned, hrun, hbatch]⟩
      split at hrun'
      · exact List.mem_or_eq_of_mem_set hrun'
      · exact Or.inl (List.mem_of_mem_eraseIdx hrun')

lemma Apart.handle (h : s.Apart) (i : ℕ) (fate : Fate) (now : ℕ) :
    (s.handle i fate now).Apart := by
  rcases s.handle_cases i fate now with
    ⟨runs, hhandle, hfewer, -⟩ | ⟨run, hrun, p, rest, runs, hbatch, hhandle, hfewer, -⟩
  · rw [hhandle]
    exact h.with_runs fun run hrun => ⟨run, hfewer hrun, rfl, List.Subset.refl _⟩
  have hclean : (s.clean p fate now run.cleaner).2.Apart := by
    cases hcleaner : run.cleaner with
    | staleCleanup => exact h.call (spares_staleAbandonment p fate now)
    | archivalPolicy =>
      dsimp only [clean]
      split
      · exact h
      · refine h.archiveOrder (Or.inr ⟨run, hrun, hcleaner, ?_⟩) now
        rw [hbatch]
        exact List.mem_cons_self
  rw [hhandle]
  refine hclean.with_runs fun run' hrun' => ?_
  rw [runs_clean]
  rcases hfewer run' hrun' with hrun' | rfl
  · exact ⟨run', hrun', rfl, List.Subset.refl _⟩
  · refine ⟨run, hrun, rfl, ?_⟩
    rw [hbatch]
    exact List.subset_cons_self p rest

lemma Apart.unarchiveOrder (h : s.Apart) (p : Text) : (s.unarchiveOrder p).Apart := by
  intro p' hshelved
  refine h p' (hshelved.imp_left fun harchived => ?_)
  by_cases hp : p' = p
  · subst hp
    exact absurd (Function.update_self _ _ _) harchived
  · exact fun hnone => harchived ((Function.update_of_ne hp _ _).trans hnone)

end Archive

/-- One event. -/
lemma Archive.Apart.exec {s : Archive} (h : s.Apart) {e : ArchiveEvent} (hspares : e.Spares s) :
    (e.exec s).Apart := by
  cases e with
  | call q fate now => exact h.call hspares
  | begin cleaner now retentionWindow batchSize fails =>
    exact h.begin cleaner now retentionWindow batchSize fails
  | handle i fate now => exact h.handle i fate now
  | unarchive p => exact h.unarchiveOrder p

lemma apart_archiveAt {es : List ArchiveEvent}
    (hspares : ∀ n (e : ArchiveEvent), es[n]? = some e → e.Spares (archiveAt .empty es n))
    (n : ℕ) :
    (archiveAt .empty es n).Apart := by
  refine Machine.stateAt_steps ?_ (fun p _ r hr => by cases hr) n
  intro n e s' he h hok
  cases hok
  exact h.exec (hspares n e he)

/-! ### Late locks -/

/-- An announced order that nothing but maintenance jobs has come to. -/
inductive Archive.Left (s : Archive) (p : Text) (r : OrderRow) : Prop
  | untouched (get_eq : s.db.orders.get p = some r) (unarchived : s.archivedAt p = none)
  | archived {r' : OrderRow} (get_eq : s.db.orders.get p = some r')
      (status_eq : r'.status = .announced ∨ r'.status = .abandoned)
      (archived : s.archivedAt p ≠ none)

namespace Archive

variable {s s' : Archive} {p : Text} {r : OrderRow}

lemma Left.congr (h : s.Left p r) (hget : s'.db.orders.get p = s.db.orders.get p)
    (harchived : s'.archivedAt p = s.archivedAt p) : s'.Left p r := by
  cases h with
  | untouched hr hnone => exact .untouched (hget.trans hr) (harchived.trans hnone)
  | archived hr hstatus hsome =>
    exact .archived (hget.trans hr) hstatus (harchived ▸ hsome)

lemma Left.exists_row (h : s.Left p r) (hr : r.status = .announced) :
    ∃ r', s.db.orders.get p = some r' ∧
      (r'.status = .announced ∨ r'.status = .abandoned ∧ s.archivedAt p ≠ none) := by
  cases h with
  | untouched hget => exact ⟨r, hget, Or.inl hr⟩
  | archived hget hstatus hsome =>
    exact ⟨_, hget, hstatus.imp_right fun habandoned => ⟨habandoned, hsome⟩⟩

lemma archivedAt_call_eq (s : Archive) (q : Call) (fate : Fate) (now : ℕ) (p : Text) :
    (s.call q fate now).archivedAt p =
      if s.status p = none then none
      else if q.abandons = some p ∧ s.status p ≠ some .abandoned ∧
        (s.call q fate now).status p = some .abandoned then some now
      else s.archivedAt p := rfl

variable {fate : Fate} {now : ℕ}

lemma archivedAt_call_of_get {q : Call} {r' : OrderRow} (hr' : s.db.orders.get p = some r')
    (hget : (repository.run q fate s.db).2.orders.get p = s.db.orders.get p) :
    (s.call q fate now).archivedAt p = s.archivedAt p := by
  have hsome : s.status p ≠ none := by simp [status, hr']
  have hsame : (s.call q fate now).status p = s.status p := congrArg (Option.map _) hget
  rw [archivedAt_call_eq, if_neg hsome, if_neg]
  rintro ⟨-, hbefore, hafter⟩
  exact hbefore (hsame.symm.trans hafter)

lemma clean_of_ne {p' : Text} (hne : p ≠ p') (hr : s.db.orders.get p = some r) (fate : Fate)
    (now : ℕ) (cleaner : Cleaner) :
    (s.clean p' fate now cleaner).2.db.orders.get p = s.db.orders.get p ∧
      (s.clean p' fate now cleaner).2.archivedAt p = s.archivedAt p := by
  cases cleaner with
  | staleCleanup =>
    have hget : (repository.run (staleAbandonment p') fate s.db).2.orders.get p =
        s.db.orders.get p := by
      rw [run_mutation rfl]
      rcases Mutation.exec_snd (.abandonOrder p' "stale:no_src_lock".toList (some .staleCleanup))
        fate s.db with hsame | ⟨r', e, -, -, -, -, hput⟩
      · rw [hsame]
      · rw [hput, Db.orders_append]
        exact Db.get_put_of_ne hne _
    exact ⟨hget, archivedAt_call_of_get hr hget⟩
  | archivalPolicy =>
    dsimp only [clean]
    split
    · exact ⟨rfl, rfl⟩
    · refine ⟨rfl, ?_⟩
      dsimp only [archiveOrder]
      rw [if_neg fun h => hne h.1]

lemma clean_self_failed (hr : s.db.orders.get p = some r) {cleaner : Cleaner}
    (hfailed : (s.clean p fate now cleaner).1 = false) :
    (s.clean p fate now cleaner).2.db.orders.get p = s.db.orders.get p ∧
      (s.clean p fate now cleaner).2.archivedAt p = s.archivedAt p := by
  cases cleaner with
  | staleCleanup =>
    have hget : (repository.run (staleAbandonment p) fate s.db).2.orders.get p =
        s.db.orders.get p := by
      rw [run_mutation rfl]
      rcases Mutation.exec_cases (.abandonOrder p "stale:no_src_lock".toList (some .staleCleanup))
        fate s.db with ⟨e, hexec⟩ | ⟨o, -, hexec⟩
      · rw [hexec]
      have hok : (repository.run (staleAbandonment p) fate s.db).1.isOk = true := by
        have hrun : (repository.run (staleAbandonment p) fate s.db).1 =
          ((Mutation.abandonOrder p "stale:no_src_lock".toList
            (some .staleCleanup)).program.exec fate s.db).1.mapError DbError.service := rfl
        rw [hrun, hexec]
        rfl
      exact absurd hfailed (by simp [clean, hok])
    exact ⟨hget, archivedAt_call_of_get hr hget⟩
  | archivalPolicy =>
    dsimp only [clean] at hfailed ⊢
    split at hfailed
    · exact ⟨rfl, rfl⟩
    · cases hfailed

/-- `abandonOrder` on an announced order, or on one that was abandoned before. -/
lemma abandon_done (hr : s.db.orders.get p = some r)
    (hstatus : r.status = .announced ∨ r.status = .abandoned ∧ s.archivedAt p ≠ none)
    (hdone : (s.clean p fate now .staleCleanup).1 = true) :
    ∃ r', (s.call (staleAbandonment p) fate now).db.orders.get p = some r' ∧
      r'.status = .abandoned ∧ (s.call (staleAbandonment p) fate now).archivedAt p ≠ none := by
  have hrun : (repository.run (staleAbandonment p) fate s.db).1 =
    ((Mutation.abandonOrder p "stale:no_src_lock".toList
      (some .staleCleanup)).program.exec fate s.db).1.mapError DbError.service := rfl
  rcases Mutation.exec_cases (.abandonOrder p "stale:no_src_lock".toList (some .staleCleanup))
    fate s.db with ⟨e, hexec⟩ | ⟨o, ho, hexec⟩
  · dsimp only [clean] at hdone
    rw [hrun, hexec] at hdone
    cases hdone
  have hdb : (s.call (staleAbandonment p) fate now).db = s.db.record p o := by
    show (repository.run (staleAbandonment p) fate s.db).2 = _
    rw [run_mutation rfl, hexec]
    rfl
  have hrow : (s.call (staleAbandonment p) fate now).db.orders.get p = some (withdrawRow
      (abandonment p "stale:no_src_lock".toList (some .staleCleanup)) r) := by
    rw [hdb]
    cases Mutation.decided (hr ▸ ho) with
    | idle hsame => exact hr.trans (congrArg some hsame.symm)
    | entry hrow =>
      subst hrow
      exact Db.get_put_self hr _
  refine ⟨_, hrow, ?_⟩
  have hsome : s.status p ≠ none := by simp [status, hr]
  rcases hstatus with hannounced | ⟨habandoned, harchived⟩
  · have hmark : (withdrawRow (abandonment p "stale:no_src_lock".toList (some .staleCleanup))
        r).status = .abandoned := by
      simp [withdrawRow, hannounced, canTransition, orderStatusTransitions, abandonment,
        Withdrawal.mark]
    refine ⟨hmark, ?_⟩
    have hafter : (s.call (staleAbandonment p) fate now).status p = some .abandoned := by
      show ((s.call (staleAbandonment p) fate now).db.orders.get p).map OrderRow.status = _
      rw [hrow]
      exact congrArg some hmark
    rw [archivedAt_call_eq, if_neg hsome,
      if_pos ⟨rfl, by simp [status, hr, hannounced], hafter⟩]
    simp
  · have hkept : withdrawRow (abandonment p "stale:no_src_lock".toList (some .staleCleanup)) r =
        r := by
      simp [withdrawRow, habandoned, canTransition, orderStatusTransitions]
    rw [hkept] at hrow ⊢
    exact ⟨habandoned, fun hnone => harchived
      ((archivedAt_call_of_get hr (hrow.trans hr.symm)).symm.trans hnone)⟩

lemma clean_self_done {cleaner : Cleaner} (hr : s.db.orders.get p = some r)
    (hstatus : r.status = .announced ∨ r.status = .abandoned ∧ s.archivedAt p ≠ none)
    (hdone : (s.clean p fate now cleaner).1 = true) :
    ∃ r', (s.clean p fate now cleaner).2.db.orders.get p = some r' ∧
      (r'.status = .announced ∨ r'.status = .abandoned) ∧
      (s.clean p fate now cleaner).2.archivedAt p ≠ none := by
  cases cleaner with
  | staleCleanup =>
    obtain ⟨r', hr', habandoned, harchived⟩ := abandon_done hr hstatus hdone
    exact ⟨r', hr', Or.inr habandoned, harchived⟩
  | archivalPolicy =>
    dsimp only [clean] at hdone ⊢
    split at hdone
    · cases hdone
    refine ⟨r, hr, hstatus.imp_right And.left, ?_⟩
    dsimp only [archiveOrder]
    by_cases hnone : s.archivedAt p = none
    · rw [if_pos ⟨rfl, by simp [status, hr], hnone⟩]
      simp
    · rw [if_neg fun h => hnone h.2.2]
      exact hnone

/-- A maintenance event archives the order exactly if a job comes to it. -/
lemma Left.exec (h : s.Left p r) (hr : r.status = .announced) {e : ArchiveEvent}
    (he : e.isMaintenance = true) :
    (e.exec s).Left p r ∧
      ((e.exec s).archivedAt p = none ↔ s.archivedAt p = none ∧ e.cleaned s ≠ some p) := by
  cases e with
  | call => cases he
  | unarchive => cases he
  | begin cleaner now retentionWindow batchSize fails =>
    have hsame : (s.begin cleaner now retentionWindow batchSize fails).db = s.db ∧
        (s.begin cleaner now retentionWindow batchSize fails).archivedAt = s.archivedAt := by
      unfold Archive.begin
      split <;> exact ⟨rfl, rfl⟩
    refine ⟨h.congr (by rw [ArchiveEvent.exec, hsame.1]) (by rw [ArchiveEvent.exec, hsame.2]), ?_⟩
    rw [ArchiveEvent.exec, hsame.2]
    simp [ArchiveEvent.cleaned]
  | handle i fate now =>
    obtain ⟨r₀, hr₀, hstatus⟩ := h.exists_row hr
    rcases s.handle_cases i fate now with
      ⟨runs, hhandle, -, hcleaned⟩ | ⟨run, -, p', rest, runs, -, hhandle, -, hcleaned⟩
    · rw [ArchiveEvent.exec, hhandle, hcleaned]
      exact ⟨h.congr rfl rfl, by simp⟩
    rw [ArchiveEvent.exec, hhandle, hcleaned]
    by_cases hp : p = p'
    · subst hp
      cases hdone : (s.clean p fate now run.cleaner).1 with
      | true =>
        obtain ⟨r', hr', hstatus', harchived⟩ := clean_self_done hr₀ hstatus hdone
        exact ⟨.archived hr' hstatus' harchived, by simpa using harchived⟩
      | false =>
        obtain ⟨hget, harchived⟩ := clean_self_failed hr₀ hdone
        exact ⟨h.congr hget harchived, by simp [harchived]⟩
    · obtain ⟨hget, harchived⟩ := clean_of_ne hp hr₀ fate now run.cleaner
      refine ⟨h.congr hget harchived, ?_⟩
      have hother : (if (s.clean p' fate now run.cleaner).1 = true then some p' else none) ≠
          some p := by
        split
        · exact fun heq => hp (Option.some_inj.1 heq).symm
        · exact nofun
      simp [harchived, hother]

end Archive

lemma left_archiveAt {s : Archive} {es : List ArchiveEvent} {p : Text} {r : OrderRow}
    (hget : s.db.orders.get p = some r) (hannounced : r.status = .announced)
    (hnone : s.archivedAt p = none) (hes : ∀ e ∈ es, ArchiveEvent.isMaintenance e = true) (n : ℕ) :
    (archiveAt s es n).Left p r ∧ ((archiveAt s es n).archivedAt p = none ↔
      ∀ k < n, ∀ e, es[k]? = some e → e.cleaned (archiveAt s es k) ≠ some p) := by
  induction n with
  | zero =>
    rw [archiveAt, Machine.stateAt_zero]
    exact ⟨.untouched hget hnone, by simp [hnone]⟩
  | succ n ih =>
    obtain ⟨hleft, hcleaned⟩ := ih
    cases he : es[n]? with
    | none =>
      have hsame : archiveAt s es (n + 1) = archiveAt s es n := Machine.stateAt_succ_of_none he
      rw [hsame]
      refine ⟨hleft, hcleaned.trans ⟨fun h k hk e hek => ?_, fun h k hk => h k (by omega)⟩⟩
      rcases Nat.lt_succ_iff_lt_or_eq.1 hk with hk | rfl
      · exact h k hk e hek
      · rw [he] at hek
        cases hek
    | some e =>
      have hnext : archiveAt s es (n + 1) = e.exec (archiveAt s es n) := Machine.stateAt_succ he
      obtain ⟨hleft', hstep⟩ := hleft.exec hannounced (hes e (List.mem_of_getElem? he))
      rw [hnext]
      refine ⟨hleft', hstep.trans ?_⟩
      rw [hcleaned]
      constructor
      · rintro ⟨hbefore, hnow⟩ k hk e' hek
        rcases Nat.lt_succ_iff_lt_or_eq.1 hk with hk | rfl
        · exact hbefore k hk e' hek
        · obtain rfl := Option.some_inj.1 (he.symm.trans hek)
          exact hnow
      · intro h
        exact ⟨fun k hk => h k (by omega), h n (Nat.lt_succ_self n) e he⟩

/-- The delivery of an event that nothing goes wrong with.  None of its writes concerns the
stamps. -/
def Archive.deliver (hashes : Hashes) (s : Archive) (m : Memory) (x : Delivery) : Archive :=
  { s with db := (x.deliver hashes (fun _ _ => Fate.calm) (s.db, m)).1 }

/-- What the maintenance jobs promise about locks that come late. -/
structure LateLocks (hashes : Hashes) : Prop where
  /-- After maintenance jobs have run, a deposit that gets through to an announced order locks it
  and it is not archived, exactly if none of the jobs has come to it. -/
  recovered : ∀ (s : Archive) (es : List ArchiveEvent) (p : Text) (r : OrderRow) (m : Memory)
      (x : Delivery) (c : Created),
    s.db.orders.get p = some r → r.status = .announced → r.srcOrderId = none →
    s.archivedAt p = none → (∀ e ∈ es, ArchiveEvent.isMaintenance e = true) →
    x.created = some c →
    (∀ r', (archiveAt s es es.length).db.orders.get p = some r' → r'.status = .announced →
      x.GetsThrough hashes ((archiveAt s es es.length).db, m) p r') →
    (((archiveAt s es es.length).deliver hashes m x).status p = some .srcLocked ∧
        ((archiveAt s es es.length).deliver hashes m x).archivedAt p = none ↔
      ∀ n (e : ArchiveEvent), es[n]? = some e → e.cleaned (archiveAt s es n) ≠ some p)
  /-- Where no write gets an order under way that is shelved, none that is under way is archived. -/
  apart : ∀ es : List ArchiveEvent,
    (∀ n (e : ArchiveEvent), es[n]? = some e → e.Spares (archiveAt .empty es n)) →
    ∀ n p r, (archiveAt .empty es n).db.orders.get p = some r → r.status.underWay = true →
      (archiveAt .empty es n).archivedAt p = none

theorem late_locks_recoverable (hashes : Hashes) : LateLocks hashes where
  recovered s es p r m x c hget hannounced hsrc hnone hes hcreated hthrough := by
    obtain ⟨hleft, hcleaned⟩ := left_archiveAt hget hannounced hnone hes es.length
    have hbound : ∀ n (e : ArchiveEvent), es[n]? = some e → n < es.length :=
      fun n e he => (List.getElem?_eq_some_iff.1 he).1
    constructor
    · rintro ⟨-, hunarchived⟩ n e he
      exact hcleaned.1 hunarchived n (hbound n e he) e he
    · intro huncleaned
      have hunarchived := hcleaned.2 fun n _ e he => huncleaned n e he
      refine ⟨?_, hunarchived⟩
      cases hleft with
      | untouched hr _ =>
        obtain ⟨r', hr', hstatus, -⟩ :=
          fills_of_getsThrough hcreated (hthrough r hr hannounced) ⟨hsrc, Or.inl hannounced⟩
        exact Option.map_eq_some_iff.2 ⟨r', hr', hstatus⟩
      | archived _ _ harchived => exact absurd hunarchived harchived
  apart es hspares n p r hr hunder := by
    by_contra harchived
    have hfalse := apart_archiveAt hspares n p (Or.inl harchived) r hr
    rw [hunder] at hfalse
    cases hfalse

/-! ### Runs to evaluate -/

namespace Sample

/-- An order that was announced at 100. -/
def oldOrder : Archive := ⟨announcedDb, fun _ => 100, fun _ => none, []⟩

/-- A maintenance job that keeps orders for 50. -/
def maintenance (cleaner : Cleaner) (now : ℕ) : List ArchiveEvent :=
  [.begin cleaner now 50 100 false, .handle 0 Fate.calm now]

/-- The order after the job and the deposit that comes after it. -/
def lateDepositAfter (cleaner : Cleaner) (now : ℕ) : Archive :=
  (archiveAt oldOrder (maintenance cleaner now) 2).deliver noHashes .fresh (.ethCreated ownDeposit)

end Sample

open Sample in
theorem late_locks_recoverable_sample :
    (lateDepositAfter .archivalPolicy 120).status sampleId = some .srcLocked ∧
      (lateDepositAfter .archivalPolicy 120).archivedAt sampleId = none := by
  refine ((late_locks_recoverable noHashes).recovered oldOrder
    (maintenance .archivalPolicy 120) sampleId sampleInput.row .fresh
    (.ethCreated ownDeposit) _ (by decide +kernel) rfl rfl rfl (by decide) (by rfl)
    fun r' hr' _ => ⟨?_, ?_⟩).2 fun n e he => ?_
  · show ∀ e ∈ ownDeposit.entry, (_ = none) ∧ e.key ∉ _
    decide +kernel
  · have htarget : (Delivery.ethCreated ownDeposit).target noHashes
        (archiveAt oldOrder (maintenance .archivalPolicy 120) 2).db =
          ((archiveAt oldOrder (maintenance .archivalPolicy 120) 2).db.orders.get
            sampleId).map fun r => (sampleId, r) := by
      decide +kernel
    exact htarget.trans (congrArg (Option.map _) hr')
  · match n with
    | 0 =>
      cases he
      exact nofun
    | 1 =>
      cases he
      decide +kernel
    | n + 2 => cases he

/-- The stale cleanup abandons the order, which then refuses the lock; the archival policy archives
it, and it stays archived when it is locked. -/
theorem late_lock_lost :
    (Sample.lateDepositAfter .staleCleanup 200).status sampleId = some .abandoned ∧
      (Sample.lateDepositAfter .archivalPolicy 200).status sampleId = some .srcLocked ∧
      (Sample.lateDepositAfter .archivalPolicy 200).archivedAt sampleId = some 200 := by
  decide +kernel

end WaffleFinance.Coordinator

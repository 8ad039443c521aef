import WaffleFinance.Coordinator.EventSpec

/-!
# A run of the reconciler that is cut short

A run over the logs of a chain may throw half way or die with the process.  The next run reads the
same logs again, and an event whose key was claimed is skipped.  So the two runs together do what
one run does if each event that was claimed was also applied by then.
-/

namespace WaffleFinance.Coordinator

open Lib OrdersRepository Fallible

/-! ### What an event comes to -/

namespace Handling

/-- Move the cursor of the order. -/
def moved (h : Handling) (position : ℕ) (r : OrderRow) : OrderRow :=
  if position = 0 then r else advanceRow h.chain position r

def rowAt (h : Handling) (p : Text) (r : OrderRow) (position : ℕ) : OrderRow :=
  if isEventBehindOrderCursor (orderCursor r h.chain) position then r
  else if (decideDispatch .replay (some position) (h.existing r)
      (h.alreadyApplied r)).shouldApply then
    match h.plan p r position with
    | .drop => r
    | .pass => h.moved position r
    | .apply j =>
      match j.outcome r with
      | .ok r' => h.moved position r'
      | .error e =>
        if h.benign.any (fun token => includes e.message token) then h.moved position r else r
  else h.moved position r

/-- The row of the order that the event names, after the event. -/
def row (h : Handling) (p : Text) (r : OrderRow) : OrderRow :=
  h.position.elim r (h.rowAt p r)

/-- The orders after the event. -/
def after (h : Handling) (orders : InsertionMap Text OrderRow) : InsertionMap Text OrderRow :=
  match orders.first fun _ r => h.lookup.names r with
  | none => orders
  | some (p, r) => orders.update p fun _ => h.row p r

end Handling

section Names

variable {hashes : Hashes} {last : Option EventKey} {h : Handling} {p : Text} {r : OrderRow}
  {j : Job} {position : ℕ}

lemma names_advanceRow (l : Lookup) (chain : Chain) (position : ℕ) (r : OrderRow) :
    l.names (advanceRow chain position r) = l.names r := by
  cases l <;> cases chain <;> rfl

lemma Handling.Standard.names_write (hh : h.Standard hashes last)
    (hplan : h.plan p r position = .apply j) :
    h.lookup.names (j.write.row r) = h.lookup.names r := by
  cases hh with
  | created _ hashlock =>
    obtain ⟨input, -, rfl⟩ := createdHandling_plan hplan
    show Lookup.names (.byHashlock hashlock) (lockRow (srcLockRecord input) r) = _
    unfold lockRow
    split <;> rfl
  | claimed chain orderId _ preimage txHash =>
    obtain rfl := claimedHandling_plan hplan
    show Lookup.names (.bySrcOrderId chain orderId)
      (secretRow ⟨p, preimage, txHash, none, none⟩ r) = _
    unfold secretRow
    split <;> rfl
  | refunded chain orderId =>
    obtain rfl := refundedHandling_plan hplan
    rfl

lemma Handling.Standard.names_outcome (hh : h.Standard hashes last)
    (hplan : h.plan p r position = .apply j) {r' : OrderRow} (hr' : j.outcome r = .ok r') :
    h.lookup.names r' = h.lookup.names r := by
  have hwrite := hh.names_write hplan
  unfold Job.outcome at hr'
  split at hr'
  · cases hr'
    rfl
  · cases hr'
  · split at hr'
    · cases hr'
      exact hwrite
    · cases hr'
      rw [names_advanceRow]
      exact hwrite

lemma Handling.Standard.claimedLast_eq (hh : h.Standard hashes last) : h.claimedLast = last := by
  cases hh <;> rfl

lemma EventJob.writable (hj : EventJob p j) : j.Writable := by
  cases hj with
  | lock => trivial
  | secret => exact rfl
  | refund => trivial

end Names

/-- The order that was found is found again after it was written. -/
lemma Rewritten.first_eq {d d' : Db} {p : Text} {r r' : OrderRow} {l : Lookup}
    (h : Rewritten d p r' d') (hfirst : l.first d = some (p, r)) (hnames : l.names r' = l.names r) :
    l.first d' = some (p, r') := by
  have hupdate := InsertionMap.first_update (m := d.orders) (k := p) (f := fun _ => r')
    (p := fun _ r => l.names r) fun v hv => by
      rw [Option.some.inj (hv.symm.trans (get_of_first hfirst))]
      exact hnames
  unfold Lookup.first at hfirst ⊢
  rw [h.orders_eq, hupdate, hfirst]
  simp

/-! ### Calls that may fail -/

section Calls

variable {safe : Call → Db → Prop} {mid : Db → Prop} {d : Db}

/-- There is something that may fail. -/
def Risky (safe : Call → Db → Prop) : Prop := ∃ q d, safe q d

lemma withstands_statement {q : Call} {f : Db → q.Result} {g : Db → Db}
    {ok : q.Result → Db → Prop} {err : ServiceError → Db → Prop}
    (hq : q.program = Sql.statement fun d => .ok (f d, g d)) (hok : ok (f d) (g d))
    (hmid : safe q d → mid d) (herr : safe q d → ∀ e, err e d) :
    (call q).Withstands (repository.tolerance Fate.calm safe) mid ok err d := by
  have hdone : ∀ {x : Except ServiceError q.Result × Db}, x = (.ok (f d), g d) →
      (∀ a, x.1 = .ok a → ok a x.2) ∧ ∀ e, x.1 = .error e → err e x.2 := by
    rintro _ rfl
    refine ⟨fun a ha => ?_, nofun⟩
    cases ha
    exact hok
  refine Store.withstands_call hmid (hdone (run_statement_calm hq d)) fun hsafe fate => ?_
  rcases run_statement hq fate d with hrun | ⟨e, hrun⟩
  · exact hdone hrun
  · rw [hrun]
    exact ⟨nofun, fun e' _ => herr hsafe e'⟩

lemma withstands_find {ok : Option (Text × OrderRow) → Db → Prop} {err : ServiceError → Db → Prop}
    (hsafe : ∀ {q d}, safe q d → Settled q d) (l : Lookup) (hok : ok (l.first d) d)
    (hmid : l.first d = none → mid d) (herr : Risky safe → l.first d = none → ∀ e, err e d) :
    l.find.Withstands (repository.tolerance Fate.calm safe) mid ok err d := by
  cases l with
  | byHashlock hashlock =>
    exact withstands_statement (q := .findByHashlock hashlock)
      (f := fun d => Lookup.first d (.byHashlock hashlock)) (g := id) rfl hok
      (fun hq => hmid (hsafe hq)) fun hq => herr ⟨_, _, hq⟩ (hsafe hq)
  | bySrcOrderId chain orderId =>
    exact withstands_statement (q := .findBySrcOrderId chain orderId)
      (f := fun d => Lookup.first d (.bySrcOrderId chain orderId)) (g := id) rfl hok
      (fun hq => hmid (hsafe hq)) fun hq => herr ⟨_, _, hq⟩ (hsafe hq)

end Calls

namespace Handling

section Failures

variable {safe : Call → Db → Prop} {hashes : Hashes} {h : Handling} {d d' : Db} {p : Text}
  {r : OrderRow} {position : ℕ}

/-- The end of an event, on a row that was written.  It may fail where it has nothing to do. -/
lemma withstands_advance (hsafe : ∀ {q d}, safe q d → Settled q d) (hlast : h.claimedLast = none)
    (hd' : Rewritten d p r d') (hget : d'.orders.get p = some r) (position : ℕ) (b : Bool) :
    (do
      advanceOrderCursor p h.chain position
      h.claim
      pure b : Serve Bool).Withstands (repository.tolerance Fate.calm safe)
        (Rewritten d p (h.moved position r)) (fun _ => Rewritten d p (h.moved position r))
        (fun _ s => Risky safe ∧ s = d' ∧ h.moved position r = r) d' := by
  unfold moved advanceOrderCursor claim
  rw [hlast]
  by_cases hzero : position = 0
  · rw [if_pos hzero, if_pos hzero]
    exact withstands_pure hd'
  rw [if_neg hzero, if_neg hzero]
  have hidle : safe (.advanceOrderLedgerCursor p h.chain position) d' →
      advanceRow h.chain position r = r := fun hq => hsafe hq r hget
  refine withstands_bind (withstands_statement
    (q := .advanceOrderLedgerCursor p h.chain position) (f := fun _ => ())
    (g := fun d => d.update p (advanceRow h.chain position)) (if_neg hzero) ?_ ?_ ?_)
  · exact withstands_pure (hd'.update _)
  · intro hq
    rw [hidle hq]
    exact hd'
  · exact fun hq _ => ⟨⟨_, _, hq⟩, rfl, hidle hq⟩

/-- An order that was found.  An error is the service's own, or the row is the new one already. -/
lemma withstands_dispatch (hsafe : ∀ {q d}, safe q d → Settled q d)
    (hh : h.Standard hashes none) (hfirst : h.lookup.first d = some (p, r)) :
    (h.dispatch p r position).Withstands (repository.tolerance Fate.calm safe)
      (Rewritten d p (h.rowAt p r position)) (fun _ => Rewritten d p (h.rowAt p r position))
      (fun e s => (s = d ∧ h.rowAt p r position =
          if h.benign.any (fun token => includes e.message token) then h.moved position r else r) ∨
        Risky safe ∧ Rewritten d p (h.rowAt p r position) s ∧
          h.lookup.first s = some (p, h.rowAt p r position) ∧
          h.moved position (h.rowAt p r position) = h.rowAt p r position) d := by
  have hlast := hh.claimedLast_eq
  have hget := get_of_first hfirst
  have hfinish := withstands_advance hsafe hlast (.refl hget) hget position false
  unfold dispatch rowAt
  split
  · unfold claim
    rw [hlast]
    exact withstands_pure (.refl hget)
  split
  · cases hplan : h.plan p r position with
    | drop => exact withstands_pure (.refl hget)
    | pass =>
      refine hfinish.mono (fun h => h) (fun h => h) ?_
      rintro e s ⟨hrisky, rfl, hidle⟩
      dsimp only
      rw [hidle]
      exact Or.inr ⟨hrisky, .refl hget, hfirst, hidle⟩
    | apply j =>
      have hj := hh.eventJob hplan
      obtain rfl := hj.publicId
      refine withstands_bind ((Job.withstands_run hsafe hj.writable hget).mono
        (fun h => h) ?_ ?_)
      · rintro _ s ⟨r', hr', hs⟩
        dsimp only
        rw [hr']
        refine (withstands_advance hsafe hlast hs (hs.get_eq hget) position true).mono
          (fun h => h) (fun h => h) ?_
        rintro e s' ⟨hrisky, rfl, hidle⟩
        dsimp only
        rw [hidle]
        exact Or.inr ⟨hrisky, hs, hs.first_eq hfirst (hh.names_outcome hplan hr'), hidle⟩
      · rintro e s ⟨hr', rfl⟩
        dsimp only
        rw [hr']
        exact Or.inl ⟨rfl, rfl⟩
  · refine hfinish.mono (fun h => h) (fun h => h) ?_
    rintro e s ⟨hrisky, rfl, hidle⟩
    rw [hidle]
    exact Or.inr ⟨hrisky, .refl hget, hfirst, hidle⟩

/-- After an error on an order that is found again. -/
lemma withstands_excuse (hsafe : ∀ {q d}, safe q d → Settled q d) (hh : h.Standard hashes none)
    {e : ServiceError} {s : Db} {r' : OrderRow} (hposition : h.position = some position)
    (hs : Rewritten d p r s) (hfirst : h.lookup.first s = some (p, r))
    (hrow : r' = if h.benign.any (fun token => includes e.message token) then h.moved position r
      else r) :
    (h.excuse e).Withstands (repository.tolerance Fate.calm safe) (Rewritten d p r')
      (fun _ => Rewritten d p r') (fun _ s => Risky safe ∧ Rewritten d p r' s) s := by
  unfold excuse
  split
  · rename_i hbenign
    rw [if_pos hbenign] at hrow
    subst hrow
    rw [hposition]
    refine withstands_bind (withstands_find hsafe _ ?_ (by simp [hfirst])
      (by simp [hfirst]))
    rw [hfirst]
    refine (withstands_advance hsafe hh.claimedLast_eq hs (get_of_first hfirst) position
      false).mono (fun h => h) (fun h => h) ?_
    rintro e' s' ⟨hrisky, rfl, hidle⟩
    rw [hidle]
    exact ⟨hrisky, hs⟩
  · rename_i hbenign
    rw [if_neg hbenign] at hrow
    subst hrow
    exact withstands_pure hs

lemma withstands_excuse_none (hsafe : ∀ {q d}, safe q d → Settled q d) (hrisky : Risky safe)
    (e : ServiceError) (hnone : h.lookup.first d = none) :
    (h.excuse e).Withstands (repository.tolerance Fate.calm safe) (fun s => s = d)
      (fun _ s => s = d) (fun _ s => Risky safe ∧ s = d) d := by
  unfold excuse
  split
  · cases h.position with
    | none => exact withstands_pure rfl
    | some position =>
      refine withstands_bind (withstands_find hsafe _ ?_ ?_ ?_)
      · rw [hnone]
        exact withstands_pure rfl
      · exact fun _ => rfl
      · exact fun _ _ _ => ⟨hrisky, rfl⟩
  · exact withstands_pure rfl

/-- The orders are those after the event, and no key was claimed. -/
def Applied (h : Handling) (d d' : Db) : Prop :=
  d'.orders = h.after d.orders ∧ d'.processedEvents = d.processedEvents

lemma applied_of_first_none (hnone : h.lookup.first d = none) : h.Applied d d := by
  refine ⟨?_, rfl⟩
  unfold after
  rw [show (d.orders.first fun _ r => h.lookup.names r) = none from hnone]

lemma applied_of_rewritten (hfirst : h.lookup.first d = some (p, r))
    (hd' : Rewritten d p (h.row p r) d') : h.Applied d d' := by
  refine ⟨?_, hd'.processedEvents_eq⟩
  unfold after
  rw [show (d.orders.first fun _ r => h.lookup.names r) = some (p, r) from hfirst]
  exact hd'.orders_eq

/-- An event is applied, whatever happens to it. -/
lemma withstands_replay (hsafe : ∀ {q d}, safe q d → Settled q d) (hh : h.Standard hashes none)
    (d : Db) :
    h.replay.Withstands (repository.tolerance Fate.calm safe) (h.Applied d)
      (fun _ => h.Applied d) (fun _ s => Risky safe ∧ h.Applied d s) d := by
  unfold replay attempt
  refine withstands_tryCatch (withstands_bind (withstands_find hsafe _ ?_
    applied_of_first_none fun hrisky hnone e => ?_))
  · cases hfirst : h.lookup.first d with
    | none => exact withstands_pure (applied_of_first_none hfirst)
    | some order =>
      obtain ⟨p, r⟩ := order
      have hget := get_of_first hfirst
      have hrow : h.row p r = h.position.elim r (h.rowAt p r) := rfl
      dsimp only
      cases hposition : h.position with
      | none =>
        rw [hposition] at hrow
        exact withstands_pure (applied_of_rewritten hfirst (hrow ▸ .refl hget))
      | some position =>
        rw [hposition] at hrow
        have hdone : ∀ {s}, Rewritten d p (h.rowAt p r position) s → h.Applied d s :=
          fun hs => applied_of_rewritten hfirst (hrow ▸ hs)
        refine (withstands_dispatch hsafe hh hfirst).mono hdone hdone ?_
        rintro e s (⟨rfl, hrefused⟩ | ⟨hrisky, hs, hfirst', hidle⟩)
        · exact (withstands_excuse hsafe hh hposition (.refl hget) hfirst hrefused).mono hdone
            hdone fun hs => ⟨hs.1, hdone hs.2⟩
        · -- only the cursor has failed, and there was nothing to move
          refine (withstands_excuse hsafe hh hposition hs hfirst' ?_).mono hdone hdone
            fun hs => ⟨hs.1, hdone hs.2⟩
          rw [hidle, ite_self]
  · have hdone : ∀ {s}, s = d → h.Applied d s := by
      rintro _ rfl
      exact applied_of_first_none hnone
    exact (withstands_excuse_none hsafe hrisky e hnone).mono hdone hdone
      fun hs => ⟨hs.1, hdone hs.2⟩

end Failures

end Handling

/-! ### Events one after the other -/

/-- What a later run goes by: the orders and the keys that were claimed. -/
structure Ledger where
  orders : InsertionMap Text OrderRow
  processed : List EventKey

def Db.ledger (d : Db) : Ledger := ⟨d.orders, d.processedEvents⟩

/-- An event that is applied unless its key was claimed before. -/
def Entry.settle (e : Entry) (l : Ledger) : Ledger :=
  if e.key ∈ l.processed then l else ⟨e.handling.after l.orders, l.processed ++ [e.key]⟩

lemma marks_settle : Marks Entry.settle fun e l => e.key ∈ l.processed where
  left e l := by
    unfold Entry.settle
    split_ifs with h
    · exact h
    · simp
  stays {e l} h e' := by
    unfold Entry.settle
    split_ifs
    · exact h
    · exact List.mem_append_left _ h
  skipped h := if_pos h

/-- A part of the events was applied. -/
def Midway (events : List Entry) (l : Ledger) (d : Db) : Prop :=
  ∃ done rest, events = done ++ rest ∧ d.ledger = replay Entry.settle done l

/-- All of the events were applied. -/
def Through (events : List Entry) (l : Ledger) (d : Db) : Prop :=
  d.ledger = replay Entry.settle events l

section Progress

variable {events events' : List Entry} {l : Ledger} {d d' : Db}

lemma Through.midway (h : Through events l d) : Midway events l d :=
  ⟨events, [], (List.append_nil _).symm, h⟩

lemma midway_start (h : d.ledger = l) (events : List Entry) : Midway events l d :=
  ⟨[], events, rfl, h⟩

lemma Midway.append (h : Midway events l d) (events' : List Entry) :
    Midway (events ++ events') l d := by
  obtain ⟨done, rest, rfl, hl⟩ := h
  exact ⟨done, rest ++ events', List.append_assoc _ _ _, hl⟩

lemma Through.midway_append (h : Through events l d) (h' : Midway events' d.ledger d') :
    Midway (events ++ events') l d' := by
  obtain ⟨done, rest, rfl, hl⟩ := h'
  refine ⟨events ++ done, rest, (List.append_assoc _ _ _).symm, ?_⟩
  rw [hl, h, ← replay_append]

lemma Through.append (h : Through events l d) (h' : Through events' d.ledger d') :
    Through (events ++ events') l d' := by
  have hd' : d'.ledger = replay Entry.settle events' (replay Entry.settle events l) :=
    h ▸ h'
  rw [← replay_append] at hd'
  exact hd'

end Progress

/-- A service that takes the events in turn, from every database.  It ends with `ok` unless
something has failed. -/
def Pursues {α : Type} (safe : Call → Db → Prop) (events : List Entry) (ok : α → Prop)
    (x : Serve α) : Prop :=
  ∀ d, x.Withstands (repository.tolerance Fate.calm safe) (Midway events d.ledger)
    (fun a s => ok a ∧ Through events d.ledger s)
    (fun _ s => Risky safe ∧ Midway events d.ledger s) d

section Pursues

variable {α β : Type} {safe : Call → Db → Prop} {events events' : List Entry} {ok : α → Prop}
  {hashes : Hashes}

lemma pursues_pure {a : α} (ha : ok a) : Pursues safe [] ok (pure a) :=
  fun _ => withstands_pure ⟨ha, rfl⟩

variable {ok' : β → Prop} {x : Serve α} {f : α → Serve β}

lemma pursues_bind (hx : Pursues safe events ok x)
    (hf : ∀ a, ok a → Pursues safe events' ok' (f a)) :
    Pursues safe (events ++ events') ok' (x >>= f) := by
  intro d
  refine withstands_bind ((hx d).mono (fun h => h.append _) ?_
    fun h => ⟨h.1, h.2.append _⟩)
  rintro a s ⟨ha, hs⟩
  exact (hf a ha s).mono (fun h => hs.midway_append h) (fun h => ⟨h.1, hs.append h.2⟩)
    fun h => ⟨h.1, hs.midway_append h.2⟩

lemma pursues_first (hx : Pursues safe [] ok x) (hf : ∀ a, ok a → Pursues safe events ok' (f a)) :
    Pursues safe events ok' (x >>= f) :=
  pursues_bind hx hf

lemma pursues_last (hx : Pursues safe events ok x) (hf : ∀ a, ok a → Pursues safe [] ok' (f a)) :
    Pursues safe events ok' (x >>= f) := by
  have hbind := pursues_bind hx hf
  rw [List.append_nil] at hbind
  exact hbind

lemma pursues_aside {q : Call} {f : Db → q.Result} {g : Db → Db}
    (hq : q.program = Sql.statement fun d => .ok (f d, g d)) (hg : ∀ d, (g d).ledger = d.ledger) :
    Pursues safe [] (fun _ => True) (call q) :=
  fun d => withstands_statement hq ⟨trivial, hg d⟩ (fun _ => midway_start rfl [])
    fun hsafe _ => ⟨⟨_, _, hsafe⟩, midway_start rfl []⟩

lemma pursues_rpc : Pursues safe [] (fun _ => True) (call .rpc) :=
  pursues_aside (q := .rpc) (f := fun _ => ()) (g := id) rfl fun _ => rfl

lemma pursues_setChainCursor (chain : Chain) (position : ℕ) :
    Pursues safe [] (fun _ => True) (call (.setChainCursor chain position)) :=
  pursues_aside (q := .setChainCursor chain position) (f := fun _ => ())
    (g := fun d => { d with
      chainCursors := Function.update d.chainCursors chain (max (d.chainCursors chain) position) })
    rfl fun _ => rfl

lemma pursues_computeFrom (chain : Chain) (tip lookback : ℕ) :
    Pursues safe [] (fun _ => True) (Reconciler.computeFrom chain tip lookback) := by
  have hchain : Pursues safe [] (fun _ => True) (call (.getChainCursor chain)) :=
    pursues_aside (q := .getChainCursor chain) (f := fun d => d.chainCursors chain) (g := id) rfl
      fun _ => rfl
  have horders : Pursues safe [] (fun _ => True) (call (.getMinActiveOrderCursor chain)) :=
    pursues_aside (q := .getMinActiveOrderCursor chain)
      (f := fun d => (activeCursors d chain).min?) (g := id) rfl fun _ => rfl
  exact pursues_bind hchain fun _ _ => pursues_bind horders fun _ _ => pursues_pure trivial

variable (hsafe : ∀ {q d}, safe q d → Settled q d)

include hsafe

/-- One event: its key is claimed, and then it is applied or not needed any more. -/
lemma pursues_replayEntry {e : Entry} (he : e.handling.Standard hashes none) :
    Pursues safe [e] (fun _ => True) (Reconciler.replayEntry e) := by
  intro d
  have hprogram : (Call.claimEvent e.key).program = Sql.statement fun d =>
      .ok (decide (e.key ∉ d.processedEvents), if e.key ∈ d.processedEvents then d
        else { d with processedEvents := d.processedEvents ++ [e.key] }) := by
    show claimEvent e.key = _
    unfold claimEvent
    refine congrArg Sql.statement (funext fun d => ?_)
    by_cases hmem : e.key ∈ d.processedEvents
    · simp [hmem]
    · simp [hmem]
  refine withstands_bind (withstands_statement (q := .claimEvent e.key) hprogram ?_
    (fun _ => midway_start rfl [e]) fun hq _ => ⟨⟨_, _, hq⟩, midway_start rfl [e]⟩)
  by_cases hmem : e.key ∈ d.processedEvents
  · have hskip : e.settle d.ledger = d.ledger := if_pos hmem
    simp only [hmem, not_true_eq_false, decide_false, if_true]
    exact withstands_pure ⟨trivial, hskip.symm⟩
  have hdone : ∀ {s}, e.handling.Applied
      { d with processedEvents := d.processedEvents ++ [e.key] } s → Through [e] d.ledger s := by
    rintro s ⟨horders, hprocessed⟩
    have hsettle : e.settle d.ledger =
        ⟨e.handling.after d.orders, d.processedEvents ++ [e.key]⟩ := if_neg hmem
    exact (congrArg₂ Ledger.mk horders hprocessed).trans hsettle.symm
  simp only [hmem, not_false_eq_true, decide_true, if_true, if_false]
  exact (Handling.withstands_replay hsafe he _).mono (fun hs => (hdone hs).midway)
    (fun hs => ⟨trivial, hdone hs⟩) fun hs => ⟨hs.1, (hdone hs.2).midway⟩

end Pursues

namespace Reconciler

/-! ### Whole runs -/

/-- The events that a pass does not drop, and what the run has seen by then. -/
def fresh : List Entry → EventSeenSet → List Entry × EventSeenSet
  | [], seen => ([], seen)
  | e :: rest, seen =>
    match seen.checkAndMark e.key e.semKey with
    | (some _, seen) => fresh rest seen
    | (none, seen) => (e :: (fresh rest seen).1, (fresh rest seen).2)

/-- The events of the three passes. -/
def ethEvents (hashes : Hashes) (created : List EthCreated) (claimed : List EthClaimed)
    (refunded : List EthRefunded) : List Entry :=
  let (first, seen) := fresh (created.filterMap EthCreated.entry) .empty
  let (second, seen) := fresh (claimed.filterMap (EthClaimed.entry hashes)) seen
  let (third, _) := fresh (refunded.filterMap EthRefunded.entry) seen
  first ++ (second ++ third)

/-- The events of the pages that are read. -/
def sorobanEvents (hashes : Hashes) :
    List (List SorobanEvent) → (eventIndex : ℕ) → EventSeenSet → List Entry
  | [], _, _ => []
  | page :: rest, eventIndex, seen =>
    let (first, seen) := fresh (pageEntries hashes page eventIndex) seen
    if page.length < pageLimit then first
    else first ++ sorobanEvents hashes rest (eventIndex + page.length) seen

section Pursues

variable {safe : Call → Db → Prop} {hashes : Hashes} (hsafe : ∀ {q d}, safe q d → Settled q d)

include hsafe

lemma pursues_replayEach {entries : List Entry}
    (hentries : ∀ e ∈ entries, e.handling.Standard hashes none) (seen : EventSeenSet) (n : ℕ) :
    Pursues safe (fresh entries seen).1 (fun a => a.2 = (fresh entries seen).2)
      (replayEach entries seen n) := by
  induction entries generalizing seen n with
  | nil => exact pursues_pure rfl
  | cons e rest ih =>
    have hrest := fun e he => hentries e (List.mem_cons_of_mem _ he)
    unfold replayEach fresh
    rcases seen.checkAndMark e.key e.semKey with ⟨conflict | conflict, seen'⟩
    · exact pursues_bind (pursues_replayEntry hsafe (hentries e List.mem_cons_self))
        fun applied _ => ih hrest seen' _
    · exact ih hrest seen' n

lemma pursues_replayEth (created : List EthCreated) (claimed : List EthClaimed)
    (refunded : List EthRefunded) :
    Pursues safe (ethEvents hashes created claimed refunded) (fun _ => True)
      (replayEth hashes created claimed refunded) := by
  have hcreated : ∀ e ∈ created.filterMap EthCreated.entry, e.handling.Standard hashes none := by
    intro e he
    obtain ⟨log, -, hlog⟩ := List.mem_filterMap.1 he
    exact EthCreated.standard_entry hlog
  have hclaimed : ∀ e ∈ claimed.filterMap (EthClaimed.entry hashes),
      e.handling.Standard hashes none := by
    intro e he
    obtain ⟨log, -, hlog⟩ := List.mem_filterMap.1 he
    exact EthClaimed.standard_entry hlog
  have hrefunded : ∀ e ∈ refunded.filterMap EthRefunded.entry,
      e.handling.Standard hashes none := by
    intro e he
    obtain ⟨log, -, hlog⟩ := List.mem_filterMap.1 he
    exact EthRefunded.standard_entry hlog
  unfold replayEth ethEvents
  refine pursues_bind (pursues_replayEach hsafe hcreated _ _) fun a ha => ?_
  obtain ⟨n, seen⟩ := a
  obtain rfl := ha
  refine pursues_bind (pursues_replayEach hsafe hclaimed _ _) fun a ha => ?_
  obtain ⟨n, seen⟩ := a
  obtain rfl := ha
  exact pursues_last (pursues_replayEach hsafe hrefunded _ _) fun _ _ => pursues_pure trivial

lemma pursues_replaySorobanPages (pages : List (List SorobanEvent)) (eventIndex : ℕ)
    (seen : EventSeenSet) (n : ℕ) :
    Pursues safe (sorobanEvents hashes pages eventIndex seen) (fun _ => True)
      (replaySorobanPages hashes pages eventIndex seen n) := by
  induction pages generalizing eventIndex seen n with
  | nil => exact pursues_pure trivial
  | cons page rest ih =>
    have hpage : ∀ e ∈ pageEntries hashes page eventIndex, e.handling.Standard hashes none := by
      intro e he
      obtain ⟨ev, -, hev⟩ := List.mem_filterMap.1 he
      exact SorobanEvent.standard_entry hev
    have hloop := pursues_replayEach hsafe hpage seen n
    unfold replaySorobanPages sorobanEvents
    refine pursues_first pursues_rpc fun _ _ => ?_
    by_cases hlast : page.length < pageLimit
    · simp only [hlast, if_true]
      exact pursues_last hloop fun _ _ => pursues_pure trivial
    simp only [hlast, if_false]
    refine pursues_bind hloop fun a ha => ?_
    obtain ⟨n, seen'⟩ := a
    obtain rfl := ha
    exact ih _ _ _

end Pursues

/-- A run over the logs of one chain: the latest block of the node and the logs in the window. -/
inductive Scan where
  | ethereum (latest : ℕ) (created : List EthCreated) (claimed : List EthClaimed)
      (refunded : List EthRefunded)
  | soroban (latest hwm : ℕ) (pages : List (List SorobanEvent))

namespace Scan

variable (hashes : Hashes)

def service : Scan → Serve ℕ
  | ethereum latest created claimed refunded =>
    reconcileEthereum hashes ⟨latest, fun _ _ => created, fun _ _ => claimed, fun _ _ => refunded⟩
  | soroban latest hwm pages => reconcileSoroban hashes hwm ⟨latest, fun _ => pages⟩

/-- The events that are applied unless their keys were claimed before. -/
def events : Scan → List Entry
  | ethereum _ created claimed refunded => ethEvents hashes created claimed refunded
  | soroban latest hwm pages =>
    if latest - computeIncrementalScanStart hwm latest sorobanLookbackLedgers = 0 then []
    else sorobanEvents hashes pages 0 .empty

/-- What a run that is not cut short gives and leaves. -/
def complete (scan : Scan) (d : Db) : Except ServiceError ℕ × Db :=
  (scan.service hashes).eval (fun _ => Fate.calm) d

/-- What is left by a run that is stopped when it has waited `n` times and has been answered `rs`,
or by one that has ended by then. -/
def cut (scan : Scan) (n : ℕ) (rs : Answers Call fun _ => Fate) (d : Db) : Db :=
  Process.reached (scan.service hashes).run n rs d

lemma pursues_service {safe : Call → Db → Prop} (hsafe : ∀ {q d}, safe q d → Settled q d)
    (scan : Scan) : Pursues safe (scan.events hashes) (fun _ => True) (scan.service hashes) := by
  cases scan with
  | ethereum latest created claimed refunded =>
    refine pursues_first pursues_rpc fun _ _ => ?_
    refine pursues_first (pursues_computeFrom _ _ _) fun _ _ => ?_
    refine pursues_first pursues_rpc fun _ _ => ?_
    refine pursues_first pursues_rpc fun _ _ => ?_
    refine pursues_first pursues_rpc fun _ _ => ?_
    refine pursues_last (pursues_replayEth hsafe created claimed refunded) fun n _ => ?_
    exact pursues_last (pursues_setChainCursor _ _) fun _ _ => pursues_pure trivial
  | soroban latest hwm pages =>
    unfold service events reconcileSoroban
    refine pursues_first pursues_rpc fun _ _ => ?_
    dsimp only
    split
    · exact pursues_pure trivial
    · refine pursues_last (pursues_replaySorobanPages hsafe pages 0 .empty 0) fun _ _ => ?_
      exact pursues_last (pursues_setChainCursor _ _) fun _ _ => pursues_pure trivial

lemma complete_through (scan : Scan) (d : Db) :
    ∃ n d', scan.complete hashes d = (.ok n, d') ∧ Through (scan.events hashes) d.ledger d' := by
  have hpursues : Pursues (fun _ _ => False) (scan.events hashes) (fun _ => True)
      (scan.service hashes) := scan.pursues_service hashes False.elim
  obtain ⟨n, d', heval, -, hd'⟩ := Store.Withstands.eval_ok <|
    (hpursues d).mono (fun h => h) (fun h => h) fun {e s} he => by
      obtain ⟨⟨q, d, hq⟩, -⟩ := he
      exact hq
  exact ⟨n, d', heval, hd'⟩

/-- A run that was cut short at a call that is `Settled`, or in which only such calls have failed,
and then a run to the end: the orders are those after one run. -/
theorem complete_cut (scan : Scan) (d : Db) (n : ℕ) (rs : Answers Call fun _ => Fate)
    (hspared : Process.Spared (repository.tolerance Fate.calm Settled) (scan.service hashes).run n
      rs d) :
    (∃ m, (scan.complete hashes (scan.cut hashes n rs d)).1 = .ok m) ∧
      (scan.complete hashes (scan.cut hashes n rs d)).2.orders =
        (scan.complete hashes d).2.orders := by
  have hpursues : Pursues Settled (scan.events hashes) (fun _ => True) (scan.service hashes) :=
    scan.pursues_service hashes fun h => h
  obtain ⟨done, rest, hevents, hcut⟩ :
      Midway (scan.events hashes) d.ledger (scan.cut hashes n rs d) :=
    Fallible.Withstands.reached
      ((hpursues d).mono (fun h => h) (fun h => h.2.midway) fun h => h.2) hspared
  obtain ⟨m, d', hagain, hd'⟩ := scan.complete_through hashes (scan.cut hashes n rs d)
  obtain ⟨m', d'', honce, hd''⟩ := scan.complete_through hashes d
  have hsame : d'.ledger = d''.ledger := by
    rw [hd', hd'', hcut, hevents]
    exact marks_settle.replay_replay done rest d.ledger
  rw [hagain, honce]
  exact ⟨⟨m, rfl⟩, congrArg Ledger.orders hsame⟩

/-- The run over the deposit of the client. -/
def sample : Scan := .ethereum 9 [Sample.ownDeposit] [] []

open Sample in
/-- The process dies before the key of the deposit is claimed. -/
theorem complete_cut_sample :
    Process.Spared (repository.tolerance Fate.calm Settled) (sample.service noHashes).run 6
        (fun _ _ => Fate.calm) announcedDb ∧
      ((sample.complete noHashes (sample.cut noHashes 6 (fun _ _ => Fate.calm)
          announcedDb)).2.orders.get sampleId).map OrderRow.status = some .srcLocked ∧
      (sample.complete noHashes (sample.cut noHashes 6 (fun _ _ => Fate.calm)
          announcedDb)).2.orders =
        (sample.complete noHashes announcedDb).2.orders := by
  have hspared : Process.Spared (repository.tolerance Fate.calm Settled)
      (sample.service noHashes).run 6 (fun _ _ => Fate.calm) announcedDb := by
    refine ⟨fun _ _ _ _ => Or.inl rfl, fun q hq => ?_⟩
    obtain rfl : q = .claimEvent (ownDeposit.place.key .orderCreated) :=
      Option.some.inj (hq.symm.trans rfl)
    trivial
  exact ⟨hspared, by decide +kernel,
    (complete_cut noHashes sample announcedDb 6 _ hspared).2⟩

open Sample in
/-- The process dies between the key and the order: the deposit is not recorded by the next
run. -/
theorem claimed_event_is_lost :
    ((sample.complete noHashes announcedDb).2.orders.get sampleId).map
        OrderRow.status = some .srcLocked ∧
      ((sample.complete noHashes (sample.cut noHashes 7 (fun _ _ => Fate.calm)
        announcedDb)).2.orders.get sampleId).map OrderRow.status = some .announced := by
  decide +kernel

end Scan

end Reconciler

end WaffleFinance.Coordinator

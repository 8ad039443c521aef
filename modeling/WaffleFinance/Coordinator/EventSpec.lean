import WaffleFinance.Lib.Recovery
import WaffleFinance.Coordinator.Listeners
import WaffleFinance.Coordinator.RowShape

/-!
# What the events of the chains do to the orders

Both the reconciler and the listeners look an order up, come to a job for it or to nothing, and call
the service.  `EventMove` says what can come of it, whatever fails: only the order that was found
changes, by that job, and the cursors of orders move.
-/

namespace WaffleFinance.Coordinator

open Lib OrdersRepository Fallible
open Fate (calm)
open Option (bind_eq_some_iff some)

/-! ### The three kinds of events -/

/-- What the events of the chains come to. -/
inductive EventJob (p : Text) : Job → Prop
  | lock (input : SrcLockInput) (publicId_eq : input.publicId = p) :
      EventJob p (.recordSrcLock input)
  | secret (preimage txHash : Text) : EventJob p (.recordSecret p preimage txHash none)
  | refund : EventJob p (.markStatus p .refunded)

lemma EventJob.publicId {p : Text} {j : Job} (h : EventJob p j) : j.publicId = p := by
  cases h with
  | lock input hid => exact hid
  | secret => rfl
  | refund => rfl

/-- The handlers of the reconciler, all of which claim the key as `last` says. -/
inductive Handling.Standard (hashes : Hashes) (last : Option EventKey) : Handling → Prop
  | created (chain : Chain) (hashlock : Text) (position : Option ℕ)
      (lock : Text → ℕ → Option SrcLockInput)
      (publicId_eq : ∀ p pos input, lock p pos = some input → input.publicId = p) :
      Standard hashes last (createdHandling chain hashlock position lock last)
  | claimed (chain : Chain) (orderId : Text) (position : Option ℕ) (preimage txHash : Text) :
      Standard hashes last (claimedHandling hashes chain orderId position preimage txHash last)
  | refunded (chain : Chain) (orderId : Text) (position : Option ℕ) :
      Standard hashes last (refundedHandling chain orderId position last)

section Jobs

variable {hashes : Hashes} {chain : Chain} {p : Text} {r : OrderRow} {j : Job} {e : Entry}

variable {position : Option ℕ} {last : Option EventKey} {pos : ℕ}

lemma createdHandling_plan {hashlock : Text} {lock : Text → ℕ → Option SrcLockInput}
    (hplan : (createdHandling chain hashlock position lock last).plan p r pos = .apply j) :
    ∃ input, lock p pos = some input ∧ j = .recordSrcLock input := by
  dsimp only [createdHandling] at hplan
  cases hinput : lock p pos with
  | none =>
    rw [hinput] at hplan
    cases hplan
  | some input =>
    rw [hinput] at hplan
    exact ⟨input, rfl, (Plan.apply.inj hplan).symm⟩

lemma claimedHandling_plan {orderId preimage txHash : Text}
    (hplan : (claimedHandling hashes chain orderId position preimage txHash last).plan p r pos =
      .apply j) : j = .recordSecret p preimage txHash none := by
  have hplan' : (if validatePreimage hashes preimage r.hashlock then
    Plan.apply (.recordSecret p preimage txHash none) else .pass) = Plan.apply j := hplan
  split at hplan'
  · exact (Plan.apply.inj hplan').symm
  · cases hplan'

lemma refundedHandling_plan {orderId : Text}
    (hplan : (refundedHandling chain orderId position last).plan p r pos = .apply j) :
    j = .markStatus p .refunded :=
  (Plan.apply.inj hplan).symm

lemma Handling.Standard.eventJob {h : Handling} (hh : h.Standard hashes last)
    (hplan : h.plan p r pos = .apply j) : EventJob p j := by
  cases hh with
  | created _ _ _ lock hid =>
    obtain ⟨input, hinput, rfl⟩ := createdHandling_plan hplan
    exact .lock input (hid p pos input hinput)
  | claimed =>
    obtain rfl := claimedHandling_plan hplan
    exact .secret _ _
  | refunded =>
    obtain rfl := refundedHandling_plan hplan
    exact .refund

lemma EthCreated.standard_entry {log : EthCreated} (he : log.entry = some e) :
    e.handling.Standard hashes none := by
  obtain ⟨hashlock, -, he⟩ := bind_eq_some_iff.1 he
  obtain ⟨orderId, -, he⟩ := bind_eq_some_iff.1 he
  cases he
  refine .created _ _ _ _ fun p pos input hinput => ?_
  obtain ⟨timelock, -, rfl⟩ := Option.map_eq_some_iff.1 hinput
  rfl

lemma EthClaimed.standard_entry {log : EthClaimed} (he : log.entry hashes = some e) :
    e.handling.Standard hashes none := by
  obtain ⟨orderId, -, he⟩ := bind_eq_some_iff.1 he
  obtain ⟨preimage, -, he⟩ := bind_eq_some_iff.1 he
  cases he
  exact .claimed _ _ _ _ _

lemma EthRefunded.standard_entry {log : EthRefunded} (he : log.entry = some e) :
    e.handling.Standard hashes none := by
  obtain ⟨orderId, -, he⟩ := bind_eq_some_iff.1 he
  cases he
  exact .refunded _ _ _

lemma SorobanEvent.standard_entry {ev : SorobanEvent} {eventIndex : ℕ}
    (he : ev.entry hashes eventIndex = some e) : e.handling.Standard hashes none := by
  obtain ⟨decoded, -, he⟩ := bind_eq_some_iff.1 he
  cases decoded with
  | created orderId hashlock timelock deposit =>
    cases he
    dsimp only [SorobanEvent.createdHandling]
    refine .created _ _ _ _ fun p pos input hinput => ?_
    cases hinput
    rfl
  | claimed orderId hashlock preimage =>
    cases he
    exact .claimed _ _ _ _ _
  | refunded orderId hashlock =>
    cases he
    exact .refunded _ _ _

lemma SolanaTx.standard_entry {tx : SolanaTx} (he : tx.entry hashes = some e) :
    ∃ key, e.handling.Standard hashes (some key) := by
  obtain ⟨eventType, -, he⟩ := bind_eq_some_iff.1 he
  cases eventType with
  | orderCreated =>
    obtain ⟨hashlock, -, he⟩ := bind_eq_some_iff.1 he
    obtain ⟨orderId, -, he⟩ := bind_eq_some_iff.1 he
    cases he
    dsimp only [SolanaTx.createdHandling]
    refine ⟨_, .created _ _ _ _ fun p pos input hinput => ?_⟩
    cases hinput
    rfl
  | orderClaimed =>
    obtain ⟨preimage, -, he⟩ := bind_eq_some_iff.1 he
    obtain ⟨orderId, -, he⟩ := bind_eq_some_iff.1 he
    cases he
    exact ⟨_, .claimed _ _ _ _ _⟩
  | orderRefunded =>
    obtain ⟨orderId, -, he⟩ := bind_eq_some_iff.1 he
    cases he
    exact ⟨_, .refunded _ _ _⟩

end Jobs

/-! ### Lookups -/

def Lookup.names : Lookup → OrderRow → Bool
  | byHashlock hashlock, r => r.hashlock = hashlock
  | bySrcOrderId chain orderId, r => r.srcChain = chain ∧ r.srcOrderId = some orderId

/-- The order that a lookup finds. -/
def Lookup.first (d : Db) (l : Lookup) : Option (Text × OrderRow) :=
  d.orders.first fun _ r => l.names r

/-- The order that the first successful lookup finds. -/
def firstOf (d : Db) : List Lookup → Option (Text × OrderRow)
  | [] => none
  | lookup :: lookups => (lookup.first d).or (firstOf d lookups)

lemma firstOf_singleton (l : Lookup) (d : Db) : firstOf d [l] = l.first d := by
  unfold firstOf firstOf
  exact Option.or_none

lemma get_of_first {l : Lookup} {d : Db} {p : Text} {r : OrderRow} (h : l.first d = some (p, r)) :
    d.orders.get p = some r :=
  InsertionMap.get_eq_some.2 (InsertionMap.mem_of_first h).1

lemma get_of_firstOf {ls : List Lookup} {d : Db} {p : Text} {r : OrderRow}
    (h : firstOf d ls = some (p, r)) : d.orders.get p = some r := by
  induction ls with
  | nil => cases h
  | cons l ls ih =>
    rcases Option.or_eq_some_iff.1 h with hfirst | ⟨-, hrest⟩
    · exact get_of_first hfirst
    · exact ih hrest

lemma run_statement {q : Call} {f : Db → q.Result} {g : Db → Db}
    (hq : q.program = Sql.statement fun d => .ok (f d, g d)) (fate : Fate) (d : Db) :
    repository.run q fate d = (.ok (f d), g d) ∨ ∃ e, repository.run q fate d = (.error e, d) := by
  have hrun : repository.run q fate d =
      ((q.program.exec fate d).1.mapError DbError.service, (q.program.exec fate d).2) := rfl
  rw [hrun, hq, Sql.exec_statement]
  cases fate 0 with
  | none => exact Or.inl rfl
  | some e => exact Or.inr ⟨e.service, rfl⟩

lemma run_statement_calm {q : Call} {f : Db → q.Result} {g : Db → Db}
    (hq : q.program = Sql.statement fun d => .ok (f d, g d)) (d : Db) :
    repository.run q calm d = (.ok (f d), g d) := by
  have hrun : repository.run q calm d =
      ((q.program.exec calm d).1.mapError DbError.service, (q.program.exec calm d).2) :=
    rfl
  rw [hrun, hq, Sql.exec_statement]
  rfl

section Find

variable {ok : Option (Text × OrderRow) → Db → Prop} {err : ServiceError → Db → Prop} {d : Db}

lemma ensures_read {q : Call} {f : Db → q.Result} {ok : q.Result → Db → Prop}
    (hq : q.program = Sql.statement fun d => .ok (f d, d)) (hok : ok (f d) d)
    (herr : ∀ e, err e d) : (call q).Ensures ok err d := by
  refine Store.ensures_call (fun fate a ha => ?_) fun fate e he => ?_
  · rcases run_statement hq fate d with hrun | ⟨e, hrun⟩
    · rw [hrun] at ha ⊢
      cases ha
      exact hok
    · rw [hrun] at ha
      cases ha
  · rcases run_statement hq fate d with hrun | ⟨e', hrun⟩
    · rw [hrun] at he
      cases he
    · rw [hrun]
      exact herr e

lemma ensures_find (l : Lookup) (hok : ok (l.first d) d) (herr : ∀ e, err e d) :
    l.find.Ensures ok err d := by
  cases l with
  | byHashlock hashlock =>
    exact ensures_read (q := .findByHashlock hashlock)
      (f := fun d => Lookup.first d (.byHashlock hashlock)) rfl hok herr
  | bySrcOrderId chain orderId =>
    exact ensures_read (q := .findBySrcOrderId chain orderId)
      (f := fun d => Lookup.first d (.bySrcOrderId chain orderId)) rfl hok herr

lemma ensures_findAny (ls : List Lookup) (hok : ok (firstOf d ls) d) (herr : ∀ e, err e d) :
    (findAny ls).Ensures ok err d := by
  induction ls with
  | nil => exact (ensures_pure _).2 hok
  | cons l ls ih =>
    refine ensures_bind (ensures_find l ?_ herr)
    unfold firstOf at hok
    cases hfirst : l.first d with
    | none =>
      rw [hfirst] at hok
      exact ih hok
    | some order =>
      rw [hfirst] at hok
      exact (ensures_pure _).2 hok

end Find

/-! ### Steps that only move cursors -/

/-- Nothing but cursors has changed. -/
def Still (d d' : Db) : Prop :=
  ∀ p, (d'.orders.get p).map OrderRow.body = (d.orders.get p).map OrderRow.body

lemma Still.refl (d : Db) : Still d d := fun _ => rfl

lemma Still.trans {d d' d'' : Db} (h : Still d d') (h' : Still d' d'') : Still d d'' :=
  fun p => (h' p).trans (h p)

/-- A part of a service that only moves cursors, whatever fails. -/
def Quiet {α : Type} (x : Serve α) : Prop :=
  ∀ d, x.Ensures (fun _ d' => Still d d') (fun _ d' => Still d d') d

section Quiet

variable {α β : Type}

lemma quiet_pure (a : α) : Quiet (pure a : Serve α) :=
  fun d => (ensures_pure a).2 (.refl d)

lemma quiet_bind {x : Serve α} {f : α → Serve β} (hx : Quiet x) (hf : ∀ a, Quiet (f a)) :
    Quiet (x >>= f) := by
  refine fun d => ensures_bind ((hx d).mono (fun {a d'} hstill => ?_) fun h => h)
  exact (hf a d').mono (fun h => hstill.trans h) fun h => hstill.trans h

lemma quiet_call (q : Call) (hmutation : q.mutation = none)
    (hannounce : ∀ input, q ≠ .announce input) : Quiet (call q) :=
  fun d => ensures_run_call fun fate p => (rowStep q fate d p).body hmutation hannounce

lemma Quiet.eval {x : Serve α} (h : Quiet x) (d : Db) :
    Still d (x.eval (fun _ => calm) d).2 :=
  (h d).play _

lemma quiet_find (l : Lookup) : Quiet l.find :=
  fun d => ensures_find l (.refl d) fun _ => .refl d

lemma quiet_advanceOrderCursor (p : Text) (chain : Chain) (position : ℕ) :
    Quiet (advanceOrderCursor p chain position) := by
  unfold advanceOrderCursor
  split
  · exact quiet_pure ()
  · exact quiet_call _ rfl (by simp)

namespace Handling

variable (h : Handling)

lemma quiet_claim : Quiet h.claim := by
  unfold claim
  split
  · exact quiet_pure ()
  · exact quiet_bind (quiet_call _ rfl (by simp)) fun _ => quiet_pure ()

lemma quiet_finish (p : Text) (position : ℕ) : Quiet (h.finish p position) :=
  quiet_bind (quiet_advanceOrderCursor p h.chain position) fun _ =>
    quiet_bind h.quiet_claim fun _ => quiet_pure false

lemma quiet_excuse (e : ServiceError) : Quiet (h.excuse e) := by
  unfold excuse
  split
  · cases h.position with
    | none => exact quiet_pure false
    | some position =>
      refine quiet_bind (quiet_find _) fun found => ?_
      cases found with
      | none => exact quiet_pure false
      | some order => exact h.quiet_finish order.1 position
  · exact quiet_pure false

end Handling

end Quiet

/-! ### Jobs -/

/-- What an event can do to the row of an order: `found` is the order that was looked up and `job`
what is to be done for it. -/
inductive EventMove (found : Option (Text × OrderRow)) (job : Text → OrderRow → Option Job)
    (p : Text) : Option OrderRow → Option OrderRow → Prop
  | still {o o' : Option OrderRow} (body_eq : o'.map OrderRow.body = o.map OrderRow.body) :
      EventMove found job p o o'
  | worked {r r' : OrderRow} {j : Job} (found_eq : found = some (p, r)) (job_eq : job p r = some j)
      (verdict_eq : j.verdict r = .proceed) (body_eq : r'.body = (j.write.row r).body) :
      EventMove found job p (some r) (some r')

/-- The same for all orders. -/
def EventMoves (found : Option (Text × OrderRow)) (job : Text → OrderRow → Option Job)
    (d d' : Db) : Prop :=
  ∀ p, EventMove found job p (d.orders.get p) (d'.orders.get p)

section Moves

variable {found : Option (Text × OrderRow)} {job : Text → OrderRow → Option Job} {d d' d'' : Db}

lemma Still.eventMoves (h : Still d d') : EventMoves found job d d' := fun p => .still (h p)

lemma EventMove.trans_still {p : Text} {o o' o'' : Option OrderRow}
    (h : EventMove found job p o o') (hbody : o''.map OrderRow.body = o'.map OrderRow.body) :
    EventMove found job p o o'' := by
  cases h with
  | still h => exact .still (hbody.trans h)
  | worked hfound hjob hverdict h =>
    cases o'' with
    | none => cases hbody
    | some r'' => exact .worked hfound hjob hverdict ((some.inj hbody).trans h)

lemma EventMoves.trans (h : EventMoves found job d d') (h' : Still d' d'') :
    EventMoves found job d d'' :=
  fun p => (h p).trans_still (h' p)

lemma eventMoves_of_jobMove {p : Text} {r : OrderRow} {j : Job} (hget : d.orders.get p = some r)
    (hjob : job p r = some j) (hid : j.publicId = p)
    (h : ∀ p', JobMove j p' (d.orders.get p') (d'.orders.get p')) :
    EventMoves (some (p, r)) job d d' := by
  intro p'
  have hmove := h p'
  generalize hbefore : d.orders.get p' = before at hmove
  generalize d'.orders.get p' = after at hmove
  cases hmove with
  | absent => exact .still rfl
  | kept hbody => exact .still (congrArg some hbody)
  | written hid' hverdict hbody =>
    rw [hid] at hid'
    subst hid'
    rw [hget] at hbefore
    cases hbefore
    exact .worked rfl hjob hverdict hbody

end Moves

namespace Handling

def jobAt (h : Handling) (p : Text) (r : OrderRow) (position : ℕ) : Option Job :=
  if isEventBehindOrderCursor (orderCursor r h.chain) position then none
  else if (decideDispatch .replay (some position) (h.existing r)
      (h.alreadyApplied r)).shouldApply then
    match h.plan p r position with
    | .apply j => some j
    | _ => none
  else none

/-- The job for an order, if the event gets as far as that. -/
def job (h : Handling) (p : Text) (r : OrderRow) : Option Job := h.position.bind (h.jobAt p r)

variable {h : Handling} {d : Db}

lemma ensures_dispatch (hid : ∀ p r j, h.job p r = some j → j.publicId = p) {p : Text}
    {r : OrderRow} {position : ℕ} (hget : d.orders.get p = some r)
    (hposition : h.position = some position) :
    (h.dispatch p r position).Ensures (fun _ d' => EventMoves (some (p, r)) h.job d d')
      (fun _ d' => EventMoves (some (p, r)) h.job d d') d := by
  have hquiet : ∀ {x : Serve Bool}, Quiet x →
      x.Ensures (fun _ d' => EventMoves (some (p, r)) h.job d d')
        (fun _ d' => EventMoves (some (p, r)) h.job d d') d :=
    fun hx => (hx d).mono (fun hstill => hstill.eventMoves) fun hstill => hstill.eventMoves
  have hjob : h.job p r = h.jobAt p r position := by
    unfold job
    rw [hposition]
    rfl
  unfold jobAt at hjob
  unfold dispatch
  split
  · exact hquiet (quiet_bind h.quiet_claim fun _ => quiet_pure false)
  rename_i hbehind
  rw [if_neg hbehind] at hjob
  split
  · rename_i happly
    rw [if_pos happly] at hjob
    cases hplan : h.plan p r position with
    | drop => exact hquiet (quiet_pure false)
    | pass => exact hquiet (h.quiet_finish p position)
    | apply j =>
      rw [hplan] at hjob
      have hmoves : ∀ {d'}, (∀ p', JobMove j p' (d.orders.get p') (d'.orders.get p')) →
          EventMoves (some (p, r)) h.job d d' :=
        eventMoves_of_jobMove hget hjob (hid p r j hjob)
      have hafter : Quiet (do
          advanceOrderCursor p h.chain position
          h.claim
          pure true) :=
        quiet_bind (quiet_advanceOrderCursor p h.chain position) fun _ =>
          quiet_bind h.quiet_claim fun _ => quiet_pure true
      refine ensures_bind ((ensures_run j d).mono (fun {_ d'} hrun => ?_) hmoves)
      exact (hafter d').mono (fun hstill => (hmoves hrun).trans hstill)
        fun hstill => (hmoves hrun).trans hstill
  · exact hquiet (h.quiet_finish p position)

/-- Whatever fails, an event that is replayed does its job for the order that it names. -/
lemma ensures_replay (hid : ∀ p r j, h.job p r = some j → j.publicId = p) :
    h.replay.Ensures (fun _ d' => EventMoves (h.lookup.first d) h.job d d')
      (fun _ d' => EventMoves (h.lookup.first d) h.job d d') d := by
  have hidle : EventMoves (h.lookup.first d) h.job d d := (Still.refl d).eventMoves
  have hexcuse : ∀ {d'} (e : ServiceError), EventMoves (h.lookup.first d) h.job d d' →
      (h.excuse e).Ensures (fun _ d' => EventMoves (h.lookup.first d) h.job d d')
        (fun _ d' => EventMoves (h.lookup.first d) h.job d d') d' :=
    fun e hmoves => (h.quiet_excuse e _).mono (fun hstill => hmoves.trans hstill)
      fun hstill => hmoves.trans hstill
  refine ensures_tryCatch (ensures_bind (ensures_find _ ?_ fun e => ?_))
  · cases hfirst : h.lookup.first d with
    | none =>
      rw [hfirst] at hidle
      exact (ensures_pure _).2 hidle
    | some order =>
      rw [hfirst] at hidle hexcuse
      dsimp only
      cases hposition : h.position with
      | none => exact (ensures_pure _).2 hidle
      | some position =>
        exact (ensures_dispatch hid (get_of_first hfirst) hposition).mono (fun hmoves => hmoves)
          fun hmoves => hexcuse _ hmoves
  · exact hexcuse e hidle

end Handling

namespace Watch

def jobFor (w : Watch) (p : Text) (r : OrderRow) : Option Job :=
  if (decideDispatch w.path (some w.position) (w.existing r) (w.alreadyApplied r)).shouldApply then
    some (w.job p)
  else none

variable {w : Watch} {d : Db}

lemma ensures_handle (hid : ∀ p r j, w.jobFor p r = some j → j.publicId = p) :
    w.handle.Ensures (fun _ d' => EventMoves (firstOf d w.lookups) w.jobFor d d')
      (fun _ d' => EventMoves (firstOf d w.lookups) w.jobFor d d') d := by
  have hidle : EventMoves (firstOf d w.lookups) w.jobFor d d := (Still.refl d).eventMoves
  refine ensures_tryCatch (ensures_bind (ensures_findAny _ ?_ fun e => ?_))
  · cases hfirst : firstOf d w.lookups with
    | none =>
      rw [hfirst] at hidle
      exact (ensures_pure _).2 hidle
    | some order =>
      rw [hfirst] at hidle
      dsimp only
      split
      · rename_i happly
        have hjob : w.jobFor order.1 order.2 = some (w.job order.1) := if_pos happly
        have hmoves : ∀ {d'},
            (∀ p', JobMove (w.job order.1) p' (d.orders.get p') (d'.orders.get p')) →
              EventMoves (some order) w.jobFor d d' :=
          eventMoves_of_jobMove (get_of_firstOf hfirst) hjob (hid _ _ _ hjob)
        refine ensures_bind ((ensures_run _ d).mono (fun hrun => ?_) fun hrun => ?_)
        · exact (ensures_pure _).2 (hmoves hrun)
        · exact (ensures_pure _).2 (hmoves hrun)
      · exact (ensures_pure _).2 hidle
  · exact (ensures_pure _).2 hidle

end Watch

/-! ### Where nothing fails -/

lemma eval_claimEvent {key : EventKey} {d : Db} (h : key ∉ d.processedEvents) :
    (call (.claimEvent key)).eval (fun _ => calm) d =
      (.ok true, { d with processedEvents := d.processedEvents ++ [key] }) := by
  show ((((claimEvent key).exec calm d).1.mapError DbError.service),
    ((claimEvent key).exec calm d).2) = _
  unfold claimEvent
  rw [Sql.exec_statement]
  simp [calm, h, Except.mapError]

/-- One row was replaced, and perhaps told about in the trail. -/
structure Rewritten (d : Db) (p : Text) (r : OrderRow) (d' : Db) : Prop where
  orders_eq : d'.orders = d.orders.update p fun _ => r
  processedEvents_eq : d'.processedEvents = d.processedEvents
  chainCursors_eq : d'.chainCursors = d.chainCursors

namespace Rewritten

variable {d d' : Db} {p : Text} {r : OrderRow}

lemma refl (hget : d.orders.get p = some r) : Rewritten d p r d where
  orders_eq := by
    rw [InsertionMap.update_congr hget (g := fun v => v) rfl, InsertionMap.update_id]
  processedEvents_eq := rfl
  chainCursors_eq := rfl

/-- A change of the row that was written. -/
lemma update (h : Rewritten d p r d') (f : OrderRow → OrderRow) :
    Rewritten d p (f r) (d'.update p f) where
  orders_eq := by rw [Db.orders_update, h.orders_eq, InsertionMap.update_update]
  processedEvents_eq := h.processedEvents_eq
  chainCursors_eq := h.chainCursors_eq

lemma get_eq {r₀ : OrderRow} (h : Rewritten d p r d') (hget : d.orders.get p = some r₀) :
    d'.orders.get p = some r := by
  rw [h.orders_eq, InsertionMap.get_update_self, hget]
  rfl

end Rewritten

/-- An event whose key is claimed does not depend on this call any more. -/
def Settled : Call → Db → Prop
  | .rpc, _ | .claimEvent _, _ | .getChainCursor _, _ | .setChainCursor _ _, _
  | .getMinActiveOrderCursor _, _ => True
  | .findByHashlock hashlock, d => Lookup.first d (.byHashlock hashlock) = none
  | .findBySrcOrderId chain orderId, d => Lookup.first d (.bySrcOrderId chain orderId) = none
  | .advanceOrderLedgerCursor p chain position, d =>
    ∀ r ∈ d.orders.get p, advanceRow chain position r = r
  | _, _ => False

/-- The job does not break a constraint of the table. -/
def Job.Writable : Job → Prop
  | .recordSecret _ _ _ encVersion => encVersionAllowed encVersion = true
  | _ => True

namespace Job

variable {job : Job} {d : Db} {r : OrderRow}

lemma decision_ok (h : job.Writable) (r : OrderRow) : ∃ o, job.write.decision (some r) = .ok o := by
  cases job with
  | recordSecret p preimage txHash encVersion =>
    have hallowed : encVersionAllowed encVersion = true := h
    show ∃ o, secretDecision ⟨p, preimage, txHash, encVersion, none⟩ (some r) = .ok o
    simp only [secretDecision, if_pos hallowed]
    split_ifs
    · exact ⟨_, rfl⟩
    · exact ⟨_, rfl⟩
    · exact ⟨_, rfl⟩
  | markStatus p status =>
    show ∃ o, setStatusDecision p status none none (some r) = .ok o
    simp only [setStatusDecision]
    split_ifs with _ hexpected
    · exact ⟨_, rfl⟩
    · exact ⟨_, rfl⟩
    · exact absurd rfl hexpected
  | _ => exact ⟨_, rfl⟩

lemma run_commit_calm (h : job.Writable) (hget : d.orders.get job.publicId = some r)
    (seen : OrderRow) :
    ∃ d', repository.run (.commit job seen) calm d = (.ok (), d') ∧
      Rewritten d job.publicId (job.write.row r) d' := by
  obtain ⟨o, ho⟩ := decision_ok h r
  have hexec : job.write.program.exec calm d = (.ok (), d.record job.write.publicId o) :=
    Mutation.exec_calm (by rw [job.publicId_write, hget, ho])
  refine ⟨d.record job.write.publicId o, ?_, ?_⟩
  · show ((job.write.program.exec calm d).1.mapError DbError.service,
      (job.write.program.exec calm d).2) = _
    rw [hexec]
    rfl
  · rw [job.publicId_write]
    cases Mutation.decided ho with
    | idle hsame =>
      rw [hsame]
      exact .refl hget
    | entry hrow =>
      subst hrow
      exact ⟨rfl, rfl, rfl⟩

/-- The row after a job, or the error. -/
def outcome (job : Job) (r : OrderRow) : Except ServiceError OrderRow :=
  match job.verdict r with
  | .ignore => .ok r
  | .refuse message => .error (orderValidationError message)
  | .proceed =>
    match job.cursor r with
    | none => .ok (job.write.row r)
    | some (chain, position) => .ok (advanceRow chain position (job.write.row r))

lemma withstands_run {safe : Call → Db → Prop} {mid : Db → Prop}
    (hsafe : ∀ {q d}, safe q d → Settled q d) (h : job.Writable)
    (hget : d.orders.get job.publicId = some r) :
    (OrderService.run job).Withstands (repository.tolerance calm safe) mid
      (fun _ d' => ∃ r', job.outcome r = .ok r' ∧ Rewritten d job.publicId r' d')
      (fun e d' => job.outcome r = .error e ∧ d' = d) d := by
  have hcheck : repository.run (.check job) calm d = (.ok (some r), d) := by
    rw [run_statement_calm (q := .check job) (f := fun d => d.orders.get job.publicId)
      (g := id) rfl]
    simp only [hget, id]
  unfold OrderService.run outcome
  refine withstands_bind (Store.withstands_call_calm (fun hq => hsafe hq) hcheck ?_)
  dsimp only
  cases job.verdict r with
  | ignore => exact withstands_pure ⟨r, rfl, .refl hget⟩
  | refuse message => exact withstands_throw ⟨rfl, rfl⟩
  | proceed =>
    obtain ⟨d', hcommit, hd'⟩ := run_commit_calm h hget r
    refine withstands_bind (Store.withstands_call_calm (fun hq => hsafe hq) hcommit ?_)
    dsimp only
    cases job.cursor r with
    | none => exact withstands_pure ⟨_, rfl, hd'⟩
    | some cursor =>
      have hcursor : repository.run (.updateOrderCursor job.publicId cursor.1 cursor.2) calm
          d' = (.ok (), d'.update job.publicId (advanceRow cursor.1 cursor.2)) := rfl
      exact Store.withstands_call_calm (fun hq => hsafe hq) hcursor ⟨_, rfl, hd'.update _⟩

lemma eval_run_proceed (h : job.Writable) (hget : d.orders.get job.publicId = some r)
    (hverdict : job.verdict r = .proceed) :
    ∃ d', (OrderService.run job).eval (fun _ => calm) d = (.ok (), d') ∧
      (d'.orders.get job.publicId).map OrderRow.body = some (job.write.row r).body := by
  have houtcome : ∃ r', job.outcome r = .ok r' ∧ r'.body = (job.write.row r).body := by
    unfold outcome
    rw [hverdict]
    cases job.cursor r with
    | none => exact ⟨_, rfl, rfl⟩
    | some cursor => exact ⟨_, rfl, body_advanceRow _ _ _⟩
  obtain ⟨r', hr', hbody⟩ := houtcome
  have hrun := @withstands_run job d r (fun _ _ => False) (fun _ => True) False.elim h hget
  obtain ⟨_, d', heval, r'', hr'', hd'⟩ := Store.Withstands.eval_ok <|
    hrun.mono (fun h => h) (fun h => h) fun {e d'} he => by
      rw [hr'] at he
      cases he.1
  obtain rfl := Except.ok.inj (hr'.symm.trans hr'')
  exact ⟨d', heval, by rw [hd'.get_eq hget, ← hbody]; rfl⟩

end Job

namespace Handling

variable {h : Handling} {d d' : Db} {p : Text} {r : OrderRow} {position : ℕ}

lemma eval_find (l : Lookup) (d : Db) :
    l.find.eval (fun _ => calm) d = (.ok (l.first d), d) := by
  cases l with
  | byHashlock hashlock =>
    exact run_statement_calm (q := .findByHashlock hashlock)
      (f := fun d => Lookup.first d (.byHashlock hashlock)) (g := id) rfl d
  | bySrcOrderId chain orderId =>
    exact run_statement_calm (q := .findBySrcOrderId chain orderId)
      (f := fun d => Lookup.first d (.bySrcOrderId chain orderId)) (g := id) rfl d

lemma dispatch_of_jobAt {j : Job} (hj : h.jobAt p r position = some j) :
    h.dispatch p r position = (do
      OrderService.run j
      advanceOrderCursor p h.chain position
      h.claim
      pure true) := by
  unfold jobAt at hj
  unfold dispatch
  split at hj
  · cases hj
  rename_i hbehind
  rw [if_neg hbehind]
  split at hj
  · rename_i happly
    rw [if_pos happly]
    cases hplan : h.plan p r position with
    | drop => simp [hplan] at hj
    | pass => simp [hplan] at hj
    | apply j' =>
      rw [hplan] at hj
      cases hj
      rfl
  · cases hj

lemma body_eval_replay {j : Job} (hfirst : h.lookup.first d = some (p, r))
    (hjob : h.job p r = some j) (hid : j.publicId = p) (hwritable : j.Writable)
    (hverdict : j.verdict r = .proceed) :
    ((h.replay.eval (fun _ => calm) d).2.orders.get p).map OrderRow.body =
      some (j.write.row r).body := by
  subst hid
  obtain ⟨position, hposition, hjobAt⟩ := bind_eq_some_iff.1 hjob
  obtain ⟨d', heval, hbody⟩ := Job.eval_run_proceed hwritable (get_of_first hfirst) hverdict
  have hafter : Quiet (do
      advanceOrderCursor j.publicId h.chain position
      h.claim
      pure true) :=
    quiet_bind (quiet_advanceOrderCursor _ h.chain position) fun _ =>
      quiet_bind h.quiet_claim fun _ => quiet_pure true
  have hattempt : h.attempt.eval (fun _ => calm) d = (do
      advanceOrderCursor j.publicId h.chain position
      h.claim
      pure true : Serve Bool).eval (fun _ => calm) d' := by
    unfold attempt
    rw [eval_bind_ok (eval_find h.lookup d), hfirst]
    dsimp only
    rw [hposition]
    dsimp only
    rw [dispatch_of_jobAt hjobAt, eval_bind_ok heval]
  have hstill := hafter.eval d'
  rw [← hattempt] at hstill
  unfold replay
  rw [eval_tryCatch]
  -- even if the cursor or the key fails, the row keeps its body
  revert hstill
  rcases h.attempt.eval (fun _ => calm) d with ⟨e | b, d''⟩ <;> intro hstill
  · exact ((hstill.trans ((h.quiet_excuse e).eval d'')) _).trans hbody
  · exact (hstill _).trans hbody

end Handling

namespace Watch

variable {w : Watch} {d : Db} {p : Text} {r : OrderRow} {j : Job}

lemma eval_findAny (ls : List Lookup) (d : Db) :
    (findAny ls).eval (fun _ => calm) d = (.ok (firstOf d ls), d) := by
  induction ls with
  | nil => rfl
  | cons l ls ih =>
    unfold findAny firstOf
    rw [eval_bind_ok (Handling.eval_find l d)]
    cases l.first d with
    | none => exact ih
    | some order => rfl

lemma body_eval_handle (hfirst : firstOf d w.lookups = some (p, r))
    (hjob : w.jobFor p r = some j) (hid : j.publicId = p) (hwritable : j.Writable)
    (hverdict : j.verdict r = .proceed) :
    ((w.handle.eval (fun _ => calm) d).2.orders.get p).map OrderRow.body =
      some (j.write.row r).body := by
  obtain ⟨d', heval, hbody⟩ :=
    Job.eval_run_proceed hwritable (hid ▸ get_of_firstOf hfirst) hverdict
  rw [hid] at hbody
  unfold jobFor at hjob
  split at hjob
  · rename_i happly
    cases hjob
    unfold handle
    rw [eval_tryCatch, eval_bind_ok (eval_findAny w.lookups d), hfirst]
    dsimp only
    rw [if_pos happly, eval_bind_ok heval]
    exact hbody
  · cases hjob

end Watch

/-! ### An order and its deposit -/

namespace Sample

/-- A database with one announced order. -/
def announcedDb : Db :=
  { Db.empty with orders := InsertionMap.empty.insert sampleId sampleInput.row }

def noHashes : Hashes := ⟨fun _ => [], fun _ => []⟩

/-- A deposit on Ethereum with the hashlock of the order. -/
def ethDeposit (sender txHash : Text) (orderId block : ℕ) : EthCreated where
  place := ⟨some block, some txHash, some 0⟩
  orderId := some orderId
  hashlock := some sampleInput.hashlock
  timelock := some 900
  deposit := ⟨sender, sampleInput.srcAsset, sampleInput.srcAmount⟩

/-- The deposit that the client has announced. -/
def ownDeposit : EthCreated := ethDeposit sampleInput.srcAddress "0xt7".toList 7 5

end Sample

end WaffleFinance.Coordinator

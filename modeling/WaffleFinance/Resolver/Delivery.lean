import Mathlib

/-!
# Delivery of events by the resolver's listeners

The listeners for Ethereum and for Soroban pass the events of the escrow contracts to handlers.
Both see events repeatedly, and both hold a set `processedEvents` against it.  `isDuplicate` enters
a key when the event is seen, before the handler is called.

On Ethereum a handler that throws is logged.  On Soroban it ends the poll, and the cursor stays
where it was, so that the event comes again; a second set, of the events that got through, is
consulted first.

What happened to an event at each sighting is kept in a log that the code does not have.
-/

namespace WaffleFinance.Resolver

inductive EventType where
  | created
  | claimed
  | refunded
  deriving DecidableEq

/-- What the decoder makes of an event of the contract. -/
inductive Decoded where
  | htlc (eventType : EventType)
  /-- `null`: the event is none of the three. -/
  | unknown
  /-- A `SorobanEventDecodeError`. -/
  | malformed
  deriving DecidableEq

/-- An event on a chain.  Its place in the ledger tells it from others of the transaction. -/
structure ChainEvent where
  ledger : ℕ
  place : ℕ
  txHash : ℕ
  firstTopic : ℕ
  decoded : Decoded
  deriving DecidableEq

/-- `dedupKey`. -/
abbrev DedupKey := ℕ × EventType

def dedupKey (e : ChainEvent) (eventType : EventType) : DedupKey := (e.txHash, eventType)

def dedupMaxSize : ℕ := 10000

/-- `isDuplicate`, with the set afterwards; the keys are in the order of insertion. -/
def isDuplicate (processed : List DedupKey) (key : DedupKey) : Bool × List DedupKey :=
  if key ∈ processed then (true, processed)
  else if dedupMaxSize ≤ processed.length then
    (false, processed.drop (dedupMaxSize / 2) ++ [key])
  else (false, processed ++ [key])

/-- What became of a sighting: `none` if the event was dropped, or whether the handler returned. -/
abbrev Log := List (ChainEvent × Option Bool)

def Succeeded (log : Log) (e : ChainEvent) : Prop := (e, some true) ∈ log

/-- At every sighting the event is passed to its handler, unless an earlier call succeeded. -/
def Faithful (log : Log) : Prop :=
  ∀ before e outcome after, log = before ++ (e, outcome) :: after →
    (outcome.isSome = true ↔ ¬ Succeeded before e)

/-- The guard that both listeners have before a handler. -/
structure Guard where
  processedEvents : List DedupKey
  log : Log

def Guard.initial : Guard := ⟨[], []⟩

def Guard.drop (g : Guard) (e : ChainEvent) : Guard := { g with log := g.log ++ [(e, none)] }

/-- The guard and, for an event that is let through, the call of the handler. -/
def Guard.dispatch (g : Guard) (e : ChainEvent) (eventType : EventType) (throws : Bool) : Guard :=
  let seen := isDuplicate g.processedEvents (dedupKey e eventType)
  if seen.1 then g.drop e
  else ⟨seen.2, g.log ++ [(e, some (!throws))]⟩

/-! ### The two listeners -/

/-- A log that a subscription brings, and whether the handler throws if it is called now. -/
structure Sighting where
  event : ChainEvent
  throws : Bool

/-- The callback of `watchEvent`, for one log.  The subscription brings the three events only. -/
def onLog (g : Guard) (x : Sighting) : Guard :=
  match x.event.decoded with
  | .htlc eventType => g.dispatch x.event eventType x.throws
  | _ => g

/-- The batches of the three subscriptions, one after the other. -/
def watch (g : Guard) (logs : List Sighting) : Guard := logs.foldl onLog g

/-- The key of the second set. -/
abbrev WindowKey := ℕ × ℕ × ℕ

def windowKey (e : ChainEvent) : WindowKey := (e.ledger, e.txHash, e.firstTopic)

def dedupWindowSize : ℕ := 500

/-- `_trackDedup`. -/
def trackDedup (dedupSet : List WindowKey) (key : WindowKey) : List WindowKey :=
  if key ∈ dedupSet then dedupSet
  else (if dedupWindowSize ≤ dedupSet.length then dedupSet.tail else dedupSet) ++ [key]

structure SorobanListener where
  guard : Guard
  dedupSet : List WindowKey
  /-- The number of events before the cursor. -/
  cursor : ℕ
  /-- Not in the code: the events that were entered in the second set. -/
  tracked : List ChainEvent

namespace SorobanListener

def track (s : SorobanListener) (e : ChainEvent) : SorobanListener :=
  { s with dedupSet := trackDedup s.dedupSet (windowKey e), tracked := s.tracked ++ [e] }

/-- The body of the loop, and whether it goes on. -/
def onEvent (s : SorobanListener) (x : Sighting) : Bool × SorobanListener :=
  if windowKey x.event ∈ s.dedupSet then
    match x.event.decoded with
    | .htlc _ => (true, { s with guard := s.guard.drop x.event })
    | _ => (true, s)
  else
    match x.event.decoded with
    | .unknown => if x.throws then (false, s) else (true, s.track x.event)
    | .malformed => (true, s.track x.event)
    | .htlc eventType =>
      let called := { s with guard := s.guard.dispatch x.event eventType x.throws }
      if (isDuplicate s.guard.processedEvents (dedupKey x.event eventType)).1 then (true, called)
      else if x.throws then (false, called)
      else (true, called.track x.event)

/-- The loop over a page. -/
def onEvents (s : SorobanListener) : List Sighting → Bool × SorobanListener
  | [] => (true, s)
  | x :: page => if (s.onEvent x).1 then (s.onEvent x).2.onEvents page else (false, (s.onEvent x).2)

end SorobanListener

/-- A poll: where the page starts, how many events there are on the chain, and which of the places
on the page make a handler throw.  A listener that was started again, or whose cursor could not be
stored, starts before its cursor; when the node has no events of that age any more, after it. -/
structure SorobanPoll where
  start : ℕ
  known : ℕ
  throws : ℕ → Bool

def pageLimit : ℕ := 100

/-- The events that a poll gets. -/
def SorobanPoll.page (chain : List ChainEvent) (p : SorobanPoll) : List Sighting :=
  (((chain.take p.known).drop p.start).take pageLimit).mapIdx fun i e => ⟨e, p.throws i⟩

/-- `fetchAndProcess`.  The cursor is that of the answer, unless the loop was left. -/
def fetchAndProcess (chain : List ChainEvent) (s : SorobanListener) (p : SorobanPoll) :
    SorobanListener :=
  let done := s.onEvents (p.page chain)
  if done.1 then { done.2 with cursor := p.start + (p.page chain).length } else done.2

def SorobanListener.initial (first : ℕ) : SorobanListener := ⟨Guard.initial, [], first, []⟩

def polls (chain : List ChainEvent) (s : SorobanListener) (ps : List SorobanPoll) :
    SorobanListener :=
  ps.foldl (fetchAndProcess chain) s

/-! ### What the guard gets right -/

/-- The handler returns, no other event with this key was seen, and if the event itself was seen,
its key is still in the set. -/
structure Guard.Sound (g : Guard) (e : ChainEvent) (eventType : EventType) (throws : Bool) :
    Prop where
  returns : throws = false
  own : ∀ r ∈ g.log, ∀ t, r.1.decoded = .htlc t → dedupKey r.1 t = dedupKey e eventType → r.1 = e
  kept : ∀ r ∈ g.log, r.1 = e → dedupKey e eventType ∈ g.processedEvents

/-- What the guard keeps along a run of sound sightings. -/
structure Guard.Kept (g : Guard) : Prop where
  faithful : Faithful g.log
  seen : ∀ r ∈ g.log, Succeeded g.log r.1
  keys : ∀ key ∈ g.processedEvents, ∃ r ∈ g.log, ∃ t, r.1.decoded = .htlc t ∧ dedupKey r.1 t = key

lemma faithful_nil : Faithful [] := by
  intro before e outcome after h
  simp at h

variable {e : ChainEvent}

lemma Faithful.concat {log : Log} (h : Faithful log) {outcome : Option Bool}
    (hlast : outcome.isSome = true ↔ ¬ Succeeded log e) : Faithful (log ++ [(e, outcome)]) := by
  intro before e' outcome' after heq
  rcases after.eq_nil_or_concat with rfl | ⟨after', r, rfl⟩
  · obtain ⟨rfl, hr⟩ := List.append_inj' heq rfl
    obtain ⟨rfl, rfl⟩ := Prod.mk.inj (List.singleton_injective hr)
    exact hlast
  · rw [List.concat_eq_append, ← List.cons_append, ← List.append_assoc] at heq
    exact h before e' outcome' after' (List.append_inj' heq rfl).1

lemma seen_concat {log : Log} (h : ∀ r ∈ log, Succeeded log r.1) {r : ChainEvent × Option Bool}
    (hr : Succeeded (log ++ [r]) r.1) : ∀ r' ∈ log ++ [r], Succeeded (log ++ [r]) r'.1 := by
  intro r' hr'
  rcases List.mem_append.1 hr' with hold | hnew
  · exact List.mem_append_left _ (h r' hold)
  · exact List.mem_singleton.1 hnew ▸ hr

lemma isDuplicate_fst (processed : List DedupKey) (key : DedupKey) :
    (isDuplicate processed key).1 = decide (key ∈ processed) := by
  unfold isDuplicate
  split_ifs with hmem hfull <;> simp [hmem]

lemma mem_isDuplicate {processed : List DedupKey} {key key' : DedupKey}
    (h : key' ∈ (isDuplicate processed key).2) : key' ∈ processed ∨ key' = key := by
  unfold isDuplicate at h
  split_ifs at h with hmem hfull
  · exact Or.inl h
  · rcases List.mem_append.1 h with h | h
    · exact Or.inl (List.mem_of_mem_drop h)
    · exact Or.inr (List.mem_singleton.1 h)
  · simpa using h

namespace Guard.Kept

variable {g : Guard} {e : ChainEvent} {eventType : EventType} {throws : Bool}

lemma initial : Guard.initial.Kept :=
  ⟨faithful_nil, fun _ h => by simp [Guard.initial] at h, fun _ h => by simp [Guard.initial] at h⟩

/-- An event that succeeded may be dropped. -/
lemma drop (h : g.Kept) (hs : Succeeded g.log e) : (g.drop e).Kept where
  faithful := h.faithful.concat (by simpa using hs)
  seen := seen_concat h.seen (List.mem_append_left _ hs)
  keys := fun key hkey => by
    obtain ⟨r, hr, hspec⟩ := h.keys key hkey
    exact ⟨r, List.mem_append_left _ hr, hspec⟩

/-- A key in the set is that of the event itself, which succeeded. -/
lemma succeeded (h : g.Kept) (hsound : g.Sound e eventType throws)
    (hmem : dedupKey e eventType ∈ g.processedEvents) : Succeeded g.log e := by
  obtain ⟨r, hr, t, hdec, hkey⟩ := h.keys _ hmem
  exact hsound.own r hr t hdec hkey ▸ h.seen r hr

lemma dispatch (h : g.Kept) (hdec : e.decoded = .htlc eventType)
    (hsound : g.Sound e eventType throws) :
    (g.dispatch e eventType throws).Kept ∧ Succeeded (g.dispatch e eventType throws).log e := by
  simp only [Guard.dispatch, isDuplicate_fst]
  by_cases hmem : dedupKey e eventType ∈ g.processedEvents
  · have hs := h.succeeded hsound hmem
    simp only [hmem, decide_true, if_true]
    exact ⟨h.drop hs, List.mem_append_left _ hs⟩
  have hnew : ¬ Succeeded g.log e := fun hs => hmem (hsound.kept _ hs rfl)
  simp only [hmem, decide_false, Bool.false_eq_true, if_false, hsound.returns, Bool.not_false]
  have hlast : Succeeded (g.log ++ [(e, some true)]) e :=
    List.mem_append_right _ (List.mem_singleton_self _)
  refine ⟨⟨h.faithful.concat (by simpa using hnew), seen_concat h.seen hlast, ?_⟩, hlast⟩
  intro key hkey
  rcases mem_isDuplicate hkey with hkey | rfl
  · obtain ⟨r, hr, hspec⟩ := h.keys key hkey
    exact ⟨r, List.mem_append_left _ hr, hspec⟩
  · exact ⟨_, hlast, eventType, hdec, rfl⟩

end Guard.Kept

variable {g : Guard}

lemma Guard.dispatch_log_mono {e' : ChainEvent} {eventType : EventType} {throws : Bool}
    (h : Succeeded g.log e') : Succeeded (g.dispatch e eventType throws).log e' := by
  unfold Guard.dispatch
  dsimp only
  split_ifs
  · exact List.mem_append_left _ h
  · exact List.mem_append_left _ h

/-- Every sighting is sound when it comes. -/
def WatchMeets (g : Guard) : List Sighting → Prop
  | [] => True
  | x :: logs =>
    (∀ t, x.event.decoded = .htlc t → g.Sound x.event t x.throws) ∧ WatchMeets (onLog g x) logs

lemma onLog_mono {x : Sighting} (h : Succeeded g.log e) : Succeeded (onLog g x).log e := by
  unfold onLog
  split
  · exact Guard.dispatch_log_mono h
  · exact h

lemma onLog_kept {x : Sighting} (h : g.Kept)
    (hsound : ∀ t, x.event.decoded = .htlc t → g.Sound x.event t x.throws) :
    (onLog g x).Kept ∧
      ∀ t, x.event.decoded = .htlc t → Succeeded (onLog g x).log x.event := by
  cases hdec : x.event.decoded with
  | htlc t =>
    have hstep := h.dispatch hdec (hsound t hdec)
    simpa [onLog, hdec] using hstep
  | unknown | malformed => simpa [onLog, hdec] using h

lemma watch_mono {logs : List Sighting} (h : Succeeded g.log e) :
    Succeeded (watch g logs).log e := by
  induction logs generalizing g with
  | nil => exact h
  | cons x logs ih => exact ih (onLog_mono h)

lemma watch_kept (h : g.Kept) {logs : List Sighting} (hm : WatchMeets g logs) :
    (watch g logs).Kept ∧ ∀ x ∈ logs, ∀ t, x.event.decoded = .htlc t →
      Succeeded (watch g logs).log x.event := by
  induction logs generalizing g with
  | nil => exact ⟨h, by simp⟩
  | cons x logs ih =>
    obtain ⟨hx, hm⟩ := hm
    obtain ⟨hkept, hdone⟩ := onLog_kept h hx
    obtain ⟨hkept', hrest⟩ := ih hkept hm
    refine ⟨hkept', fun y hy t hdec => ?_⟩
    rcases List.mem_cons.1 hy with rfl | hy
    · exact watch_mono (g := onLog g y) (hdone t hdec)
    · exact hrest y hy t hdec

/-! ### What a poll gets right -/

namespace SorobanListener

/-- Nothing throws, the key of the second set is the event's own, and if the second set does not
hold the event back, the guard is sound. -/
structure Meets (s : SorobanListener) (x : Sighting) : Prop where
  returns : x.throws = false
  own : ∀ e ∈ s.tracked, windowKey e = windowKey x.event → e = x.event
  sound : windowKey x.event ∉ s.dedupSet →
    ∀ t, x.event.decoded = .htlc t → s.guard.Sound x.event t x.throws

def PageMeets (s : SorobanListener) : List Sighting → Prop
  | [] => True
  | x :: page => s.Meets x ∧ (s.onEvent x).2.PageMeets page

structure Kept (s : SorobanListener) : Prop where
  guard : s.guard.Kept
  window : ∀ key ∈ s.dedupSet, ∃ e ∈ s.tracked, windowKey e = key
  tracked : ∀ e ∈ s.tracked, ∀ t, e.decoded = .htlc t → Succeeded s.guard.log e

/-- From `s` to `s'` nothing that succeeded is forgotten, and the cursor did not move. -/
structure Extends (s s' : SorobanListener) : Prop where
  succeeded : ∀ e, Succeeded s.guard.log e → Succeeded s'.guard.log e
  cursor : s'.cursor = s.cursor

lemma mem_trackDedup {dedupSet : List WindowKey} {key key' : WindowKey}
    (h : key' ∈ trackDedup dedupSet key) : key' ∈ dedupSet ∨ key' = key := by
  unfold trackDedup at h
  split_ifs at h with hmem hfull
  · exact Or.inl h
  · exact (List.mem_append.1 h).imp List.mem_of_mem_tail List.mem_singleton.1
  · exact (List.mem_append.1 h).imp_right List.mem_singleton.1

variable {s : SorobanListener}

lemma Kept.track (h : s.Kept) {e : ChainEvent}
    (he : ∀ t, e.decoded = .htlc t → Succeeded s.guard.log e) : (s.track e).Kept where
  guard := h.guard
  window := by
    intro key hkey
    rcases mem_trackDedup hkey with hkey | rfl
    · obtain ⟨e', he', hkey⟩ := h.window key hkey
      exact ⟨e', List.mem_append_left _ he', hkey⟩
    · exact ⟨e, List.mem_append_right _ (List.mem_singleton_self e), rfl⟩
  tracked := by
    intro e' he'
    rcases List.mem_append.1 he' with he' | he'
    · exact h.tracked e' he'
    · exact List.mem_singleton.1 he' ▸ he

/-- One event of a page. -/
lemma Kept.onEvent (h : s.Kept) {x : Sighting} (hm : s.Meets x) :
    (s.onEvent x).1 = true ∧ (s.onEvent x).2.Kept ∧ Extends s (s.onEvent x).2 ∧
      ∀ t, x.event.decoded = .htlc t → Succeeded (s.onEvent x).2.guard.log x.event := by
  have hsame : Extends s s := ⟨fun _ he => he, rfl⟩
  by_cases hwin : windowKey x.event ∈ s.dedupSet
  · -- The second set holds the event itself, so it succeeded.
    obtain ⟨e, he, hkey⟩ := h.window _ hwin
    obtain rfl := hm.own e he hkey
    cases hdec : x.event.decoded with
    | htlc t =>
      have hs := h.tracked _ he t hdec
      have hmono : ∀ e, Succeeded s.guard.log e → Succeeded (s.guard.drop x.event).log e :=
        fun _ he => List.mem_append_left _ he
      simp only [SorobanListener.onEvent, hwin, hdec, if_true]
      exact ⟨trivial, ⟨h.guard.drop hs, h.window, fun e he t ht => hmono e (h.tracked e he t ht)⟩,
        ⟨hmono, rfl⟩, fun _ _ => hmono _ hs⟩
    | _ => simpa [SorobanListener.onEvent, hwin, hdec] using ⟨h, hsame⟩
  · have hother : (∀ t, x.event.decoded ≠ .htlc t) →
        (s.track x.event).Kept ∧ Extends s (s.track x.event) :=
      fun hne => ⟨h.track fun t ht => absurd ht (hne t), ⟨fun _ he => he, rfl⟩⟩
    cases hdec : x.event.decoded with
    | htlc t =>
      obtain ⟨hguard, hs⟩ := h.guard.dispatch hdec (hm.sound hwin t hdec)
      have hmono : ∀ e, Succeeded s.guard.log e →
          Succeeded (s.guard.dispatch x.event t x.throws).log e :=
        fun _ he => Guard.dispatch_log_mono he
      have hcalled : Kept { s with guard := s.guard.dispatch x.event t x.throws } :=
        ⟨hguard, h.window, fun e he t ht => hmono e (h.tracked e he t ht)⟩
      simp only [SorobanListener.onEvent, hwin, hdec, if_false]
      rw [hm.returns] at hs hmono hcalled ⊢
      split
      · exact ⟨rfl, hcalled, ⟨hmono, rfl⟩, fun _ _ => hs⟩
      · exact ⟨rfl, hcalled.track fun _ _ => hs, ⟨hmono, rfl⟩, fun _ _ => hs⟩
    | unknown =>
      simpa [SorobanListener.onEvent, hwin, hdec, hm.returns] using hother (by simp [hdec])
    | malformed => simpa [SorobanListener.onEvent, hwin, hdec] using hother (by simp [hdec])

/-- A whole page. -/
lemma Kept.onEvents (h : s.Kept) {page : List Sighting} (hm : s.PageMeets page) :
    (s.onEvents page).1 = true ∧ (s.onEvents page).2.Kept ∧ Extends s (s.onEvents page).2 ∧
      ∀ x ∈ page, ∀ t, x.event.decoded = .htlc t →
        Succeeded (s.onEvents page).2.guard.log x.event := by
  induction page generalizing s with
  | nil => exact ⟨rfl, h, ⟨fun _ he => he, rfl⟩, by simp⟩
  | cons x page ih =>
    obtain ⟨hx, hm⟩ := hm
    obtain ⟨hgo, hkept, hext, hdone⟩ := h.onEvent hx
    obtain ⟨hgo', hkept', hext', hrest⟩ := ih hkept hm
    simp only [SorobanListener.onEvents, hgo, if_true]
    refine ⟨hgo', hkept', ⟨fun e he => hext'.succeeded e (hext.succeeded e he),
      hext'.cursor.trans hext.cursor⟩, fun y hy t hdec => ?_⟩
    rcases List.mem_cons.1 hy with rfl | hy
    · exact hext'.succeeded _ (hdone t hdec)
    · exact hrest y hy t hdec

/-- Every event before the cursor, from the first on, succeeded. -/
def Covered (chain : List ChainEvent) (first : ℕ) (s : SorobanListener) : Prop :=
  ∀ i e t, first ≤ i → i < s.cursor → chain[i]? = some e → e.decoded = .htlc t →
    Succeeded s.guard.log e

end SorobanListener

variable {chain : List ChainEvent}

lemma SorobanPoll.exists_sighting {p : SorobanPoll} {i : ℕ} (hstart : p.start ≤ i)
    (hend : i < p.start + (p.page chain).length) (he : chain[i]? = some e) :
    ∃ x ∈ p.page chain, x.event = e := by
  have hlt : i - p.start < (p.page chain).length := by omega
  refine ⟨_, List.getElem_mem hlt, ?_⟩
  obtain ⟨_, he⟩ := List.getElem?_eq_some_iff.1 he
  simp only [SorobanPoll.page, List.getElem_mapIdx, List.getElem_take, List.getElem_drop]
  simpa [Nat.add_sub_cancel' hstart] using he

/-- Each poll starts no later than the cursor, and meets what its page needs. -/
def PollsMeet (chain : List ChainEvent) (s : SorobanListener) : List SorobanPoll → Prop
  | [] => True
  | p :: ps => p.start ≤ s.cursor ∧ s.PageMeets (p.page chain) ∧
      PollsMeet chain (fetchAndProcess chain s p) ps

lemma fetchAndProcess_kept {first : ℕ} {s : SorobanListener} {p : SorobanPoll} (h : s.Kept)
    (hc : s.Covered chain first) (hstart : p.start ≤ s.cursor) (hm : s.PageMeets (p.page chain)) :
    (fetchAndProcess chain s p).Kept ∧ (fetchAndProcess chain s p).Covered chain first := by
  obtain ⟨hgo, hkept, hext, hdone⟩ := h.onEvents hm
  simp only [fetchAndProcess, hgo, if_true]
  refine ⟨⟨hkept.guard, hkept.window, hkept.tracked⟩, fun i e t hfirst hi he hdec => ?_⟩
  by_cases hpi : p.start ≤ i
  · obtain ⟨x, hx, rfl⟩ := SorobanPoll.exists_sighting hpi hi he
    exact hdone x hx t hdec
  · exact hext.succeeded e (hc i e t hfirst (by omega) he hdec)

lemma polls_kept {first : ℕ} {s : SorobanListener} (h : s.Kept) (hc : s.Covered chain first)
    {ps : List SorobanPoll} (hm : PollsMeet chain s ps) :
    (polls chain s ps).Kept ∧ (polls chain s ps).Covered chain first := by
  induction ps generalizing s with
  | nil => exact ⟨h, hc⟩
  | cons p ps ih =>
    obtain ⟨hstart, hpage, hm⟩ := hm
    obtain ⟨hkept, hcov⟩ := fetchAndProcess_kept h hc hstart hpage
    exact ih hkept hcov hm

lemma SorobanListener.initial_kept (first : ℕ) : (SorobanListener.initial first).Kept :=
  ⟨Guard.Kept.initial, by simp [SorobanListener.initial], by simp [SorobanListener.initial]⟩

/-- Where handlers return, keys belong to one event and a key is not forgotten while its event can
come again, both listeners pass each event on until it succeeded and not after that; each event that
Ethereum shows, and each on Soroban that the cursor is past, succeeded. -/
theorem resolver_delivery (logs : List Sighting) (hlogs : WatchMeets Guard.initial logs)
    (chain : List ChainEvent) (first : ℕ) (ps : List SorobanPoll)
    (hps : PollsMeet chain (SorobanListener.initial first) ps) :
    (Faithful (watch Guard.initial logs).log ∧
      ∀ x ∈ logs, ∀ t, x.event.decoded = .htlc t →
        Succeeded (watch Guard.initial logs).log x.event) ∧
    Faithful (polls chain (SorobanListener.initial first) ps).guard.log ∧
      (polls chain (SorobanListener.initial first) ps).Covered chain first := by
  obtain ⟨hwatch, hdone⟩ := watch_kept Guard.Kept.initial hlogs
  have hnone : (SorobanListener.initial first).Covered chain first :=
    fun i _ _ hfirst hi => absurd hi (not_lt.2 hfirst)
  obtain ⟨hkept, hcov⟩ := polls_kept (SorobanListener.initial_kept first) hnone hps
  exact ⟨⟨hwatch.faithful, hdone⟩, hkept.guard.faithful, hcov⟩

def lockedEvent : ChainEvent := ⟨7, 0, 41, 3, .htlc .created⟩

lemma lockedEvent_sound (h : ∀ r ∈ g.log, r.1 = lockedEvent)
    (hk : g.log ≠ [] → (41, .created) ∈ g.processedEvents) (t : EventType)
    (ht : lockedEvent.decoded = .htlc t) : g.Sound lockedEvent t false := by
  obtain rfl : EventType.created = t := Decoded.htlc.inj ht
  exact ⟨rfl, fun r hr _ _ _ => h r hr, fun r hr _ => hk (List.ne_nil_of_mem hr)⟩

/-- An event that comes twice, on both chains. -/
theorem resolver_delivery_sample :
    Faithful (watch Guard.initial [⟨lockedEvent, false⟩, ⟨lockedEvent, false⟩]).log ∧
      (polls [lockedEvent] (SorobanListener.initial 0)
        [⟨0, 1, fun _ => false⟩, ⟨0, 1, fun _ => false⟩]).Covered [lockedEvent] 0 := by
  have hsecond : ∀ r ∈ (onLog Guard.initial ⟨lockedEvent, false⟩).log, r.1 = lockedEvent := by
    decide
  have hwatch : WatchMeets Guard.initial [⟨lockedEvent, false⟩, ⟨lockedEvent, false⟩] :=
    ⟨lockedEvent_sound (by decide) (by decide), lockedEvent_sound hsecond (by decide), trivial⟩
  have hpolls : PollsMeet [lockedEvent] (SorobanListener.initial 0)
      [⟨0, 1, fun _ => false⟩, ⟨0, 1, fun _ => false⟩] := by
    refine ⟨by decide, ⟨⟨rfl, by decide, fun _ => lockedEvent_sound (by decide) (by decide)⟩,
      trivial⟩, by decide, ⟨⟨rfl, by decide, fun hnew => absurd ?_ hnew⟩, trivial⟩, trivial⟩
    decide
  have h := resolver_delivery _ hwatch [lockedEvent] 0 _ hpolls
  exact ⟨h.1.1, h.2.2⟩

/-- The handler throws at the first sighting.  On Ethereum the event is dropped when it comes again;
on Soroban the next poll drops it too, and moves the cursor past it. -/
theorem resolver_event_lost :
    (watch Guard.initial [⟨lockedEvent, true⟩, ⟨lockedEvent, false⟩]).log =
        [(lockedEvent, some false), (lockedEvent, none)] ∧
      (polls [lockedEvent] (SorobanListener.initial 0)
        [⟨0, 1, fun _ => true⟩, ⟨0, 1, fun _ => false⟩]).guard.log =
          [(lockedEvent, some false), (lockedEvent, none)] ∧
      (polls [lockedEvent] (SorobanListener.initial 0)
        [⟨0, 1, fun _ => true⟩, ⟨0, 1, fun _ => false⟩]).cursor = 1 ∧
      ¬ Faithful [(lockedEvent, some false), (lockedEvent, none)] := by
  refine ⟨by decide, by decide, by decide, fun h => ?_⟩
  have hlast := h [(lockedEvent, some false)] lockedEvent none [] rfl
  exact absurd (hlast.2 (by unfold Succeeded; decide)) (by decide)

end WaffleFinance.Resolver

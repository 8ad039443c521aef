import WaffleFinance.Coordinator.CrashRecovery

/-!
# The identity of Soroban events

The reconciler gives every event of the Soroban contract a key, `sorobanEventKey`, and deals with
each key once, over all its runs.  The contract has emitted a sequence of events, and an event is
a place in it.  A run reads a part of the sequence in pages.  The last part of the key is documented
as the index of the event within its transaction; the reconciler passes the place of the event
among those that the run has read so far.
-/

namespace WaffleFinance.Coordinator

open Reconciler

/-- The type under which an event is replayed. -/
def DecodedHtlcEvent.eventType : DecodedHtlcEvent → EventType
  | created .. => .orderCreated
  | claimed .. => .orderClaimed
  | refunded .. => .orderRefunded

namespace SorobanEvent

/-- The key of an event that is replayed. -/
def keyAt (ev : SorobanEvent) (eventIndex : ℕ) : Option EventKey :=
  ev.decoded.map fun decoded => ev.key decoded.eventType eventIndex

lemma key_entry (hashes : Hashes) (ev : SorobanEvent) (eventIndex : ℕ) :
    (ev.entry hashes eventIndex).map Entry.key = ev.keyAt eventIndex := by
  cases hdecoded : ev.decoded with
  | none => simp [entry, keyAt, hdecoded]
  | some decoded => cases decoded <;> simp [entry, keyAt, hdecoded, DecodedHtlcEvent.eventType]

lemma keyAt_eq_some (ev : SorobanEvent) (h : ev.decoded ≠ none) (eventIndex : ℕ) :
    ∃ key, ev.keyAt eventIndex = some key := by
  obtain ⟨decoded, hdecoded⟩ := Option.ne_none_iff_exists'.1 h
  exact ⟨_, by rw [keyAt, hdecoded]; rfl⟩

/-- Events of one type in one transaction. -/
def SameKind (ev ev' : SorobanEvent) : Prop :=
  ev.ledger = ev'.ledger ∧ ev.txHash = ev'.txHash ∧
    ev.decoded.map DecodedHtlcEvent.eventType = ev'.decoded.map DecodedHtlcEvent.eventType

lemma keyAt_eq_keyAt {ev ev' : SorobanEvent} {i i' : ℕ} {key key' : EventKey}
    (h : ev.keyAt i = some key) (h' : ev'.keyAt i' = some key') :
    key = key' ↔ i = i' ∧ ev.SameKind ev' := by
  obtain ⟨decoded, hdecoded, rfl⟩ := Option.map_eq_some_iff.1 h
  obtain ⟨decoded', hdecoded', rfl⟩ := Option.map_eq_some_iff.1 h'
  simp only [SameKind, hdecoded, hdecoded', SorobanEvent.key, sorobanEventKey, Option.map_some,
    Option.some.injEq, EventKey.soroban.injEq]
  tauto

end SorobanEvent

/-! ### Runs -/

/-- A run of the reconciler over the events that the contract has emitted: the place of the first
event that it reads, and its pages. -/
structure SorobanRun (emitted : List SorobanEvent) where
  first : ℕ
  pages : List (List SorobanEvent)
  fetched : pages.flatten <+: emitted.drop first

lemma mem_of_mem_fresh {e : Entry} {entries : List Entry} {seen : EventSeenSet}
    (h : e ∈ (fresh entries seen).1) : e ∈ entries := by
  induction entries generalizing seen with
  | nil => exact h
  | cons e' rest ih =>
    unfold fresh at h
    split at h
    · exact List.mem_cons_of_mem e' (ih h)
    · rcases List.mem_cons.1 h with rfl | h
      · exact List.mem_cons_self
      · exact List.mem_cons_of_mem e' (ih h)

lemma key_of_mem_sorobanEvents {hashes : Hashes} {e : Entry} {pages : List (List SorobanEvent)}
    {eventIndex : ℕ} {seen : EventSeenSet}
    (h : e ∈ sorobanEvents hashes pages eventIndex seen) :
    ∃ p ∈ pages.flatten.zipIdx eventIndex, p.1.keyAt p.2 = some e.key := by
  induction pages generalizing eventIndex seen with
  | nil => cases h
  | cons page rest ih =>
    rw [List.flatten_cons, List.zipIdx_append]
    have hpage : e ∈ (fresh (pageEntries hashes page eventIndex) seen).1 →
        ∃ p ∈ page.zipIdx eventIndex, p.1.keyAt p.2 = some e.key := by
      intro he
      obtain ⟨p, hp, hentry⟩ := List.mem_filterMap.1 (mem_of_mem_fresh he)
      exact ⟨p, hp, by rw [← SorobanEvent.key_entry hashes, hentry]; rfl⟩
    have hrest : e ∈ (fresh (pageEntries hashes page eventIndex) seen).1 ∨
        e ∈ sorobanEvents hashes rest (eventIndex + page.length)
          (fresh (pageEntries hashes page eventIndex) seen).2 := by
      unfold sorobanEvents at h
      dsimp only at h
      split_ifs at h
      · exact .inl h
      · exact List.mem_append.1 h
    rcases hrest with h | h
    · obtain ⟨p, hp, hkey⟩ := hpage h
      exact ⟨p, List.mem_append_left _ hp, hkey⟩
    · obtain ⟨p, hp, hkey⟩ := ih h
      exact ⟨p, List.mem_append_right _ hp, hkey⟩

namespace SorobanRun

variable {emitted : List SorobanEvent} (run run' : SorobanRun emitted)

/-- The key that a run computes for the event at a place, if it reads and replays it. -/
def keyOf (place : ℕ) : Option EventKey :=
  if run.first ≤ place then
    run.pages.flatten[place - run.first]?.bind fun ev => ev.keyAt (place - run.first)
  else none

/-- What `replaySorobanPages` claims in a run (`pursues_replaySorobanPages`) has the key of a
place. -/
lemma exists_keyOf {hashes : Hashes} {e : Entry} {seen : EventSeenSet}
    (h : e ∈ sorobanEvents hashes run.pages 0 seen) : ∃ place, run.keyOf place = some e.key := by
  obtain ⟨⟨ev, i⟩, hmem, hkey⟩ := key_of_mem_sorobanEvents h
  rw [List.mk_mem_zipIdx_iff_getElem?] at hmem
  exact ⟨run.first + i, by simp [keyOf, hmem, hkey]⟩

/-- A run reads the event at a place and replays it. -/
structure Replays (place : ℕ) (ev : SorobanEvent) : Prop where
  emitted : emitted[place]? = some ev
  from_first : run.first ≤ place
  to_last : place < run.first + run.pages.flatten.length
  decoded : ev.decoded ≠ none

lemma keyOf_eq_some {place : ℕ} {key : EventKey} : run.keyOf place = some key ↔
    ∃ ev, run.Replays place ev ∧ ev.keyAt (place - run.first) = some key := by
  have hread : run.first ≤ place → place - run.first < run.pages.flatten.length →
      run.pages.flatten[place - run.first]? = emitted[place]? := by
    intro hle hlt
    obtain ⟨rest, hrest⟩ := run.fetched
    have hsame : (run.pages.flatten ++ rest)[place - run.first]? = _ :=
      List.getElem?_append_left hlt
    rw [← hsame, hrest, List.getElem?_drop, Nat.add_sub_cancel' hle]
  unfold keyOf
  constructor
  · intro h
    split_ifs at h with hle
    obtain ⟨ev, hev, hkey⟩ := Option.bind_eq_some_iff.1 h
    have hlt := (List.getElem?_eq_some_iff.1 hev).1
    refine ⟨ev, ⟨(hread hle hlt).symm.trans hev, hle, by omega, fun hnone => ?_⟩, hkey⟩
    rw [SorobanEvent.keyAt, hnone] at hkey
    cases hkey
  · rintro ⟨ev, ⟨hev, hle, hlt, -⟩, hkey⟩
    rw [if_pos hle, hread hle (by omega), hev]
    exact hkey

/-- The keys of two runs tell the same event from different ones. -/
def Identify : Prop :=
  ∀ place place' key key', run.keyOf place = some key → run'.keyOf place' = some key' →
    (key = key' ↔ place = place')

/-- The runs begin at the same event; or they replay no event in common, and no two events of the
same type in one transaction have the same place among those that the runs read. -/
def Aligned : Prop :=
  run.first = run'.first ∨
    ∀ place place' ev ev', run.Replays place ev → run'.Replays place' ev' →
      place ≠ place' ∧ (ev.SameKind ev' → place - run.first ≠ place' - run'.first)

end SorobanRun

/-- **The identity of Soroban events.**  Two runs compute the same key for the same event and
different keys for different events exactly where they are aligned. -/
theorem soroban_event_identity_iff {emitted : List SorobanEvent} (run run' : SorobanRun emitted) :
    run.Identify run' ↔ run.Aligned run' := by
  constructor
  · intro h
    by_cases hfirst : run.first = run'.first
    · exact .inl hfirst
    refine .inr fun place place' ev ev' hev hev' => ?_
    obtain ⟨key, hat⟩ := ev.keyAt_eq_some hev.decoded (place - run.first)
    obtain ⟨key', hat'⟩ := ev'.keyAt_eq_some hev'.decoded (place' - run'.first)
    have hiff := h place place' key key' (run.keyOf_eq_some.2 ⟨ev, hev, hat⟩)
      (run'.keyOf_eq_some.2 ⟨ev', hev', hat'⟩)
    rw [SorobanEvent.keyAt_eq_keyAt hat hat'] at hiff
    -- the same event at two places of the count has two keys
    have hne : place ≠ place' := by
      rintro rfl
      have hsame := (hiff.2 rfl).1
      have hle := hev.from_first
      have hle' := hev'.from_first
      omega
    exact ⟨hne, fun hkind hplace => hne (hiff.1 ⟨hplace, hkind⟩)⟩
  · intro h place place' key key' hkey hkey'
    obtain ⟨ev, hev, hat⟩ := run.keyOf_eq_some.1 hkey
    obtain ⟨ev', hev', hat'⟩ := run'.keyOf_eq_some.1 hkey'
    rw [SorobanEvent.keyAt_eq_keyAt hat hat']
    rcases h with hfirst | hapart
    · constructor
      · rintro ⟨hplace, -⟩
        have hle := hev.from_first
        have hle' := hev'.from_first
        omega
      · rintro rfl
        obtain rfl := Option.some.inj (hev.emitted.symm.trans hev'.emitted)
        exact ⟨by rw [hfirst], rfl, rfl, rfl⟩
    · obtain ⟨hne, hplace⟩ := hapart place place' ev ev' hev hev'
      exact ⟨fun hsame => absurd hsame.1 (hplace hsame.2), fun hsame => absurd hsame hne⟩

/-- A claim, and two claims in one transaction of the next ledger. -/
def threeClaims : List SorobanEvent :=
  [⟨6, "a6".toList, "0".toList, some (.claimed 1 [] [])⟩,
    ⟨7, "a7".toList, "0".toList, some (.claimed 2 [] [])⟩,
    ⟨7, "a7".toList, "1".toList, some (.claimed 3 [] [])⟩]

/-- A run reads all of them, and the next one begins with the ledger 7: the last event has another
key than before, and it is the key that the one before it had. -/
theorem soroban_event_identity_lost :
    let early : SorobanRun threeClaims := ⟨0, [threeClaims], by simp⟩
    let late : SorobanRun threeClaims := ⟨1, [threeClaims.drop 1], by simp⟩
    ¬ early.Identify late ∧ early.keyOf 2 ≠ late.keyOf 2 ∧ early.keyOf 1 = late.keyOf 2 := by
  refine ⟨fun h => ?_, by decide +kernel, by decide +kernel⟩
  have hthird := h 2 2 (.soroban .orderClaimed 7 "a7".toList 2)
    (.soroban .orderClaimed 7 "a7".toList 1) (by decide +kernel) (by decide +kernel)
  exact absurd (hthird.2 rfl) (by decide +kernel)

end WaffleFinance.Coordinator

import WaffleFinance.Coordinator.RepositorySpec

/-!
# The trail tells the status

Every method of the repository that changes an order also adds a row to `order_events`, with the
status before and the status after.  Read from the beginning, the rows of an order form an unbroken
path from `announced` to the status that the table `orders` has, after any sequence of calls, in
which any statement may have failed.
-/

namespace WaffleFinance.Coordinator

open Lib

/-- The rows lead from one status to another without a break. -/
inductive Replays : List OrderEvent → OrderStatus → OrderStatus → Prop
  | nil (status : OrderStatus) : Replays [] status status
  | cons {e : OrderEvent} {es : List OrderEvent} {target : OrderStatus}
      (rest : Replays es e.toStatus target) : Replays (e :: es) e.fromStatus target

lemma replays_append {es : List OrderEvent} {e : OrderEvent} {source target : OrderStatus}
    (h : Replays es source target) (hfrom : e.fromStatus = target) :
    Replays (es ++ [e]) source e.toStatus := by
  induction h with
  | nil status =>
    rw [← hfrom]
    exact .cons (.nil _)
  | cons rest ih => exact .cons (ih hfrom)

/-- The trail of every order ends in its status; there is no trail without an order. -/
structure Faithful (d : Db) : Prop where
  replays : ∀ {p r}, d.orders.get p = some r → Replays (d.trail p) .announced r.status
  untold : ∀ {p}, d.orders.get p = none → d.trail p = []

lemma faithful_empty : Faithful Db.empty where
  replays h := by simp [Db.empty] at h
  untold _ := rfl

/-- A row may change when the trail says so. -/
lemma Faithful.put_append {d : Db} {p : Text} {r r' : OrderRow} {e : OrderEvent} (h : Faithful d)
    (hget : d.orders.get p = some r) (hid : e.publicId = p) (hfrom : e.fromStatus = r.status)
    (hto : e.toStatus = r'.status) : Faithful ((d.put p r').append e) where
  replays {q r''} hq := by
    rw [Db.orders_append] at hq
    rw [Db.trail_append, Db.trail_put, hid]
    by_cases hqp : q = p
    · subst hqp
      rw [Db.get_put_self hget] at hq
      cases hq
      rw [if_pos rfl, ← hto]
      exact replays_append (h.replays hget) hfrom
    · rw [Db.get_put_of_ne hqp] at hq
      rw [if_neg (Ne.symm hqp), List.append_nil]
      exact h.replays hq
  untold {q} hq := by
    rw [Db.orders_append] at hq
    rw [Db.trail_append, Db.trail_put, hid]
    have hqp : q ≠ p := by
      rintro rfl
      rw [Db.get_put_self hget] at hq
      exact absurd hq (by simp)
    rw [Db.get_put_of_ne hqp] at hq
    rw [if_neg (Ne.symm hqp), List.append_nil]
    exact h.untold hq

/-- An order that is new begins with an empty trail. -/
lemma Faithful.insert {d : Db} {p : Text} {r : OrderRow} (h : Faithful d)
    (hfresh : d.orders.get p = none) (hstatus : r.status = .announced) :
    Faithful { d with orders := d.orders.insert p r } where
  replays {q r'} hq := by
    rcases InsertionMap.eq_or_get_of_insert hq with ⟨rfl, rfl⟩ | hold
    · rw [hstatus]
      show Replays (d.trail q) .announced .announced
      rw [h.untold hfresh]
      exact .nil _
    · exact h.replays hold
  untold {q} hq := by
    have hqp : q ≠ p := by
      rintro rfl
      exact absurd hq (by simp)
    rw [InsertionMap.get_insert_of_ne _ hqp] at hq
    exact h.untold hq

/-! ### Calls of the repository -/

/-- A call of one of the nine methods. -/
inductive RepositoryCall where
  | announce (input : AnnounceOrderInput)
  | mutate (m : Mutation)

namespace RepositoryCall

/-- The database after a call. -/
def exec : RepositoryCall → Fate → Db → Db
  | announce input, fate, d => ((OrdersRepository.announce input).exec fate d).2
  | mutate m, fate, d => (m.program.exec fate d).2

/-- The database after a sequence of calls, each with its own failures. -/
def execAll (calls : List (RepositoryCall × Fate)) (d : Db) : Db :=
  calls.foldl (fun d c => c.1.exec c.2 d) d

end RepositoryCall

lemma Faithful.exec {d : Db} (h : Faithful d) (c : RepositoryCall) (fate : Fate) :
    Faithful (c.exec fate d) := by
  cases c with
  | announce input =>
    show Faithful ((OrdersRepository.announce input).exec fate d).2
    rcases exec_announce_snd input fate d with hsame | ⟨p, hfresh, hinsert⟩
    · rw [hsame]
      exact h
    · rw [hinsert]
      exact h.insert hfresh rfl
  | mutate m =>
    show Faithful (m.program.exec fate d).2
    rcases m.exec_snd fate d with hsame | ⟨r, e, hget, hid, hfrom, hto, hput⟩
    · rw [hsame]
      exact h
    · rw [hput]
      exact h.put_append hget hid hfrom hto

lemma Faithful.execAll {d : Db} (h : Faithful d) (calls : List (RepositoryCall × Fate)) :
    Faithful (RepositoryCall.execAll calls d) := by
  induction calls generalizing d with
  | nil => exact h
  | cons c calls ih => exact ih (h.exec c.1 c.2)

/-- After any sequence of calls, whatever failed in them, the trail of an order leads from
`announced` to the status that is stored. -/
theorem trail_replays_to_status (calls : List (RepositoryCall × Fate)) (publicId : Text)
    (row : OrderRow)
    (h : (RepositoryCall.execAll calls Db.empty).orders.get publicId = some row) :
    Replays ((RepositoryCall.execAll calls Db.empty).trail publicId) .announced row.status :=
  (faithful_empty.execAll calls).replays h

/-- The third statement finds the database busy. -/
def busyOnce : Fate := fun i => if i = 2 then some ⟨"SQLITE_BUSY".toList, none⟩ else none

/-- A lock that is recorded at the second try and rolled back, and a status that does not match. -/
def sampleCalls : List (RepositoryCall × Fate) :=
  [(.announce sampleInput, Fate.calm),
    (.mutate (.recordSrcLock ⟨sampleId, "7".toList, "0xt7".toList, 5, 900, none⟩), busyOnce),
    (.mutate (.setStatus sampleId .expired none (some .announced)), Fate.calm),
    (.mutate (.rollbackSrcLock sampleId none), Fate.calm)]

theorem trail_replays_after_rollback :
    ∃ row, (RepositoryCall.execAll sampleCalls Db.empty).orders.get sampleId = some row ∧
      Replays ((RepositoryCall.execAll sampleCalls Db.empty).trail sampleId) .announced
        row.status := by
  have hsome :
      ((RepositoryCall.execAll sampleCalls Db.empty).orders.get sampleId).isSome = true := by
    decide +kernel
  obtain ⟨row, hrow⟩ := Option.isSome_iff_exists.1 hsome
  exact ⟨row, hrow, trail_replays_to_status sampleCalls sampleId row hrow⟩

end WaffleFinance.Coordinator

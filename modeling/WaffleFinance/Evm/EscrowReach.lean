import WaffleFinance.Evm.EscrowOutcome

/-!
# Reachable states of the escrow: the discipline of the order ids

The ids of the orders are `1, 2, 3, …` in the order of their creation, so none is given out
twice.  An id that has not been given out refers to untouched storage, except that a refund may
have written its status; such an order is called blank.
-/

namespace WaffleFinance.Evm

open Lib

variable {P : Platform}

/-! ### The ids given out so far -/

/-- The id of the order whose creation an event announces. -/
def Event.createdId : Event → Option ℕ
  | .orderCreated orderId _ _ _ _ _ _ _ => some orderId
  | _ => none

/-- The ids that `createOrder` has returned so far, in the order of the calls. -/
def State.createdIds (s : State P) : List ℕ := s.log.filterMap Event.createdId

lemma createdId_of_mem_notice {p : Payout} {e : Event} (he : e ∈ p.notice) :
    e.createdId = none := by
  unfold Payout.notice at he
  split_ifs at he
  · rw [List.mem_singleton] at he
    subst he
    rfl
  · simp at he

lemma filterMap_createdId_notices (ps : List Payout) :
    (ps.flatMap Payout.notice).filterMap Event.createdId = [] := by
  rw [List.filterMap_eq_nil_iff]
  intro e he
  obtain ⟨p, -, hp⟩ := List.mem_flatMap.1 he
  exact createdId_of_mem_notice hp

variable {s s' : State P}

lemma Undisturbed.createdIds (h : Undisturbed s s') : s'.createdIds = s.createdIds := by
  rw [State.createdIds, h.log, State.createdIds]

variable {now : ℕ}

lemma Created.createdIds {msg : Msg P} {a : CreateArgs} (h : Created now msg a s s') :
    s'.createdIds = s.createdIds ++ [s.nextOrderId] := by
  rw [State.createdIds, h.log, List.filterMap_append, State.createdIds]
  rfl

lemma Settled.createdIds {orderId : ℕ} {o : Order} {ps : List Payout} {e : Event}
    (h : Settled orderId o ps e s s') (he : e.createdId = none) : s'.createdIds = s.createdIds := by
  rw [State.createdIds, h.log, List.filterMap_append, List.filterMap_append,
    filterMap_createdId_notices, State.createdIds]
  simp [he]

lemma Withdrew.createdIds {caller : Address} (h : Withdrew caller s s') :
    s'.createdIds = s.createdIds := by
  rw [State.createdIds, h.log, List.filterMap_append, State.createdIds]
  simp [Event.createdId]

lemma Outcome.mem_createdIds {a : Action P} (h : Outcome now a s s') {id : ℕ}
    (hid : id ∈ s.createdIds) : id ∈ s'.createdIds := by
  cases h with
  | quiet _ hu => exact hu.createdIds ▸ hid
  | created hc =>
    rw [hc.createdIds]
    exact List.mem_append_left _ hid
  | claimed _ _ hset | refunded _ _ hset => exact hset.createdIds rfl ▸ hid
  | withdrawn hw => exact hw.createdIds ▸ hid

/-! ### Blank orders -/

/-- Untouched storage, or storage that only a refund has written to. -/
def Order.Blank (o : Order) : Prop :=
  ∃ st t, st ≠ OrderStatus.claimed ∧ o = { status := st, finalisedAt := t }

lemma Order.blank_default : Order.Blank {} := ⟨.funded, 0, by simp, rfl⟩

lemma claimChecks_blank {o : Order} (ho : o.Blank) (now : ℕ) (preimage : Bytes) :
    claimChecks P now o preimage ≠ .ok () := by
  obtain ⟨st, t, -, rfl⟩ := ho
  intro h
  exact absurd (claimChecks_eq_ok.1 h).2.1 (Nat.not_lt_zero now)

lemma Order.Blank.refund {o : Order} (ho : o.Blank) (now : ℕ) : (o.refund now).Blank := by
  obtain ⟨st, t, -, rfl⟩ := ho
  exact ⟨.refunded, now % 2 ^ 64, by simp, rfl⟩

/-! ### The invariant -/

/-- The discipline of the ids after at most `k` calls. -/
structure Disciplined (k : ℕ) (s : State P) : Prop where
  guard : s.guard = P.guard.notEntered
  ids : ∃ n ≤ k, s.createdIds = List.range' 1 n ∧ s.nextOrderId = (n + 1) % 2 ^ 256
  blank : ∀ id, id ∉ s.createdIds → (s.orders id).Blank

variable {k : ℕ}

lemma Disciplined.mono {k' : ℕ} (h : Disciplined k s) (hk : k ≤ k') : Disciplined k' s := by
  obtain ⟨n, hn, hids, hnext⟩ := h.ids
  exact ⟨h.guard, ⟨n, hn.trans hk, hids, hnext⟩, h.blank⟩

lemma disciplined_deploy (d : Deployment) : Disciplined 0 (deploy d : State P) :=
  ⟨rfl, ⟨0, le_rfl, rfl, rfl⟩, fun _ _ => Order.blank_default⟩

lemma Disciplined.nextOrderId_eq (h : Disciplined k s) (hk : k + 1 < 2 ^ 256) :
    ∃ n ≤ k, s.createdIds = List.range' 1 n ∧ s.nextOrderId = n + 1 := by
  obtain ⟨n, hn, hids, hnext⟩ := h.ids
  exact ⟨n, hn, hids, by rw [hnext, Nat.mod_eq_of_lt (by omega)]⟩

lemma Disciplined.nextOrderId_fresh (h : Disciplined k s) (hk : k + 1 < 2 ^ 256) :
    s.nextOrderId ∉ s.createdIds := by
  obtain ⟨n, -, hids, hnext⟩ := h.nextOrderId_eq hk
  rw [hids, hnext, List.mem_range'_1]
  omega

lemma Disciplined.lt_of_mem (h : Disciplined k s) (hk : k < 2 ^ 256) {id : ℕ}
    (hid : id ∈ s.createdIds) : id < 2 ^ 256 := by
  obtain ⟨n, hn, hids, -⟩ := h.ids
  rw [hids, List.mem_range'_1] at hid
  omega

lemma Disciplined.mem_of_claim (h : Disciplined k s) {orderId : ℕ} {preimage : Bytes}
    (hc : claimChecks P now (s.orders orderId) preimage = .ok ()) : orderId ∈ s.createdIds := by
  by_contra hid
  exact claimChecks_blank (h.blank orderId hid) now preimage hc

lemma disciplined_outcome {a : Action P} (h : Disciplined k s) (hk : k + 1 < 2 ^ 256)
    (ho : Outcome now a s s') : Disciplined (k + 1) s' := by
  refine ⟨ho.guard.trans h.guard, ?_, ?_⟩
  · obtain ⟨n, hn, hids, hnext⟩ := h.nextOrderId_eq hk
    have hmod : n + 1 = (n + 1) % 2 ^ 256 := by rw [Nat.mod_eq_of_lt (by omega)]
    cases ho with
    | quiet _ hu =>
      exact ⟨n, by omega, hu.createdIds.trans hids, by rw [hu.nextOrderId, hnext, ← hmod]⟩
    | created hc =>
      refine ⟨n + 1, by omega, ?_, by rw [hc.nextOrderId, hnext]⟩
      rw [hc.createdIds, hids, hnext, List.range'_1_concat, Nat.add_comm 1 n]
    | claimed _ _ hset | refunded _ _ hset =>
      exact ⟨n, by omega, (hset.createdIds rfl).trans hids,
        by rw [hset.nextOrderId, hnext, ← hmod]⟩
    | withdrawn hw =>
      exact ⟨n, by omega, hw.createdIds.trans hids, by rw [hw.nextOrderId, hnext, ← hmod]⟩
  · intro id hid
    cases ho with
    | quiet _ hu =>
      rw [hu.createdIds] at hid
      rw [hu.orders]
      exact h.blank id hid
    | created hc =>
      rw [hc.createdIds, List.mem_append, List.mem_singleton, not_or] at hid
      rw [hc.orders, Function.update_of_ne hid.2]
      exact h.blank id hid.1
    | @claimed caller orderId preimage _ _ _ _ _ _ ps hchecks _ hset =>
      -- a blank order has the timelock `0` and is always expired
      rw [hset.createdIds rfl] at hid
      have hne : id ≠ orderId := by
        rintro rfl
        exact hid (h.mem_of_claim hchecks)
      rw [hset.orders, Function.update_of_ne hne]
      exact h.blank id hid
    | @refunded caller orderId _ _ _ _ _ _ ps _ _ hset =>
      -- the order may never have been created: the storage of an unknown id passes the checks
      rw [hset.createdIds rfl] at hid
      rw [hset.orders]
      by_cases hne : id = orderId
      · subst hne
        rw [Function.update_self]
        exact (h.blank id hid).refund now
      · rw [Function.update_of_ne hne]
        exact h.blank id hid
    | withdrawn hw =>
      rw [hw.createdIds] at hid
      rw [hw.orders]
      exact h.blank id hid

lemma disciplined_step (h : Disciplined k s) (hk : k + 1 < 2 ^ 256) (c : ℕ × Action P) :
    Disciplined (k + 1) ((escrow P).step s c) := by
  rcases Machine.step_cases (escrow P) s c with hstep | ⟨s', hok, hstep⟩
  · rw [hstep]
    exact h.mono (Nat.le_succ k)
  · rw [hstep]
    exact disciplined_outcome h hk (exec_outcome h.guard hok)

/-- The rule for invariants of the escrow: what holds after the constructor and is kept by every
outcome of a call from a disciplined state, holds at every point of every history. -/
theorem History.invariant {J : State P → Prop} (h : History P) (d : Deployment)
    (h₀ : J (deploy d))
    (hJ : ∀ {k now : ℕ} {a : Action P} {s s' : State P}, k + 1 < 2 ^ 256 → Disciplined k s →
      J s → Outcome now a s s' → J s')
    (n : ℕ) : ∃ k < 2 ^ 256, k ≤ n ∧ Disciplined k (h.stateAt d n) ∧ J (h.stateAt d n) := by
  have hlen : (h.calls.take n).length < 2 ^ 256 :=
    (List.length_take_le' n h.calls).trans_lt h.short
  have hrun := Machine.run_counted (M := escrow P) (N := (h.calls.take n).length)
    (I := fun k s => Disciplined k s ∧ J s) (s := deploy d) (n := 0)
    (fun k s c hk hs => by
      refine ⟨disciplined_step hs.1 (by omega) c, ?_⟩
      rcases Machine.step_cases (escrow P) s c with hstep | ⟨s', hok, hstep⟩
      · rw [hstep]
        exact hs.2
      · rw [hstep]
        exact hJ (by omega) hs.1 hs.2 (exec_outcome hs.1.guard hok))
    ⟨disciplined_deploy d, h₀⟩ (h.calls.take n) (by omega)
  rw [Nat.zero_add] at hrun
  exact ⟨_, hlen, List.length_take_le n h.calls, hrun⟩

lemma History.disciplined (h : History P) (d : Deployment) (n : ℕ) :
    ∃ k < 2 ^ 256, k ≤ n ∧ Disciplined k (h.stateAt d n) := by
  obtain ⟨k, hk, hkn, hdisc, -⟩ :=
    h.invariant (J := fun _ => True) d trivial (fun _ _ _ _ => trivial) n
  exact ⟨k, hk, hkn, hdisc⟩

lemma History.stateAt_succ_cases (h : History P) (d : Deployment) (n : ℕ) :
    h.stateAt d (n + 1) = h.stateAt d n ∨
      ∃ c k, h.calls[n]? = some c ∧ k + 1 < 2 ^ 256 ∧ Disciplined k (h.stateAt d n) ∧
        exec c.1 c.2 (h.stateAt d n) = .ok (h.stateAt d (n + 1)) ∧
        Outcome c.1 c.2 (h.stateAt d n) (h.stateAt d (n + 1)) := by
  rcases Machine.stateAt_succ_cases (escrow P) _ h.calls n with hsame | ⟨c, hcall, hok⟩
  · exact .inl hsame
  have hlt : n < h.calls.length := (List.getElem?_eq_some_iff.1 hcall).1
  have hshort := h.short
  obtain ⟨k, -, hkn, hd⟩ := h.disciplined d n
  exact .inr ⟨c, k, hcall, by omega, hd, hok, exec_outcome hd.guard hok⟩

lemma History.createdIds_mono (h : History P) (d : Deployment) {m n id : ℕ} (hmn : m ≤ n)
    (hid : id ∈ (h.stateAt d m).createdIds) : id ∈ (h.stateAt d n).createdIds := by
  induction n, hmn using Nat.le_induction with
  | base => exact hid
  | succ n _ ih =>
    rcases h.stateAt_succ_cases d n with hsame | ⟨c, k, -, -, -, -, hout⟩
    · exact hsame ▸ ih
    · exact hout.mem_createdIds ih

end WaffleFinance.Evm

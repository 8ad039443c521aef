import WaffleFinance.Evm.EscrowAvailability

/-!
# An order is settled exactly once

Seen on its own, an order stays as it was created until the first call that is a valid claim or a
valid refund of it, and that call, the *exit* of the order, decides for good what becomes of it and
who is paid (`Order.after`, `Order.paidBy`).

The escrow refines it (`History.follows`): what it has stored for an order and what it has paid
on account of it are at every point those of the first exit among the calls made since.
-/

namespace WaffleFinance.Evm

open Lib

variable {P : Platform}

/-! ### An order on its own -/

/-- The call that ends an order: its time, who made it, and for a claim the preimage. -/
inductive Exit where
  | claim (now : ℕ) (caller : Address) (preimage : Bytes)
  | refund (now : ℕ) (caller : Address)

/-- A claim of the order `id` with the terms `o` before its timelock, with a preimage. -/
def ValidClaim (P : Platform) (id : ℕ) (o : Order) (now orderId : ℕ) (preimage : Bytes) : Prop :=
  orderId = id ∧ now < o.timelock ∧ preimage.length = 32 ∧
    (P.sha256 preimage = o.hashlock ∨ P.keccak256 preimage = o.hashlock)

instance (P : Platform) (id : ℕ) (o : Order) (now orderId : ℕ) (preimage : Bytes) :
    Decidable (ValidClaim P id o now orderId preimage) :=
  inferInstanceAs (Decidable (_ ∧ _))

/-- A refund of the order `id` with the terms `o` after its timelock. -/
def ValidRefund (id : ℕ) (o : Order) (now orderId : ℕ) : Prop := orderId = id ∧ o.timelock < now

instance (id : ℕ) (o : Order) (now orderId : ℕ) : Decidable (ValidRefund id o now orderId) :=
  inferInstanceAs (Decidable (_ ∧ _))

/-- Whether a call ends the order `id` with the terms `o`.  An order in tokens only ends when
the token contract lets its transfer happen. -/
def exitOf (id : ℕ) (o : Order) : ℕ × Action P → Option Exit
  | (now, .claimOrder caller orderId preimage _ ok₁ _ _) =>
      if ValidClaim P id o now orderId preimage ∧ (o.token = 0 ∨ ok₁ = true) then
        some (.claim now caller preimage)
      else none
  | (now, .refundOrder caller orderId _ ok₁ _ _) =>
      if ValidRefund id o now orderId ∧ (o.token = 0 ∨ ok₁ = true) then
        some (.refund now caller)
      else none
  | _ => none

/-- What becomes of the order `o`. -/
def Order.after (P : Platform) (o : Order) : Option Exit → Order
  | none => o
  | some (.claim now _ preimage) => o.claim P now preimage
  | some (.refund now _) => o.refund now

/-- The payments that settle the order `o`, each with its token, its recipient and its amount. -/
def Order.payments (o : Order) (recipient caller : Address) : List (Address × Address × ℕ) :=
  (o.token, recipient, o.amount) ::
    if 0 < o.safetyDeposit then [(0, caller, o.safetyDeposit)] else []

/-- What is paid on account of the order `o`. -/
def Order.paidBy (o : Order) : Option Exit → List (Address × Address × ℕ)
  | none => []
  | some (.claim _ caller _) => o.payments o.beneficiary caller
  | some (.refund _ caller) => o.payments o.refundAddress caller

/-! ### What the escrow has paid -/

/-- What the escrow has paid or credited on account of the order `id`.  A payment of nothing,
which a refund of an order that was never created makes, does not count. -/
def State.paidFor (s : State P) (id : ℕ) : List (Address × Address × ℕ) :=
  (s.payouts.filter fun p => p.orderId = id ∧ p.amount ≠ 0).map
    fun p => (p.token, p.recipient, p.amount)

variable {s s' : State P} {ps : List Payout}

lemma State.paidFor_append (h : s'.payouts = s.payouts ++ ps) (id : ℕ) :
    s'.paidFor id = s.paidFor id ++
      (ps.filter fun p => p.orderId = id ∧ p.amount ≠ 0).map
        fun p => (p.token, p.recipient, p.amount) := by
  rw [State.paidFor, h, List.filter_append, List.map_append, State.paidFor]

variable {orderId : ℕ} {o : Order} {recipient caller : Address}

lemma Settlement.payments_eq (h : Settlement orderId o recipient caller ps) (ho : o.amount ≠ 0) :
    ((ps.filter fun p => p.orderId = orderId ∧ p.amount ≠ 0).map
      fun p => (p.token, p.recipient, p.amount)) = o.payments recipient caller := by
  obtain ⟨ch, ch', rfl⟩ := h.shape
  by_cases hd : 0 < o.safetyDeposit
  · simp [Order.payments, hd, ho, hd.ne']
  · simp [Order.payments, hd, ho]

variable {id : ℕ}

lemma Settlement.payments_other (h : Settlement orderId o recipient caller ps)
    (hid : orderId ≠ id) : (ps.filter fun p => p.orderId = id ∧ p.amount ≠ 0) = [] := by
  obtain ⟨ch, ch', rfl⟩ := h.shape
  by_cases hd : 0 < o.safetyDeposit
  · simp [hd, hid]
  · simp [hd, hid]

lemma Settlement.payments_blank (h : Settlement orderId o recipient caller ps) (ho : o.Blank) :
    (ps.filter fun p => p.orderId = id ∧ p.amount ≠ 0) = [] := by
  obtain ⟨ch, ch', rfl⟩ := h.shape
  obtain ⟨st, t, -, rfl⟩ := ho
  simp

lemma State.paidFor_congr (h : s'.payouts = s.payouts) (id : ℕ) : s'.paidFor id = s.paidFor id := by
  rw [State.paidFor, h, State.paidFor]

variable {now : ℕ}

/-- Nothing is paid on account of an order before it is created. -/
lemma Outcome.paidFor_uncreated {k : ℕ} {a : Action P} (_ : k + 1 < 2 ^ 256) (hd : Disciplined k s)
    (hs : ∀ id ∉ s.createdIds, s.paidFor id = []) (h : Outcome now a s s') :
    ∀ id ∉ s'.createdIds, s'.paidFor id = [] := by
  have hsettled : ∀ {orderId o recipient caller ps e}, Settled orderId o ps e s s' →
      Settlement orderId (s.orders orderId) recipient caller ps → e.createdId = none →
      ∀ id ∉ s'.createdIds, s'.paidFor id = [] := by
    intro orderId o recipient caller ps e hset hps he id hid
    rw [hset.createdIds he] at hid
    have hnone : (ps.filter fun p => p.orderId = id ∧ p.amount ≠ 0) = [] := by
      by_cases hne : orderId = id
      · exact hps.payments_blank (hd.blank orderId (hne ▸ hid))
      · exact hps.payments_other hne
    rw [State.paidFor_append hset.payouts, hs id hid, hnone]
    rfl
  cases h with
  | quiet _ hu =>
    intro id hid
    rw [State.paidFor_congr hu.payouts]
    exact hs id (hu.createdIds ▸ hid)
  | created hc =>
    intro id hid
    rw [hc.createdIds, List.mem_append, not_or] at hid
    rw [State.paidFor_congr hc.payouts]
    exact hs id hid.1
  | claimed _ hps hset | refunded _ hps hset => exact hsettled hset hps rfl
  | withdrawn hw =>
    intro id hid
    rw [State.paidFor_congr hw.payouts]
    exact hs id (hw.createdIds ▸ hid)

/-! ### The escrow follows the order -/

/-- The order that a call would settle. -/
def Action.target : Action P → Option ℕ
  | .claimOrder _ orderId _ _ _ _ _ => some orderId
  | .refundOrder _ orderId _ _ _ _ => some orderId
  | _ => none

variable {c : ℕ × Action P}

lemma exitOf_eq_none (o : Order) (h : c.2.target ≠ some id) : exitOf id o c = none := by
  obtain ⟨now, a⟩ := c
  cases a with
  | claimOrder caller orderId preimage inner₁ ok₁ inner₂ ok₂ =>
    exact if_neg fun hv => h (congrArg some hv.1.1)
  | refundOrder caller orderId inner₁ ok₁ inner₂ ok₂ =>
    exact if_neg fun hv => h (congrArg some hv.1.1)
  | _ => rfl

/-- The escrow has stored and paid for the order `id` with the terms `o` what its exit says. -/
structure Follows (id : ℕ) (o : Order) (e : Option Exit) (s : State P) : Prop where
  created : id ∈ s.createdIds
  order : s.orders id = o.after P e
  paid : s.paidFor id = o.paidBy e

/-- A call that neither creates an order nor aims at it leaves it alone. -/
lemma Outcome.frame {k : ℕ} {a : Action P} (h : Outcome now a s s') (hk : k + 1 < 2 ^ 256)
    (hd : Disciplined k s) (hid : id ∈ s'.createdIds → id ∈ s.createdIds)
    (ht : a.target ≠ some id) : s'.orders id = s.orders id ∧ s'.paidFor id = s.paidFor id := by
  cases h with
  | quiet _ hu => exact ⟨by rw [hu.orders], State.paidFor_congr hu.payouts id⟩
  | created hc =>
    have hne : id ≠ s.nextOrderId := by
      rintro rfl
      exact hd.nextOrderId_fresh hk (hid (by rw [hc.createdIds]; simp))
    exact ⟨by rw [hc.orders, Function.update_of_ne hne], State.paidFor_congr hc.payouts id⟩
  | @claimed _ orderId _ _ _ _ _ _ _ ps _ hps hset =>
    have hne : orderId ≠ id := fun heq => ht (congrArg some heq)
    refine ⟨by rw [hset.orders, Function.update_of_ne hne.symm], ?_⟩
    rw [State.paidFor_append hset.payouts, hps.payments_other hne]
    simp
  | @refunded _ orderId _ _ _ _ _ _ ps _ hps hset =>
    have hne : orderId ≠ id := fun heq => ht (congrArg some heq)
    refine ⟨by rw [hset.orders, Function.update_of_ne hne.symm], ?_⟩
    rw [State.paidFor_append hset.payouts, hps.payments_other hne]
    simp
  | withdrawn hw => exact ⟨by rw [hw.orders], State.paidFor_congr hw.payouts id⟩

lemma Order.after_some_status (e : Exit) : (o.after P (some e)).status ≠ .funded := by
  cases e <;> simp [Order.after, Order.claim, Order.refund]

lemma Settled.follows {o' : Order} {ev : Event} (hset : Settled id o' ps ev s s')
    (hps : Settlement id o recipient caller ps) (hev : ev.createdId = none) (ho : o.amount ≠ 0)
    (hf : Follows id o none s) {e : Exit} (horder : o' = o.after P (some e))
    (hpaid : o.payments recipient caller = o.paidBy (some e)) : Follows id o (some e) s' := by
  refine ⟨hset.createdIds hev ▸ hf.created, ?_, ?_⟩
  · rw [hset.orders, Function.update_self, horder]
  · rw [State.paidFor_append hset.payouts, hf.paid, hps.payments_eq ho, hpaid]
    rfl

/-- A call aimed at the order that goes through exactly when the order is funded and `V` holds
of it, and that ends the order with the exit `x`. -/
lemma Follows.step_aimed {e : Option Exit} {V : Order → Prop} [DecidablePred V] {x : Exit}
    (hf : Follows id o e s) (hfunded : o.status = .funded)
    (hiff : (∃ s', (escrow P).exec c s = .ok s') ↔
      (s.orders id).status = .funded ∧ V (s.orders id))
    (hexit : exitOf id o c = if V o then some x else none)
    (hdone : Follows id o none s → ∀ s', (escrow P).exec c s = .ok s' →
      Follows id o (some x) s') : Follows id o (e.or (exitOf id o c)) ((escrow P).step s c) := by
  rw [hf.order] at hiff
  cases e with
  | some e =>
    -- it has ended: the call is refused
    rw [Option.some_or, Machine.step_of_not_ok]
    · exact hf
    · exact fun hok => Order.after_some_status e (hiff.1 hok).1
  | none =>
    rw [Option.none_or, hexit]
    by_cases hv : V o
    · obtain ⟨s', hok⟩ := hiff.2 ⟨hfunded, hv⟩
      rw [Machine.step_of_ok hok, if_pos hv]
      exact hdone hf s' hok
    · rw [if_neg hv, Machine.step_of_not_ok]
      · exact hf
      · exact fun hok => hv (hiff.1 hok).2

/-- One call: the escrow goes on following the order. -/
lemma Follows.step {k : ℕ} {e : Option Exit} (hf : Follows id o e s) (hk : k + 1 < 2 ^ 256)
    (hd : Disciplined k s) (hs : Solvent s) (hfunded : o.status = .funded) (hamount : o.amount ≠ 0)
    (c : ℕ × Action P) : Follows id o (e.or (exitOf id o c)) ((escrow P).step s c) := by
  obtain ⟨now, a⟩ := c
  by_cases ht : a.target = some id
  swap
  · -- the call is not about this order
    rw [exitOf_eq_none o (c := (now, a)) ht, Option.or_none]
    rcases Machine.step_cases (escrow P) s (now, a) with hstep | ⟨s', hok, hstep⟩
    · rw [hstep]
      exact hf
    have hout := exec_outcome hd.guard hok
    obtain ⟨horder, hpaid⟩ := hout.frame hk hd (fun _ => hf.created) ht
    rw [hstep]
    exact ⟨hout.mem_createdIds hf.created, horder.trans hf.order, hpaid.trans hf.paid⟩
  cases a with
  | claimOrder caller orderId preimage inner₁ ok₁ inner₂ ok₂ =>
    obtain rfl : orderId = id := Option.some.inj ht
    have hq₁ := quiet_execAll (P := P) now inner₁ ok₁
    have hexec : (escrow P).exec
        (now, .claimOrder caller orderId preimage inner₁ ok₁ inner₂ ok₂) s
          = claimOrder now caller orderId preimage ⟨execAll now inner₁, ok₁⟩
            ⟨execAll now inner₂, ok₂⟩ s := by
      simp only [escrow, exec]
    refine hf.step_aimed hfunded
      (V := fun o => ValidClaim P orderId o now orderId preimage ∧ (o.token = 0 ∨ ok₁ = true))
      ?_ rfl fun hnone s' hok => ?_
    · rw [hexec, claimOrder_ok_iff hs hd (by omega) hq₁, claimChecks_eq_ok]
      simp only [ValidClaim, true_and, and_assoc]
    · rw [hexec] at hok
      obtain ⟨-, ps, hps, hset⟩ :=
        claimOrder_settled hq₁ (quiet_execAll now inner₂ ok₂) hd.guard hok
      have horder : s.orders orderId = o := hnone.order
      rw [horder] at hps hset
      exact hset.follows hps rfl hamount hnone rfl rfl
  | refundOrder caller orderId inner₁ ok₁ inner₂ ok₂ =>
    obtain rfl : orderId = id := Option.some.inj ht
    have hq₁ := quiet_execAll (P := P) now inner₁ ok₁
    have hexec : (escrow P).exec (now, .refundOrder caller orderId inner₁ ok₁ inner₂ ok₂) s
          = refundOrder now caller orderId ⟨execAll now inner₁, ok₁⟩
            ⟨execAll now inner₂, ok₂⟩ s := by
      simp only [escrow, exec]
    refine hf.step_aimed hfunded
      (V := fun o => ValidRefund orderId o now orderId ∧ (o.token = 0 ∨ ok₁ = true))
      ?_ rfl fun hnone s' hok => ?_
    · rw [hexec, refundOrder_ok_iff hs hd (by omega) hq₁, refundChecks_eq_ok]
      simp only [ValidRefund, true_and, and_assoc]
    · rw [hexec] at hok
      obtain ⟨-, ps, hps, hset⟩ :=
        refundOrder_settled hq₁ (quiet_execAll now inner₂ ok₂) hd.guard hok
      have horder : s.orders orderId = o := hnone.order
      rw [horder] at hps hset
      exact hset.follows hps rfl hamount hnone rfl rfl
  | _ => cases ht

/-! ### From the creation on -/

namespace History

variable (h : History P) (d : Deployment)

/-- The calls after the call `i` and before the call `n`. -/
def since (i n : ℕ) : List (ℕ × Action P) := (h.calls.take n).drop (i + 1)

lemma since_self (i : ℕ) : h.since i (i + 1) = [] := by
  simp [since]

variable {i : ℕ}

lemma since_succ {n : ℕ} (hn : i + 1 ≤ n) {c : ℕ × Action P} (hc : h.calls[n]? = some c) :
    h.since i (n + 1) = h.since i n ++ [c] := by
  have hlt : n < h.calls.length := (List.getElem?_eq_some_iff.1 hc).1
  rw [since, List.take_add_one, hc, List.drop_append_of_le_length (by simp; omega)]
  rfl

lemma since_succ_of_none {n : ℕ} (hc : h.calls[n]? = none) : h.since i (n + 1) = h.since i n := by
  rw [since, List.take_add_one, hc, since]
  simp

lemma since_length (i : ℕ) : h.since i h.calls.length = h.calls.drop (i + 1) := by
  rw [since, List.take_length]

variable {id : ℕ}

lemma paidFor_uncreated (n : ℕ) (hid : id ∉ (h.stateAt d n).createdIds) :
    (h.stateAt d n).paidFor id = [] := by
  obtain ⟨-, -, -, -, hs⟩ := h.invariant d (fun _ _ => rfl) Outcome.paidFor_uncreated n
  exact hs id hid

/-- The call `i` of the history is a call of `createOrder` that returned `id`. -/
def Creates (i id : ℕ) : Prop :=
  ∃ now msg args replies inner ok s',
    h.calls[i]? = some (now, .createOrder msg args replies inner ok) ∧
      createOrder now msg args replies ⟨execAll now inner, ok⟩ (h.stateAt d i) = .ok (id, s')

variable {h d}

/-- The effect of the call that creates an order. -/
lemma Creates.created (hc : h.Creates d i id) :
    id ∉ (h.stateAt d i).createdIds ∧ id = (h.stateAt d i).nextOrderId ∧
      ∃ now msg args, Created now msg args (h.stateAt d i) (h.stateAt d (i + 1)) := by
  obtain ⟨now, msg, args, replies, inner, ok, s', hcall, hret⟩ := hc
  obtain ⟨k, hk, hki, hd⟩ := h.disciplined d i
  have hlt : i < h.calls.length := (List.getElem?_eq_some_iff.1 hcall).1
  have hshort := h.short
  obtain ⟨hid, hcreated⟩ := createOrder_created (quiet_execAll now inner ok) hd.guard hret
  have hexec : (escrow P).exec (now, .createOrder msg args replies inner ok) (h.stateAt d i)
      = .ok s' := by
    simp only [escrow, exec, hret]
    rfl
  have hnext : h.stateAt d (i + 1) = s' := by
    rw [stateAt, Machine.stateAt_succ hcall]
    exact Machine.step_of_ok hexec
  rw [hnext]
  exact ⟨hid ▸ hd.nextOrderId_fresh (by omega), hid, now, msg, args, hcreated⟩

/-- What `createOrder` has written. -/
lemma Creates.order (hc : h.Creates d i id) :
    ((h.stateAt d (i + 1)).orders id).status = .funded ∧
      ((h.stateAt d (i + 1)).orders id).amount ≠ 0 ∧
      ((h.stateAt d (i + 1)).orders id).preimageKeccak = 0 := by
  obtain ⟨-, rfl, now, msg, args, hcreated⟩ := hc.created
  have hchecks := hcreated.checks
  simp only [createChecks, chain_eq_ok, failIf_eq_ok, exists_const] at hchecks
  rw [hcreated.orders, Function.update_self]
  exact ⟨rfl, hchecks.1, rfl⟩

/-- **The escrow follows the order** from its creation on: what is stored and what was paid is
at every point decided by the first exit among the calls made since. -/
theorem follows (hc : h.Creates d i id) {n : ℕ} (hn : i + 1 ≤ n) :
    let o := (h.stateAt d (i + 1)).orders id
    Follows id o ((h.since i n).findSome? (exitOf id o)) (h.stateAt d n) := by
  intro o
  obtain ⟨hfunded, hamount, -⟩ := hc.order
  induction n, hn using Nat.le_induction with
  | base =>
    rw [h.since_self]
    obtain ⟨hfresh, hid, now, msg, args, hcreated⟩ := hc.created
    refine ⟨?_, rfl, ?_⟩
    · rw [hcreated.createdIds, hid]
      simp
    · rw [State.paidFor_congr hcreated.payouts]
      exact h.paidFor_uncreated d i hfresh
  | succ n hn ih =>
    cases hcall : h.calls[n]? with
    | none =>
      rw [h.since_succ_of_none hcall, stateAt, Machine.stateAt_succ_of_none hcall]
      exact ih
    | some c =>
      obtain ⟨k, hk, hkn, hd⟩ := h.disciplined d n
      have hlt : n < h.calls.length := (List.getElem?_eq_some_iff.1 hcall).1
      have hshort := h.short
      rw [h.since_succ hn hcall, List.findSome?_append, stateAt, Machine.stateAt_succ hcall]
      have hlast : [c].findSome? (exitOf id o) = exitOf id o c := by simp
      rw [hlast]
      exact ih.step (by omega) hd (h.solvent d n) hfunded hamount c

end History

/-! ### The result -/

/-- A claim of the order `id` by `caller`, executed before the timelock with a preimage. -/
def ClaimCall (id : ℕ) (o : Order) (caller : Address) (c : ℕ × Action P) : Prop :=
  ∃ (sender : Caller P) (preimage : Bytes) (inner₁ inner₂ : List (Action P)) (ok₁ ok₂ : Bool),
    c.2 = .claimOrder sender id preimage inner₁ ok₁ inner₂ ok₂ ∧ sender.1 = caller ∧
      c.1 < o.timelock ∧ preimage.length = 32 ∧
      (P.sha256 preimage = o.hashlock ∨ P.keccak256 preimage = o.hashlock)

/-- A refund of the order `id` by `caller`, executed after the timelock. -/
def RefundCall (id : ℕ) (o : Order) (caller : Address) (c : ℕ × Action P) : Prop :=
  ∃ (sender : Caller P) (inner₁ inner₂ : List (Action P)) (ok₁ ok₂ : Bool),
    c.2 = .refundOrder sender id inner₁ ok₁ inner₂ ok₂ ∧ sender.1 = caller ∧ o.timelock < c.1

/-- The calls that an owner makes. -/
def Action.ownerCall : Action P → Bool
  | .setResolverRegistry .. | .transferOwnership .. | .acceptOwnership ..
  | .renounceOwnership .. => true
  | _ => false

/-- The fields of an order that its terms consist of are the same. -/
def Order.SameTerms (o o' : Order) : Prop :=
  o.sender = o'.sender ∧ o.beneficiary = o'.beneficiary ∧ o.refundAddress = o'.refundAddress ∧
    o.token = o'.token ∧ o.amount = o'.amount ∧ o.safetyDeposit = o'.safetyDeposit ∧
    o.hashlock = o'.hashlock ∧ o.timelock = o'.timelock ∧ o.createdAt = o'.createdAt

/-- A change of the status of an order is its settlement. -/
lemma Outcome.settles {k : ℕ} (h : Outcome c.1 c.2 s s') (hk : k + 1 < 2 ^ 256)
    (hd : Disciplined k s) (hid : id ∈ s.createdIds)
    (hne : (s'.orders id).status ≠ (s.orders id).status) :
    (s.orders id).status = .funded ∧ ∃ caller ps e, Settled id (s'.orders id) ps e s s' ∧
      (ClaimCall id (s.orders id) caller c ∧ (s'.orders id).status = .claimed ∧
          Settlement id (s.orders id) (s.orders id).beneficiary caller ps ∨
        RefundCall id (s.orders id) caller c ∧ (s'.orders id).status = .refunded ∧
          Settlement id (s.orders id) (s.orders id).refundAddress caller ps) := by
  obtain ⟨t, a⟩ := c
  by_cases ht : a.target = some id
  swap
  · exact absurd (congrArg Order.status (h.frame hk hd (fun _ => hid) ht).1) hne
  cases h with
  | quiet _ hu => exact absurd (by rw [hu.orders]) hne
  | created | withdrawn => cases ht
  | @claimed sender orderId preimage inner₁ inner₂ ok₁ ok₂ _ _ ps hchecks hps hset =>
    obtain rfl := Option.some.inj ht
    obtain ⟨hfunded, hvalid⟩ := claimChecks_eq_ok.1 hchecks
    have horder := congrFun hset.orders orderId
    rw [Function.update_self] at horder
    rw [horder]
    exact ⟨hfunded, sender, ps, _, hset, .inl
      ⟨⟨sender, preimage, inner₁, inner₂, ok₁, ok₂, rfl, rfl, hvalid⟩, rfl, hps⟩⟩
  | @refunded sender orderId inner₁ inner₂ ok₁ ok₂ _ _ ps hchecks hps hset =>
    obtain rfl := Option.some.inj ht
    obtain ⟨hfunded, hvalid⟩ := refundChecks_eq_ok.1 hchecks
    have horder := congrFun hset.orders orderId
    rw [Function.update_self] at horder
    rw [horder]
    exact ⟨hfunded, sender, ps, _, hset, .inr
      ⟨⟨sender, inner₁, inner₂, ok₁, ok₂, rfl, rfl, hvalid⟩, rfl, hps⟩⟩

lemma exitOf_claim {preimage : Bytes} (h : exitOf id o c = some (.claim now caller preimage)) :
    ClaimCall id o caller c := by
  obtain ⟨t, a⟩ := c
  cases a with
  | claimOrder sender orderId bytes inner₁ ok₁ inner₂ ok₂ =>
    rw [exitOf] at h
    split_ifs at h with hv
    cases h
    obtain ⟨⟨rfl, hvalid⟩, -⟩ := hv
    exact ⟨sender, preimage, inner₁, inner₂, ok₁, ok₂, rfl, rfl, hvalid⟩
  | refundOrder sender orderId inner₁ ok₁ inner₂ ok₂ =>
    rw [exitOf] at h
    split_ifs at h
    cases h
  | _ => cases h

lemma exitOf_refund (h : exitOf id o c = some (.refund now caller)) : RefundCall id o caller c := by
  obtain ⟨t, a⟩ := c
  cases a with
  | claimOrder sender orderId bytes inner₁ ok₁ inner₂ ok₂ =>
    rw [exitOf] at h
    split_ifs at h
    cases h
  | refundOrder sender orderId inner₁ ok₁ inner₂ ok₂ =>
    rw [exitOf] at h
    split_ifs at h with hv
    cases h
    obtain ⟨⟨rfl, hvalid⟩, -⟩ := hv
    exact ⟨sender, inner₁, inner₂, ok₁, ok₂, rfl, rfl, hvalid⟩
  | _ => cases h

lemma exitOf_ownerCall (h : c.2.ownerCall = true) : exitOf id o c = none := by
  obtain ⟨t, a⟩ := c
  cases a <;> first | rfl | cases h

lemma Order.sameTerms_after (P : Platform) (o : Order) (e : Option Exit) :
    (o.after P e).SameTerms o := by
  rcases e with _ | (_ | _) <;> exact ⟨rfl, rfl, rfl, rfl, rfl, rfl, rfl, rfl, rfl⟩

/-- What it means that the order `id`, created by the call `i` of a history, is settled exactly
once. -/
structure SettledOnce (h : History P) (d : Deployment) (i id : ℕ) : Prop where
  /-- A new order is funded. -/
  created : ((h.stateAt d (i + 1)).orders id).status = .funded
  /-- From then on its status changes at most once. -/
  once : ∀ {m n : ℕ}, i < m → i < n →
    ((h.stateAt d (m + 1)).orders id).status ≠ ((h.stateAt d m).orders id).status →
    ((h.stateAt d (n + 1)).orders id).status ≠ ((h.stateAt d n).orders id).status → m = n
  /-- A change is one from funded to claimed by a valid claim, or from funded to refunded by a
  valid refund.  The amount goes to the beneficiary or to the refund address and the safety deposit
  to the caller: what is pushed or transferred leaves the holdings of the escrow, the rest is
  credited. -/
  change : ∀ {n : ℕ}, i < n →
    let s := h.stateAt d n
    let s' := h.stateAt d (n + 1)
    (s'.orders id).status ≠ (s.orders id).status →
    (s.orders id).status = .funded ∧ ∃ c caller ps e, h.calls[n]? = some c ∧
      Settled id (s'.orders id) ps e s s' ∧
      (ClaimCall id (s.orders id) caller c ∧ (s'.orders id).status = .claimed ∧
          Settlement id (s.orders id) (s.orders id).beneficiary caller ps ∨
        RefundCall id (s.orders id) caller c ∧ (s'.orders id).status = .refunded ∧
          Settlement id (s.orders id) (s.orders id).refundAddress caller ps)
  /-- Nothing is paid before the order exists or while it is funded. -/
  unpaid : ∀ n, n ≤ i ∨ ((h.stateAt d n).orders id).status = .funded →
    (h.stateAt d n).paidFor id = []
  /-- Once it is claimed, the amount has been paid to the beneficiary and the safety deposit to
  the caller whose claim it was, and that is all. -/
  claimed : ∀ {n : ℕ}, i < n → ((h.stateAt d n).orders id).status = .claimed →
    ∃ m c caller, i < m ∧ m < n ∧ h.calls[m]? = some c ∧
      ClaimCall id ((h.stateAt d m).orders id) caller c ∧
      ((h.stateAt d m).orders id).status = .funded ∧
      ((h.stateAt d (m + 1)).orders id).status = .claimed ∧
      (h.stateAt d n).paidFor id = ((h.stateAt d n).orders id).payments
        ((h.stateAt d n).orders id).beneficiary caller
  /-- Once it is refunded, the amount has been paid to the refund address and the safety deposit
  to the caller whose refund it was, and that is all. -/
  refunded : ∀ {n : ℕ}, i < n → ((h.stateAt d n).orders id).status = .refunded →
    ∃ m c caller, i < m ∧ m < n ∧ h.calls[m]? = some c ∧
      RefundCall id ((h.stateAt d m).orders id) caller c ∧
      ((h.stateAt d m).orders id).status = .funded ∧
      ((h.stateAt d (m + 1)).orders id).status = .refunded ∧
      (h.stateAt d n).paidFor id = ((h.stateAt d n).orders id).payments
        ((h.stateAt d n).orders id).refundAddress caller
  /-- The terms never change. -/
  terms : ∀ {n : ℕ}, i < n →
    ((h.stateAt d n).orders id).SameTerms ((h.stateAt d (i + 1)).orders id)
  /-- A preimage is only ever stored for a claimed order. -/
  preimage : ∀ {n : ℕ}, i < n → ((h.stateAt d n).orders id).preimageKeccak ≠ 0 →
    ((h.stateAt d n).orders id).status = .claimed
  /-- Calls of the owner make no difference: a history that differs from this one only in the
  owner's calls after the creation leads to the same order and the same payments. -/
  owner : ∀ h' : History P, h'.calls.take (i + 1) = h.calls.take (i + 1) →
    (h'.calls.drop (i + 1)).filter (fun c => !c.2.ownerCall)
      = (h.calls.drop (i + 1)).filter (fun c => !c.2.ownerCall) →
    (h'.stateAt d h'.calls.length).orders id = (h.stateAt d h.calls.length).orders id ∧
      (h'.stateAt d h'.calls.length).paidFor id = (h.stateAt d h.calls.length).paidFor id

namespace History.Creates

variable {h : History P} {d : Deployment} {i id n : ℕ}

/-- The exit of an order among the calls made before the call `n`. -/
def exitBy (h : History P) (d : Deployment) (i id n : ℕ) : Option Exit :=
  (h.since i n).findSome? (exitOf id ((h.stateAt d (i + 1)).orders id))

lemma order_eq (hc : h.Creates d i id) (hn : i < n) :
    (h.stateAt d n).orders id = ((h.stateAt d (i + 1)).orders id).after P (exitBy h d i id n) :=
  (follows hc hn).order

lemma paid_eq (hc : h.Creates d i id) (hn : i < n) :
    (h.stateAt d n).paidFor id = ((h.stateAt d (i + 1)).orders id).paidBy (exitBy h d i id n) :=
  (follows hc hn).paid

lemma exitBy_succ (d : Deployment) (id : ℕ) (hn : i < n) {c : ℕ × Action P}
    (hcall : h.calls[n]? = some c) :
    exitBy h d i id (n + 1)
      = (exitBy h d i id n).or (exitOf id ((h.stateAt d (i + 1)).orders id) c) := by
  rw [exitBy, h.since_succ hn hcall, List.findSome?_append]
  simp [exitBy]

/-- The order and the payments made for it, from the creation on. -/
def life (h : History P) (d : Deployment) (i id k : ℕ) : Order × List (Address × Address × ℕ) :=
  ((h.stateAt d (i + 1 + k)).orders id, (h.stateAt d (i + 1 + k)).paidFor id)

lemma life_of_lt (hn : i < n) :
    life h d i id (n - (i + 1)) = ((h.stateAt d n).orders id, (h.stateAt d n).paidFor id) := by
  rw [life, Nat.add_sub_cancel' hn]

lemma life_succ_of_lt (hn : i < n) :
    life h d i id (n - (i + 1) + 1)
      = ((h.stateAt d (n + 1)).orders id, (h.stateAt d (n + 1)).paidFor id) := by
  rw [life, ← Nat.add_assoc, Nat.add_sub_cancel' hn]

/-- An order changes only by its exit, and with it the payments are made. -/
lemma closing (hc : h.Creates d i id) :
    Closing (fun v => v.1.status = .funded)
      (fun k v v' => ∃ c e, h.calls[i + 1 + k]? = some c ∧ exitOf id v.1 c = some e ∧
        v' = (v.1.after P (some e), v.1.paidBy (some e))) (life h d i id) := by
  intro k
  have hn : i < i + 1 + k := by omega
  have hn' : i < i + 1 + (k + 1) := by omega
  cases hcall : h.calls[i + 1 + k]? with
  | none =>
    refine .inl ?_
    rw [life, life, ← Nat.add_assoc, stateAt, Machine.stateAt_succ_of_none hcall, stateAt]
  | some c =>
    have hsucc := exitBy_succ d id hn hcall
    rw [life, life, hc.order_eq hn, hc.paid_eq hn, hc.order_eq hn', hc.paid_eq hn',
      ← Nat.add_assoc, hsucc]
    cases hprev : exitBy h d i id (i + 1 + k) with
    | some e =>
      -- the order has ended before
      exact .inl (by rw [Option.some_or])
    | none =>
      rw [Option.none_or]
      cases hexit : exitOf id ((h.stateAt d (i + 1)).orders id) c with
      | none => exact .inl rfl
      | some e =>
        exact .inr ⟨hc.order.1, Order.after_some_status e, c, e, hcall, hexit, rfl⟩

/-- A change of the status is a change. -/
lemma life_ne (hn : i < n)
    (hstatus : ((h.stateAt d (n + 1)).orders id).status ≠ ((h.stateAt d n).orders id).status) :
    life h d i id (n - (i + 1) + 1) ≠ life h d i id (n - (i + 1)) := by
  rw [life_of_lt hn, life_succ_of_lt hn]
  intro heq
  exact hstatus (congrArg (fun v => v.1.status) heq)

lemma paidFor_of_funded (hc : h.Creates d i id) (hn : i < n)
    (hstatus : ((h.stateAt d n).orders id).status = .funded) :
    (h.stateAt d n).paidFor id = [] := by
  have hopen := hc.closing.eq_of_open (n := n - (i + 1)) (by rw [life_of_lt hn]; exact hstatus)
  rw [life_of_lt hn] at hopen
  have hfirst : (h.stateAt d (i + 1)).paidFor id = [] := by
    rw [hc.paid_eq (Nat.lt_succ_self i), exitBy, h.since_self]
    rfl
  exact (congrArg Prod.snd hopen).trans hfirst

/-- An order that is not funded any more was ended by one of the calls, before which it was as it
was created. -/
lemma ended (hc : h.Creates d i id) (hn : i < n)
    (hstatus : ((h.stateAt d n).orders id).status ≠ .funded) :
    ∃ m c e, i < m ∧ m < n ∧ h.calls[m]? = some c ∧
      exitOf id ((h.stateAt d m).orders id) c = some e ∧
      ((h.stateAt d m).orders id).status = .funded ∧
      ((h.stateAt d (m + 1)).orders id).status = ((h.stateAt d n).orders id).status ∧
      (h.stateAt d n).orders id = ((h.stateAt d (i + 1)).orders id).after P (some e) ∧
      (h.stateAt d n).paidFor id = ((h.stateAt d (i + 1)).orders id).paidBy (some e) := by
  obtain ⟨k, hk, hbefore, hafter, c, e, hcall, hexit, heq⟩ :=
    hc.closing.exists_of_closed hc.order.1 (n := n - (i + 1)) (by rw [life_of_lt hn]; exact hstatus)
  rw [life_of_lt hn] at hafter heq
  obtain ⟨horder, hpaid⟩ := Prod.mk.inj heq
  have hsame : (h.stateAt d (i + 1 + k)).orders id = (h.stateAt d (i + 1)).orders id :=
    congrArg Prod.fst hbefore
  exact ⟨i + 1 + k, c, e, by omega, by omega, hcall, hsame ▸ hexit, hsame ▸ hc.order.1,
    congrArg (fun v => v.1.status) hafter, horder, hpaid⟩

lemma findSome?_filter_ownerCall (o : Order) (cs : List (ℕ × Action P)) :
    (cs.filter fun c => !c.2.ownerCall).findSome? (exitOf id o) = cs.findSome? (exitOf id o) := by
  induction cs with
  | nil => rfl
  | cons c cs ih =>
    cases howner : c.2.ownerCall with
    | true =>
      rw [List.filter_cons_of_neg (by simp [howner]), ih, List.findSome?_cons,
        exitOf_ownerCall howner]
    | false =>
      rw [List.filter_cons_of_pos (by simp [howner]), List.findSome?_cons, List.findSome?_cons, ih]

lemma stateAt_congr {h' : History P} {m : ℕ} (htake : h'.calls.take n = h.calls.take n)
    (hm : m ≤ n) : h'.stateAt d m = h.stateAt d m := by
  have hcalls : h'.calls.take m = h.calls.take m := by
    rw [← Nat.min_eq_left hm, ← List.take_take, htake, List.take_take]
  rw [stateAt, stateAt, Machine.stateAt, Machine.stateAt, hcalls]

lemma lt_length (hc : h.Creates d i id) : i < h.calls.length := by
  obtain ⟨now, msg, args, replies, inner, ok, s', hcall, -⟩ := hc
  exact (List.getElem?_eq_some_iff.1 hcall).1

/-- A history that starts alike creates the same order. -/
lemma congr {h' : History P} (hc : h.Creates d i id)
    (htake : h'.calls.take (i + 1) = h.calls.take (i + 1)) : h'.Creates d i id := by
  have hi : h'.calls[i]? = h.calls[i]? := by
    rw [← List.getElem?_take_of_lt (Nat.lt_succ_self i), htake,
      List.getElem?_take_of_lt (Nat.lt_succ_self i)]
  obtain ⟨now, msg, args, replies, inner, ok, s', hcall, hret⟩ := hc
  refine ⟨now, msg, args, replies, inner, ok, s', hi.trans hcall, ?_⟩
  rw [stateAt_congr htake (Nat.le_succ i)]
  exact hret

end History.Creates

/-- **Exactly-once settlement.**  Every order that a call of a history has created is settled
exactly once. -/
theorem exactly_once_settlement {h : History P} {d : Deployment} {i id : ℕ}
    (hc : h.Creates d i id) : SettledOnce h d i id where
  created := hc.order.1
  once := by
    intro m n hm hn hchange hchange'
    have huniq := hc.closing.change_unique (History.Creates.life_ne hm hchange)
      (History.Creates.life_ne hn hchange')
    omega
  change := by
    intro n hn s s' hne
    rcases h.stateAt_succ_cases d n with hsame | ⟨c, k, hcall, hk, hd, -, hout⟩
    · exact absurd (congrArg (fun s => (s.orders id).status) hsame) hne
    · obtain ⟨hfunded, caller, ps, e, hset, hby⟩ :=
        hout.settles hk hd (History.follows hc hn).created hne
      exact ⟨hfunded, c, caller, ps, e, hcall, hset, hby⟩
  unpaid := by
    intro n hn
    by_cases hin : i < n
    · exact hc.paidFor_of_funded hin (hn.resolve_left (by omega))
    · refine h.paidFor_uncreated d n fun hmem => hc.created.1 ?_
      exact h.createdIds_mono d (by omega) hmem
  claimed := by
    intro n hn hstatus
    obtain ⟨m, c, e, him, hmn, hcall, hexit, hbefore, hafter, horder, hpaid⟩ :=
      hc.ended hn (by rw [hstatus]; decide)
    cases e with
    | refund now caller =>
      rw [horder] at hstatus
      cases hstatus
    | claim now caller preimage =>
      refine ⟨m, c, caller, him, hmn, hcall, exitOf_claim hexit, hbefore, hafter.trans hstatus, ?_⟩
      rw [hpaid, horder]
      rfl
  refunded := by
    intro n hn hstatus
    obtain ⟨m, c, e, him, hmn, hcall, hexit, hbefore, hafter, horder, hpaid⟩ :=
      hc.ended hn (by rw [hstatus]; decide)
    cases e with
    | claim now caller preimage =>
      rw [horder] at hstatus
      cases hstatus
    | refund now caller =>
      refine ⟨m, c, caller, him, hmn, hcall, exitOf_refund hexit, hbefore, hafter.trans hstatus, ?_⟩
      rw [hpaid, horder]
      rfl
  terms := by
    intro n hn
    rw [hc.order_eq hn]
    exact Order.sameTerms_after P _ _
  preimage := by
    intro n hn hne
    rw [hc.order_eq hn] at hne ⊢
    generalize History.Creates.exitBy h d i id n = e at hne ⊢
    rcases e with _ | (⟨now, caller, preimage⟩ | ⟨now, caller⟩)
    · exact absurd hc.order.2.2 hne
    · rfl
    · exact absurd hc.order.2.2 hne
  owner := by
    intro h' htake hfilter
    have hc' := hc.congr htake
    have hexit : History.Creates.exitBy h' d i id h'.calls.length
        = History.Creates.exitBy h d i id h.calls.length := by
      rw [History.Creates.exitBy, History.Creates.exitBy,
        History.Creates.stateAt_congr htake le_rfl, h'.since_length, h.since_length,
        ← History.Creates.findSome?_filter_ownerCall, hfilter,
        History.Creates.findSome?_filter_ownerCall]
    rw [hc.order_eq hc.lt_length, hc'.order_eq hc'.lt_length, hc.paid_eq hc.lt_length,
      hc'.paid_eq hc'.lt_length, hexit, History.Creates.stateAt_congr htake le_rfl]
    exact ⟨rfl, rfl⟩

/-- The sample order in ETH is settled once, by the claim. -/
theorem exactly_once_settlement_sample :
    SettledOnce Sample.history Sample.deployment 0 1 ∧
      (Sample.history.stateAt Sample.deployment 4).paidFor 1 = [(0, 2, 10), (0, 2, 3)] :=
  ⟨exactly_once_settlement ⟨1000, _, _, _, _, _, _, rfl, rfl⟩, by decide +kernel⟩

end WaffleFinance.Evm

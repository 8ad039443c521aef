import WaffleFinance.Evm.EscrowReach
import WaffleFinance.Lib.Totals

/-!
# The escrow is solvent

What the escrow owes is the ETH and the tokens of the orders that are still funded, and the
credits of the accounts whose push failed.  `Solvent` says that its ETH is exactly what it
owes and that of every exact token it has at least what it owes.
-/

namespace WaffleFinance.Evm

open Lib

variable {P : Platform}

/-- The keys of the mapping of orders. -/
def orderIds : Finset ℕ := Finset.range (2 ^ 256)

/-- The ETH that is locked in an order. -/
def Order.ethOwed (o : Order) : ℕ := if o.status = .funded then o.eth else 0

/-- The amount of the token `t` that is locked in an order. -/
def Order.tokenOwed (t : Address) (o : Order) : ℕ :=
  if o.status = .funded ∧ o.token = t then o.amount else 0

/-- The escrow can pay everything that it owes. -/
structure Solvent (s : State P) : Prop where
  eth : s.balance = ∑ id ∈ orderIds, (s.orders id).ethOwed + ∑ a, s.pendingWithdrawals a
  word : s.balance < 2 ^ 256
  tokens : ∀ t, t ≠ 0 → P.exact t → ∑ id ∈ orderIds, (s.orders id).tokenOwed t ≤ s.held t

/-! ### What a settlement pays -/

lemma Payout.WellRouted.pushed_add_credit {p : Payout} (hp : p.WellRouted) :
    p.pushed + ∑ a, p.credit a = if p.token = 0 then p.amount else 0 := by
  obtain ⟨orderId, token, recipient, amount, channel⟩ := p
  cases channel with
  | transferred =>
    have htoken : token ≠ 0 := by simpa [Payout.WellRouted] using hp
    simp [Payout.pushed, Payout.credit, htoken]
  | _ =>
    have htoken : token = 0 := by simpa [Payout.WellRouted] using hp
    simp [Payout.pushed, Payout.credit, htoken]

lemma pushed_add_credits {ps : List Payout} (hps : ∀ p ∈ ps, p.WellRouted) :
    (ps.map Payout.pushed).sum + ∑ a, (ps.map (·.credit a)).sum
      = (ps.map fun p => if p.token = 0 then p.amount else 0).sum := by
  induction ps with
  | nil => simp
  | cons p ps ih =>
    have hp := (hps p (by simp)).pushed_add_credit
    have hrest := ih fun q hq => hps q (by simp [hq])
    simp only [List.map_cons, List.sum_cons, Finset.sum_add_distrib]
    omega

namespace Settlement

variable {orderId : ℕ} {o : Order} {recipient caller : Address} {ps : List Payout}

/-- A settlement is worth the ETH of the order. -/
lemma eth (h : Settlement orderId o recipient caller ps) :
    (ps.map Payout.pushed).sum + ∑ a, (ps.map (·.credit a)).sum = o.eth := by
  rw [pushed_add_credits h.routed]
  obtain ⟨ch, ch', rfl⟩ := h.shape
  unfold Order.eth
  split_ifs with hd htoken htoken
  · simp [htoken]
  · simp [htoken]
  · simp [htoken]
    omega
  · simp [htoken]
    omega

/-- A settlement moves the tokens of the order and no others. -/
lemma tokens (h : Settlement orderId o recipient caller ps) {t : Address} (ht : t ≠ 0) :
    (ps.map (·.tokens P t)).sum ≤ if o.token = t then o.amount else 0 := by
  obtain ⟨ch, ch', rfl⟩ := h.shape
  have hfirst : (⟨orderId, o.token, recipient, o.amount, ch⟩ : Payout).tokens P t
      ≤ if o.token = t then o.amount else 0 := by
    simp only [Payout.tokens]
    split_ifs <;> simp_all
  by_cases hd : 0 < o.safetyDeposit
  · simpa [hd, Payout.tokens, Ne.symm ht] using hfirst
  · simpa [hd] using hfirst

end Settlement

/-! ### What is owed for one order -/

variable {o : Order}

lemma Order.ethOwed_of_funded (h : o.status = .funded) : o.ethOwed = o.eth :=
  if_pos h

lemma Order.ethOwed_of_ne (h : o.status ≠ .funded) : o.ethOwed = 0 := if_neg h

lemma Order.tokenOwed_of_funded (h : o.status = .funded) (t : Address) :
    o.tokenOwed t = if o.token = t then o.amount else 0 := by
  simp [Order.tokenOwed, h]

lemma Order.tokenOwed_of_ne (h : o.status ≠ .funded) (t : Address) :
    o.tokenOwed t = 0 := if_neg fun hh => h hh.1

/-- Nothing is owed for an order that was never created. -/
lemma Order.Blank.ethOwed (ho : o.Blank) : o.ethOwed = 0 := by
  obtain ⟨st, t, -, rfl⟩ := ho
  simp [Order.ethOwed, Order.eth]

lemma Order.Blank.tokenOwed (ho : o.Blank) (t : Address) : o.tokenOwed t = 0 := by
  obtain ⟨st, u, -, rfl⟩ := ho
  simp [Order.tokenOwed]

/-! ### Every outcome keeps the escrow solvent -/

variable {s : State P}

lemma Disciplined.mem_orderIds_or_blank {k : ℕ} (h : Disciplined k s) (hk : k < 2 ^ 256) (id : ℕ) :
    id ∈ orderIds ∨ (s.orders id).Blank := by
  by_cases hid : id ∈ s.createdIds
  · exact Or.inl (Finset.mem_range.2 (h.lt_of_mem hk hid))
  · exact Or.inr (h.blank id hid)

variable {s' : State P}

lemma Solvent.of_same (h : Solvent s) (horders : s'.orders = s.orders)
    (heth : s'.balance + ∑ a, s.pendingWithdrawals a
      = s.balance + ∑ a, s'.pendingWithdrawals a) (hle : s'.balance ≤ s.balance)
    (hheld : ∀ t, P.exact t → s.held t ≤ s'.held t) : Solvent s' := by
  refine ⟨?_, hle.trans_lt h.word, fun t ht hx => ?_⟩
  · have := h.eth
    rw [horders]
    omega
  · rw [horders]
    exact (h.tokens t ht hx).trans (hheld t hx)

lemma Created.solvent {k now : ℕ} {msg : Msg P} {a : CreateArgs} (h : Created now msg a s s')
    (hk : k + 1 < 2 ^ 256) (hd : Disciplined k s) (hs : Solvent s) : Solvent s' := by
  -- the new order takes the place of a blank one
  have hblank := hd.blank _ (hd.nextOrderId_fresh hk)
  have hmem : s.nextOrderId ∈ orderIds := by
    obtain ⟨n, hn, -, hnext⟩ := hd.nextOrderId_eq hk
    rw [hnext]
    exact Finset.mem_range.2 (by omega)
  refine ⟨?_, h.balance_lt, fun t ht hx => ?_⟩
  · have hsum := sum_update_add Order.ethOwed s.orders (newOrder now msg.sender a) (.inl hmem)
    rw [hblank.ethOwed, Order.ethOwed_of_funded rfl, ← h.value] at hsum
    have := hs.eth
    rw [h.balance, h.orders, h.pending]
    omega
  · have hsum :=
      sum_update_add (Order.tokenOwed t) s.orders (newOrder now msg.sender a) (.inl hmem)
    rw [hblank.tokenOwed, Order.tokenOwed_of_funded rfl] at hsum
    have hheld := h.held t hx
    have hold := hs.tokens t ht hx
    have hnew : (if (newOrder now msg.sender a).token = t then a.amount else 0)
        = if a.token = t ∧ t ≠ 0 then a.amount else 0 := if_congr (by simp [newOrder, ht]) rfl rfl
    rw [h.orders]
    change _ = _ + (if (newOrder now msg.sender a).token = t then a.amount else 0) at hsum
    omega

lemma Settled.solvent {k orderId : ℕ} {recipient caller : Address} {ps : List Payout} {e : Event}
    (h : Settled orderId o ps e s s')
    (hps : Settlement orderId (s.orders orderId) recipient caller ps)
    (hfunded : (s.orders orderId).status = .funded) (ho : o.status ≠ .funded) (hk : k < 2 ^ 256)
    (hd : Disciplined k s) (hs : Solvent s) : Solvent s' := by
  have hkey := hd.mem_orderIds_or_blank hk orderId
  refine ⟨?_, ?_, fun t ht hx => ?_⟩
  · -- what is not owed for the order any more was pushed or credited
    have hsum := sum_update_add (s := orderIds) Order.ethOwed s.orders o
      (hkey.imp_right fun hb => by rw [hb.ethOwed, Order.ethOwed_of_ne ho])
    rw [Order.ethOwed_of_ne ho, Order.ethOwed_of_funded hfunded, ← hps.eth] at hsum
    have hold := hs.eth
    have hpaid := h.balance
    rw [h.orders, Finset.sum_congr rfl fun a _ => h.pending a, Finset.sum_add_distrib]
    omega
  · have := h.balance
    have := hs.word
    omega
  · -- and an exact token has left by the amount at most
    have hsum := sum_update_add (s := orderIds) (Order.tokenOwed t) s.orders o
      (hkey.imp_right fun hb => by rw [hb.tokenOwed, Order.tokenOwed_of_ne ho])
    rw [Order.tokenOwed_of_ne ho, Order.tokenOwed_of_funded hfunded] at hsum
    have hpaid := hps.tokens (P := P) ht
    have hheld := h.spent.le hx
    have hold := hs.tokens t ht hx
    rw [h.orders]
    omega

lemma Withdrew.solvent {caller : Address} (h : Withdrew caller s s') (hs : Solvent s) :
    Solvent s' := by
  have hsum := sum_update_add (s := Finset.univ) id s.pendingWithdrawals 0
    (.inl (Finset.mem_univ caller))
  have hbal := h.balance
  refine hs.of_same h.orders ?_ (by omega) h.held
  rw [h.pending]
  simp only [id_eq] at hsum
  omega

lemma Outcome.solvent {k now : ℕ} {a : Action P} (hk : k + 1 < 2 ^ 256) (hd : Disciplined k s)
    (hs : Solvent s) (h : Outcome now a s s') : Solvent s' := by
  cases h with
  | quiet _ hu => exact hs.of_same hu.orders (by rw [hu.balance, hu.pending]) hu.balance.le hu.held
  | created hc => exact hc.solvent hk hd hs
  | claimed hchecks hps hset =>
    exact hset.solvent hps (claimChecks_eq_ok.1 hchecks).1 (by simp [Order.claim]) (by omega) hd hs
  | refunded hchecks hps hset =>
    exact hset.solvent hps (refundChecks_eq_ok.1 hchecks).1 (by simp [Order.refund]) (by omega)
      hd hs
  | withdrawn hw => exact hw.solvent hs

lemma solvent_deploy (d : Deployment) : Solvent (deploy d : State P) := by
  refine ⟨?_, by simp [deploy], fun t _ _ => ?_⟩
  · show 0 = ∑ id ∈ orderIds, Order.ethOwed {} + ∑ _a : Address, 0
    rw [Finset.sum_eq_zero fun _ _ => Order.blank_default.ethOwed, Finset.sum_const_zero,
      add_zero]
  · show ∑ id ∈ orderIds, Order.tokenOwed t {} ≤ _
    rw [Finset.sum_eq_zero fun _ _ => Order.blank_default.tokenOwed t]
    exact Nat.zero_le _

/-- The escrow is solvent at every point of every history. -/
lemma History.solvent (h : History P) (d : Deployment) (n : ℕ) : Solvent (h.stateAt d n) := by
  obtain ⟨-, -, -, -, hs⟩ := h.invariant d (solvent_deploy d) Outcome.solvent n
  exact hs

lemma sum_ethOwed (orders : ℕ → Order) : ∑ id ∈ orderIds, (orders id).ethOwed =
    ∑ id ∈ orderIds with (orders id).status = .funded ∧ (orders id).token = 0,
        ((orders id).amount + (orders id).safetyDeposit)
      + ∑ id ∈ orderIds with (orders id).status = .funded ∧ (orders id).token ≠ 0,
        (orders id).safetyDeposit := by
  rw [Finset.sum_filter, Finset.sum_filter, ← Finset.sum_add_distrib]
  refine Finset.sum_congr rfl fun id _ => ?_
  by_cases hf : (orders id).status = .funded
  · by_cases htoken : (orders id).token = 0
    · simp [Order.ethOwed, Order.eth, hf, htoken]
    · simp [Order.ethOwed, Order.eth, hf, htoken]
  · simp [Order.ethOwed, hf]

/-- **Solvency.**  At every point of every history the ETH of the escrow is exactly the funds
and the safety deposits of the funded orders in ETH, the safety deposits of the funded orders in
tokens, and the credits of all accounts; and of every exact token the escrow has at least the
amounts of the funded orders in it. -/
theorem escrow_solvency (h : History P) (d : Deployment) (n : ℕ) :
    let s := h.stateAt d n
    s.balance =
      ∑ id ∈ orderIds with (s.orders id).status = .funded ∧ (s.orders id).token = 0,
          ((s.orders id).amount + (s.orders id).safetyDeposit)
        + ∑ id ∈ orderIds with (s.orders id).status = .funded ∧ (s.orders id).token ≠ 0,
          (s.orders id).safetyDeposit
        + ∑ a, s.pendingWithdrawals a ∧
    ∀ t, t ≠ 0 → P.exact t →
      ∑ id ∈ orderIds with (s.orders id).status = .funded ∧ (s.orders id).token = t,
        (s.orders id).amount ≤ s.held t := by
  intro s
  have hs : Solvent s := h.solvent d n
  refine ⟨by rw [hs.eth, sum_ethOwed], fun t ht hx => ?_⟩
  rw [Finset.sum_filter]
  exact hs.tokens t ht hx

/-- The two sample orders: the escrow has the `10` of the exact token that the second one
locks. -/
theorem escrow_solvency_sample :
    let s := Sample.history.stateAt Sample.deployment 2
    s.held 7 = 10 ∧ s.balance = 16 ∧
      ∑ id ∈ orderIds with (s.orders id).status = .funded ∧ (s.orders id).token = 7,
        (s.orders id).amount ≤ s.held 7 :=
  ⟨by decide +kernel, by decide +kernel,
    (escrow_solvency Sample.history Sample.deployment 2).2 7 (by decide) rfl⟩

end WaffleFinance.Evm

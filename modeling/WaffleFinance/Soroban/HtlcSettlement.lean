import WaffleFinance.Soroban.HtlcSolvency

/-!
# An order of the Soroban contract is settled exactly once

Of an order we look at two things: what is stored once it is settled, and what has been paid on
its account.  The pair starts as nothing and no payouts, and it changes only by a valid claim or
a valid refund of the funded order, after which it never changes again.
-/

namespace WaffleFinance.Soroban.Htlc

open Lib

variable {E : Env}

/-- The order under an id, once it is settled. -/
def State.settled? (s : State) (id : ℕ) : Option Order :=
  (s.order? id).filter fun o => o.status ≠ .funded

/-- The payouts made on account of an order. -/
def State.paidFor (s : State) (id : ℕ) : List Payout := s.payouts.filter fun p => p.orderId = id

/-- `SettledBy id o c o' ps pay`: the call `c` settles the order `o` that is stored under `id`.  The
order becomes `o'`, the payouts `ps` are made, and `pay` is what they do to the balances. -/
inductive SettledBy (id : ℕ) (o : Order) :
    Invocation E × Action E → Order → List Payout → (Balances → Balances) → Prop where
  | claim {inv : Invocation E} {preimage : Bytes} {caller : Address}
      {first second : Reply E Unit} : inv.auth caller = true → inv.timestamp ≤ o.timelock →
      E.sha256 preimage = o.hashlock →
      SettledBy id o (inv, .claimOrder id preimage caller first second)
        (o.claim inv.timestamp preimage) (o.payouts id o.beneficiary caller)
        (o.settle o.beneficiary caller first second)
  | refund {inv : Invocation E} {caller : Address} {first second : Reply E Unit} :
      inv.auth caller = true → o.timelock < inv.timestamp →
      SettledBy id o (inv, .refundOrder id caller first second)
        (o.refund inv.timestamp) (o.payouts id o.refundAddress caller)
        (o.settle o.refundAddress caller first second)

variable {id : ℕ} {o : Order} {c : Invocation E × Action E} {pay : Balances → Balances}

lemma SettledBy.status_ne {o' : Order} {ps : List Payout} (h : SettledBy id o c o' ps pay) :
    o'.status ≠ .funded := by
  cases h <;> simp [Order.claim, Order.refund]

/-! ### One call -/

variable {s : State}

lemma State.settled?_eq_none :
    s.settled? id = none ↔ ∀ o, s.order? id = some o → o.status = .funded := by
  rw [State.settled?, Option.filter_eq_none_iff]
  simp

lemma State.settled?_of_funded (h : s.order? id = some o) (ho : o.status = .funded) :
    s.settled? id = none := by
  refine State.settled?_eq_none.2 fun o' ho' => ?_
  rw [h] at ho'
  exact Option.some.inj ho' ▸ ho

lemma State.settled?_eq_some :
    s.settled? id = some o ↔ s.order? id = some o ∧ o.status ≠ .funded := by
  rw [State.settled?, Option.filter_eq_some_iff]
  simp

lemma Order.orderId_of_mem_payouts {orderId : ℕ} {recipient caller : Address} {p : Payout}
    (h : p ∈ o.payouts orderId recipient caller) : p.orderId = orderId := by
  rw [Order.payouts, List.mem_cons] at h
  rcases h with rfl | h
  · rfl
  split_ifs at h
  · rw [List.mem_singleton] at h
    rw [h]
  · cases h

lemma Order.filter_payouts (o : Order) (orderId id : ℕ) (recipient caller : Address) :
    (o.payouts orderId recipient caller).filter (fun p => p.orderId = id)
      = if orderId = id then o.payouts orderId recipient caller else [] := by
  by_cases hid : orderId = id
  · rw [if_pos hid, List.filter_eq_self.2]
    intro p hp
    simpa [hid] using Order.orderId_of_mem_payouts hp
  · rw [if_neg hid, List.filter_eq_nil_iff]
    intro p hp
    simpa [Order.orderId_of_mem_payouts hp] using hid

/-- What one call does to the order under an id. -/
inductive Life (id : ℕ) (c : Invocation E × Action E) (s s' : State) : Prop where
  /-- Nothing. -/
  | same : s'.order? id = s.order? id → s'.paidFor id = s.paidFor id → Life id c s s'
  /-- It creates it. -/
  | created {o : Order} : s.order? id = none → s'.order? id = some o → o.status = .funded →
      s'.paidFor id = s.paidFor id → Life id c s s'
  /-- It settles it. -/
  | settled {o o' : Order} {ps : List Payout} {pay : Balances → Balances} :
      s.order? id = some o → o.status = .funded → SettledBy id o c o' ps pay →
      s'.order? id = some o' → s'.paidFor id = s.paidFor id ++ ps →
      s'.balances = pay s.balances → Life id c s s'

/-- A settlement, seen from the order under `id`. -/
lemma Settled.life {orderId : ℕ} {o' : Order} {recipient caller : Address}
    {first second : Reply E Unit} {s' : State}
    (h : Settled orderId o o' recipient caller first second s s') (ho : o.status = .funded)
    (hby : SettledBy orderId o c o' (o.payouts orderId recipient caller)
      (o.settle recipient caller first second)) : Life id c s s' := by
  have hpaid : s'.paidFor id
      = s.paidFor id ++ if orderId = id then o.payouts orderId recipient caller else [] := by
    rw [State.paidFor, h.payouts, List.filter_append, Order.filter_payouts]
    rfl
  by_cases hid : orderId = id
  · subst hid
    rw [if_pos rfl] at hpaid
    exact .settled h.found ho hby (by rw [h.order, Function.update_self]) hpaid h.balances
  · rw [if_neg hid, List.append_nil] at hpaid
    exact .same (by rw [h.order, Function.update_of_ne (Ne.symm hid)]) hpaid

lemma Outcome.life {inv : Invocation E} {a : Action E} {s' : State} (h : Outcome inv a s s')
    (hs : Sound E s) (id : ℕ) : Life id (inv, a) s s' := by
  cases h with
  | untouched hu => exact .same (by rw [hu.order]) (by rw [State.paidFor, hu.payouts]; rfl)
  | @created args gate pull orderId _ _ hc =>
    obtain ⟨cls, horder⟩ := hc.order
    have hpaid : s'.paidFor id = s.paidFor id := by
      rw [State.paidFor, hc.payouts]
      rfl
    by_cases hid : id = orderId
    · subst hid
      exact .created (hs.fresh id hc.id_eq.ge) (by rw [horder, Function.update_self]) rfl hpaid
    · exact .same (by rw [horder, Function.update_of_ne hid]) hpaid
  | claimed _ hauth hchecks hset =>
    obtain ⟨hfunded, htime, hhash⟩ := claimChecks_eq_ok.1 hchecks
    exact hset.life hfunded (.claim hauth htime hhash)
  | refunded _ hauth hchecks hset =>
    obtain ⟨hfunded, htime⟩ := refundChecks_eq_ok.1 hchecks
    exact hset.life hfunded (.refund hauth htime)

/-! ### Whole histories -/

/-- The order under an id, when it is settled, and the payouts on its account. -/
def History.life (h : History E) (id n : ℕ) : Option Order × List Payout :=
  ((h.stateAt n).settled? id, (h.stateAt n).paidFor id)

lemma History.life_zero (h : History E) (id : ℕ) : h.life id 0 = (none, []) := by
  have hstart : h.stateAt 0 = h.start := Machine.stateAt_zero _ _ _
  rw [life, hstart, State.paidFor, h.initialised.payouts, State.settled?, h.initialised.order?]
  rfl

/-- Every order closes at most once, by a call that settles it. -/
lemma History.closing (h : History E) (id : ℕ) :
    Closing (fun v => v.1 = none)
      (fun n v v' => ∃ c o o' ps pay, h.calls[n]? = some c ∧ (h.stateAt n).order? id = some o ∧
        o.status = .funded ∧ SettledBy id o c o' ps pay ∧
        (h.stateAt (n + 1)).balances = pay (h.stateAt n).balances ∧ v' = (some o', v.2 ++ ps))
      (h.life id) := by
  intro n
  rcases h.stateAt_succ_cases n with hsame | ⟨c, hcall, hout⟩
  · exact .inl (by rw [life, hsame, life])
  cases hout.life (h.sound n) id with
  | same horder hpaid => exact .inl (by rw [life, State.settled?, horder, hpaid]; rfl)
  | created hnone horder hfunded hpaid =>
    -- a funded order does not count as settled
    refine .inl ?_
    have hbefore : (h.stateAt n).settled? id = none :=
      State.settled?_eq_none.2 fun o ho => by rw [hnone] at ho; cases ho
    have hafter := State.settled?_of_funded horder hfunded
    rw [life, life, hbefore, hafter, hpaid]
  | @settled o o' ps pay horder hfunded hby horder' hpaid hbalances =>
    have hbefore := State.settled?_of_funded horder hfunded
    have hafter : (h.stateAt (n + 1)).settled? id = some o' :=
      State.settled?_eq_some.2 ⟨horder', hby.status_ne⟩
    refine .inr ⟨hbefore, ?_, c, o, o', ps, pay, hcall, horder, hfunded, hby, hbalances, ?_⟩
    · simp [life, hafter]
    · rw [life, life, hafter, hpaid]

/-- Everything but what a settlement writes is the same. -/
def Order.SameTerms (o o' : Order) : Prop :=
  o' = { o with status := o'.status, preimage := o'.preimage, finalisedAt := o'.finalisedAt }

lemma SettledBy.sameTerms {o' : Order} {ps : List Payout} (h : SettledBy id o c o' ps pay) :
    o.SameTerms o' := by
  cases h <;> rfl

/-- The order under an id is stored and funded. -/
def State.Funded (s : State) (id : ℕ) : Prop := ∃ o, s.order? id = some o ∧ o.status = .funded

/-- What it means that the order under an id is settled exactly once. -/
structure SettledOnce (h : History E) (id : ℕ) : Prop where
  /-- It leaves the status `Funded` at most once. -/
  once : ∀ {m n : ℕ}, (h.stateAt m).Funded id → ¬ (h.stateAt (m + 1)).Funded id →
    (h.stateAt n).Funded id → ¬ (h.stateAt (n + 1)).Funded id → m = n
  /-- Nothing is paid on its account before that. -/
  unpaid : ∀ {n : ℕ}, (h.stateAt n).settled? id = none → (h.stateAt n).paidFor id = []
  /-- A settled order was settled by one of the calls: a claim in time with the preimage or a
  refund after the timelock.  The balances changed by the payouts made then, and these are all that
  was ever paid. -/
  settled : ∀ {n : ℕ} {o' : Order}, (h.stateAt n).settled? id = some o' →
    ∃ m < n, ∃ c o ps pay, h.calls[m]? = some c ∧ (h.stateAt m).order? id = some o ∧
      o.status = .funded ∧ SettledBy id o c o' ps pay ∧
      (h.stateAt (m + 1)).order? id = some o' ∧
      (h.stateAt (m + 1)).balances = pay (h.stateAt m).balances ∧ (h.stateAt n).paidFor id = ps
  /-- A settled order never changes again. -/
  final : ∀ {m n : ℕ} {o : Order}, m ≤ n → (h.stateAt m).settled? id = some o →
    (h.stateAt n).order? id = some o
  /-- An order keeps its terms. -/
  terms : ∀ {m n : ℕ} {o : Order}, m ≤ n → (h.stateAt m).order? id = some o →
    ∃ o', (h.stateAt n).order? id = some o' ∧ o.SameTerms o'

/-- An order leaves the status `Funded` only by being settled. -/
lemma History.life_ne (h : History E) {n : ℕ} (hn : (h.stateAt n).Funded id)
    (hn' : ¬ (h.stateAt (n + 1)).Funded id) : h.life id (n + 1) ≠ h.life id n := by
  obtain ⟨o, ho, hfunded⟩ := hn
  rcases h.stateAt_succ_cases n with hsame | ⟨c, -, hout⟩
  · exact absurd ⟨o, hsame ▸ ho, hfunded⟩ hn'
  cases hout.life (h.sound n) id with
  | same horder _ => exact absurd ⟨o, horder.trans ho, hfunded⟩ hn'
  | created hnone _ _ _ =>
    rw [hnone] at ho
    cases ho
  | settled horder hfunded hby horder' =>
    intro heq
    have hbefore := State.settled?_of_funded horder hfunded
    have hafter := State.settled?_eq_some.2 ⟨horder', hby.status_ne⟩
    have hfst := congrArg Prod.fst heq
    simp only [life] at hfst
    rw [hbefore, hafter] at hfst
    cases hfst

lemma History.sameTerms (h : History E) {m n : ℕ} (hmn : m ≤ n)
    (ho : (h.stateAt m).order? id = some o) :
    ∃ o', (h.stateAt n).order? id = some o' ∧ o.SameTerms o' := by
  induction n, hmn using Nat.le_induction with
  | base => exact ⟨o, ho, rfl⟩
  | succ n _ ih =>
    obtain ⟨o₁, ho₁, hterms⟩ := ih
    rcases h.stateAt_succ_cases n with hsame | ⟨c, -, hout⟩
    · exact ⟨o₁, hsame ▸ ho₁, hterms⟩
    cases hout.life (h.sound n) id with
    | same horder _ => exact ⟨o₁, horder.trans ho₁, hterms⟩
    | created hnone _ _ _ =>
      rw [hnone] at ho₁
      cases ho₁
    | @settled o₂ o' _ _ horder _ hby horder' =>
      obtain rfl : o₂ = o₁ := Option.some.inj (horder.symm.trans ho₁)
      refine ⟨o', horder', ?_⟩
      have hlast := hby.sameTerms
      rw [Order.SameTerms] at hterms hlast ⊢
      rw [hlast, hterms]

/-- Every order is settled exactly once. -/
lemma History.settledOnce (h : History E) (id : ℕ) : SettledOnce h id where
  once := fun hm hm' hn hn' => (h.closing id).change_unique (h.life_ne hm hm') (h.life_ne hn hn')
  unpaid := by
    intro n hn
    have hfirst := (h.closing id).eq_of_open (n := n) hn
    rw [h.life_zero] at hfirst
    exact congrArg Prod.snd hfirst
  settled := by
    intro n o' hn
    have hclosed : ¬ (h.life id n).1 = none := by simp [life, hn]
    obtain ⟨m, hm, -, hafter, c, o, o₁, ps, pay, hcall, horder, hfunded, hby, hbalances, heq⟩ :=
      (h.closing id).exists_of_closed (by rw [h.life_zero]) hclosed
    rw [h.life_zero, List.nil_append] at heq
    have hsettled : some o' = some o₁ := hn.symm.trans (congrArg Prod.fst heq)
    cases hsettled
    have hnext : (h.stateAt (m + 1)).settled? id = some o' :=
      (congrArg Prod.fst hafter).trans hn
    exact ⟨m, hm, c, o, ps, pay, hcall, horder, hfunded, hby, (State.settled?_eq_some.1 hnext).1,
      hbalances, congrArg Prod.snd heq⟩
  final := by
    intro m n o hmn hm
    have hkept := (h.closing id).eq_of_closed hmn (by simp [life, hm])
    exact (State.settled?_eq_some.1 ((congrArg Prod.fst hkept).trans hm)).1
  terms := h.sameTerms

/-- **Solvency and settlement.**  At every point of every history the contract has, of each exact
asset, at least what the funded orders lock of it, and exactly that when nobody gives any of it to
the contract.  No call changes the total of an asset, and every order is settled exactly once. -/
theorem htlc_solvent_settled_once (h : History E) :
    (∀ n asset, E.exact asset →
      (h.stateAt n).totalLocked asset ≤ (h.stateAt n).balances asset E.self) ∧
    (∀ n asset, E.exact asset → h.Clean asset →
      (h.stateAt n).balances asset E.self = (h.stateAt n).totalLocked asset) ∧
    (∀ n asset, E.exact asset →
      ∑ a, (h.stateAt (n + 1)).balances asset a = ∑ a, (h.stateAt n).balances asset a) ∧
    (∀ id, SettledOnce h id) := by
  refine ⟨fun n => (h.sound n).covered, fun n asset hx hc => (hc.balanced hx n).balance, ?_,
    h.settledOnce⟩
  intro n asset _
  rcases h.stateAt_succ_cases n with hsame | ⟨c, -, hout⟩
  · rw [hsame]
  · exact hout.total asset

/-- Nobody gives anything to the contract in the sample history.  After the two creations it has
exactly what the two orders lock. -/
theorem htlc_solvent_settled_once_sample :
    Sample.history.Clean Sample.token ∧
      (Sample.history.stateAt 2).balances Sample.token (Sample.env 0).self = 220 ∧
      (Sample.history.stateAt 2).totalLocked Sample.token = 220 := by
  have hclean : Sample.history.Clean Sample.token := by
    have hquiet : NoGifts Sample.token ([] : List (Move (Sample.env 0))) := by
      rintro m ⟨⟩
    have hrecipients : Sample.bob ≠ (Sample.env 0).self ∧ Sample.alice ≠ (Sample.env 0).self := by
      decide
    refine ⟨by decide, ?_⟩
    intro c hc
    simp only [Sample.history, List.mem_cons, List.not_mem_nil, or_false] at hc
    rcases hc with rfl | rfl | rfl | rfl
    · exact ⟨⟨hquiet, hquiet⟩, fun _ => hrecipients⟩
    · exact ⟨⟨hquiet, hquiet⟩, fun _ => hrecipients⟩
    · exact ⟨hquiet, hquiet⟩
    · exact ⟨hquiet, hquiet⟩
  have hbalance : (Sample.history.stateAt 2).balances Sample.token (Sample.env 0).self = 220 := by
    decide +kernel
  have hlocked := (htlc_solvent_settled_once Sample.history).2.1 2 Sample.token rfl hclean
  exact ⟨hclean, hbalance, hlocked.symm.trans hbalance⟩

end WaffleFinance.Soroban.Htlc

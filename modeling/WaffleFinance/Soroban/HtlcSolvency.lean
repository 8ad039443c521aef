import WaffleFinance.Soroban.HtlcCalls

/-!
# The Soroban contract is solvent

For every exact token the contract has at least what the funded orders in it lock, the amounts
and the safety deposits.  It has exactly that if nobody ever gives it anything on top: no
transfers to the contract, and no order that names the contract as a recipient.
-/

namespace WaffleFinance.Soroban.Htlc

open Lib

variable {E : Env}

/-- The ids that orders can have. -/
def orderIds : Finset ℕ := Finset.range (2 ^ 64)

/-- What the order stored under some id locks of an asset. -/
def locked (asset : Address) : Option Order → ℤ
  | some o => if o.status = .funded ∧ o.asset = asset then o.amount + o.safetyDeposit else 0
  | none => 0

/-- All that the orders lock of an asset. -/
def State.totalLocked (s : State) (asset : Address) : ℤ :=
  ∑ id ∈ orderIds, locked asset (s.order? id)

variable {o : Order}

lemma locked_of_funded (h : o.status = .funded) (asset : Address) :
    locked asset (some o) = if o.asset = asset then o.amount + o.safetyDeposit else 0 := by
  simp [locked, h]

lemma locked_of_ne (h : o.status ≠ .funded) (asset : Address) :
    locked asset (some o) = 0 := if_neg fun hh => h hh.1

/-- What holds between the calls of a run. -/
structure Sound (E : Env) (s : State) : Prop where
  admin : s.admin ≠ none
  schema : s.schemaVersion = some currentSchemaVersion
  nextOrderId_lt : s.nextOrderId.getD 1 < 2 ^ 64
  fresh : ∀ id, s.nextOrderId.getD 1 ≤ id → s.order? id = none
  amounts : ∀ id o, s.order? id = some o → 0 < o.amount ∧ 0 ≤ o.safetyDeposit
  covered : ∀ asset, E.exact asset → s.totalLocked asset ≤ s.balances asset E.self

variable {s : State}

lemma Sound.mem_orderIds (hs : Sound E s) {id : ℕ} (h : s.order? id = some o) : id ∈ orderIds := by
  have hlt := hs.nextOrderId_lt
  by_contra hid
  have hnone := hs.fresh id (by simp only [orderIds, Finset.mem_range] at hid; omega)
  rw [h] at hnone
  cases hnone

variable {s' : State}

lemma totalLocked_update {orderId : ℕ} (asset : Address)
    (horder : s'.order? = Function.update s.order? orderId (some o)) (hid : orderId ∈ orderIds) :
    s'.totalLocked asset + locked asset (s.order? orderId)
      = s.totalLocked asset + locked asset (some o) := by
  rw [State.totalLocked, State.totalLocked, horder]
  exact sum_update_add (locked asset) s.order? (some o) (.inl hid)

/-! ### Creation -/

lemma createChecks_ok {self : Address} {minSafetyDeposit : ℤ} {a : CreateArgs} {u : Unit}
    (h : createChecks self minSafetyDeposit a = .ok u) :
    0 < a.amount ∧ 0 ≤ a.safetyDeposit ∧ a.timelockSeconds ≤ maxTimelockSeconds := by
  simp only [createChecks, chain_eq_ok, failIf_eq_ok, exists_const, not_le, not_lt, not_not] at h
  exact ⟨h.2.1, h.2.2.1, h.2.2.2.1.2⟩

section Created

variable {inv : Invocation E} {a : CreateArgs} {gate : Reply E Bool} {pull : Reply E Unit}
  {orderId : ℕ} {s s' : State}

/-- A new order adds what it locks. -/
lemma Created.totalLocked (h : Created inv a gate pull orderId s s') (hs : Sound E s)
    (asset : Address) : s'.totalLocked asset
      = s.totalLocked asset + if asset = a.asset then a.amount + a.safetyDeposit else 0 := by
  obtain ⟨cls, horder⟩ := h.order
  have hid : orderId ∈ orderIds := Finset.mem_range.2 (by have := h.id_lt; omega)
  have hnone : s.order? orderId = none := hs.fresh orderId h.id_eq.ge
  have hsum := totalLocked_update asset horder hid
  rw [hnone, locked_of_funded rfl] at hsum
  have hsame : (newOrder orderId inv.timestamp cls a).asset = asset ↔ asset = a.asset := eq_comm
  simp only [locked, hsame, add_zero] at hsum
  exact hsum

lemma Created.sound (h : Created inv a gate pull orderId s s') (hs : Sound E s) :
    Sound E s' := by
  obtain ⟨cls, horder⟩ := h.order
  obtain ⟨hamount, hdeposit, -⟩ := createChecks_ok h.checks
  have hlt := h.id_lt
  refine ⟨h.configured.admin hs.admin, h.configured.schema.trans hs.schema, ?_, ?_, ?_, ?_⟩
  · rw [h.nextOrderId, Option.getD_some]
    exact hlt
  · -- the counter has moved past the new id
    intro id hid
    rw [h.nextOrderId, Option.getD_some] at hid
    rw [horder, Function.update_of_ne (by omega)]
    exact hs.fresh id (by rw [← h.id_eq]; omega)
  · exact forall_some_of_update horder hs.amounts ⟨hamount, hdeposit⟩
  · intro asset hx
    have hflow := h.flow.le asset hx
    have hold := hs.covered asset hx
    rw [h.totalLocked hs]
    omega

end Created

/-! ### Settlement -/

section Settled

variable {orderId : ℕ} {o o' : Order} {recipient caller : Address} {first second : Reply E Unit}
  {s s' : State}

lemma Order.taken_eq {o : Order} (h : 0 ≤ o.safetyDeposit) :
    o.taken = o.amount + o.safetyDeposit := by
  rw [Order.taken]
  split_ifs with hpos
  · rfl
  · omega

/-- A settlement releases what the order locked, which is what it takes. -/
lemma Settled.totalLocked (h : Settled orderId o o' recipient caller first second s s')
    (hs : Sound E s) (ho : o.status = .funded) (ho' : o'.status ≠ .funded) (asset : Address) :
    s'.totalLocked asset = s.totalLocked asset + if asset = o.asset then -o.taken else 0 := by
  have hsum := totalLocked_update asset h.order (hs.mem_orderIds h.found)
  rw [h.found, locked_of_funded ho, locked_of_ne ho',
    ← Order.taken_eq (hs.amounts orderId o h.found).2] at hsum
  by_cases hasset : asset = o.asset
  · rw [if_pos hasset.symm] at hsum
    rw [if_pos hasset]
    omega
  · rw [if_neg (Ne.symm hasset)] at hsum
    rw [if_neg hasset]
    omega

lemma Settled.sound (h : Settled orderId o o' recipient caller first second s s')
    (hs : Sound E s) (ho : o.status = .funded) (ho' : o'.status ≠ .funded)
    (hamounts : o'.amount = o.amount ∧ o'.safetyDeposit = o.safetyDeposit) : Sound E s' := by
  refine ⟨h.configured.admin hs.admin, h.configured.schema.trans hs.schema, ?_, ?_, ?_, ?_⟩
  · rw [h.nextOrderId]
    exact hs.nextOrderId_lt
  · intro id hid
    rw [h.nextOrderId] at hid
    have hnone := hs.fresh id hid
    -- the settled order is stored, so its id lies below the counter
    have hne : id ≠ orderId := by
      rintro rfl
      rw [h.found] at hnone
      cases hnone
    rw [h.order, Function.update_of_ne hne]
    exact hnone
  · refine forall_some_of_update h.order hs.amounts ?_
    rw [hamounts.1, hamounts.2]
    exact hs.amounts orderId o h.found
  · intro asset hx
    have hflow := h.flow.le asset hx
    have hold := hs.covered asset hx
    rw [h.totalLocked hs ho ho']
    omega

end Settled

/-! ### Every outcome keeps the contract solvent -/

lemma Untouched.totalLocked {clean : Address → Prop} (h : Untouched E clean s s')
    (asset : Address) : s'.totalLocked asset = s.totalLocked asset := by
  rw [State.totalLocked, h.order, State.totalLocked]

lemma Untouched.sound {clean : Address → Prop} (h : Untouched E clean s s') (hs : Sound E s) :
    Sound E s' := by
  refine ⟨h.configured.admin hs.admin, h.configured.schema.trans hs.schema, ?_, ?_, ?_, ?_⟩
  · rw [h.nextOrderId]
    exact hs.nextOrderId_lt
  · intro id hid
    rw [h.order]
    exact hs.fresh id (h.nextOrderId ▸ hid)
  · intro id o ho
    rw [h.order] at ho
    exact hs.amounts id o ho
  · intro asset hx
    have hflow := h.flow.le asset hx
    have hold := hs.covered asset hx
    rw [h.totalLocked]
    omega

variable {inv : Invocation E} {a : Action E}

lemma Outcome.sound (h : Outcome inv a s s') (hs : Sound E s) : Sound E s' := by
  cases h with
  | untouched hu => exact hu.sound hs
  | created hc => exact hc.sound hs
  | claimed _ _ hchecks hset =>
    exact hset.sound hs (claimChecks_eq_ok.1 hchecks).1 (by simp [Order.claim]) ⟨rfl, rfl⟩
  | refunded _ _ hchecks hset =>
    exact hset.sound hs (refundChecks_eq_ok.1 hchecks).1 (by simp [Order.refund]) ⟨rfl, rfl⟩

lemma Initialised.order? (h : Initialised E s) (id : ℕ) : s.order? id = none := by
  rw [State.order?, h.orders]
  rfl

lemma Initialised.totalLocked (h : Initialised E s) (asset : Address) : s.totalLocked asset = 0 :=
  Finset.sum_eq_zero fun id _ => by rw [h.order?]; rfl

lemma Initialised.sound (h : Initialised E s) : Sound E s := by
  refine ⟨h.admin, h.schema, by rw [h.nextOrderId]; decide, fun id _ => h.order? id, ?_, ?_⟩
  · intro id o ho
    rw [h.order?] at ho
    cases ho
  · intro asset hx
    rw [h.totalLocked]
    exact h.balances asset hx

/-- The contract is sound at every point of every history. -/
lemma History.sound (h : History E) (n : ℕ) : Sound E (h.stateAt n) :=
  h.invariant (fun _ _ _ _ hs hout => hout.sound hs) h.initialised.sound n

lemma Reachable.sound (h : Reachable E s) : Sound E s := by
  obtain ⟨h, n, rfl⟩ := h
  exact h.sound n

/-! ### Exact balances -/

/-- A contract to which nobody has given anything of an asset. -/
structure Balanced (E : Env) (asset : Address) (s : State) : Prop where
  sound : Sound E s
  recipients : ∀ id o, s.order? id = some o → o.asset = asset →
    o.beneficiary ≠ E.self ∧ o.refundAddress ≠ E.self
  balance : s.balances asset E.self = s.totalLocked asset

variable {asset : Address}

/-- A settlement keeps the recipients of the order, and pays to one of them. -/
lemma Settled.balanced {orderId : ℕ} {o' : Order} {recipient caller : Address}
    {first second : Reply E Unit} (h : Settled orderId o o' recipient caller first second s s')
    (hx : E.exact asset) (hs : Balanced E asset s) (hs' : Sound E s') (ho : o.status = .funded)
    (ho' : o'.status ≠ .funded) (hsame : o'.asset = o.asset ∧ o'.beneficiary = o.beneficiary ∧
      o'.refundAddress = o.refundAddress)
    (hrecipient : recipient = o.beneficiary ∨ recipient = o.refundAddress)
    (hclean : NoGifts asset first.moves ∧ NoGifts asset second.moves) : Balanced E asset s' := by
  have hto := hs.recipients orderId o h.found
  refine ⟨hs', ?_, ?_⟩
  · refine forall_some_of_update h.order hs.recipients ?_
    rw [hsame.1, hsame.2.1, hsame.2.2]
    exact hto
  · have hne : asset = o.asset → recipient ≠ E.self := by
      intro heq
      rcases hrecipient with rfl | rfl
      · exact (hto heq.symm).1
      · exact (hto heq.symm).2
    rw [h.flow.eq asset hx ⟨hclean, hne⟩, h.totalLocked hs.sound ho ho', hs.balance]

lemma Outcome.balanced (h : Outcome inv a s s') (hx : E.exact asset) (hs : Balanced E asset s)
    (ha : a.Clean asset) : Balanced E asset s' := by
  have hs' := h.sound hs.sound
  cases h with
  | untouched hu =>
    refine ⟨hs', ?_, ?_⟩
    · rw [hu.order]
      exact hs.recipients
    · rw [hu.flow.eq asset hx ha, hu.totalLocked, hs.balance, add_zero]
  | created hc =>
    obtain ⟨cls, horder⟩ := hc.order
    obtain ⟨hgifts, hto⟩ := ha
    refine ⟨hs', forall_some_of_update horder hs.recipients hto, ?_⟩
    rw [hc.flow.eq asset hx hgifts, hc.totalLocked hs.sound, hs.balance]
  | claimed _ _ hchecks hset =>
    exact hset.balanced hx hs hs' (claimChecks_eq_ok.1 hchecks).1 (by simp [Order.claim])
      ⟨rfl, rfl, rfl⟩ (.inl rfl) ha
  | refunded _ _ hchecks hset =>
    exact hset.balanced hx hs hs' (refundChecks_eq_ok.1 hchecks).1 (by simp [Order.refund])
      ⟨rfl, rfl, rfl⟩ (.inr rfl) ha

/-- A history in which nobody gives anything of an asset to the contract. -/
structure History.Clean (h : History E) (asset : Address) : Prop where
  start : h.start.balances asset E.self = 0
  calls : ∀ c ∈ h.calls, c.2.Clean asset

lemma History.Clean.balanced {h : History E} (hc : h.Clean asset) (hx : E.exact asset) (n : ℕ) :
    Balanced E asset (h.stateAt n) := by
  refine h.invariant (fun c hmem _ _ hs hout => hout.balanced hx hs (hc.calls c hmem)) ?_ n
  refine ⟨h.initialised.sound, ?_, ?_⟩
  · intro id o ho
    rw [h.initialised.order?] at ho
    cases ho
  · rw [h.initialised.totalLocked]
    exact hc.start

/-! ### Totals -/

/-- No call creates or destroys tokens. -/
lemma Outcome.total (h : Outcome inv a s s') (asset : Address) :
    ∑ x, s'.balances asset x = ∑ x, s.balances asset x := by
  cases h with
  | untouched hu => exact hu.flow.total asset
  | created hc => exact hc.flow.total asset
  | claimed _ _ _ hset | refunded _ _ _ hset => exact hset.flow.total asset

end WaffleFinance.Soroban.Htlc

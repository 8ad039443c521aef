import WaffleFinance.Soroban.HtlcCalls

/-!
# The lifetime of the orders' entries

The entry of an order lives for a number of ledgers.  `create_order` and `extend_order_ttl` compute
it from seconds: a ledger for every four of them, rounded up, and the ledgers of fourteen days on
top.  Where ledgers are at least four seconds apart, the entry of a funded order is there long
after the order has become refundable, however often and whenever anybody extends it.
-/

namespace WaffleFinance.Soroban.Htlc

open Lib

variable {E : Env}

/-! ### Ledgers and seconds -/

/-- When the ledgers close: at least `ASSUMED_MIN_LEDGER_TIME_SECS` apart. -/
structure LedgerTimes where
  closeTime : ℕ → ℕ
  spaced : ∀ n, closeTime n + assumedMinLedgerTimeSecs ≤ closeTime (n + 1)

lemma LedgerTimes.add_le (l : LedgerTimes) (q k : ℕ) :
    l.closeTime q + 4 * k ≤ l.closeTime (q + k) := by
  induction k with
  | zero => exact le_rfl
  | succ k ih =>
    have hnext : l.closeTime (q + k) + 4 ≤ l.closeTime (q + k + 1) := l.spaced (q + k)
    have hassoc : q + (k + 1) = q + k + 1 := rfl
    rw [hassoc]
    omega

/-- The calls of the history are made in these ledgers. -/
def History.On (h : History E) (l : LedgerTimes) : Prop :=
  ∀ c ∈ h.calls, c.1.timestamp = l.closeTime c.1.sequence

/-- The ledgers of some seconds, rounded up. -/
def ledgersOf (seconds : ℕ) : ℕ :=
  (seconds + (assumedMinLedgerTimeSecs - 1)) / assumedMinLedgerTimeSecs

lemma orderTtlLedgers_eq {seconds : ℕ} (h : seconds ≤ maxTimelockSeconds) :
    ledgersOf seconds < 2 ^ 32 ∧
      orderTtlLedgers seconds = .ok (ledgersOf seconds + orderTtlMarginLedgers) := by
  have hsmall : ledgersOf seconds ≤ 21600 := by
    simp only [ledgersOf, assumedMinLedgerTimeSecs, maxTimelockSeconds] at h ⊢
    omega
  have hmargin : orderTtlMarginLedgers = 302400 := rfl
  refine ⟨by omega, ?_⟩
  rw [orderTtlLedgers, ← ledgersOf, Nat.mod_eq_of_lt (by omega), checkedAdd_eq_ok]
  exact ⟨by omega, rfl⟩

lemma le_extendTtl (sequence ttl liveUntil : ℕ) :
    liveUntil ≤ extendTtl sequence ttl ttl liveUntil := by
  rw [extendTtl]
  split_ifs <;> omega

lemma add_le_extendTtl {ttl : ℕ} (h : 0 < ttl) (sequence liveUntil : ℕ) :
    sequence + ttl ≤ extendTtl sequence ttl ttl liveUntil := by
  rw [extendTtl]
  split_ifs <;> omega

/-! ### What a call does to the entries -/

/-- The order was created for `seconds` in the ledger `sequence` at the time `now`, and its entry
has at least the lifetime that was computed then. -/
structure Sustained (now sequence seconds : ℕ) (e : Entry) : Prop where
  createdAt : e.order.createdAt = now
  timelock : e.order.timelock = now + seconds
  accepted : seconds ≤ maxTimelockSeconds
  lives : sequence + (ledgersOf seconds + orderTtlMarginLedgers) ≤ e.liveUntil

/-- A call keeps every entry and shortens no lifetime; an order that is funded afterwards was there
before or is new. -/
structure Prolongs (inv : Invocation E) (s s' : State) : Prop where
  kept : ∀ id e, s.orders id = some e → ∃ e', s'.orders id = some e' ∧ e.liveUntil ≤ e'.liveUntil
  funded : ∀ id e', s'.orders id = some e' → e'.order.status = .funded →
    (∃ e, s.orders id = some e ∧ e'.order = e.order ∧ e.liveUntil ≤ e'.liveUntil) ∨
      ∃ seconds, Sustained inv.timestamp inv.sequence seconds e'

variable {inv : Invocation E} {s s' : State}

lemma Prolongs.of_orders (h : s'.orders = s.orders) :
    Prolongs inv s s' where
  kept id e he := ⟨e, by rw [h, he], le_rfl⟩
  funded id e' he' _ := .inl ⟨e', by rw [← h, he'], rfl, le_rfl⟩

/-- One entry is written. -/
lemma Prolongs.of_set {orderId : ℕ} {new : Entry}
    (h : s'.orders = Function.update s.orders orderId (some new))
    (hkept : ∀ e, s.orders orderId = some e → e.liveUntil ≤ new.liveUntil)
    (hfunded : new.order.status = .funded →
      (∃ e, s.orders orderId = some e ∧ new.order = e.order) ∨
        ∃ seconds, Sustained inv.timestamp inv.sequence seconds new) : Prolongs inv s s' where
  kept id e he := by
    by_cases hid : id = orderId
    · subst hid
      exact ⟨new, by rw [h, Function.update_self], hkept e he⟩
    · exact ⟨e, by rw [h, Function.update_of_ne hid, he], le_rfl⟩
  funded id e' he' hstatus := by
    by_cases hid : id = orderId
    · subst hid
      rw [h, Function.update_self, Option.some.injEq] at he'
      subst he'
      rcases hfunded hstatus with ⟨e, he, hsame⟩ | hnew
      · exact .inl ⟨e, he, hsame, hkept e he⟩
      · exact .inr hnew
    · rw [h, Function.update_of_ne hid] at he'
      exact .inl ⟨e', he', rfl, le_rfl⟩

/-- An order is written with a new lifetime. -/
lemma Prolongs.of_store {orderId : ℕ} {o : Order} {ttl : ℕ}
    (h : s'.orders = (storeOrder inv orderId o ttl s).orders)
    (hfunded : o.status = .funded → ∀ liveUntil, inv.sequence + ttl ≤ liveUntil →
      ∃ seconds, Sustained inv.timestamp inv.sequence seconds ⟨o, liveUntil⟩) (hpos : 0 < ttl) :
    Prolongs inv s s' := by
  rw [storeOrder, State.setOrder] at h
  refine .of_set h (fun e he => ?_) fun hstatus => .inr ?_
  · rw [he]
    exact le_extendTtl _ _ _
  · exact hfunded hstatus _ (add_le_extendTtl hpos _ _)

section Functions

variable {inv : Invocation E} {s s' : State}

variable {orderId : ℕ}

lemma createOrder_step {a : CreateArgs} {gate : Reply E Bool} {pull : Reply E Unit}
    (h : createOrder inv a gate pull s = .ok (orderId, s')) :
    RoleStep inv .other s s' ∧ Prolongs inv s s' := by
  obtain ⟨hc, hrole, cls, ttl, httl, horders⟩ := createOrder_created h
  have hchecks := hc.checks
  simp only [createChecks, chain_eq_ok, failIf_eq_ok, exists_const, not_not] at hchecks
  obtain ⟨-, -, -, ⟨-, hmax⟩, -⟩ := hchecks
  obtain rfl := Except.ok.inj ((orderTtlLedgers_eq hmax).2.symm.trans httl)
  refine ⟨hrole, .of_store horders (fun _ liveUntil hlives => ?_) ?_⟩
  · exact ⟨a.timelockSeconds, rfl, rfl, hmax, hlives⟩
  · have hmargin : orderTtlMarginLedgers = 302400 := rfl
    omega

lemma extendOrderTtl_step (h : extendOrderTtl inv orderId s = .ok s') :
    RoleStep inv .other s s' ∧ Prolongs inv s s' := by
  simp only [extendOrderTtl, requireInitialised, chain_eq_ok, failIf_eq_ok, exists_const,
    loadOrder_eq_ok, pure_eq_ok_iff] at h
  obtain ⟨-, entry, ⟨hentry, -⟩, extendTo, -, rfl⟩ := h
  refine ⟨.kept rfl rfl rfl, .of_set rfl (fun e he => ?_) fun _ => .inl ⟨entry, hentry, rfl⟩⟩
  obtain rfl := Option.some.inj (hentry.symm.trans he)
  exact le_extendTtl _ _ _

lemma restoreOrder_step (inv : Invocation E) (orderId : ℕ) (s : State) :
    RoleStep inv .other s (restoreOrder inv orderId s) ∧
      Prolongs inv s (restoreOrder inv orderId s) := by
  rw [restoreOrder]
  cases hentry : s.orders orderId with
  | none => exact ⟨.kept rfl rfl rfl, .of_orders rfl⟩
  | some entry =>
    simp only
    split_ifs with harchived
    · refine ⟨.kept rfl rfl rfl, .of_set rfl (fun e he => ?_) fun _ => .inl ⟨entry, hentry, rfl⟩⟩
      obtain rfl := Option.some.inj (hentry.symm.trans he)
      show entry.liveUntil ≤ inv.sequence + E.minPersistentTtl - 1
      omega
    · exact ⟨.kept rfl rfl rfl, .of_orders rfl⟩

/-- **What a call does to the admin role and to the entries**, unless it fails. -/
theorem exec_step {a : Action E} (h : exec inv a s = .ok s') :
    RoleStep inv a.part s s' ∧ Prolongs inv s s' := by
  replace h := dispatch_of_exec h
  by_cases ha : a.isGovernance = true
  · obtain ⟨hrole, hfunds, -⟩ := governance_step h ha
    exact ⟨hrole, .of_orders hfunds.orders⟩
  cases a with
  | createOrder args gate pull =>
    obtain ⟨orderId, hc⟩ := dispatch_createOrder h
    exact createOrder_step hc
  | claimOrder orderId preimage caller first second =>
    obtain ⟨-, -, o, -, -, hrole, horders⟩ := claimOrder_settled h
    exact ⟨hrole, .of_store horders nofun (by decide)⟩
  | refundOrder orderId caller first second =>
    obtain ⟨-, -, o, -, -, hrole, horders⟩ := refundOrder_settled h
    exact ⟨hrole, .of_store horders nofun (by decide)⟩
  | extendOrderTtl orderId => exact extendOrderTtl_step h
  | transfers moves =>
    cases h
    exact ⟨.kept rfl rfl rfl, .of_orders rfl⟩
  | restore orderId =>
    cases h
    exact restoreOrder_step inv orderId s
  | restoreInstance =>
    cases h
    obtain ⟨hrole, hfunds, -⟩ := restoreInstance_funds inv s
    exact ⟨hrole, .of_orders hfunds.orders⟩
  | _ => exact absurd rfl ha

end Functions

/-! ### Histories -/

/-- Every funded order was created at most now, in one of the ledgers, and its entry has at least
the lifetime that it got then. -/
def Lasting (l : LedgerTimes) (now : ℕ) (s : State) : Prop :=
  ∀ id e, s.orders id = some e → e.order.status = .funded →
    e.order.createdAt ≤ now ∧
      ∃ sequence seconds, Sustained (l.closeTime sequence) sequence seconds e

lemma Prolongs.lasting {l : LedgerTimes} (h : Prolongs inv s s')
    (hinv : inv.timestamp = l.closeTime inv.sequence) (hs : Lasting l inv.timestamp s) :
    Lasting l inv.timestamp s' := by
  intro id e' he' hstatus
  rcases h.funded id e' he' hstatus with ⟨e, he, hsame, hle⟩ | ⟨seconds, hnew⟩
  · obtain ⟨hnow, sequence, seconds, hold⟩ := hs id e he (by rw [← hsame]; exact hstatus)
    rw [hsame]
    refine ⟨hnow, sequence, seconds, ?_, ?_, hold.accepted, hold.lives.trans hle⟩
    · rw [hsame]
      exact hold.createdAt
    · rw [hsame]
      exact hold.timelock
  · exact ⟨hnew.createdAt.le, inv.sequence, seconds, hinv ▸ hnew⟩

namespace History

variable {h : History E} {l : LedgerTimes}

lemma lasting_call (hl : h.On l) {n : ℕ} {c : Invocation E × Action E}
    (hc : h.calls[n]? = some c) : Lasting l c.1.timestamp (h.stateAt n) := by
  refine Machine.stateAt_timed (M := htlc E) (s := h.start) (I := Lasting l) ?_ ?_ h.timed ?_ hc
  · intro t t' s hle hs id e he hstatus
    obtain ⟨hnow, hrest⟩ := hs id e he hstatus
    exact ⟨hnow.trans hle, hrest⟩
  · intro n c s' hc hs hok
    exact (exec_step hok).2.lasting (hl c (List.mem_of_getElem? hc)) hs
  · intro id e he
    rw [h.initialised.orders id] at he
    cases he

/-- At every point of the history, at some time. -/
lemma lasting (hl : h.On l) (n : ℕ) : ∃ now, Lasting l now (h.stateAt n) := by
  induction n with
  | zero =>
    refine ⟨0, fun id e he => ?_⟩
    rw [show (h.stateAt 0).orders id = none from h.initialised.orders id] at he
    cases he
  | succ n ih =>
    cases hc : h.calls[n]? with
    | none =>
      rw [show h.stateAt (n + 1) = h.stateAt n from Machine.stateAt_succ_of_none hc]
      exact ih
    | some c =>
      refine ⟨c.1.timestamp, ?_⟩
      have hbefore := lasting_call hl hc
      rw [show h.stateAt (n + 1) = (htlc E).step (h.stateAt n) c from Machine.stateAt_succ hc]
      rcases Machine.step_cases (htlc E) (h.stateAt n) c with hsame | ⟨s', hok, hstep⟩
      · rw [hsame]
        exact hbefore
      · rw [hstep]
        exact (exec_step hok).2.lasting (hl c (List.mem_of_getElem? hc)) hbefore

end History

/-- Such an entry is live in every ledger up to the first one that closes later than fourteen days
after the timelock, less the four seconds of the rounding. -/
lemma Sustained.live {l : LedgerTimes} {sequence seconds : ℕ} {e : Entry}
    (h : Sustained (l.closeTime sequence) sequence seconds e) {ledger : ℕ}
    (hearly : ∀ k < ledger, l.closeTime k + 4 ≤ e.order.timelock + 14 * 86400) :
    ledger ≤ e.liveUntil := by
  have hlives := h.lives
  have hmargin : orderTtlMarginLedgers = 302400 := rfl
  have hround : seconds ≤ 4 * ledgersOf seconds := by
    simp only [ledgersOf, assumedMinLedgerTimeSecs]
    omega
  by_cases hle : ledger ≤ sequence
  · omega
  -- the ledger before it has closed at least four seconds after each ledger since the creation
  have hlast := hearly (ledger - 1) (by omega)
  have hspaced := l.add_le sequence (ledger - 1 - sequence)
  rw [show sequence + (ledger - 1 - sequence) = ledger - 1 by omega] at hspaced
  rw [h.timelock] at hlast
  omega

/-- **The lifetime of an order.**  Where ledgers are at least four seconds apart: the entry of a
funded order is live up to the first ledger that closes later than fourteen days after its
timelock, less the rounding, so that it is live in the first ledger in which it can be refunded;
no call shortens the lifetime of an entry; and neither for a timelock that `create_order` accepts
nor for what is left of it is anything cut off, nor does the sum overflow. -/
theorem order_entry_outlives_timelock (l : LedgerTimes) (h : History E) (hl : h.On l) :
    (∀ n id e, (h.stateAt n).orders id = some e → e.order.status = .funded →
      (∀ ledger, (∀ k < ledger, l.closeTime k + assumedMinLedgerTimeSecs ≤
        e.order.timelock + 14 * 86400) → ledger ≤ e.liveUntil) ∧
      ∀ ledger, (∀ k < ledger, l.closeTime k ≤ e.order.timelock) → ledger ≤ e.liveUntil) ∧
    (∀ n id e, (h.stateAt n).orders id = some e →
      ∃ e', (h.stateAt (n + 1)).orders id = some e' ∧ e.liveUntil ≤ e'.liveUntil) ∧
    (∀ seconds, seconds ≤ maxTimelockSeconds → ledgersOf seconds < 2 ^ 32 ∧
      orderTtlLedgers seconds = .ok (ledgersOf seconds + orderTtlMarginLedgers)) ∧
    ∀ n c id e, h.calls[n]? = some c → (h.stateAt n).orders id = some e →
      e.order.status = .funded → ledgersOf (e.order.timelock - c.1.timestamp) < 2 ^ 32 ∧
        remainingTtlLedgers c.1.timestamp e.order =
          .ok (ledgersOf (e.order.timelock - c.1.timestamp) + orderTtlMarginLedgers) := by
  refine ⟨fun n id e he hstatus => ?_, fun n id e he => ?_, fun _ => orderTtlLedgers_eq, ?_⟩
  · obtain ⟨now, hlasting⟩ := h.lasting hl n
    obtain ⟨-, sequence, seconds, hsustained⟩ := hlasting id e he hstatus
    refine ⟨fun ledger => hsustained.live, fun ledger hearly => hsustained.live fun k hk => ?_⟩
    have hclose := hearly k hk
    omega
  · rcases Machine.stateAt_succ_cases (htlc E) h.start h.calls n with hsame | ⟨c, -, hok⟩
    · rw [show h.stateAt (n + 1) = h.stateAt n from hsame]
      exact ⟨e, he, le_rfl⟩
    · exact (exec_step hok).2.kept id e he
  · intro n c id e hc he hstatus
    obtain ⟨hnow, sequence, seconds, hsustained⟩ := h.lasting_call hl hc id e he hstatus
    have hrest : e.order.timelock - c.1.timestamp ≤ maxTimelockSeconds := by
      have haccepted := hsustained.accepted
      rw [hsustained.createdAt] at hnow
      rw [hsustained.timelock]
      omega
    rw [remainingTtlLedgers, hstatus]
    exact orderTtlLedgers_eq hrest

namespace Sample

open Soroban.Sample

/-- An order, and an extension when it runs out. -/
def extendedCalls : List (Invocation (env 0) × Action (env 0)) :=
  [(signedBy 1 1000, .createOrder args (quiet true) (quiet ())),
   (signedBy 2 1300, .extendOrderTtl 1)]

lemma extendedCalls_timed : Machine.Timed (fun c => c.1.timestamp) extendedCalls := by
  simp [Machine.Timed, extendedCalls, signedBy]

def extended : History (env 0) where
  start := start
  initialised := initialised_start
  calls := extendedCalls
  timed := extendedCalls_timed

/-- A ledger every five seconds. -/
def everyFive : LedgerTimes where
  closeTime n := 5 * n
  spaced n := by
    show 5 * n + 4 ≤ 5 * (n + 1)
    omega

end Sample

/-- The sample order is there in the ledger after its timelock. -/
theorem order_entry_outlives_timelock_sample :
    Sample.extended.On Sample.everyFive ∧
      ∃ e, (Sample.extended.stateAt 2).orders 1 = some e ∧ e.order.status = .funded ∧
        e.order.timelock = 1300 ∧ 261 ≤ e.liveUntil := by
  have hl : Sample.extended.On Sample.everyFive := by
    simp [History.On, Sample.extended, Sample.extendedCalls, Sample.everyFive,
      Soroban.Sample.signedBy]
  have hentry : ((Sample.extended.stateAt 2).orders 1).map
      (fun e => (e.order.status, e.order.timelock)) = some (.funded, 1300) := by decide +kernel
  obtain ⟨e, he, hfields⟩ := Option.map_eq_some_iff.1 hentry
  obtain ⟨hstatus, htimelock⟩ := Prod.mk.inj hfields
  refine ⟨hl, e, he, hstatus, htimelock, ?_⟩
  refine ((order_entry_outlives_timelock Sample.everyFive Sample.extended hl).1 2 1 e he
    hstatus).2 261 fun k hk => ?_
  rw [htimelock]
  show 5 * k ≤ 1300
  omega

end WaffleFinance.Soroban.Htlc

import WaffleFinance.Coordinator.Deliveries

/-!
# Where source locks come from

Everybody knows the hashlock of an order and can make a deposit with it, on any chain.  The
coordinator looks at the hashlock alone: the first deposit that reaches it while the order waits for
its source lock becomes the source lock, whoever made it and wherever.  That goes wrong with the
deposit of a stranger (`stranger_locks`) and with the deposit of the resolver on the other chain
(`counterLock_locks`).
-/

namespace WaffleFinance.Coordinator

open Lib OrdersRepository

/-- The order waits for its source lock. -/
def OrderRow.AwaitsLock (r : OrderRow) : Prop :=
  r.srcOrderId = none ∧ (r.status = .announced ∨ r.status = .srcLocked)

instance instDecidableAwaitsLock (r : OrderRow) : Decidable r.AwaitsLock :=
  inferInstanceAs (Decidable (_ ∧ _))

/-! ### One delivery -/

section Rows

variable {r r' : OrderRow}

lemma deposit_of_body (h : r'.body = r.body) : r'.deposit = r.deposit := by
  show r'.body.deposit = r.body.deposit
  rw [h]

lemma deposit_secretRow (input : SecretInput) (r : OrderRow) :
    (secretRow input r).deposit = r.deposit := by
  unfold secretRow
  split <;> rfl

lemma srcLock_secretRow (input : SecretInput) (r : OrderRow) :
    (secretRow input r).srcLock = r.srcLock := by
  unfold secretRow
  split <;> rfl

lemma awaitsLock_of_srcLock {input : SrcLockInput} (h : srcLockVerdict input r = .proceed) :
    r.AwaitsLock := by
  obtain ⟨hnone, hverdict⟩ := lockVerdict_proceed h
  refine ⟨hnone, ?_⟩
  rcases (recordVerdict_proceed hverdict).2 with hcan | hlocked
  · exact Or.inl (canTransition_srcLocked.1 hcan)
  · exact Or.inr hlocked

lemma srcLockVerdict_of_awaitsLock (h : r.AwaitsLock) (input : SrcLockInput) :
    srcLockVerdict input r = .proceed := by
  obtain ⟨hnone, hstatus | hstatus⟩ := h
  · simp [srcLockVerdict, lockVerdict, recordVerdict, hnone, hstatus, isTerminal, canTransition,
      orderStatusTransitions]
  · simp [srcLockVerdict, lockVerdict, recordVerdict, hnone, hstatus, isTerminal, canTransition,
      orderStatusTransitions]

lemma lockRow_of_awaitsLock (h : r.AwaitsLock) (input : SrcLockInput) :
    lockRow (srcLockRecord input) r = ((srcLockRecord input).fill r).withStatus .srcLocked := by
  obtain ⟨-, hstatus | hstatus⟩ := h
  · simp [lockRow, nextLockStatus, hstatus, srcLockRecord, isTerminal, canTransition,
      orderStatusTransitions]
  · simp [lockRow, nextLockStatus, hstatus, srcLockRecord, isTerminal, canTransition,
      orderStatusTransitions]

end Rows

/-- The event gets past everything that holds back events, to this order. -/
structure Delivery.GetsThrough (hashes : Hashes) (s : Db × Memory) (x : Delivery) (p : Text)
    (r : OrderRow) : Prop where
  heard : x.Heard hashes s
  target_eq : x.target hashes s.1 = some (p, r)

/-- What a delivery does to the source leg of an order. -/
inductive SourceStep (hashes : Hashes) (s : Db × Memory) (x : Delivery) (p : Text)
    (r r' : OrderRow) : Prop
  | still (body_eq : r'.body = r.body)
  | settled (unannounced : r.status ≠ .announced) (unlocked : r'.status ≠ .srcLocked)
      (srcLock_eq : r'.srcLock = r.srcLock) (deposit_eq : r'.deposit = r.deposit)
  | filled {c : Created} (created_eq : x.created = some c)
      (through : x.GetsThrough hashes s p r) (hashlock_eq : c.hashlock = r.hashlock)
      (awaits : r.AwaitsLock) (fills : c.Fills r') (status_eq : r'.status = .srcLocked)
      (deposit_eq : r'.deposit = r.deposit)

section Step

variable {hashes : Hashes} {x : Delivery} {ρ : Reaction} {p : Text} {r r' : OrderRow} {j : Job}
  {d : Db} {s : Db × Memory} {rs : Answers Call fun _ => Fate}

lemma Created.fills_of_lockRow {c : Created} {input : SrcLockInput} (hawaits : r.AwaitsLock)
    (horderId : input.orderId = c.orderId) (htxHash : input.txHash = c.txHash)
    (hposition : some input.blockNumber = c.position) (htimelock : some input.timelock = c.timelock)
    (hbody : r'.body = (lockRow (srcLockRecord input) r).body) :
    c.Fills r' ∧ r'.status = .srcLocked ∧ r'.deposit = r.deposit := by
  rw [lockRow_of_awaitsLock hawaits] at hbody
  refine ⟨?_, status_eq_of_body hbody, (deposit_of_body hbody).trans rfl⟩
  unfold Created.Fills
  rw [RowMove.srcLock_of_body hbody, ← horderId, ← htxHash, ← hposition, ← htimelock]
  rfl

lemma Delivery.target_eq_some (hρ : x.reaction hashes = some ρ)
    (hfound : firstOf d ρ.lookups = some (p, r)) (hjob : ρ.job p r = some j) :
    x.target hashes d = some (p, r) := by
  simp [Delivery.target, hρ, hfound, hjob]

lemma Delivery.get_of_target (h : x.target hashes d = some (p, r)) :
    d.orders.get p = some r := by
  obtain ⟨ρ, -, h⟩ := Option.bind_eq_some_iff.1 h
  obtain ⟨o, hfound, h⟩ := Option.bind_eq_some_iff.1 h
  split at h
  · cases h
    exact get_of_firstOf hfound
  · cases h

lemma hashlock_of_firstOf {hashlock : Text} (h : firstOf d [.byHashlock hashlock] = some (p, r)) :
    hashlock = r.hashlock := by
  rw [firstOf_singleton] at h
  have hnames : decide (r.hashlock = hashlock) = true := (InsertionMap.mem_of_first h).2
  exact (of_decide_eq_true hnames).symm

lemma Delivery.Works.sourceStep (hworks : x.Works ρ p r j)
    (hfound : firstOf s.1 ρ.lookups = some (p, r)) (hthrough : x.GetsThrough hashes s p r)
    (hverdict : j.verdict r = .proceed) (hbody : r'.body = (j.write.row r).body) :
    SourceStep hashes s x p r r' := by
  cases hworks with
  | @locks c input hcreated hlookups hunlocked hid horderId htxHash hposition htimelock =>
    have hawaits := awaitsLock_of_srcLock hverdict
    obtain ⟨hfills, hstatus, hdeposit⟩ :=
      Created.fills_of_lockRow hawaits horderId htxHash hposition htimelock hbody
    rw [hlookups] at hfound
    exact .filled hcreated hthrough (hashlock_of_firstOf hfound) hawaits hfills hstatus hdeposit
  | reveals _ preimage txHash =>
    obtain ⟨hnone, hchecked⟩ := secretVerdict_proceed hverdict
    obtain ⟨hterminal, hcan⟩ := recordVerdict_proceed hchecked
    refine .settled ?_ ?_ ?_ ?_
    · intro hstatus
      rw [hstatus] at hcan
      revert hcan
      decide
    · rw [status_eq_of_body hbody]
      show (secretRow ⟨p, preimage, txHash, none, none⟩ r).status ≠ .srcLocked
      simp [secretRow, hterminal, hnone, encVersionAllowed, fillSecret]
    · rw [RowMove.srcLock_of_body hbody]
      exact srcLock_secretRow _ r
    · rw [deposit_of_body hbody]
      exact deposit_secretRow _ r
  | refunds =>
    have hcan := statusVerdict_proceed hverdict
    refine .settled ?_ ?_ ?_ ?_
    · intro hstatus
      rw [hstatus] at hcan
      revert hcan
      decide
    · rw [status_eq_of_body hbody]
      exact nofun
    · exact (RowMove.srcLock_of_body hbody).trans rfl
    · exact (deposit_of_body hbody).trans rfl

lemma Delivery.sourceStep (hr' : (x.deliver hashes rs s).1.orders.get p = some r') :
    ∃ r, s.1.orders.get p = some r ∧ SourceStep hashes s x p r r' := by
  by_cases hheard : x.Heard hashes s
  · cases hρ : x.reaction hashes with
    | none =>
      rw [Delivery.deliver_of_none hρ] at hr'
      exact ⟨r', hr', .still rfl⟩
    | some ρ =>
      have hmove := Delivery.deliver_moves rs s hρ p
      rw [hr'] at hmove
      generalize hbefore : s.1.orders.get p = before at hmove
      cases hmove with
      | still hbody =>
        obtain ⟨r, hr, hbody⟩ := Option.map_eq_some_iff.1 hbody.symm
        exact ⟨r, hr, .still hbody.symm⟩
      | worked hfound hjob hverdict hbody =>
        have htarget := Delivery.target_eq_some hρ hfound hjob
        have hstep := (Delivery.works hρ hjob).sourceStep hfound ⟨hheard, htarget⟩ hverdict hbody
        exact ⟨_, rfl, hstep⟩
  · rw [Delivery.orders_deliver_unheard hheard] at hr'
    exact ⟨r', hr', .still rfl⟩

lemma Delivery.get_deliver (hr : s.1.orders.get p = some r) :
    ∃ r', (x.deliver hashes rs s).1.orders.get p = some r' := by
  cases hρ : x.reaction hashes with
  | none =>
    rw [Delivery.deliver_of_none hρ]
    exact ⟨r, hr⟩
  | some ρ =>
    have hmove := Delivery.deliver_moves rs s hρ p
    rw [hr] at hmove
    generalize (x.deliver hashes rs s).1.orders.get p = after at hmove
    cases hmove with
    | still hbody =>
      obtain ⟨r', hr', -⟩ := Option.map_eq_some_iff.1 hbody
      exact ⟨r', hr'⟩
    | worked => exact ⟨_, rfl⟩

end Step

/-! ### The chain of the lock -/

/-- A deposit that gets through to an order that waits for its source lock is on the source chain
of the order. -/
def OnSourceChain (hashes : Hashes) (s : Db × Memory) (x : Delivery) : Prop :=
  x.Heard hashes s → ∀ c ∈ x.created, ∀ o ∈ x.target hashes s.1, o.2.AwaitsLock →
    c.chain = o.2.srcChain

section Runs

variable {hashes : Hashes} {d : Db} {xs : Deliveries} {n : ℕ} {p : Text} {r r' : OrderRow}
  {x : Delivery} {rs : Answers Call fun _ => Fate}

lemma deliveredAt_succ (hx : xs[n]? = some (x, rs)) :
    deliveredAt hashes d xs (n + 1) = x.deliver hashes rs (deliveredAt hashes d xs n) := by
  rw [deliveredAt, Machine.stateAt_succ hx]
  rfl

lemma deliveredAt_step (hr' : (deliveredAt hashes d xs (n + 1)).1.orders.get p = some r') :
    ∃ r, (deliveredAt hashes d xs n).1.orders.get p = some r ∧
      (r' = r ∨ ∃ x rs, xs[n]? = some (x, rs) ∧
        SourceStep hashes (deliveredAt hashes d xs n) x p r r') := by
  cases hx : xs[n]? with
  | none =>
    have hsame : deliveredAt hashes d xs (n + 1) = deliveredAt hashes d xs n :=
      Machine.stateAt_succ_of_none hx
    rw [hsame] at hr'
    exact ⟨r', hr', Or.inl rfl⟩
  | some delivery =>
    rw [deliveredAt_succ hx] at hr'
    obtain ⟨r, hr, hstep⟩ := Delivery.sourceStep hr'
    exact ⟨r, hr, Or.inr ⟨delivery.1, delivery.2, rfl, hstep⟩⟩

end Runs

/-- Leg attribution: as long as every deposit that gets through to an order without a source lock is
on its source chain, the columns of its source lock change only by a deposit on the source chain,
and so does its status to `srcLocked`. -/
theorem source_leg_from_source_chain (hashes : Hashes) (d : Db) (xs : Deliveries)
    (hchain : ∀ n x rs, xs[n]? = some (x, rs) →
      OnSourceChain hashes (deliveredAt hashes d xs n) x)
    (n : ℕ) (p : Text) (r' : OrderRow)
    (hr' : (deliveredAt hashes d xs (n + 1)).1.orders.get p = some r') :
    ∃ r, (deliveredAt hashes d xs n).1.orders.get p = some r ∧
      (r'.srcLock ≠ r.srcLock ∨ r'.status = .srcLocked ∧ r.status ≠ .srcLocked →
        ∃ x rs c, xs[n]? = some (x, rs) ∧ x.created = some c ∧ c.chain = r.srcChain ∧
          c.Fills r') := by
  obtain ⟨r, hr, hstep⟩ := deliveredAt_step hr'
  refine ⟨r, hr, fun hchanged => ?_⟩
  obtain rfl | ⟨x, rs, hx, hstep⟩ := hstep
  · exact absurd hchanged (by simp)
  cases hstep with
  | still hbody =>
    rw [RowMove.srcLock_of_body hbody, status_eq_of_body hbody] at hchanged
    exact absurd hchanged (by simp)
  | settled _ hunlocked hsrcLock =>
    rw [hsrcLock] at hchanged
    rcases hchanged with hne | ⟨hlocked, -⟩
    · exact absurd rfl hne
    · exact absurd hlocked hunlocked
  | @filled c hcreated hthrough _ hawaits hfills =>
    have hsrc := hchain n x rs hx hthrough.heard c hcreated (p, r) hthrough.target_eq hawaits
    exact ⟨x, rs, c, hx, hcreated, hsrc, hfills⟩

namespace Sample

/-- The deposit of the resolver on Stellar. -/
def counterLock : SorobanEvent where
  ledger := 40
  txHash := "st9".toList
  discriminator := "0".toList
  decoded := some (.created 9 (List.replicate 64 'a') 700
    ⟨"GR1".toList, sampleInput.dstAsset, sampleInput.dstAmount⟩)

def calmDelivery (x : Delivery) : Delivery × Answers Call fun _ => Fate :=
  (x, fun _ _ => Fate.calm)

/-- Both deposits, that of the client first. -/
def bothLegs : Deliveries :=
  [calmDelivery (.ethCreated ownDeposit), calmDelivery (.sorobanListener counterLock .live)]

end Sample

open Sample in
theorem source_leg_from_source_chain_sample :
    (∀ n x rs, bothLegs[n]? = some (x, rs) → OnSourceChain noHashes
        (deliveredAt noHashes announcedDb bothLegs n) x) ∧
      ∃ r' r : OrderRow, (deliveredAt noHashes announcedDb bothLegs
          1).1.orders.get sampleId = some r' ∧ r'.status = .srcLocked ∧
        (r'.srcLock ≠ r.srcLock ∨ r'.status = .srcLocked ∧ r.status ≠ .srcLocked →
          ∃ x rs c, bothLegs[0]? = some (x, rs) ∧ x.created = some c ∧
            c.chain = r.srcChain ∧ c.Fills r') := by
  have hchain : ∀ n x rs, bothLegs[n]? = some (x, rs) → OnSourceChain noHashes
      (deliveredAt noHashes announcedDb bothLegs n) x := by
    intro n x rs hx _
    match n with
    | 0 =>
      obtain ⟨rfl, rfl⟩ := Prod.mk.inj (Option.some.inj hx)
      decide +kernel
    | 1 =>
      obtain ⟨rfl, rfl⟩ := Prod.mk.inj (Option.some.inj hx)
      decide +kernel
    | n + 2 => cases hx
  have hlocked : ((deliveredAt noHashes announcedDb bothLegs 1).1.orders.get
      sampleId).map OrderRow.status = some .srcLocked := by decide +kernel
  obtain ⟨r', hr', hstatus⟩ := Option.map_eq_some_iff.1 hlocked
  obtain ⟨r, -, hfilled⟩ := source_leg_from_source_chain noHashes announcedDb
    bothLegs hchain 0 sampleId r' hr'
  exact ⟨hchain, r', r, hr', hstatus, hfilled⟩

open Sample in
/-- The deposit of the resolver on Stellar becomes the source lock of an order whose source is
Ethereum. -/
theorem counterLock_locks :
    ((deliveredAt noHashes announcedDb
        [calmDelivery (.sorobanListener counterLock .live)] 1).1.orders.get
        sampleId).map (fun r => (r.srcChain, r.status, r.srcOrderId)) =
      some (.ethereum, .srcLocked, some "9".toList) ∧
      (Delivery.sorobanListener counterLock .live).created.map Created.chain =
        some .stellar := by
  decide +kernel

/-! ### The deposit of the lock -/

/-- A deposit that gets through to an order that waits for its source lock is as announced. -/
def AsAnnounced (hashes : Hashes) (s : Db × Memory) (x : Delivery) : Prop :=
  x.Heard hashes s → ∀ c ∈ x.created, ∀ o ∈ x.target hashes s.1, o.2.AwaitsLock →
    c.deposit = o.2.deposit

section Locks

variable {hashes : Hashes} {d : Db} {xs : Deliveries} {n : ℕ} {p : Text} {r r' : OrderRow}
  {x : Delivery} {c : Created} {s : Db × Memory}

/-- Until the deposit of the client gets through, an announced order stays as it is. -/
lemma body_until (hannounced : ∀ n x rs, xs[n]? = some (x, rs) →
      AsAnnounced hashes (deliveredAt hashes d xs n) x)
    (hr : d.orders.get p = some r) (hstatus : r.status = .announced)
    (hother : ∀ k < n, ∀ x rs c rₖ, xs[k]? = some (x, rs) → x.created = some c →
      x.GetsThrough hashes (deliveredAt hashes d xs k) p rₖ → c.deposit ≠ r.deposit) :
    ∃ rₙ, (deliveredAt hashes d xs n).1.orders.get p = some rₙ ∧ rₙ.body = r.body := by
  induction n with
  | zero => exact ⟨r, by rw [deliveredAt, Machine.stateAt_zero]; exact hr, rfl⟩
  | succ n ih =>
    obtain ⟨rₙ, hrₙ, hbody⟩ := ih fun k hk => hother k (hk.trans n.lt_succ_self)
    have hsucc : ∃ r', (deliveredAt hashes d xs (n + 1)).1.orders.get p = some r' := by
      cases hx : xs[n]? with
      | none =>
        rw [deliveredAt, Machine.stateAt_succ_of_none hx]
        exact ⟨rₙ, hrₙ⟩
      | some delivery =>
        rw [deliveredAt_succ hx]
        exact Delivery.get_deliver hrₙ
    obtain ⟨r', hr'⟩ := hsucc
    refine ⟨r', hr', ?_⟩
    obtain ⟨rₙ', hrₙ', hstep⟩ := deliveredAt_step hr'
    obtain rfl := Option.some.inj (hrₙ.symm.trans hrₙ')
    obtain rfl | ⟨x, rs, hx, hstep⟩ := hstep
    · exact hbody
    cases hstep with
    | still hsame => exact hsame.trans hbody
    | settled hunannounced =>
      exact absurd ((status_eq_of_body hbody).trans hstatus) hunannounced
    | @filled c hcreated hthrough _ hawaits =>
      have hdeposit := hannounced n x rs hx hthrough.heard c hcreated _ hthrough.target_eq hawaits
      rw [deposit_of_body hbody] at hdeposit
      exact absurd hdeposit (hother n n.lt_succ_self x rs c rₙ hx hcreated hthrough)

lemma fills_of_getsThrough (hcreated : x.created = some c) (hthrough : x.GetsThrough hashes s p r)
    (hawaits : r.AwaitsLock) :
    ∃ r', (x.deliver hashes (fun _ _ => Fate.calm) s).1.orders.get p = some r' ∧
      r'.status = .srcLocked ∧ c.Fills r' := by
  obtain ⟨ρ, hρ, htarget⟩ := Option.bind_eq_some_iff.1 hthrough.target_eq
  obtain ⟨o, hfound, htarget⟩ := Option.bind_eq_some_iff.1 htarget
  split at htarget
  · rename_i hsome
    cases htarget
    obtain ⟨j, hjob⟩ := Option.isSome_iff_exists.1 hsome
    cases Delivery.works hρ hjob with
    | @locks c' input hcreated' hlookups _ hid horderId htxHash hposition htimelock =>
      obtain rfl := Option.some.inj (hcreated.symm.trans hcreated')
      have hbody := Delivery.body_deliver hρ hthrough.heard hfound hjob trivial
        (srcLockVerdict_of_awaitsLock hawaits input)
      obtain ⟨r', hr', hbody⟩ := Option.map_eq_some_iff.1 hbody
      obtain ⟨hfills, hstatus, -⟩ :=
        Created.fills_of_lockRow hawaits horderId htxHash hposition htimelock hbody
      exact ⟨r', hr', hstatus, hfills⟩
    | reveals hnone | refunds hnone =>
      rw [hcreated] at hnone
      cases hnone
  · cases htarget

end Locks

/-- What lock authenticity means for the deliveries to a database. -/
structure LockAuthenticity (hashes : Hashes) (d : Db) (xs : Deliveries) : Prop where
  /-- The columns of a source lock only come from a deposit as it was announced. -/
  filled : ∀ n p r', (deliveredAt hashes d xs (n + 1)).1.orders.get p = some r' →
    ∃ r, (deliveredAt hashes d xs n).1.orders.get p = some r ∧
      (r'.srcLock ≠ r.srcLock → ∃ x rs c, xs[n]? = some (x, rs) ∧ x.created = some c ∧
        c.hashlock = r.hashlock ∧ c.deposit = r.deposit ∧ c.Fills r')
  /-- After any other events, the first deposit as announced that gets through and that nothing goes
  wrong with locks the order. -/
  locked : ∀ n p r rₙ x c, d.orders.get p = some r → r.status = .announced →
    r.srcOrderId = none →
    (∀ k < n, ∀ x rs c rₖ, xs[k]? = some (x, rs) → x.created = some c →
      x.GetsThrough hashes (deliveredAt hashes d xs k) p rₖ → c.deposit ≠ r.deposit) →
    xs[n]? = some (x, fun _ _ => Fate.calm) → x.created = some c → c.deposit = r.deposit →
    x.GetsThrough hashes (deliveredAt hashes d xs n) p rₙ →
    ∃ r', (deliveredAt hashes d xs (n + 1)).1.orders.get p = some r' ∧ r'.status = .srcLocked ∧
      c.Fills r'

/-- Lock authenticity, as long as every deposit that gets through to an order without a source lock
is as announced. -/
theorem lock_authenticity (hashes : Hashes) (d : Db) (xs : Deliveries)
    (hannounced : ∀ n x rs, xs[n]? = some (x, rs) →
      AsAnnounced hashes (deliveredAt hashes d xs n) x) : LockAuthenticity hashes d xs where
  filled n p r' hr' := by
    obtain ⟨r, hr, hstep⟩ := deliveredAt_step hr'
    refine ⟨r, hr, fun hchanged => ?_⟩
    obtain rfl | ⟨x, rs, hx, hstep⟩ := hstep
    · exact absurd rfl hchanged
    cases hstep with
    | still hbody => exact absurd (RowMove.srcLock_of_body hbody) hchanged
    | settled _ _ hsrcLock => exact absurd hsrcLock hchanged
    | @filled c hcreated hthrough hhashlock hawaits hfills =>
      have hdeposit :=
        hannounced n x rs hx hthrough.heard c hcreated (p, r) hthrough.target_eq hawaits
      exact ⟨x, rs, c, hx, hcreated, hhashlock, hdeposit, hfills⟩
  locked n p r rₙ x c hr hstatus hnone hother hx hcreated _ hthrough := by
    obtain ⟨rₙ', hrₙ', hbody⟩ := body_until hannounced hr hstatus hother
    have hrow := Delivery.get_of_target hthrough.target_eq
    obtain rfl := Option.some.inj (hrow.symm.trans hrₙ')
    have hawaits : rₙ.AwaitsLock := by
      refine ⟨?_, Or.inl ((status_eq_of_body hbody).trans hstatus)⟩
      exact (congrArg OrderRow.srcOrderId hbody).trans hnone
    rw [deliveredAt_succ hx]
    exact fills_of_getsThrough hcreated hthrough hawaits

namespace Sample

/-- The reconciler does not find an order by the hashlock that Soroban reports, so that the deposit
of the client comes to be the first one. -/
def lateDeposit : Deliveries :=
  [calmDelivery (.sorobanReconciler counterLock 0), calmDelivery (.ethCreated ownDeposit)]

/-- A stranger is faster than the client. -/
def strangerFirst : Deliveries :=
  [calmDelivery (.ethCreated (ethDeposit "0xe4".toList "0xt8".toList 8 4)), calmDelivery .newRun,
    calmDelivery (.ethCreated ownDeposit)]

end Sample

open Sample in
theorem lock_authenticity_sample :
    LockAuthenticity noHashes announcedDb lateDeposit ∧
      ((deliveredAt noHashes announcedDb lateDeposit 2).1.orders.get
        sampleId).map (fun r => (r.status, r.srcOrderId)) =
        some (.srcLocked, some "7".toList) := by
  refine ⟨lock_authenticity _ _ _ fun n x rs hx _ => ?_, by decide +kernel⟩
  match n with
  | 0 =>
    obtain ⟨rfl, rfl⟩ := Prod.mk.inj (Option.some.inj hx)
    decide +kernel
  | 1 =>
    obtain ⟨rfl, rfl⟩ := Prod.mk.inj (Option.some.inj hx)
    decide +kernel
  | n + 2 => cases hx

open Sample in
/-- A stranger with the hashlock of the order locks it, and the deposit of the client comes too
late. -/
theorem stranger_locks :
    ((deliveredAt noHashes announcedDb strangerFirst 3).1.orders.get
        sampleId).map (fun r => (r.status, r.srcOrderId, r.deposit)) =
      some (.srcLocked, some "8".toList, sampleInput.row.deposit) ∧
      strangerFirst.map (fun x => x.1.created.map Created.deposit) =
        [some ⟨"0xe4".toList, sampleInput.srcAsset, sampleInput.srcAmount⟩, none,
          some sampleInput.row.deposit] := by
  decide +kernel

end WaffleFinance.Coordinator

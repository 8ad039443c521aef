import WaffleFinance.Coordinator.Authenticity

/-!
# Claims and the sweep for stale orders

A claim may reach the coordinator long after it was made.  Until then other events are delivered,
and the sweep marks locked orders as expired once one of their timelocks has passed.  From there no
transition leads to a revealed secret, so that the claim is lost; where nothing settles the order
before it (`Incident.Spares`), the claim is recorded when it gets through.
-/

namespace WaffleFinance.Coordinator

open Lib OrdersRepository

/-! ### Claims -/

/-- The preimage of the claim is stored, in some spelling. -/
def OrderRow.Reveals (r : OrderRow) (preimage : Text) : Prop :=
  ∃ stored, r.preimage = some stored ∧ bufferFromHex stored = bufferFromHex preimage

/-! ### What happens before -/

/-- An event is delivered, or the sweep runs. -/
inductive Incident where
  | delivery (x : Delivery)
  | expireStaleOrders (now : ℕ)

abbrev Incidents := List (Incident × Answers Call fun _ => Fate)

/-- What comes of an incident, with what goes wrong in it. -/
def Incident.happen (hashes : Hashes) (rs : Answers Call fun _ => Fate) (s : Db × Memory) :
    Incident → Db × Memory
  | delivery x => x.deliver hashes rs s
  | expireStaleOrders now => ((performed (OrderService.expireStaleOrders now) rs s.1).2, s.2)

def incidentMachine (hashes : Hashes) :
    Machine (Db × Memory) (Incident × Answers Call fun _ => Fate) Unit where
  exec x s := .ok (x.1.happen hashes x.2 s)

/-- The database and the memory after the first `n` incidents. -/
def incidentsAt (hashes : Hashes) (s : Db × Memory) (xs : Incidents) (n : ℕ) : Db × Memory :=
  (incidentMachine hashes).stateAt s xs n

/-- The job neither ends the order nor stores another preimage. -/
def Job.Agrees (preimage : Text) : Job → Prop
  | .recordSecret _ stored _ _ => bufferFromHex stored = bufferFromHex preimage
  | .markStatus _ _ => False
  | _ => True

/-- The incident does not settle the order before the claim: the sweep does not list it, and no
event comes to a refund or to another preimage for it. -/
def Incident.Spares (hashes : Hashes) (p preimage : Text) (s : Db × Memory) : Incident → Prop
  | delivery x => ∀ ρ ∈ x.reaction hashes, ∀ o ∈ firstOf s.1 ρ.lookups, o.1 = p →
      ∀ j ∈ ρ.job p o.2, j.Agrees preimage
  | expireStaleOrders now => ∀ o ∈ expiredCandidates now s.1, o.1 ≠ p

/-- An order whose claim is still to come, or has been recorded. -/
inductive ClaimOpen (preimage : Text) (r : OrderRow) : Prop
  | waiting (locked : r.status = .srcLocked ∨ r.status = .dstLocked) (src_ne : r.srcOrderId ≠ none)
      (preimage_eq : r.preimage = none)
  | recorded (status_eq : r.status = .secretRevealed) (src_ne : r.srcOrderId ≠ none)
      (reveals : r.Reveals preimage)

section Step

variable {hashes : Hashes} {p preimage : Text} {r r' : OrderRow} {s : Db × Memory}
  {rs : Answers Call fun _ => Fate}

/-- The cursors do not matter. -/
lemma ClaimOpen.congr (h : ClaimOpen preimage r) (hbody : r'.body = r.body) :
    ClaimOpen preimage r' := by
  have hstatus : r'.status = r.status := status_eq_of_body hbody
  have hsrc : r'.body.srcOrderId = r.body.srcOrderId := by rw [hbody]
  have hpreimage : r'.body.preimage = r.body.preimage := by rw [hbody]
  cases h with
  | waiting hlocked hne hnone =>
    rw [← hstatus] at hlocked
    exact .waiting hlocked (fun hsrc' => hne (hsrc.symm.trans hsrc')) (hpreimage.trans hnone)
  | recorded hrevealed hne hreveals =>
    obtain ⟨stored, hstored, hbytes⟩ := hreveals
    exact .recorded (hstatus.trans hrevealed) (fun hsrc' => hne (hsrc.symm.trans hsrc'))
      ⟨stored, hpreimage.trans hstored, hbytes⟩

lemma secretRow_of_locked {stored txHash : Text}
    (hlocked : r.status = .srcLocked ∨ r.status = .dstLocked) (hnone : r.preimage = none) :
    (secretRow ⟨p, stored, txHash, none, none⟩ r).preimage = some stored ∧
      (secretRow ⟨p, stored, txHash, none, none⟩ r).status = .secretRevealed ∧
      (secretRow ⟨p, stored, txHash, none, none⟩ r).srcOrderId = r.srcOrderId := by
  have hterminal : isTerminal r.status = false := by
    rcases hlocked with hstatus | hstatus <;> rw [hstatus] <;> rfl
  unfold secretRow
  rw [if_neg (by simp [hterminal, hnone, encVersionAllowed])]
  exact ⟨rfl, rfl, rfl⟩

/-- An event that spares the order leaves its claim open or records it. -/
lemma claimOpen_deliver (h : ClaimOpen preimage r) (hget : s.1.orders.get p = some r)
    {x : Delivery} (hspares : (Incident.delivery x).Spares hashes p preimage s) :
    ∃ r', (x.deliver hashes rs s).1.orders.get p = some r' ∧ ClaimOpen preimage r' := by
  cases hρ : x.reaction hashes with
  | none =>
    rw [Delivery.deliver_of_none hρ]
    exact ⟨r, hget, h⟩
  | some ρ =>
    have hmove := Delivery.deliver_moves rs s hρ p
    rw [hget] at hmove
    generalize (x.deliver hashes rs s).1.orders.get p = after at hmove
    cases hmove with
    | still hbody =>
      obtain ⟨r', rfl, hbody'⟩ := Option.map_eq_some_iff.1 hbody
      exact ⟨r', rfl, h.congr hbody'⟩
    | @worked _ r' j hfound hjob hverdict hbody =>
      have hagrees := hspares ρ hρ (p, r) hfound rfl j hjob
      have hworks := Delivery.works hρ hjob
      cases hworks with
      | locks _ _ hunlocked =>
        -- the source lock is there already
        cases h with
        | waiting _ hne _ | recorded _ hne _ => exact absurd hunlocked hne
      | reveals _ stored txHash =>
        obtain ⟨hnone, -⟩ := secretVerdict_proceed hverdict
        cases h with
        | waiting hlocked hne _ =>
          obtain ⟨hstored, hstatus, hsrc⟩ :=
            @secretRow_of_locked p r stored txHash hlocked hnone
          have hopen : ClaimOpen preimage (secretRow ⟨p, stored, txHash, none, none⟩ r) :=
            .recorded hstatus (hsrc ▸ hne) ⟨stored, hstored, hagrees⟩
          exact ⟨r', rfl, hopen.congr hbody⟩
        | recorded _ _ hreveals =>
          obtain ⟨_, hstored, -⟩ := hreveals
          rw [hnone] at hstored
          cases hstored
      | refunds => exact absurd hagrees id

/-- The sweep leaves alone what it has not listed. -/
lemma ensures_expireEach_other {orders : List (Text × OrderRow)} (hother : ∀ o ∈ orders, o.1 ≠ p)
    (count : ℕ) {d : Db} {o : Option OrderRow}
    (hbody : (d.orders.get p).map OrderRow.body = o) :
    (OrderService.expireEach orders count).Ensures
      (fun _ d' => (d'.orders.get p).map OrderRow.body = o)
      (fun _ d' => (d'.orders.get p).map OrderRow.body = o) d := by
  induction orders generalizing count d with
  | nil => exact (Fallible.ensures_pure _).2 hbody
  | cons order orders ih =>
    have hrest : ∀ o ∈ orders, o.1 ≠ p := fun o ho => hother o (List.mem_cons_of_mem _ ho)
    have hkept : ∀ {d' : Db}, JobMove (.markStatus order.1 .expired) p (d.orders.get p)
        (d'.orders.get p) → (d'.orders.get p).map OrderRow.body = o := by
      intro d' hmove
      generalize d'.orders.get p = after at hmove
      generalize d.orders.get p = before at hmove hbody
      cases hmove with
      | absent => exact hbody
      | kept h => exact (congrArg some h).trans hbody
      | written hid => exact absurd hid (hother order List.mem_cons_self)
    unfold OrderService.expireEach
    split
    · exact ih hrest count hbody
    split
    · exact ih hrest count hbody
    refine Fallible.ensures_bind (Fallible.ensures_tryCatch (Fallible.ensures_bind ?_))
    refine (ensures_run (.markStatus order.1 .expired) d).mono (fun hrun => ?_) fun hrun => ?_
    · exact (Fallible.ensures_pure _).2 (ih hrest _ (hkept (hrun p)))
    · exact (Fallible.ensures_pure _).2 (ih hrest _ (hkept (hrun p)))

lemma ensures_expireStaleOrders_other {now : ℕ} {d : Db}
    (hother : ∀ o ∈ expiredCandidates now d, o.1 ≠ p) :
    (OrderService.expireStaleOrders now).Ensures
      (fun _ d' => (d'.orders.get p).map OrderRow.body = (d.orders.get p).map OrderRow.body)
      (fun _ d' => (d'.orders.get p).map OrderRow.body = (d.orders.get p).map OrderRow.body) d := by
  have hsame : ∀ fate, (repository.run (.findExpiredCandidates now) fate d).2 = d :=
    fun fate => exec_read_snd (expiredCandidates now) fate d
  refine Fallible.ensures_bind (Store.ensures_call (fun fate orders horders => ?_)
    fun fate _ _ => ?_)
  · have heq : orders = expiredCandidates now d :=
      @run_read_ok (.findExpiredCandidates now) (expiredCandidates now) fate d orders rfl horders
    rw [hsame fate, heq]
    exact ensures_expireEach_other hother 0 rfl
  · rw [hsame fate]

lemma claimOpen_happen (h : ClaimOpen preimage r) (hget : s.1.orders.get p = some r)
    {i : Incident} (hspares : i.Spares hashes p preimage s) :
    ∃ r', (i.happen hashes rs s).1.orders.get p = some r' ∧ ClaimOpen preimage r' := by
  cases i with
  | delivery x => exact claimOpen_deliver h hget hspares
  | expireStaleOrders now =>
    have hbody := (ensures_expireStaleOrders_other hspares).play rs
    rw [hget] at hbody
    obtain ⟨r', hr', hbody'⟩ := Option.map_eq_some_iff.1 hbody
    exact ⟨r', hr', h.congr hbody'⟩

end Step

section Run

variable {hashes : Hashes} {p preimage : Text} {r : OrderRow} {s : Db × Memory} {xs : Incidents}

lemma claimOpen_incidentsAt (h : ClaimOpen preimage r) (hget : s.1.orders.get p = some r)
    (hspares : ∀ n (y : Incident × Answers Call fun _ => Fate), xs[n]? = some y →
      y.1.Spares hashes p preimage (incidentsAt hashes s xs n))
    (n : ℕ) :
    ∃ r', (incidentsAt hashes s xs n).1.orders.get p = some r' ∧ ClaimOpen preimage r' := by
  induction n with
  | zero =>
    rw [incidentsAt, Machine.stateAt_zero]
    exact ⟨r, hget, h⟩
  | succ n ih =>
    obtain ⟨rₙ, hrₙ, hopen⟩ := ih
    cases hy : xs[n]? with
    | none =>
      rw [incidentsAt, Machine.stateAt_succ_of_none hy]
      exact ⟨rₙ, hrₙ, hopen⟩
    | some y =>
      rw [incidentsAt, Machine.stateAt_succ hy]
      exact claimOpen_happen hopen hrₙ (hspares n y hy)

lemma body_deliver_of_not_getsThrough {x : Delivery} {rs : Answers Call fun _ => Fate}
    (hget : s.1.orders.get p = some r) (hnot : ¬ x.GetsThrough hashes s p r) :
    ((x.deliver hashes rs s).1.orders.get p).map OrderRow.body = some r.body := by
  by_cases hheard : x.Heard hashes s
  · cases hρ : x.reaction hashes with
    | none =>
      rw [Delivery.deliver_of_none hρ, hget]
      rfl
    | some ρ =>
      have hmove := Delivery.deliver_moves rs s hρ p
      rw [hget] at hmove
      generalize (x.deliver hashes rs s).1.orders.get p = after at hmove
      cases hmove with
      | still hbody => exact hbody
      | worked hfound hjob =>
        refine absurd ⟨hheard, ?_⟩ hnot
        simp [Delivery.target, hρ, hfound, hjob]
  · rw [Delivery.orders_deliver_unheard hheard, hget]
    rfl

lemma getsThrough_claimed {x : Delivery} {c : Claimed} (hclaimed : x.claimed = some c)
    (hthrough : x.GetsThrough hashes s p r) :
    ∃ ρ txHash, x.reaction hashes = some ρ ∧ firstOf s.1 ρ.lookups = some (p, r) ∧
      ρ.job p r = some (.recordSecret p c.preimage txHash none) ∧ r.preimage = none := by
  obtain ⟨ρ, hρ, htarget⟩ := Option.bind_eq_some_iff.1 hthrough.target_eq
  obtain ⟨o, hfirst, htarget⟩ := Option.bind_eq_some_iff.1 htarget
  split at htarget
  · rename_i hsome
    cases htarget
    obtain ⟨j, hjob⟩ := Option.isSome_iff_exists.1 hsome
    obtain ⟨txHash, rfl, hnone⟩ := (Delivery.reacts hρ).reveals hclaimed hjob
    exact ⟨ρ, txHash, hρ, hfirst, hjob, hnone⟩
  · cases htarget

lemma recorded_of_getsThrough {x : Delivery} {c : Claimed} (hclaimed : x.claimed = some c)
    (hlocked : r.status = .srcLocked ∨ r.status = .dstLocked)
    (hthrough : x.GetsThrough hashes s p r) :
    ∃ r', (x.deliver hashes (fun _ _ => Fate.calm) s).1.orders.get p = some r' ∧
      r'.preimage = some c.preimage ∧ r'.status = .secretRevealed := by
  obtain ⟨ρ, txHash, hρ, hfirst, hjob, hnone⟩ := getsThrough_claimed hclaimed hthrough
  have hverdict : (Job.recordSecret p c.preimage txHash none).verdict r = .proceed := by
    show secretVerdict p c.preimage r = .proceed
    rcases hlocked with hstatus | hstatus <;>
      simp [secretVerdict, recordVerdict, hnone, hstatus, isTerminal, canTransition,
        orderStatusTransitions]
  have hbody := Delivery.body_deliver hρ hthrough.heard hfirst hjob rfl hverdict
  obtain ⟨r', hr', hbody'⟩ := Option.map_eq_some_iff.1 hbody
  obtain ⟨hstored, hstatus, -⟩ := @secretRow_of_locked p r c.preimage txHash hlocked hnone
  have hpreimage : r'.body.preimage = some c.preimage := by
    rw [hbody']
    exact hstored
  exact ⟨r', hr', hpreimage, (status_eq_of_body hbody').trans hstatus⟩

end Run

/-- Whatever is delivered and however often the sweep runs before a claim arrives: if none of it
settles the order, then after the delivery of the claim its preimage is stored and the secret counts
as revealed exactly if the claim has got through to the order, or was recorded before. -/
theorem claim_recorded_iff (hashes : Hashes) (s : Db × Memory) (xs : Incidents) (p : Text)
    (r : OrderRow) (hget : s.1.orders.get p = some r) (hshape : Shape r)
    (hlocked : r.status = .srcLocked ∨ r.status = .dstLocked) (x : Delivery) (c : Claimed)
    (hclaimed : x.claimed = some c)
    (hspares : ∀ n (y : Incident × Answers Call fun _ => Fate), xs[n]? = some y →
      y.1.Spares hashes p c.preimage (incidentsAt hashes s xs n)) :
    (∃ r', (x.deliver hashes (fun _ _ => Fate.calm)
        (incidentsAt hashes s xs xs.length)).1.orders.get p = some r' ∧
      r'.Reveals c.preimage ∧ (r'.status = .secretRevealed ∨ r'.status = .completed)) ↔
    ∀ rₙ, (incidentsAt hashes s xs xs.length).1.orders.get p = some rₙ → rₙ.preimage = none →
      x.GetsThrough hashes (incidentsAt hashes s xs xs.length) p rₙ := by
  have hstart : ClaimOpen c.preimage r := by
    rcases hlocked with hstatus | hstatus
    · obtain ⟨hsrc, -, hsecret⟩ := hshape.of_status hstatus
      exact .waiting (Or.inl hstatus) hsrc.1 hsecret.1
    · obtain ⟨hsrc, -, hsecret⟩ := hshape.of_status hstatus
      exact .waiting (Or.inr hstatus) hsrc.1 hsecret.1
  obtain ⟨rₙ, hrₙ, hopen⟩ := claimOpen_incidentsAt hstart hget hspares xs.length
  generalize incidentsAt hashes s xs xs.length = sₙ at hrₙ
  constructor
  · rintro ⟨r', hr', ⟨stored, hstored, -⟩, -⟩ r₀ hr₀ hnone
    by_contra hnot
    have hbody := @body_deliver_of_not_getsThrough hashes p r₀ sₙ x (fun _ _ => Fate.calm) hr₀ hnot
    rw [hr'] at hbody
    have hpreimage : r'.body.preimage = r₀.body.preimage := by rw [Option.some.inj hbody]
    have hsome : r'.preimage = none := hpreimage.trans hnone
    rw [hstored] at hsome
    cases hsome
  · intro hthrough
    cases hopen with
    | waiting hlockedₙ _ hnone =>
      obtain ⟨r', hr', hstored, hstatus⟩ :=
        recorded_of_getsThrough hclaimed hlockedₙ (hthrough rₙ hrₙ hnone)
      exact ⟨r', hr', ⟨_, hstored, rfl⟩, Or.inl hstatus⟩
    | recorded hstatus _ hreveals =>
      obtain ⟨stored, hstored, hbytes⟩ := hreveals
      -- the event finds a preimage there and has nothing to do
      have hnot : ¬ x.GetsThrough hashes sₙ p rₙ := by
        intro hthroughₙ
        obtain ⟨-, -, -, -, -, hnone⟩ := getsThrough_claimed hclaimed hthroughₙ
        rw [hstored] at hnone
        cases hnone
      have hbody :=
        @body_deliver_of_not_getsThrough hashes p rₙ sₙ x (fun _ _ => Fate.calm) hrₙ hnot
      obtain ⟨r', hr', hbody'⟩ := Option.map_eq_some_iff.1 hbody
      have hpreimage : r'.body.preimage = rₙ.body.preimage := by rw [hbody']
      exact ⟨r', hr', ⟨stored, hpreimage.trans hstored, hbytes⟩,
        Or.inl ((status_eq_of_body hbody').trans hstatus)⟩

/-! ### Runs to evaluate -/

namespace Sample

/-- An order that is locked on both chains.  The destination lock runs out at 700, the source lock
at 900. -/
def bothLocked : OrderRow :=
  { sampleInput.row with
    status := .dstLocked
    srcOrderId := some "7".toList
    srcLockTx := some "0xt7".toList
    srcLockBlock := some 5
    srcTimelock := some 900
    dstOrderId := some "9".toList
    dstLockTx := some "st9".toList
    dstLockBlock := some 8
    dstTimelock := some 700
    lastEthBlock := some 5 }

def bothLockedDb : Db :=
  { Db.empty with orders := InsertionMap.empty.insert sampleId bothLocked }

/-- Every preimage has the hashlock of the order. -/
def oneHash : Hashes := ⟨fun _ => sampleInput.hashlock, fun _ => []⟩

/-- The claim of the source lock, in block 6. -/
def sourceClaim : Delivery :=
  .ethClaimed ⟨⟨some 6, some "0xt9".toList, some 0⟩, some 7, some "0x00".toList⟩

/-- The process starts again and the sweep runs. -/
def sweeping (now : ℕ) : Incidents :=
  [(.delivery .restart, fun _ _ => Fate.calm), (.expireStaleOrders now, fun _ _ => Fate.calm)]

/-- The order after the claim, which has come after a sweep. -/
def claimedAfterSweep (now : ℕ) : Option OrderRow :=
  (sourceClaim.deliver oneHash (fun _ _ => Fate.calm)
    (incidentsAt oneHash (bothLockedDb, .fresh) (sweeping now) (sweeping now).length)).1.orders.get
      sampleId

end Sample

open Sample in
theorem claim_recorded_iff_sample :
    ∃ r', claimedAfterSweep 600 = some r' ∧ r'.Reveals "0x00".toList ∧
      (r'.status = .secretRevealed ∨ r'.status = .completed) := by
  have hshape : Shape bothLocked := by
    show (_ ∧ _ ∧ _ ∧ _) ∧ (_ ∧ _ ∧ _ ∧ _) ∧ (_ ∧ _ ∧ _)
    decide
  have hspares : ∀ n (y : Incident × Answers Call fun _ => Fate),
      (sweeping 600)[n]? = some y → y.1.Spares oneHash sampleId "0x00".toList
        (incidentsAt oneHash (bothLockedDb, .fresh) (sweeping 600) n) := by
    intro n y hy
    match n with
    | 0 =>
      cases hy
      exact fun ρ hρ => absurd hρ (Option.not_mem_none ρ)
    | 1 =>
      cases hy
      show ∀ o ∈ expiredCandidates 600 _, o.1 ≠ sampleId
      decide +kernel
    | n + 2 => cases hy
  refine (claim_recorded_iff oneHash (bothLockedDb, .fresh) (sweeping 600)
    sampleId bothLocked (by decide +kernel) hshape (Or.inr rfl) sourceClaim
    ⟨.ethereum, "7".toList, "0x00".toList⟩ (by rfl) hspares).2 fun rₙ hrₙ _ => ⟨?_, ?_⟩
  · show ∀ e ∈ EthClaimed.entry oneHash _, (_ = none) ∧ e.key ∉ _
    decide +kernel
  · have htarget : sourceClaim.target oneHash (incidentsAt oneHash
        (bothLockedDb, .fresh) (sweeping 600) (sweeping 600).length).1 =
          ((incidentsAt oneHash (bothLockedDb, .fresh) (sweeping 600)
            (sweeping 600).length).1.orders.get sampleId).map fun r => (sampleId, r) := by
      decide +kernel
    rw [htarget, hrₙ]
    rfl

/-- The sweep runs at 750, when the source lock can still be claimed.  The claim, made in time, then
finds the order expired. -/
theorem claim_after_sweep_lost :
    Sample.bothLocked.srcTimelock = some 900 ∧
      (Sample.claimedAfterSweep 750).map (fun r => (r.status, r.preimage)) =
        some (.expired, none) := by
  decide +kernel

end WaffleFinance.Coordinator

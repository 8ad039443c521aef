import WaffleFinance.Soroban.HtlcSolvency
import WaffleFinance.Soroban.RegistryStake

/-!
# A stake outlives the orders it stands behind

The two contracts together: a registry, and a contract `HtlcContract` that asks it whether the
sender of a new order is an active resolver.  The calls to the two contracts may come in any
order, with one clock for both.

While `create_order` is running, the token contract that it calls may call the registry; these are
the `inner` calls.  A call to `create_order` in the middle of a call to the registry fails, because
the registry cannot be entered, and the other calls can as well be made afterwards.

Each contract has its own record of the balances, in which the transfers that the other contract
makes are transfers of another party.
-/

namespace WaffleFinance.Soroban

open Lib

/-! ### The system -/

/-- The states of the two contracts. -/
structure System where
  htlc : Htlc.State
  registry : Registry.State

/-- A call to one of the contracts, the one in the environment `E` or the registry in the
environment `R`. -/
inductive SystemCall (E R : Env) where
  | htlc (inv : Invocation E) (a : Htlc.Action E) (inner : List (Invocation R × Registry.Action R))
      (sameLedger : ∀ c ∈ inner, c.1.timestamp = inv.timestamp)
  | registry (inv : Invocation R) (a : Registry.Action R)

variable {E R : Env}

def SystemCall.timestamp : SystemCall E R → ℕ
  | .htlc inv _ _ _ => inv.timestamp
  | .registry inv _ => inv.timestamp

variable (R) in
/-- The answer of the registry to the question whether `sender` is active.  Anyone may ask. -/
def gateReply (inv : Invocation E) (sender : Address) (s : Registry.State) : Reply E Bool where
  moves := []
  result :=
    let ask : Invocation R := ⟨inv.timestamp, inv.sequence, fun _ => false, rfl⟩
    (Registry.isActive ask sender s).toOption

variable (R) in
/-- Let the registry answer the question that `create_order` asks, if it is the one asked. -/
def answered (inv : Invocation E) (s : System) : Htlc.Action E → Htlc.Action E
  | .createOrder args gate pull =>
      if s.htlc.resolverRegistry = some R.self then
        .createOrder args (gateReply R inv args.sender s.registry) pull
      else .createOrder args gate pull
  | a => a

/-- Execute one call. -/
def execSystem : SystemCall E R → System → Except (Htlc.Error ⊕ Registry.Error) System
  | .htlc inv a inner _, s =>
      match Htlc.exec inv (answered R inv s a) s.htlc with
      | .ok htlc => .ok ⟨htlc, (Registry.registry R).run s.registry inner⟩
      | .error e => .error (.inl e)
  | .registry inv a, s =>
      match Registry.exec inv a s.registry with
      | .ok registry => .ok ⟨s.htlc, registry⟩
      | .error e => .error (.inr e)

variable (E R) in
/-- The two contracts as one machine. -/
def system : Machine System (SystemCall E R) (Htlc.Error ⊕ Registry.Error) where
  exec := execSystem

/-- A run of the two contracts, from any states that they can be in, during all of which the one
is bound to the other. -/
structure BoundRun (E R : Env) where
  start : System
  htlc : Htlc.Reachable E start.htlc
  registry : Registry.Reachable R start.registry
  calls : List (SystemCall E R)
  timed : Machine.Timed SystemCall.timestamp calls
  bound : ∀ n, ((system E R).stateAt start calls n).htlc.resolverRegistry = some R.self

/-- The states after the first `n` calls of a run. -/
def BoundRun.stateAt (h : BoundRun E R) (n : ℕ) : System := (system E R).stateAt h.start h.calls n

/-- `Withdraws r s c`: the call `c`, made in the state `s`, is or contains a call of
`withdraw_stake` for the resolver `r` that succeeds. -/
inductive Withdraws (r : Address) (s : System) : SystemCall E R → Prop where
  | outer {inv : Invocation R} {push : Reply R Unit} {registry : Registry.State} :
      Registry.withdrawStake inv r push s.registry = .ok registry →
      Withdraws r s (.registry inv (.withdrawStake r push))
  | inner {inv : Invocation E} {a : Htlc.Action E} {inv' : Invocation R} {push : Reply R Unit}
      {before after : List (Invocation R × Registry.Action R)} {sameLedger}
      {htlc : Htlc.State} {registry : Registry.State} :
      Htlc.exec inv (answered R inv s a) s.htlc = .ok htlc →
      Registry.withdrawStake inv' r push ((Registry.registry R).run s.registry before)
        = .ok registry →
      Withdraws r s (.htlc inv a (before ++ (inv', .withdrawStake r push) :: after) sameLedger)

/-! ### Where orders come from -/

/-- Where the order `o'` comes from that is stored under `id` after the call `a`: it was there
before, with the sender and the timelock it has now, or the call has created it. -/
def Htlc.Origin (inv : Invocation E) (a : Htlc.Action E) (s : Htlc.State) (id : ℕ)
    (o' : Htlc.Order) : Prop :=
  (∃ o, s.order? id = some o ∧ o'.sender = o.sender ∧ o'.timelock = o.timelock) ∨
    ∃ args gate pull, a = .createOrder args gate pull ∧ o'.sender = args.sender ∧
      o'.timelock ≤ inv.timestamp + Htlc.maxTimelockSeconds ∧
      (s.resolverRegistry ≠ none → gate.result = some true)

lemma Htlc.Outcome.origin {inv : Invocation E} {a : Htlc.Action E} {s s' : Htlc.State}
    (h : Htlc.Outcome inv a s s') :
    ∀ id o', s'.order? id = some o' → Htlc.Origin inv a s id o' := by
  have hold : ∀ id o, s.order? id = some o → Htlc.Origin inv a s id o :=
    fun id o ho => .inl ⟨o, ho, rfl, rfl⟩
  cases h with
  | untouched hu =>
    rw [hu.order]
    exact hold
  | created hc =>
    obtain ⟨cls, horder⟩ := hc.order
    obtain ⟨-, -, htimelock⟩ := Htlc.createChecks_ok hc.checks
    exact forall_some_of_update horder hold
      (.inr ⟨_, _, _, rfl, rfl, Nat.add_le_add_left htimelock _, hc.gated⟩)
  | claimed _ _ _ hset | refunded _ _ _ hset =>
    exact forall_some_of_update hset.order hold (.inl ⟨_, hset.found, rfl, rfl⟩)

lemma answered_createOrder {inv : Invocation E} {s : System} {a : Htlc.Action E}
    {args : Htlc.CreateArgs} {gate : Reply E Bool} {pull : Reply E Unit}
    (hbound : s.htlc.resolverRegistry = some R.self)
    (h : answered R inv s a = .createOrder args gate pull) :
    gate = gateReply R inv args.sender s.registry := by
  cases a with
  | createOrder args' gate' pull' =>
    rw [answered, if_pos hbound] at h
    cases h
    rfl
  | _ => cases h

/-- A resolver that passes the gate is not leaving. -/
lemma gateReply_true {inv : Invocation E} {sender : Address} {s : Registry.State}
    (hs : Registry.Sound R s) (h : (gateReply R inv sender s).result = some true)
    {info : Registry.ResolverInfo} (hinfo : s.resolver? sender = some info) :
    info.unbondingAt = none := by
  have hactive : Registry.isActive (E := R) ⟨inv.timestamp, inv.sequence, fun _ => false, rfl⟩
      sender s = .ok true := by
    cases hask : Registry.isActive (E := R) ⟨inv.timestamp, inv.sequence, fun _ => false, rfl⟩
        sender s with
    | error e => simp [gateReply, hask, Except.toOption] at h
    | ok active => simpa [gateReply, hask, Except.toOption] using h
  obtain ⟨info', hinfo', htrue⟩ := Registry.isActive_true hactive
  obtain rfl : info = info' := Option.some.inj (hinfo.symm.trans hinfo')
  by_contra hne
  rw [(hs.accounted sender info hinfo).leaving hne] at htrue
  cases htrue

/-! ### What holds at a time -/

/-- What holds of the orders with ids from `first` on at the time `now`: no lock ends later than
the longest lock that begins now, and the orders of a resolver that is leaving end before its
stake is due. -/
structure Backed (E R : Env) (first now : ℕ) (s : System) : Prop where
  htlc : Htlc.Sound E s.htlc
  registry : Registry.Sound R s.registry
  bounded : ∀ id o, s.htlc.order? id = some o → first ≤ id →
    o.timelock ≤ now + Htlc.maxTimelockSeconds
  backed : ∀ r info d, s.registry.resolver? r = some info → info.unbondingAt = some d →
    ∀ id o, s.htlc.order? id = some o → first ≤ id → o.sender = r → o.timelock ≤ d

namespace Backed

variable {first now now' : ℕ} {s : System}

lemma mono (h : Backed E R first now s) (hle : now ≤ now') : Backed E R first now' s :=
  ⟨h.htlc, h.registry, fun id o ho hid => (h.bounded id o ho hid).trans (by omega), h.backed⟩

lemma registry_step (h : Backed E R first now s) {registry : Registry.State}
    (hout : Registry.Outcome R now s.registry registry) :
    Backed E R first now ⟨s.htlc, registry⟩ := by
  refine ⟨h.htlc, hout.sound h.registry, h.bounded, ?_⟩
  intro r info d hr hd id o ho hid hsender
  rcases hout.deadline h.registry hr hd with ⟨info', hr', hd'⟩ | hnew
  -- an old deadline, or one that the call has set
  · exact h.backed r info' d hr' hd' id o ho hid hsender
  · exact (h.bounded id o ho hid).trans hnew

lemma registry_run (h : Backed E R first now s)
    {inner : List (Invocation R × Registry.Action R)} (hinner : ∀ c ∈ inner, c.1.timestamp = now) :
    Backed E R first now ⟨s.htlc, (Registry.registry R).run s.registry inner⟩ := by
  refine Machine.run_invariant (I := fun registry => Backed E R first now ⟨s.htlc, registry⟩)
    (fun c hc r r' hr hok => ?_) h
  have hout := Registry.exec_outcome hok
  rw [hinner c hc] at hout
  exact hr.registry_step hout

/-- A call to the other contract: the sender of a new order is not leaving. -/
lemma htlc_step (h : Backed E R first now s) {inv : Invocation E} (hnow : inv.timestamp = now)
    (hbound : s.htlc.resolverRegistry = some R.self) {a : Htlc.Action E} {htlc : Htlc.State}
    (hout : Htlc.Outcome inv (answered R inv s a) s.htlc htlc) :
    Backed E R first now ⟨htlc, s.registry⟩ := by
  refine ⟨hout.sound h.htlc, h.registry, ?_, ?_⟩
  · intro id o' ho' hid
    rcases hout.origin id o' ho' with ⟨o, ho, -, htimelock⟩ | ⟨args, gate, pull, -, -, htimelock, -⟩
    · rw [htimelock]
      exact h.bounded id o ho hid
    · rw [← hnow]
      exact htimelock
  · intro r info d hr hd id o' ho' hid hsender'
    rcases hout.origin id o' ho' with
      ⟨o, ho, hsender, htimelock⟩ | ⟨args, gate, pull, ha, hsender, -, hgate⟩
    · rw [htimelock]
      exact h.backed r info d hr hd id o ho hid (hsender.symm.trans hsender')
    -- the order is new: its sender has passed the gate and has no deadline
    have hpassed := hgate (by simp [hbound])
    rw [answered_createOrder hbound ha, ← hsender, hsender'] at hpassed
    rw [gateReply_true h.registry hpassed hr] at hd
    cases hd

lemma exec_step (h : Backed E R first now s) {c : SystemCall E R} (hnow : c.timestamp = now)
    (hbound : s.htlc.resolverRegistry = some R.self) {s' : System}
    (hok : execSystem c s = .ok s') : Backed E R first now s' := by
  cases c with
  | htlc inv a inner sameLedger =>
    rw [execSystem] at hok
    cases hexec : Htlc.exec inv (answered R inv s a) s.htlc with
    | error e =>
      rw [hexec] at hok
      cases hok
    | ok htlc =>
      rw [hexec] at hok
      cases hok
      exact (h.htlc_step hnow hbound (Htlc.exec_outcome hexec)).registry_run
        (fun c hc => (sameLedger c hc).trans hnow)
  | registry inv a =>
    rw [execSystem] at hok
    cases hexec : Registry.exec inv a s.registry with
    | error e =>
      rw [hexec] at hok
      cases hok
    | ok registry =>
      rw [hexec] at hok
      cases hok
      have hout := Registry.exec_outcome hexec
      rw [show inv.timestamp = now from hnow] at hout
      exact h.registry_step hout

/-- When a stake is due, all locks of the resolver have ended. -/
lemma withdrawn (h : Backed E R first now s) {inv : Invocation R} (hnow : inv.timestamp = now)
    {r : Address} {push : Reply R Unit} {registry : Registry.State}
    (hok : Registry.withdrawStake inv r push s.registry = .ok registry) {id : ℕ} {o : Htlc.Order}
    (ho : s.htlc.order? id = some o) (hid : first ≤ id) (hsender : o.sender = r) :
    o.timelock ≤ now := by
  obtain ⟨info, d, hr, hd, hdue⟩ := Registry.withdrawStake_due hok
  exact (h.backed r info d hr hd id o ho hid hsender).trans (hdue.trans hnow.le)

end Backed

/-! ### The result -/

namespace BoundRun

variable (h : BoundRun E R)

/-- The id of the first order that the run creates. -/
def firstOrderId : ℕ := h.start.htlc.nextOrderId.getD 1

lemma backed_start : Backed E R h.firstOrderId 0 h.start := by
  have hnone : ∀ id, h.firstOrderId ≤ id → h.start.htlc.order? id = none := h.htlc.sound.fresh
  refine ⟨h.htlc.sound, h.registry.sound, ?_, ?_⟩
  · intro id o ho hid
    rw [hnone id hid] at ho
    cases ho
  · intro r info d _ _ id o ho hid _
    rw [hnone id hid] at ho
    cases ho

/-- When a call is made, all is in order at its time. -/
lemma backed {n : ℕ} {c : SystemCall E R} (hc : h.calls[n]? = some c) :
    Backed E R h.firstOrderId c.timestamp (h.stateAt n) :=
  Machine.stateAt_timed (I := Backed E R h.firstOrderId) (fun _ _ _ hle hs => hs.mono hle)
    (fun n _ _ _ hs hok => hs.exec_step rfl (h.bound n) hok) h.timed h.backed_start hc

end BoundRun

/-- **A stake outlives the orders.**  Whenever in a run of the two contracts `withdraw_stake`
succeeds for a resolver, every order that the resolver has created in the run has a timelock that
does not lie after that time. -/
theorem stake_outlives_orders (h : BoundRun E R) {n : ℕ} {c : SystemCall E R} {r : Address}
    (hc : h.calls[n]? = some c) (hw : Withdraws r (h.stateAt n) c) :
    ∀ id o, h.firstOrderId ≤ id → (h.stateAt (n + 1)).htlc.order? id = some o → o.sender = r →
      o.timelock ≤ c.timestamp := by
  intro id o hid ho hsender
  have hbacked := h.backed hc
  have hsucc : h.stateAt (n + 1) = (system E R).step (h.stateAt n) c := Machine.stateAt_succ hc
  cases hw with
  | @outer inv push registry hok =>
    have hexec : (system E R).exec (.registry inv (.withdrawStake r push)) (h.stateAt n)
        = .ok ⟨(h.stateAt n).htlc, registry⟩ := by
      simp only [system, execSystem, Registry.exec, hok]
    rw [hsucc, Machine.step_of_ok hexec] at ho
    exact hbacked.withdrawn rfl hok ho hid hsender
  | @inner inv a inv' push before after sameLedger htlc registry hhtlc hok =>
    have hexec : (system E R).exec
        (.htlc inv a (before ++ (inv', .withdrawStake r push) :: after) sameLedger) (h.stateAt n)
        = .ok ⟨htlc, (Registry.registry R).run (h.stateAt n).registry
            (before ++ (inv', .withdrawStake r push) :: after)⟩ := by
      simp only [system, execSystem, hhtlc]
    rw [hsucc, Machine.step_of_ok hexec] at ho
    -- the order is stored and the calls before the withdrawal are made
    have hbefore : ∀ c ∈ before, c.1.timestamp = inv.timestamp :=
      fun c hc => sameLedger c (List.mem_append_left _ hc)
    have hmid :=
      (hbacked.htlc_step rfl (h.bound n) (Htlc.exec_outcome hhtlc)).registry_run hbefore
    have hnow : inv'.timestamp = inv.timestamp :=
      sameLedger (inv', .withdrawStake r push) (by simp)
    exact hmid.withdrawn hnow hok ho hid hsender

namespace Sample

/-- The sample contract, bound to the sample registry. -/
def boundStart : Htlc.State := { Htlc.Sample.start with resolverRegistry := some (env 1).self }

lemma reachable_boundStart : Htlc.Reachable (env 0) boundStart := by
  have h := Htlc.Sample.initialised_start
  exact ⟨⟨boundStart, ⟨h.admin, h.schema, h.lock, h.nextOrderId, h.minSafetyDeposit, h.orders,
    h.payouts, h.balances⟩, [], List.Pairwise.nil⟩, 0, rfl⟩

/-- The first account registers, and creates an order in an asset whose contract lets it ask for
its stake back in the middle of the call.  A day later it gets the stake. -/
def calls : List (SystemCall (env 0) (env 1)) :=
  [.registry (signedBy 1 1000) (.register alice 100 (quiet ())),
   .htlc (signedBy 1 1000) (.createOrder Htlc.Sample.args (quiet false) (quiet ()))
     [(signedBy 1 1000, .requestUnregister alice)] (by simp [signedBy]),
   .registry (signedBy 1 87400) (.withdrawStake alice (quiet ()))]

lemma bound_calls (n : ℕ) :
    ((system (env 0) (env 1)).stateAt ⟨boundStart, Registry.Sample.start⟩ calls
      n).htlc.resolverRegistry = some (env 1).self := by
  have hafter : ∀ n, calls.take (n + 3) = calls := fun n =>
    List.take_of_length_le (by simp [calls])
  rcases n with _ | _ | _ | n
  · rfl
  · decide +kernel
  · decide +kernel
  · rw [Machine.stateAt, hafter]
    decide +kernel

lemma timed_calls : Machine.Timed SystemCall.timestamp calls := by
  simp [Machine.Timed, calls, SystemCall.timestamp, signedBy]

def boundRun : BoundRun (env 0) (env 1) where
  start := ⟨boundStart, Registry.Sample.start⟩
  htlc := reachable_boundStart
  registry := ⟨Registry.Sample.history, 0, rfl⟩
  calls := calls
  timed := timed_calls
  bound := bound_calls

end Sample

/-- The sample stake is returned a day after the request, when the lock of the order that was
created in the same call has ended. -/
theorem stake_outlives_orders_sample :
    ∃ o, (Sample.boundRun.stateAt 3).htlc.order? 1 = some o ∧ o.sender = Sample.alice ∧
      o.timelock ≤ 87400 := by
  have horder : (Sample.boundRun.stateAt 3).htlc.order? 1
      = some (Htlc.newOrder 1 1000 .token Htlc.Sample.args) := by decide +kernel
  have hpaid : ∃ registry, Registry.withdrawStake (E := Sample.env 1) (Sample.signedBy 1 87400)
      Sample.alice (Sample.quiet ()) (Sample.boundRun.stateAt 2).registry = .ok registry := ⟨_, rfl⟩
  obtain ⟨registry, hok⟩ := hpaid
  exact ⟨_, horder, rfl, stake_outlives_orders Sample.boundRun (n := 2) rfl (.outer hok) 1 _
    (by decide) horder rfl⟩

end WaffleFinance.Soroban

import WaffleFinance.Soroban.Registry
import WaffleFinance.Lib.Handover

/-!
# Calls to the registry and what they do

A call that succeeds changes the entry of at most one resolver.  `Outcome` lists the ways in
which it can do so, with what the call has checked before.
-/

namespace WaffleFinance.Soroban.Registry

open Lib

/-- What can happen to the registry. -/
inductive Action (E : Env) where
  | register (resolver : Address) (stake : ℤ) (pull : Reply E Unit)
  | increaseStake (resolver : Address) (additional : ℤ) (pull : Reply E Unit)
  | requestUnregister (resolver : Address)
  | withdrawStake (resolver : Address) (push : Reply E Unit)
  | slash (resolver : Address) (amount : ℤ) (push : Reply E Unit)
  | slashWithReason (resolver : Address) (amount : ℤ) (condition : SlashCondition)
      (push : Reply E Unit)
  | setMinStake (newMinimum : ℤ)
  | setSlashBeneficiary (newBeneficiary : Address)
  | setUnbondingPeriod (newPeriod : ℕ)
  | transferAdmin (newAdmin : Address)
  | acceptAdmin
  | revokePendingAdmin
  /-- Not a call: holders of tokens transfer them. -/
  | transfers (moves : List (Move E))
  /-- Not a call: the entry of a resolver is restored when it is archived. -/
  | restore (resolver : Address)

variable {E : Env}

/-- An archived entry gets the lifetime of a new one. -/
def restoreResolver (inv : Invocation E) (resolver : Address) (s : State) : State :=
  match s.resolvers resolver with
  | none => s
  | some entry =>
    if entry.liveUntil < inv.sequence then
      s.setResolver resolver
        (some { entry with liveUntil := inv.sequence + E.minPersistentTtl - 1 })
    else s

/-- Execute one action. -/
def exec (inv : Invocation E) (a : Action E) (s : State) : Except Error State :=
  match a with
  | .register resolver stake pull => register inv resolver stake pull s
  | .increaseStake resolver additional pull => increaseStake inv resolver additional pull s
  | .requestUnregister resolver => requestUnregister inv resolver s
  | .withdrawStake resolver push => withdrawStake inv resolver push s
  | .slash resolver amount push => slash inv resolver amount push s
  | .slashWithReason resolver amount condition push =>
      slashWithReason inv resolver amount condition push s
  | .setMinStake newMinimum => setMinStake inv newMinimum s
  | .setSlashBeneficiary newBeneficiary => setSlashBeneficiary inv newBeneficiary s
  | .setUnbondingPeriod newPeriod => setUnbondingPeriod inv newPeriod s
  | .transferAdmin newAdmin => transferAdmin inv newAdmin s
  | .acceptAdmin => acceptAdmin inv s
  | .revokePendingAdmin => revokePendingAdmin inv s
  | .transfers moves => .ok { s with balances := applyMoves moves s.balances }
  | .restore resolver => .ok (restoreResolver inv resolver s)

variable (E) in
/-- The registry as a machine. -/
def registry : Machine State (Invocation E × Action E) Error where
  exec := fun c s => exec c.1 c.2 s

/-- A history of calls to a registry, from its deployment on. -/
structure History (E : Env) where
  deployment : Invocation E
  config : Config
  balances : Balances
  /-- Nobody owes exact tokens. -/
  balances_nonneg : ∀ asset, E.exact asset → 0 ≤ balances asset E.self
  start : State
  deployed : constructor deployment config (.blank balances) = .ok start
  calls : List (Invocation E × Action E)

/-- The state after the first `n` calls of a history. -/
def History.stateAt (h : History E) (n : ℕ) : State := (registry E).stateAt h.start h.calls n

/-- A state that the registry can be in between two calls. -/
def Reachable (E : Env) (s : State) : Prop := ∃ (h : History E) (n : ℕ), s = h.stateAt n

namespace Sample

open Soroban.Sample

/-- The second account is the admin, and gets what is slashed. -/
def config : Config where
  admin := bob
  stakeAsset := token
  minStake := 50
  slashBeneficiary := bob
  unbondingPeriod := 86400

/-- The first account has some tokens. -/
def balances : Balances := fun asset a => if asset = token ∧ a = alice then 1000 else 0

/-- The registry after its deployment. -/
def start : State where
  admin := some bob
  pendingAdmin := none
  stakeAsset := some token
  minStake := some 50
  slashBeneficiary := some bob
  unbondingPeriod := some 86400
  resolverList := some []
  instanceLiveUntil := 100000
  resolvers := fun _ => none
  balances := balances
  events := []

/-- The first account registers, stakes some more, is slashed and leaves. -/
def history : History (env 1) where
  deployment := signedBy 2 0
  config := config
  balances := balances
  balances_nonneg := fun asset _ => by simp [balances, alice, env]
  start := start
  deployed := rfl
  calls :=
    [(signedBy 1 1000, .register alice 100 (quiet ())),
     (signedBy 1 1000, .increaseStake alice 20 (quiet ())),
     (signedBy 2 2000, .slash alice 30 (quiet ())),
     (signedBy 1 3000, .requestUnregister alice),
     (signedBy 1 89400, .withdrawStake alice (quiet ()))]

end Sample

/-! ### Effects -/

/-- What is stored about a resolver. -/
def State.resolver? (s : State) (r : Address) : Option ResolverInfo :=
  (s.resolvers r).map Entry.info

/-- What is stored about a new resolver. -/
def newInfo (resolver : Address) (stake : ℤ) (now : ℕ) : ResolverInfo where
  address := resolver
  stake := stake
  registeredAt := now
  lastSlashAt := 0
  totalSlashed := 0
  active := true
  unbondingAt := none
  lifecycle := .active

/-- What is stored about a resolver that wants to leave. -/
def ResolverInfo.leaving (info : ResolverInfo) (unbondReadyAt : ℕ) : ResolverInfo :=
  { info with active := false, unbondingAt := some unbondReadyAt, lifecycle := .unbonding }

/-- The resolver whose stake an event is about. -/
def Event.resolver : Event → Option Address
  | .registered r _ | .increased r _ | .unbondRequested r _ | .unbondDone r _
  | .slashed r _ _ => some r
  | _ => none

variable (E) in
/-- The registry has of the stake token at least what it had and `n` more. -/
def Gained (n : ℤ) (s s' : State) : Prop :=
  ∀ asset, s.stakeAsset = some asset → E.exact asset →
    s.balances asset E.self + n ≤ s'.balances asset E.self

variable (E) in
/-- Nothing happened to the resolvers, except perhaps to the lifetime of their entries.  A
configuration that obeys the bounds still does. -/
structure Untouched (s s' : State) : Prop where
  stakeAsset : s'.stakeAsset = s.stakeAsset
  minStake : 0 ≤ s.minStake.getD 0 → 0 ≤ s'.minStake.getD 0
  unbondingPeriod : minUnbondingPeriodSecs ≤ s.unbondingPeriod.getD defaultUnbondingPeriodSecs →
    minUnbondingPeriodSecs ≤ s'.unbondingPeriod.getD defaultUnbondingPeriodSecs
  resolver : s'.resolver? = s.resolver?
  list : s'.list = s.list
  events : ∃ evs, s'.events = s.events ++ evs ∧ ∀ e ∈ evs, e.resolver = none
  gained : Gained E 0 s s'

variable (E) in
/-- The entry of one resolver has changed to `info`, and the registry has got `n` of the stake
token. -/
structure Changed (resolver : Address) (info : Option ResolverInfo) (n : ℤ) (ev : Event)
    (s s' : State) : Prop where
  stakeAsset : s'.stakeAsset = s.stakeAsset
  minStake : s'.minStake = s.minStake
  unbondingPeriod : s'.unbondingPeriod = s.unbondingPeriod
  resolver : s'.resolver? = Function.update s.resolver? resolver info
  events : s'.events = s.events ++ [ev]
  gained : Gained E n s s'

/-- What a call that succeeds has done. -/
inductive Outcome (E : Env) (now : ℕ) (s s' : State) : Prop where
  | untouched : Untouched E s s' → Outcome E now s s'
  | registered {r : Address} {stake : ℤ} : s.resolver? r = none → s.minStake.getD 0 ≤ stake →
      Changed E r (some (newInfo r stake now)) stake (.registered r stake) s s' →
      s'.list = s.list ++ [r] → Outcome E now s s'
  | increased {r : Address} {info : ResolverInfo} {additional : ℤ} :
      s.resolver? r = some info → 0 < additional →
      Changed E r (some { info with stake := info.stake + additional }) additional
        (.increased r additional) s s' →
      s'.list = s.list → Outcome E now s s'
  | leaving {r : Address} {info : ResolverInfo} {unbondReadyAt : ℕ} :
      s.resolver? r = some info → info.unbondingAt = none →
      unbondReadyAt = now + s.unbondingPeriod.getD defaultUnbondingPeriodSecs →
      Changed E r (some (info.leaving unbondReadyAt)) 0 (.unbondRequested r unbondReadyAt) s s' →
      s'.list = s.list → Outcome E now s s'
  | withdrawn {r : Address} {info : ResolverInfo} {unbondReadyAt : ℕ} :
      s.resolver? r = some info → info.unbondingAt = some unbondReadyAt → unbondReadyAt ≤ now →
      Changed E r none (-max info.stake 0) (.unbondDone r info.stake) s s' →
      s'.list = s.list.filter (· ≠ r) → Outcome E now s s'
  | slashed {r : Address} {info : ResolverInfo} {amount : ℤ} {condition : Option SlashCondition} :
      s.resolver? r = some info → 0 < amount →
      Changed E r (some (info.slashed (min amount info.stake)
        (info.totalSlashed + min amount info.stake) (s.minStake.getD 0) now))
        (-min amount info.stake) (.slashed r (min amount info.stake) condition) s s' →
      s'.list = s.list → Outcome E now s s'

/-! ### What belongs to the admin, and what stays -/

def Event.isSlash : Event → Bool
  | .slashed _ _ _ => true
  | _ => false

/-- What only the admin may change or bring about. -/
structure Settings where
  minStake : Option ℤ
  slashBeneficiary : Option Address
  unbondingPeriod : Option ℕ
  slashes : List Event

def State.settings (s : State) : Settings where
  minStake := s.minStake
  slashBeneficiary := s.slashBeneficiary
  unbondingPeriod := s.unbondingPeriod
  slashes := s.events.filter Event.isSlash

/-- The part that an action has in the handover of the admin role. -/
def Action.part : Action E → HandoverPart Address
  | .transferAdmin newAdmin => .propose newAdmin
  | .acceptAdmin => .accept
  | .revokePendingAdmin => .revoke
  | _ => .other

/-- What a call does to the admin role. -/
abbrev RoleStep (inv : Invocation E) : HandoverPart Address → State → State → Prop :=
  HandoverStep State.admin State.pendingAdmin State.settings fun x => inv.auth x = true

section Kept

variable {s s' : State}

/-- No entry is removed, and the minimal stake stays. -/
structure Kept (s s' : State) : Prop where
  minStake : s'.minStake = s.minStake
  entry : ∀ r, s.resolver? r ≠ none → s'.resolver? r ≠ none

lemma Kept.of_update {a : Address} {e : Entry} (hmin : s'.minStake = s.minStake)
    (h : s'.resolvers = Function.update s.resolvers a (some e)) : Kept s s' := by
  refine ⟨hmin, fun r hr => ?_⟩
  rw [State.resolver?, h]
  by_cases ha : r = a
  · subst ha
    simp
  · rw [Function.update_of_ne ha]
    exact hr

lemma Kept.of_eq (hmin : s'.minStake = s.minStake) (h : s'.resolvers = s.resolvers) :
    Kept s s' := by
  refine ⟨hmin, fun r hr => ?_⟩
  rw [State.resolver?, h]
  exact hr

end Kept

/-- What a call that succeeds has done to the resolvers, to the admin role, to the entries and to
the minimal stake.  Entries are removed by `withdraw_stake`, and the minimal stake is moved by
`set_min_stake`. -/
def Stepped (inv : Invocation E) (a : Action E) (s s' : State) : Prop :=
  Outcome E inv.timestamp s s' ∧ RoleStep inv a.part s s' ∧
    (Kept s s' ∨
      (∃ r push, a = .withdrawStake r push ∧ s'.minStake = s.minStake ∧
        s'.resolver? = Function.update s.resolver? r none) ∨
      ∃ m, a = .setMinStake m ∧ s'.minStake = some m ∧ s'.resolver? = s.resolver? ∧
        ∃ admin, s.admin = some admin ∧ inv.auth admin = true)

/-! ### When the checks pass -/

@[simp] lemma stored_eq_ok {α : Type} {absent : Error} {o : Option α} {a : α} :
    stored absent o = .ok a ↔ o = some a := by
  cases o <;> simp [stored]

variable {inv : Invocation E} {r : Address} {s : State}

lemma requireAdmin_eq_ok {u : Unit} : requireAdmin inv s = .ok u ↔
    ∃ a, s.admin = some a ∧ inv.auth a = true := by
  simp only [requireAdmin, admin, requireAuth, chain_eq_ok, stored_eq_ok, failIf_eq_ok,
    Bool.not_eq_false]

lemma settings_emit {e : Event} (he : e.isSlash = false) : (s.emit e).settings = s.settings := by
  simp [State.settings, State.emit, List.filter_append, he]

lemma loadResolver_ok {entry : Entry} (h : loadResolver inv r s = .ok entry) :
    s.resolvers r = some entry ∧ s.resolver? r = some entry.info := by
  simp only [loadResolver, chain_eq_ok, stored_eq_ok, failIf_eq_ok, exists_const,
    pure_eq_ok_iff] at h
  obtain ⟨e, he, -, rfl⟩ := h
  exact ⟨he, by rw [State.resolver?, he]; rfl⟩

lemma requireUnregistered_ok {u : Unit} (h : requireUnregistered inv r s = .ok u) :
    s.resolver? r = none := by
  rw [requireUnregistered] at h
  cases hr : s.resolvers r with
  | none => rw [State.resolver?, hr]; rfl
  | some entry =>
    rw [hr] at h
    simp only [chain_eq_ok] at h
    obtain ⟨-, -, h⟩ := h
    cases h

lemma isActive_true (h : isActive inv r s = .ok true) :
    ∃ info, s.resolver? r = some info ∧ info.active = true := by
  rw [isActive] at h
  cases hr : s.resolvers r with
  | none =>
    rw [hr] at h
    cases h
  | some entry =>
    rw [hr] at h
    simp only [chain_eq_ok, failIf_eq_ok, exists_const, pure_eq_ok_iff] at h
    exact ⟨entry.info, by rw [State.resolver?, hr]; rfl, h.2⟩

/-! ### Storing and transferring -/

lemma resolver?_setResolver (s : State) (r : Address) (e : Option Entry) :
    (s.setResolver r e).resolver? = Function.update s.resolver? r (e.map Entry.info) := by
  ext1 a
  by_cases ha : a = r
  · subst ha
    simp [State.resolver?, State.setResolver]
  · simp [State.resolver?, State.setResolver, ha]

variable {reply : Reply E Unit} {s' : State}

lemma transferStake_ok {source target : Address} {n : ℤ}
    (h : transferStake source target n reply s = .ok s') :
    ∃ asset b, s.stakeAsset = some asset ∧ s' = { s with balances := b } ∧
      tokenTransfer Error.callFailed asset source target n reply s.balances = .ok b := by
  simp only [transferStake, chain_eq_ok, stored_eq_ok, pure_eq_ok_iff] at h
  obtain ⟨asset, hasset, b, htransfer, rfl⟩ := h
  exact ⟨asset, b, hasset, rfl, htransfer⟩

lemma transferStake_in {n : ℤ} (hr : r ≠ E.self) (h : transferStake r E.self n reply s = .ok s') :
    ∃ b, s' = { s with balances := b } ∧ Gained E n s s' := by
  obtain ⟨asset, b, hasset, rfl, htransfer⟩ := transferStake_ok h
  refine ⟨b, rfl, fun t ht hx => ?_⟩
  obtain rfl : asset = t := Option.some.inj (hasset.symm.trans ht)
  have hflow := (Flow.of_transfer_in hr htransfer).le asset hx
  rwa [if_pos rfl] at hflow

lemma transferStake_out {target : Address} {n : ℤ}
    (h : transferStake E.self target n reply s = .ok s') :
    ∃ b, s' = { s with balances := b } ∧ Gained E (-n) s s' := by
  obtain ⟨asset, b, hasset, rfl, htransfer⟩ := transferStake_ok h
  refine ⟨b, rfl, fun t ht hx => ?_⟩
  obtain rfl : asset = t := Option.some.inj (hasset.symm.trans ht)
  have hflow := (Flow.of_transfer_out htransfer).le asset hx
  rwa [if_pos rfl] at hflow

lemma returnStake_ok {n : ℤ} (h : returnStake r n reply s = .ok s') :
    ∃ b, s' = { s with balances := b } ∧ Gained E (-max n 0) s s' := by
  rw [returnStake] at h
  split_ifs at h with hpos
  · rw [max_eq_left hpos.le]
    exact transferStake_out h
  · cases h
    rw [max_eq_right (not_lt.1 hpos)]
    exact ⟨s.balances, rfl, fun _ _ _ => by simp⟩

/-! ### The functions have these effects -/

lemma register_step {stake : ℤ} {pull : Reply E Unit} (h : register inv r stake pull s = .ok s') :
    Stepped inv (.register r stake pull) s s' := by
  simp only [register, requireInitialised, requireAuth, chain_eq_ok, failIf_eq_ok, exists_const,
    pure_eq_ok_iff, not_lt, Bool.not_eq_false] at h
  obtain ⟨-, hauth, hmin, ⟨⟩, hnew, s₁, htransfer, rfl⟩ := h
  obtain ⟨b, rfl, hgained⟩ := transferStake_in (inv.ne_self_of_auth hauth) htransfer
  exact ⟨.registered (requireUnregistered_ok hnew) hmin
    ⟨rfl, rfl, rfl, resolver?_setResolver _ _ _, rfl, hgained⟩ rfl,
    .kept rfl rfl (settings_emit rfl), .inl (.of_update rfl rfl)⟩

lemma increaseStake_step {additional : ℤ} {pull : Reply E Unit}
    (h : increaseStake inv r additional pull s = .ok s') :
    Stepped inv (.increaseStake r additional pull) s s' := by
  simp only [increaseStake, requireInitialised, requireAuth, chain_eq_ok, failIf_eq_ok,
    exists_const, checkedAddInt_eq_ok, pure_eq_ok_iff, not_le, Bool.not_eq_false] at h
  obtain ⟨-, hauth, hpos, entry, hload, s₁, htransfer, total, ⟨-, rfl⟩, rfl⟩ := h
  obtain ⟨b, rfl, hgained⟩ := transferStake_in (inv.ne_self_of_auth hauth) htransfer
  exact ⟨.increased (loadResolver_ok hload).2 hpos
    ⟨rfl, rfl, rfl, resolver?_setResolver _ _ _, rfl, hgained⟩ rfl,
    .kept rfl rfl (settings_emit rfl), .inl (.of_update rfl rfl)⟩

lemma requestUnregister_step (h : requestUnregister inv r s = .ok s') :
    Stepped inv (.requestUnregister r) s s' := by
  simp only [requestUnregister, requireInitialised, requireAuth, chain_eq_ok, failIf_eq_ok,
    exists_const, checkedAdd_eq_ok, pure_eq_ok_iff, not_not] at h
  obtain ⟨-, -, entry, hload, hnone, readyAt, ⟨-, rfl⟩, rfl⟩ := h
  exact ⟨.leaving (loadResolver_ok hload).2 hnone rfl
    ⟨rfl, rfl, rfl, resolver?_setResolver _ _ _, rfl, fun _ _ _ => by simp [State.emit,
      State.setResolver]⟩ rfl, .kept rfl rfl (settings_emit rfl), .inl (.of_update rfl rfl)⟩

variable {push : Reply E Unit}

lemma withdrawStake_due (h : withdrawStake inv r push s = .ok s') : ∃ info unbondReadyAt,
      s.resolver? r = some info ∧ info.unbondingAt = some unbondReadyAt ∧
        unbondReadyAt ≤ inv.timestamp := by
  simp only [withdrawStake, requireInitialised, requireAuth, chain_eq_ok, failIf_eq_ok,
    exists_const, stored_eq_ok, pure_eq_ok_iff, not_lt] at h
  obtain ⟨-, -, entry, hload, readyAt, hready, htime, -⟩ := h
  exact ⟨entry.info, readyAt, (loadResolver_ok hload).2, hready, htime⟩

lemma withdrawStake_step (h : withdrawStake inv r push s = .ok s') :
    Stepped inv (.withdrawStake r push) s s' := by
  simp only [withdrawStake, requireInitialised, requireAuth, chain_eq_ok, failIf_eq_ok,
    exists_const, stored_eq_ok, pure_eq_ok_iff, not_lt] at h
  obtain ⟨-, -, entry, hload, readyAt, hready, htime, s₁, hreturn, rfl⟩ := h
  obtain ⟨b, rfl, hgained⟩ := returnStake_ok hreturn
  have hgone := resolver?_setResolver { s with balances := b } r none
  exact ⟨.withdrawn (loadResolver_ok hload).2 hready htime ⟨rfl, rfl, rfl, hgone, rfl, hgained⟩ rfl,
    .kept rfl rfl (settings_emit rfl), .inr (.inl ⟨r, push, rfl, rfl, hgone⟩)⟩

lemma slash_step {amount : ℤ} (h : slash inv r amount push s = .ok s' ∨
      ∃ condition, slashWithReason inv r amount condition push s = .ok s') :
    Outcome E inv.timestamp s s' ∧ RoleStep inv .other s s' ∧ Kept s s' := by
  simp only [slash, slashWithReason, chain_eq_ok, failIf_eq_ok, exists_const, stored_eq_ok,
    requireAdmin_eq_ok, checkedAddInt_eq_ok, pure_eq_ok_iff, not_le] at h
  -- the two differ in the event alone
  obtain ⟨⟨a, ha, hauth⟩, hpos, entry, hload, beneficiary, -, s₁, htransfer, total, ⟨-, rfl⟩,
    rfl⟩ | ⟨_, ⟨a, ha, hauth⟩, hpos, entry, hload, beneficiary, -, s₁, htransfer, total, ⟨-, rfl⟩,
    rfl⟩ := h
  all_goals obtain ⟨b, rfl, hgained⟩ := transferStake_out htransfer
  all_goals exact ⟨.slashed (loadResolver_ok hload).2 hpos
    ⟨rfl, rfl, rfl, resolver?_setResolver _ _ _, rfl, hgained⟩ rfl,
    .configured ha hauth rfl rfl, .of_update rfl rfl⟩

lemma restoreResolver_step (inv : Invocation E) (r : Address) (s : State) :
    Stepped inv (.restore r) s (restoreResolver inv r s) := by
  have hsame : Stepped inv (.restore r) s s :=
    ⟨.untouched ⟨rfl, id, id, rfl, rfl, ⟨[], by simp, by simp⟩, fun _ _ _ => by simp⟩,
      .kept rfl rfl rfl, .inl (.of_eq rfl rfl)⟩
  rw [restoreResolver]
  cases hentry : s.resolvers r with
  | none => exact hsame
  | some entry =>
    simp only
    split_ifs with harchived
    · refine ⟨.untouched ⟨rfl, id, id, ?_, rfl, ⟨[], by simp [State.setResolver], by simp⟩,
        fun _ _ _ => by simp [State.setResolver]⟩, .kept rfl rfl rfl, .inl (.of_update rfl rfl)⟩
      rw [resolver?_setResolver]
      exact Function.update_eq_self_iff.2 (by simp [State.resolver?, hentry])
    · exact hsame

lemma untouched_of_config {ev : Event} (hasset : s'.stakeAsset = s.stakeAsset)
    (hmin : 0 ≤ s.minStake.getD 0 → 0 ≤ s'.minStake.getD 0)
    (hperiod : minUnbondingPeriodSecs ≤ s.unbondingPeriod.getD defaultUnbondingPeriodSecs →
      minUnbondingPeriodSecs ≤ s'.unbondingPeriod.getD defaultUnbondingPeriodSecs)
    (hresolvers : s'.resolvers = s.resolvers) (hlist : s'.resolverList = s.resolverList)
    (hevents : s'.events = s.events ++ [ev]) (hev : ev.resolver = none)
    (hbalances : s'.balances = s.balances) : Untouched E s s' := by
  refine ⟨hasset, hmin, hperiod, ?_, ?_, ⟨[ev], hevents, by simpa using hev⟩, fun _ _ _ => ?_⟩
  · ext1 r
    rw [State.resolver?, State.resolver?, hresolvers]
  · rw [State.list, State.list, hlist]
  · rw [hbalances, add_zero]

/-- **Every call has one of the listed effects**, unless it fails. -/
theorem exec_step {a : Action E} (h : exec inv a s = .ok s') : Stepped inv a s s' := by
  cases a with
  | register resolver stake pull => exact register_step h
  | increaseStake resolver additional pull => exact increaseStake_step h
  | requestUnregister resolver => exact requestUnregister_step h
  | withdrawStake resolver push => exact withdrawStake_step h
  | setMinStake newMinimum =>
    simp only [exec, setMinStake, chain_eq_ok, failIf_eq_ok, exists_const, requireAdmin_eq_ok,
      pure_eq_ok_iff, not_lt] at h
    obtain ⟨⟨a, ha, hauth⟩, hmin, rfl⟩ := h
    exact ⟨.untouched (untouched_of_config rfl (fun _ => hmin) id rfl rfl rfl rfl rfl),
      .configured ha hauth rfl rfl, .inr (.inr ⟨newMinimum, rfl, rfl, rfl, a, ha, hauth⟩)⟩
  | setSlashBeneficiary newBeneficiary =>
    simp only [exec, setSlashBeneficiary, chain_eq_ok, pure_eq_ok_iff, requireAdmin_eq_ok] at h
    obtain ⟨-, ⟨a, ha, hauth⟩, old, -, rfl⟩ := h
    exact ⟨.untouched (untouched_of_config rfl id id rfl rfl rfl rfl rfl),
      .configured ha hauth rfl rfl, .inl (.of_eq rfl rfl)⟩
  | setUnbondingPeriod newPeriod =>
    simp only [exec, setUnbondingPeriod, chain_eq_ok, failIf_eq_ok, exists_const,
      requireAdmin_eq_ok, pure_eq_ok_iff, not_lt] at h
    obtain ⟨⟨a, ha, hauth⟩, hperiod, rfl⟩ := h
    exact ⟨.untouched (untouched_of_config rfl id (fun _ => hperiod) rfl rfl rfl rfl rfl),
      .configured ha hauth rfl rfl, .inl (.of_eq rfl rfl)⟩
  | transferAdmin newAdmin =>
    simp only [exec, transferAdmin, chain_eq_ok, pure_eq_ok_iff, requireAdmin_eq_ok] at h
    obtain ⟨-, ⟨a, ha, hauth⟩, current, -, rfl⟩ := h
    exact ⟨.untouched (untouched_of_config rfl id id rfl rfl rfl rfl rfl),
      .proposed ha hauth rfl rfl (settings_emit rfl), .inl (.of_eq rfl rfl)⟩
  | acceptAdmin =>
    simp only [exec, acceptAdmin, requireAuth, chain_eq_ok, stored_eq_ok, failIf_eq_ok,
      exists_const, pure_eq_ok_iff, Bool.not_eq_false] at h
    obtain ⟨pending, hpending, hauth, old, -, rfl⟩ := h
    exact ⟨.untouched (untouched_of_config rfl id id rfl rfl rfl rfl rfl),
      .accepted hpending hauth rfl rfl (settings_emit rfl), .inl (.of_eq rfl rfl)⟩
  | revokePendingAdmin =>
    simp only [exec, revokePendingAdmin, chain_eq_ok, pure_eq_ok_iff, requireAdmin_eq_ok] at h
    obtain ⟨-, ⟨a, ha, hauth⟩, pending, -, current, -, rfl⟩ := h
    exact ⟨.untouched (untouched_of_config rfl id id rfl rfl rfl rfl rfl),
      .revoked ha hauth rfl rfl (settings_emit rfl), .inl (.of_eq rfl rfl)⟩
  | transfers moves =>
    cases h
    refine ⟨.untouched ⟨rfl, id, id, rfl, rfl, ⟨[], by simp, by simp⟩, fun asset _ _ => ?_⟩,
      .kept rfl rfl rfl, .inl (.of_eq rfl rfl)⟩
    rw [add_zero]
    exact applyMoves_self_le moves s.balances asset
  | restore resolver =>
    cases h
    exact restoreResolver_step inv resolver s
  | slash resolver amount push =>
    obtain ⟨hout, hrole, hkept⟩ := slash_step (.inl h)
    exact ⟨hout, hrole, .inl hkept⟩
  | slashWithReason resolver amount condition push =>
    obtain ⟨hout, hrole, hkept⟩ := slash_step (.inr ⟨condition, h⟩)
    exact ⟨hout, hrole, .inl hkept⟩

lemma exec_outcome {a : Action E} (h : exec inv a s = .ok s') : Outcome E inv.timestamp s s' :=
  (exec_step h).1

end WaffleFinance.Soroban.Registry

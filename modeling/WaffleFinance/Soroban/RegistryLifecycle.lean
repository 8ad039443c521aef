import WaffleFinance.Soroban.RegistryStake
import WaffleFinance.Soroban.Governance

/-!
# The lifecycle of a resolver

Whether a resolver is active is stored twice, as a flag and as a stage of its lifecycle, and the
time at which it may leave is stored next to both.  The three always agree.  Once there is a
deadline it stays as it is, and the resolver stays inactive, until the stake is withdrawn.

What the flag does not follow is the minimal stake: `set_min_stake` does not look at the resolvers.
-/

namespace WaffleFinance.Soroban.Registry

open Lib

variable {E : Env}

/-! ### Agreement -/

/-- The flag, the stage of the lifecycle and the deadline agree. -/
structure Coherent (info : ResolverInfo) : Prop where
  active_iff : info.active = true ↔ info.lifecycle = .active
  of_active : info.lifecycle = .active → info.unbondingAt = none
  of_unbonding : info.lifecycle = .unbonding → info.unbondingAt ≠ none

lemma coherent_newInfo (r : Address) (stake : ℤ) (now : ℕ) : Coherent (newInfo r stake now) :=
  ⟨by simp [newInfo], fun _ => rfl, by simp [newInfo]⟩

lemma ResolverInfo.coherent_leaving (info : ResolverInfo) (readyAt : ℕ) :
    Coherent (info.leaving readyAt) :=
  ⟨by simp [leaving], by simp [leaving], by simp [leaving]⟩

lemma Coherent.slashed {info : ResolverInfo} (h : Coherent info) (take total minStake : ℤ)
    (now : ℕ) : Coherent (info.slashed take total minStake now) := by
  simp only [ResolverInfo.slashed]
  split_ifs
  · exact ⟨by simp, by simp, by simp⟩
  · exact ⟨h.active_iff, h.of_active, h.of_unbonding⟩

variable {r : Address} {s s' : State}

/-- What holds of every entry and of the one that is written holds of every entry afterwards. -/
lemma Changed.entries {P : Address → ResolverInfo → Prop} {info : Option ResolverInfo} {n : ℤ}
    {ev : Event} (h : Changed E r info n ev s s') (hs : ∀ a i, s.resolver? a = some i → P a i)
    (hinfo : ∀ i, info = some i → P r i) : ∀ a i, s'.resolver? a = some i → P a i := by
  intro a i hi
  rw [h.resolver] at hi
  by_cases ha : a = r
  · subst ha
    rw [Function.update_self] at hi
    exact hinfo i hi
  · rw [Function.update_of_ne ha] at hi
    exact hs a i hi

/-- All entries are coherent. -/
def State.Coherent (s : State) : Prop :=
  ∀ r info, s.resolver? r = some info → Registry.Coherent info

variable {now : ℕ}

/-- Every call keeps the entries coherent. -/
lemma Outcome.coherent (h : Outcome E now s s') (hs : s.Coherent) : s'.Coherent := by
  cases h with
  | untouched hu =>
    intro r info hr
    rw [hu.resolver] at hr
    exact hs r info hr
  | registered _ _ hc _ =>
    refine hc.entries hs ?_
    rintro i ⟨⟩
    exact coherent_newInfo _ _ _
  | increased hold _ hc _ =>
    refine hc.entries hs ?_
    rintro i ⟨⟩
    exact ⟨(hs _ _ hold).active_iff, (hs _ _ hold).of_active, (hs _ _ hold).of_unbonding⟩
  | leaving _ _ _ hc _ =>
    refine hc.entries hs ?_
    rintro i ⟨⟩
    exact ResolverInfo.coherent_leaving _ _
  | withdrawn _ _ _ hc _ => exact hc.entries hs (by rintro i ⟨⟩)
  | slashed hold _ hc _ =>
    refine hc.entries hs ?_
    rintro i ⟨⟩
    exact (hs _ _ hold).slashed _ _ _ _

lemma History.start_resolver (h : History E) (r : Address) : h.start.resolver? r = none := by
  have hstart := h.deployed
  simp only [constructor, chain_eq_ok, failIf_eq_ok, exists_const, pure_eq_ok_iff] at hstart
  obtain ⟨-, -, -, hstart⟩ := hstart
  rw [← hstart]
  rfl

lemma History.coherent (h : History E) (n : ℕ) : (h.stateAt n).Coherent := by
  show ((registry E).stateAt h.start h.calls n).Coherent
  refine Machine.stateAt_invariant (I := State.Coherent)
    (fun c _ s s' hs hok => (exec_outcome hok).coherent hs) ?_ n
  intro r info hr
  rw [h.start_resolver] at hr
  cases hr

variable {inv : Invocation E}

/-- The answer of `is_active`, where there is one, is the flag. -/
lemma isActive_iff {b : Bool} (h : isActive inv r s = .ok b) :
    b = true ↔ ∃ info, s.resolver? r = some info ∧ info.active = true := by
  rw [isActive] at h
  rw [State.resolver?]
  cases hr : s.resolvers r with
  | none =>
    rw [hr] at h
    cases h
    simp
  | some entry =>
    rw [hr] at h
    simp only [chain_eq_ok, failIf_eq_ok, exists_const, pure_eq_ok_iff] at h
    rw [← h.2]
    simp

/-- `is_active` answers for everybody whose entry is not archived. -/
lemma isActive_of_live (h : ∀ entry, s.resolvers r = some entry → inv.sequence ≤ entry.liveUntil) :
    isActive inv r s = .ok ((s.resolver? r).any ResolverInfo.active) := by
  rw [isActive, State.resolver?]
  cases hr : s.resolvers r with
  | none => rfl
  | some entry =>
    have hlive : ¬ entry.liveUntil < inv.sequence := not_lt.2 (h entry hr)
    simp [failIf, hlive]

/-! ### Deadlines -/

/-- The resolver `r` has asked to leave and may do so from `d` on. -/
def State.LeavesAt (s : State) (r : Address) (d : ℕ) : Prop :=
  ∃ info, s.resolver? r = some info ∧ info.unbondingAt = some d

/-- A call keeps the deadline of an entry that it does not remove. -/
lemma Outcome.leavesAt (h : Outcome E now s s') {d : ℕ} (hs : s.LeavesAt r d)
    (hr : s'.resolver? r ≠ none) : s'.LeavesAt r d := by
  obtain ⟨info, hinfo, hd⟩ := hs
  -- what is written for `r` has the deadline of the old entry
  have key : ∀ {a : Address} {new : Option ResolverInfo} {n : ℤ} {ev : Event},
      Changed E a new n ev s s' →
      (s.resolver? a = some info → ∀ i, new = some i → i.unbondingAt = some d) →
      s'.LeavesAt r d := by
    intro a new n ev hc hnew
    obtain ⟨i, hi⟩ := Option.ne_none_iff_exists'.1 hr
    refine ⟨i, hi, ?_⟩
    rw [hc.resolver] at hi
    by_cases ha : r = a
    · subst ha
      rw [Function.update_self] at hi
      exact hnew hinfo i hi
    · rw [Function.update_of_ne ha, hinfo] at hi
      cases hi
      exact hd
  cases h with
  | untouched hu => exact ⟨info, by rw [hu.resolver]; exact hinfo, hd⟩
  | registered hnone _ hc _ => exact key hc fun hsome => by rw [hnone] at hsome; cases hsome
  | increased hold _ hc _ =>
    refine key hc fun hsome => ?_
    obtain rfl := Option.some.inj (hold.symm.trans hsome)
    rintro i ⟨⟩
    exact hd
  | leaving hold hnone _ hc _ =>
    refine key hc fun hsome => ?_
    obtain rfl := Option.some.inj (hold.symm.trans hsome)
    rw [hnone] at hd
    cases hd
  | withdrawn _ _ _ hc _ => exact key hc (by rintro - i ⟨⟩)
  | slashed hold _ hc _ =>
    refine key hc fun hsome => ?_
    obtain rfl := Option.some.inj (hold.symm.trans hsome)
    rintro i ⟨⟩
    rw [(ResolverInfo.slashed_stake _ _ _ _ _).2.2]
    exact hd

/-- The call at `k` is a `withdraw_stake` of the resolver `r`, after which it has no entry. -/
def History.Withdrawn (h : History E) (r : Address) (k : ℕ) : Prop :=
  ∃ inv push, (registry E).Succeeds h.start h.calls k (inv, .withdrawStake r push) ∧
    (h.stateAt (k + 1)).resolver? r = none

/-- One call of a history keeps a deadline or is the withdrawal. -/
lemma History.leavesAt_succ (h : History E) {d n : ℕ} (hn : (h.stateAt n).LeavesAt r d) :
    (h.stateAt (n + 1)).LeavesAt r d ∨ h.Withdrawn r n := by
  by_cases hcall : ∃ c, (registry E).Succeeds h.start h.calls n c
  · obtain ⟨c, hc⟩ := hcall
    by_cases hgone : (h.stateAt (n + 1)).resolver? r = none
    · right
      have hentry : (h.stateAt n).resolver? r ≠ none := by
        obtain ⟨info, hinfo, -⟩ := hn
        simp [hinfo]
      rcases (exec_step hc.2).2.2 with hkept | ⟨r', push, ha, -, hremoved⟩ | ⟨m, -, -, hsame, -⟩
      · exact absurd hgone (hkept.entry r hentry)
      · -- the entry that was removed is the one of `r`
        obtain rfl : r = r' := by
          by_contra hne
          have hgone' := hgone
          rw [History.stateAt, hremoved, Function.update_of_ne hne] at hgone'
          exact hentry hgone'
        exact ⟨c.1, push, ⟨by rw [← ha]; exact hc.1, by rw [← ha]; exact hc.2⟩, hgone⟩
      · rw [History.stateAt, hsame] at hgone
        exact absurd hgone hentry
    · exact .inl ((exec_outcome hc.2).leavesAt hn hgone)
  · left
    rw [History.stateAt, Machine.stateAt_succ_of_not_succeeds hcall]
    exact hn

lemma History.leavesAt_of_le (h : History E) {d m n : ℕ} (hmn : m ≤ n)
    (hm : (h.stateAt m).LeavesAt r d) :
    (h.stateAt n).LeavesAt r d ∨ ∃ k, m ≤ k ∧ k < n ∧ h.Withdrawn r k := by
  induction n, hmn using Nat.le_induction with
  | base => exact .inl hm
  | succ n hmn ih =>
    rcases ih with hn | ⟨k, hmk, hkn, hk⟩
    · rcases h.leavesAt_succ hn with hn' | hw
      · exact .inl hn'
      · exact .inr ⟨n, hmn, Nat.lt_succ_self n, hw⟩
    · exact .inr ⟨k, hmk, hkn.trans (Nat.lt_succ_self n), hk⟩

lemma History.not_active_of_leavesAt (h : History E) {d n : ℕ} (hn : (h.stateAt n).LeavesAt r d)
    (inv : Invocation E) : isActive inv r (h.stateAt n) ≠ .ok true := by
  intro hactive
  obtain ⟨info, hinfo, hd⟩ := hn
  obtain ⟨info', hinfo', hflag⟩ := isActive_true hactive
  obtain rfl := Option.some.inj (hinfo.symm.trans hinfo')
  have hcoh := h.coherent n r info hinfo
  rw [hcoh.of_active (hcoh.active_iff.1 hflag)] at hd
  cases hd

/-! ### The two slashes -/

/-- The storage and the balances, without the events. -/
def State.silent (s : State) : State := { s with events := [] }

lemma slashWithReason_silent (inv : Invocation E) (r : Address) (amount : ℤ)
    (condition : SlashCondition) (push : Reply E Unit) (s : State) :
    State.silent <$> slashWithReason inv r amount condition push s =
      State.silent <$> slash inv r amount push s := by
  simp only [slashWithReason, slash, map_bind, map_pure]
  rfl

/-- **The stages of a resolver are coherent** in every history.  The flag, the stage, the deadline
and the answer of `is_active` agree; a deadline stays, and keeps the resolver inactive, until a
`withdraw_stake` removes the entry; and the two slashes have the same effect. -/
theorem lifecycle_coherent (h : History E) :
    (∀ n r info, (h.stateAt n).resolver? r = some info → Coherent info) ∧
    (∀ n r (inv : Invocation E), (h.stateAt n).resolver? r = none →
      isActive inv r (h.stateAt n) = .ok false) ∧
    (∀ n r (inv : Invocation E), (∀ entry, (h.stateAt n).resolvers r = some entry →
        inv.sequence ≤ entry.liveUntil) →
      isActive inv r (h.stateAt n) = .ok (((h.stateAt n).resolver? r).any ResolverInfo.active)) ∧
    (∀ n r (inv : Invocation E) b, isActive inv r (h.stateAt n) = .ok b →
      (b = true ↔ ∃ info, (h.stateAt n).resolver? r = some info ∧ info.active = true)) ∧
    (∀ m n r d, m ≤ n → (h.stateAt m).LeavesAt r d →
      ((h.stateAt n).LeavesAt r d ∧
        ∀ inv : Invocation E, isActive inv r (h.stateAt n) ≠ .ok true) ∨
      ∃ k, m ≤ k ∧ k < n ∧ h.Withdrawn r k) ∧
    ∀ (inv : Invocation E) r amount condition push s,
      State.silent <$> slashWithReason inv r amount condition push s =
        State.silent <$> slash inv r amount push s := by
  refine ⟨h.coherent, ?_, ?_, ?_, ?_, ?_⟩
  · intro n r inv hnone
    have hentry : (h.stateAt n).resolvers r = none := Option.map_eq_none_iff.1 hnone
    rw [isActive, hentry]
  · exact fun n r inv hlive => isActive_of_live hlive
  · exact fun n r inv b hb => isActive_iff hb
  · intro m n r d hmn hm
    rcases h.leavesAt_of_le hmn hm with hn | hw
    · exact .inl ⟨hn, h.not_active_of_leavesAt hn⟩
    · exact .inr hw
  · exact slashWithReason_silent

/-! ### The minimal stake -/

/-- Nobody with less than the minimal stake counts as active. -/
def State.Collateralised (E : Env) (s : State) : Prop :=
  ∀ (inv : Invocation E) r, isActive inv r s = .ok true →
    ∃ info, s.resolver? r = some info ∧ s.minStake.getD 0 ≤ info.stake

/-- The call does not set the minimal stake to more than what an active resolver has. -/
def RespectsStakes (c : Invocation E × Action E) (s : State) : Prop :=
  ∀ m admin, c.2 = .setMinStake m → s.admin = some admin → c.1.auth admin = true →
    ∀ r info, s.resolver? r = some info → info.active = true → m ≤ info.stake

/-- The same without reference to archived entries. -/
def State.Backed (s : State) : Prop :=
  ∀ r info, s.resolver? r = some info → info.active = true → s.minStake.getD 0 ≤ info.stake

/-- The call that asks in a ledger in which no entry is archived. -/
def Invocation.early (inv : Invocation E) : Invocation E := { inv with sequence := 0 }

lemma backed_iff (inv : Invocation E) : s.Collateralised E ↔ s.Backed := by
  constructor
  · intro h r info hr hactive
    have hok : isActive (Invocation.early inv) r s = .ok true := by
      rw [isActive_of_live fun entry _ => Nat.zero_le _, hr]
      exact congrArg Except.ok hactive
    obtain ⟨info', hr', hle⟩ := h _ r hok
    obtain rfl := Option.some.inj (hr.symm.trans hr')
    exact hle
  · intro h inv r hok
    obtain ⟨info, hr, hactive⟩ := isActive_true hok
    exact ⟨info, hr, h r info hr hactive⟩

lemma Coherent.le_of_slashed {info : ResolverInfo} (h : Coherent info) {take total minStake : ℤ}
    (hactive : (info.slashed take total minStake now).active = true) :
    minStake ≤ info.stake - take := by
  simp only [ResolverInfo.slashed] at hactive
  split_ifs at hactive with hlow
  · -- an active resolver is not in the inactive stage
    rw [not_and_or, not_lt, not_not] at hlow
    rcases hlow with hle | hinactive
    · exact hle
    · have hstage := h.active_iff.1 hactive
      rw [show info.lifecycle = .inactive from hinactive] at hstage
      cases hstage

/-- What a call does for the minimum if it leaves the minimum alone. -/
lemma Outcome.backed (h : Outcome E now s s') (hcoh : s.Coherent) (hs : s.Backed)
    (hmin : s'.minStake = s.minStake) : s'.Backed := by
  rw [State.Backed, hmin]
  cases h with
  | untouched hu =>
    rw [hu.resolver]
    exact hs
  | registered _ hle hc _ =>
    refine hc.entries hs ?_
    rintro i ⟨⟩ -
    exact hle
  | @increased r info additional hold hpos hc _ =>
    refine hc.entries hs ?_
    rintro i ⟨⟩ hactive
    have hle := hs _ _ hold hactive
    show s.minStake.getD 0 ≤ info.stake + additional
    omega
  | leaving _ _ _ hc _ =>
    refine hc.entries hs ?_
    rintro i ⟨⟩ ⟨⟩
  | withdrawn _ _ _ hc _ => exact hc.entries hs (by rintro i ⟨⟩)
  | slashed hold _ hc _ =>
    refine hc.entries hs ?_
    rintro i ⟨⟩ hactive
    rw [(ResolverInfo.slashed_stake _ _ _ _ _).1]
    exact (hcoh _ _ hold).le_of_slashed hactive

lemma exec_backed {c : Invocation E × Action E} (h : exec c.1 c.2 s = .ok s') (hcoh : s.Coherent)
    (hs : s.Backed) (hc : RespectsStakes c s) : s'.Backed := by
  rcases (exec_step h).2.2 with
    hkept | ⟨r, push, -, hmin, -⟩ | ⟨m, ha, hmin, hsame, admin, hadmin, hauth⟩
  · exact (exec_outcome h).backed hcoh hs hkept.minStake
  · exact (exec_outcome h).backed hcoh hs hmin
  · rw [State.Backed, hmin, hsame]
    exact hc m admin ha hadmin hauth

lemma History.backed (h : History E)
    (hcalls : ∀ n c, h.calls[n]? = some c → RespectsStakes c (h.stateAt n)) (n : ℕ) :
    (h.stateAt n).Backed := by
  induction n with
  | zero =>
    intro r info hr
    rw [History.stateAt, Machine.stateAt_zero, h.start_resolver] at hr
    cases hr
  | succ n ih =>
    by_cases hcall : ∃ c, (registry E).Succeeds h.start h.calls n c
    · obtain ⟨c, hc⟩ := hcall
      exact exec_backed hc.2 (h.coherent n) ih (hcalls n c hc.1)
    · rw [History.stateAt, Machine.stateAt_succ_of_not_succeeds hcall]
      exact ih

lemma setMinStake_ok (inv : Invocation E) {m : ℤ} {admin : Address} (hadmin : s.admin = some admin)
    (hauth : inv.auth admin = true) (hm : 0 ≤ m) :
    ∃ s', setMinStake inv m s = .ok s' ∧ s'.minStake = some m ∧ s'.resolver? = s.resolver? := by
  refine ⟨({ s with minStake := some m }).emit (.minStake (s.minStake.getD 0) m), ?_, rfl, rfl⟩
  simp [setMinStake, requireAdmin, Registry.admin, stored, hadmin, requireAuth, hauth, failIf,
    not_lt.2 hm]

/-- **Active resolvers have the minimal stake** throughout a history if and only if no call of it
sets the minimum to more than an active resolver has. -/
theorem minimum_stake_gate_iff (h : History E) :
    (∀ n, (h.stateAt n).Collateralised E) ↔
      ∀ n c, h.calls[n]? = some c → RespectsStakes c (h.stateAt n) := by
  constructor
  · intro hall n c hc m admin ha hadmin hauth r info hr hactive
    rcases lt_or_ge m 0 with hneg | hm
    · -- such a call fails, and no stake is negative
      exact hneg.le.trans ((h.sound n).accounted r info hr).nonneg
    obtain ⟨s', hok, hmin, hsame⟩ := setMinStake_ok c.1 hadmin hauth hm
    have hnext : h.stateAt (n + 1) = s' := by
      have hexec : (registry E).exec c (h.stateAt n) = .ok s' := by
        show exec c.1 c.2 (h.stateAt n) = .ok s'
        rw [ha]
        exact hok
      rw [History.stateAt, Machine.stateAt_succ hc]
      exact Machine.step_of_ok hexec
    have hbacked := (backed_iff c.1).1 (hall (n + 1))
    rw [hnext, State.Backed, hmin, hsame] at hbacked
    exact hbacked r info hr hactive
  · intro hcalls n
    exact (backed_iff h.deployment).2 (h.backed hcalls n)

namespace Sample

open Soroban.Sample

/-- The first account registers with `100`, and the admin then asks for `200`. -/
def raised : History (env 1) where
  deployment := signedBy 2 0
  config := config
  balances := balances
  balances_nonneg := history.balances_nonneg
  start := start
  deployed := history.deployed
  calls := [(signedBy 1 1000, .register alice 100 (quiet ())), (signedBy 2 2000, .setMinStake 200)]

end Sample

open Soroban.Sample in
/-- The resolver is still active, with half of the minimal stake. -/
theorem active_below_minimum_stake :
    isActive (signedBy 1 3000 : Invocation (env 1)) alice (Sample.raised.stateAt 2) = .ok true ∧
      (((Sample.raised.stateAt 2).resolver? alice).map ResolverInfo.stake = some 100) ∧
      (Sample.raised.stateAt 2).minStake = some 200 ∧
      ¬ (Sample.raised.stateAt 2).Collateralised (env 1) := by
  have hactive : isActive (signedBy 1 3000 : Invocation (env 1)) alice
      (Sample.raised.stateAt 2) = .ok true := by decide +kernel
  have hstake : ((Sample.raised.stateAt 2).resolver? alice).map ResolverInfo.stake = some 100 := by
    decide +kernel
  have hmin : (Sample.raised.stateAt 2).minStake = some 200 := by decide +kernel
  refine ⟨hactive, hstake, hmin, fun hcol => ?_⟩
  obtain ⟨info, hinfo, hle⟩ := hcol _ _ hactive
  rw [hinfo, Option.map_some] at hstake
  rw [hmin, Option.getD_some, Option.some.inj hstake] at hle
  omega

end WaffleFinance.Soroban.Registry

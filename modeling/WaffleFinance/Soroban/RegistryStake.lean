import WaffleFinance.Soroban.RegistryCalls

/-!
# The registry keeps the stakes

The registry has at least what all its resolvers have staked.  What a resolver has staked and
what it has been slashed by is what it has paid in since it registered, and the list of resolvers
is the list of those that have an entry.
-/

namespace WaffleFinance.Soroban.Registry

open Lib

variable {E : Env}

/-! ### What is counted -/

/-- What the entry of a resolver, or of nobody, has at stake. -/
def stakeOf : Option ResolverInfo → ℤ
  | some info => info.stake
  | none => 0

/-- The sum of all stakes. -/
def State.totalStake (s : State) : ℤ := ∑ r, stakeOf (s.resolver? r)

/-- What the resolver `r` has paid in since it registered, after an event. -/
def Event.deposit (r : Address) (n : ℤ) : Event → ℤ
  | .registered a stake => if a = r then stake else n
  | .increased a additional => if a = r then n + additional else n
  | _ => n

/-- What the resolver `r` has paid in since it registered the last time, by the events of its
registrations and of its increases. -/
def deposited (r : Address) (events : List Event) : ℤ := events.foldl (Event.deposit r) 0

lemma Event.deposit_of_ne {r : Address} {e : Event} (h : e.resolver ≠ some r) (n : ℤ) :
    e.deposit r n = n := by
  cases e with
  | registered a stake | increased a additional => exact if_neg fun ha => h (congrArg some ha)
  | _ => rfl

lemma deposited_concat (r : Address) (events : List Event) (e : Event) :
    deposited r (events ++ [e]) = e.deposit r (deposited r events) := by
  rw [deposited, List.foldl_append]
  rfl

lemma deposited_append {r : Address} {evs : List Event} (h : ∀ e ∈ evs, e.resolver ≠ some r)
    (events : List Event) : deposited r (events ++ evs) = deposited r events := by
  induction evs generalizing events with
  | nil => rw [List.append_nil]
  | cons e evs ih =>
    have hrest := ih (fun e' he' => h e' (List.mem_cons_of_mem e he')) (events ++ [e])
    rw [List.append_assoc, List.singleton_append] at hrest
    rw [hrest, deposited_concat, Event.deposit_of_ne (h e List.mem_cons_self)]

/-! ### The invariant -/

/-- What holds of the entry of the resolver `r`. -/
structure Accounted (events : List Event) (r : Address) (info : ResolverInfo) : Prop where
  nonneg : 0 ≤ info.stake
  deposited : info.stake + info.totalSlashed = deposited r events
  /-- A resolver that is leaving is not active. -/
  leaving : info.unbondingAt ≠ none → info.active = false

/-- What holds between the calls of a run. -/
structure Sound (E : Env) (s : State) : Prop where
  minStake : 0 ≤ s.minStake.getD 0
  unbondingPeriod : minUnbondingPeriodSecs ≤ s.unbondingPeriod.getD defaultUnbondingPeriodSecs
  accounted : ∀ r info, s.resolver? r = some info → Accounted s.events r info
  nodup : s.list.Nodup
  mem_list : ∀ r, r ∈ s.list ↔ s.resolver? r ≠ none
  covered : ∀ asset, s.stakeAsset = some asset → E.exact asset →
    s.totalStake ≤ s.balances asset E.self

lemma Untouched.sound {s s' : State} (h : Untouched E s s') (hs : Sound E s) : Sound E s' := by
  obtain ⟨evs, hevents, hnone⟩ := h.events
  refine ⟨h.minStake hs.minStake, h.unbondingPeriod hs.unbondingPeriod, ?_, ?_, ?_, ?_⟩
  · intro r info hr
    rw [h.resolver] at hr
    obtain ⟨hnonneg, hdeposited, hleaving⟩ := hs.accounted r info hr
    refine ⟨hnonneg, ?_, hleaving⟩
    rw [hevents, deposited_append fun e he => by rw [hnone e he]; simp]
    exact hdeposited
  · rw [h.list]
    exact hs.nodup
  · rw [h.list, h.resolver]
    exact hs.mem_list
  · intro asset hasset hx
    rw [h.stakeAsset] at hasset
    have hgained := h.gained asset hasset hx
    have hold := hs.covered asset hasset hx
    rw [State.totalStake, h.resolver]
    exact hold.trans ((add_zero _).symm.le.trans hgained)

section Changed

variable {r : Address} {info : Option ResolverInfo} {n : ℤ} {ev : Event} {s s' : State}

/-- Where an entry changes, the stakes stay covered if the registry has got the difference. -/
lemma Changed.covered (h : Changed E r info n ev s s') (hs : Sound E s)
    (hn : stakeOf info ≤ stakeOf (s.resolver? r) + n) :
    ∀ asset, s'.stakeAsset = some asset → E.exact asset →
      s'.totalStake ≤ s'.balances asset E.self := by
  intro asset hasset hx
  rw [h.stakeAsset] at hasset
  have hgained := h.gained asset hasset hx
  have hold := hs.covered asset hasset hx
  have hsum : s'.totalStake + stakeOf (s.resolver? r) = s.totalStake + stakeOf info := by
    rw [State.totalStake, State.totalStake, h.resolver]
    exact sum_update_add stakeOf s.resolver? info (.inl (Finset.mem_univ r))
  omega

/-- The entries of the other resolvers stay as they are. -/
lemma Changed.accounted (h : Changed E r info n ev s s') (hs : Sound E s)
    (hev : ev.resolver = some r) (hinfo : ∀ i, info = some i → Accounted s'.events r i) :
    ∀ r' i, s'.resolver? r' = some i → Accounted s'.events r' i := by
  intro r' i hi
  rw [h.resolver] at hi
  by_cases hr : r' = r
  · subst hr
    rw [Function.update_self] at hi
    exact hinfo i hi
  rw [Function.update_of_ne hr] at hi
  obtain ⟨hnonneg, hdeposited, hleaving⟩ := hs.accounted r' i hi
  refine ⟨hnonneg, ?_, hleaving⟩
  rw [h.events, deposited_concat, Event.deposit_of_ne]
  · exact hdeposited
  · rw [hev]
    exact fun heq => hr (Option.some.inj heq).symm

/-- What is left to show of a call that changes one entry. -/
lemma Changed.sound (h : Changed E r info n ev s s') (hs : Sound E s)
    (hev : ev.resolver = some r) (hinfo : ∀ i, info = some i → Accounted s'.events r i)
    (hn : stakeOf info ≤ stakeOf (s.resolver? r) + n) (hnodup : s'.list.Nodup)
    (hmem : ∀ r', r' ∈ s'.list ↔ s'.resolver? r' ≠ none) : Sound E s' where
  minStake := by
    rw [h.minStake]
    exact hs.minStake
  unbondingPeriod := by
    rw [h.unbondingPeriod]
    exact hs.unbondingPeriod
  accounted := h.accounted hs hev hinfo
  nodup := hnodup
  mem_list := hmem
  covered := h.covered hs hn

lemma Changed.sound_of_some {old new : ResolverInfo} (h : Changed E r (some new) n ev s s')
    (hs : Sound E s) (hold : s.resolver? r = some old) (hev : ev.resolver = some r)
    (hnew : Accounted s'.events r new) (hn : new.stake ≤ old.stake + n)
    (hlist : s'.list = s.list) : Sound E s' := by
  refine h.sound hs hev ?_ ?_ ?_ ?_
  · rintro i ⟨⟩
    exact hnew
  · rw [hold]
    exact hn
  · rw [hlist]
    exact hs.nodup
  · -- the resolver was in the list, and still is
    intro r'
    rw [hlist, hs.mem_list, h.resolver]
    by_cases hr : r' = r
    · subst hr
      simp [hold]
    · rw [Function.update_of_ne hr]

end Changed

lemma ResolverInfo.slashed_stake (info : ResolverInfo) (take total minStake : ℤ) (now : ℕ) :
    (info.slashed take total minStake now).stake = info.stake - take ∧
      (info.slashed take total minStake now).totalSlashed = total ∧
      (info.slashed take total minStake now).unbondingAt = info.unbondingAt := by
  simp only [ResolverInfo.slashed]
  split_ifs <;> exact ⟨rfl, rfl, rfl⟩

lemma ResolverInfo.slashed_active {info : ResolverInfo} (h : info.active = false)
    (take total minStake : ℤ) (now : ℕ) :
    (info.slashed take total minStake now).active = false := by
  simp only [ResolverInfo.slashed]
  split_ifs
  · rfl
  · exact h

/-- Every call keeps the registry sound. -/
lemma Outcome.sound {now : ℕ} {s s' : State} (h : Outcome E now s s') (hs : Sound E s) :
    Sound E s' := by
  cases h with
  | untouched hu => exact hu.sound hs
  | @registered r stake hnone hmin hc hlist =>
    have hmin' := hs.minStake
    refine hc.sound hs rfl ?_ (by simp [hnone, stakeOf, newInfo]) ?_ ?_
    · rintro i ⟨⟩
      refine ⟨hmin'.trans hmin, ?_, fun hne => absurd rfl hne⟩
      rw [hc.events, deposited_concat]
      simp [Event.deposit, newInfo]
    · -- who has no entry is not in the list
      rw [hlist, List.nodup_append]
      refine ⟨hs.nodup, by simp, ?_⟩
      rintro a ha b hb rfl
      rw [List.mem_singleton] at hb
      exact (hs.mem_list a).1 ha (hb ▸ hnone)
    · intro r'
      rw [hlist, List.mem_append, List.mem_singleton, hs.mem_list, hc.resolver]
      by_cases hr : r' = r
      · subst hr
        simp
      · simp [hr]
  | @increased r info additional hold hpos hc hlist =>
    obtain ⟨hnonneg, hdeposited, hleaving⟩ := hs.accounted _ _ hold
    refine hc.sound_of_some hs hold rfl ⟨?_, ?_, hleaving⟩ le_rfl hlist
    · show 0 ≤ info.stake + additional
      omega
    · rw [hc.events, deposited_concat]
      simp only [Event.deposit, if_true, ← hdeposited]
      omega
  | @leaving r info readyAt hold _ _ hc hlist =>
    obtain ⟨hnonneg, hdeposited, -⟩ := hs.accounted _ _ hold
    refine hc.sound_of_some hs hold rfl ⟨hnonneg, ?_, fun _ => rfl⟩ (add_zero _).symm.le hlist
    rw [hc.events, deposited_concat]
    exact hdeposited
  | @withdrawn r info readyAt hold _ _ hc hlist =>
    obtain ⟨hnonneg, -, -⟩ := hs.accounted _ _ hold
    refine hc.sound hs rfl ?_ (by simp [hold, stakeOf, max_eq_left hnonneg]) ?_ ?_
    · rintro i ⟨⟩
    · rw [hlist]
      exact hs.nodup.filter _
    · intro r'
      rw [hlist, List.mem_filter, hs.mem_list, hc.resolver]
      by_cases hr : r' = r
      · subst hr
        simp
      · simp [hr]
  | @slashed r info amount condition hold hpos hc hlist =>
    obtain ⟨hnonneg, hdeposited, hleaving⟩ := hs.accounted _ _ hold
    obtain ⟨hstake, htotal, hunbonding⟩ := info.slashed_stake (min amount info.stake)
      (info.totalSlashed + min amount info.stake) (s.minStake.getD 0) now
    have hle : min amount info.stake ≤ info.stake := min_le_right _ _
    refine hc.sound_of_some hs hold rfl ⟨?_, ?_, ?_⟩ ?_ hlist
    · rw [hstake]
      omega
    · rw [hc.events, deposited_concat, hstake, htotal]
      simp only [Event.deposit, ← hdeposited]
      omega
    · rw [hunbonding]
      exact fun hne => ResolverInfo.slashed_active (hleaving hne) _ _ _ _
    · rw [hstake]
      omega

/-- A deadline is never moved, and a new one lies at least the minimal period ahead. -/
lemma Outcome.deadline {now : ℕ} {s s' : State} (h : Outcome E now s s') (hs : Sound E s)
    {r : Address} {info' : ResolverInfo} {d : ℕ} (hr : s'.resolver? r = some info')
    (hd : info'.unbondingAt = some d) :
    (∃ info, s.resolver? r = some info ∧ info.unbondingAt = some d) ∨
      now + minUnbondingPeriodSecs ≤ d := by
  -- what holds of the entry that is written holds of all
  have key : ∀ {a : Address} {new : Option ResolverInfo} {n : ℤ} {ev : Event},
      Changed E a new n ev s s' →
      (∀ i, new = some i → i.unbondingAt = some d →
        (∃ info, s.resolver? a = some info ∧ info.unbondingAt = some d) ∨
          now + minUnbondingPeriodSecs ≤ d) →
      (∃ info, s.resolver? r = some info ∧ info.unbondingAt = some d) ∨
        now + minUnbondingPeriodSecs ≤ d := by
    intro a new n ev hc hnew
    rw [hc.resolver] at hr
    by_cases ha : r = a
    · subst ha
      rw [Function.update_self] at hr
      exact hnew info' hr hd
    · rw [Function.update_of_ne ha] at hr
      exact .inl ⟨info', hr, hd⟩
  cases h with
  | untouched hu => exact .inl ⟨info', by rw [← hu.resolver]; exact hr, hd⟩
  | registered _ _ hc _ => exact key hc (by rintro i ⟨⟩ ⟨⟩)
  | increased hold _ hc _ => exact key hc (by rintro i ⟨⟩ hi; exact .inl ⟨_, hold, hi⟩)
  | leaving hold _ hready hc _ =>
    refine key hc ?_
    rintro i ⟨⟩ ⟨⟩
    have hperiod := hs.unbondingPeriod
    exact .inr (by omega)
  | withdrawn _ _ _ hc _ => exact key hc (by rintro i ⟨⟩)
  | slashed hold _ hc _ =>
    refine key hc ?_
    rintro i ⟨⟩ hi
    rw [(ResolverInfo.slashed_stake _ _ _ _ _).2.2] at hi
    exact .inl ⟨_, hold, hi⟩

/-! ### Whole histories -/

lemma constructor_sound {inv : Invocation E} {c : Config} {b : Balances} {s : State}
    (hb : ∀ asset, E.exact asset → 0 ≤ b asset E.self)
    (h : constructor inv c (.blank b) = .ok s) : Sound E s := by
  simp only [constructor, chain_eq_ok, failIf_eq_ok, exists_const, pure_eq_ok_iff, not_lt] at h
  obtain ⟨-, hmin, hperiod, rfl⟩ := h
  refine ⟨hmin, hperiod, ?_, List.nodup_nil, ?_, ?_⟩
  · rintro r info ⟨⟩
  · intro r
    simp [State.list, State.resolver?, State.blank]
  · intro asset _ hx
    have hzero : ∀ s : State, (∀ r, s.resolver? r = none) → s.totalStake = 0 := fun s hs =>
      Finset.sum_eq_zero fun r _ => by rw [hs r]; rfl
    rw [hzero _ fun r => rfl]
    exact hb asset hx

lemma History.sound (h : History E) (n : ℕ) : Sound E (h.stateAt n) := by
  show Sound E ((registry E).stateAt h.start h.calls n)
  exact Machine.stateAt_invariant (I := Sound E)
    (fun c _ s s' hs hok => (exec_outcome hok).sound hs)
    (constructor_sound h.balances_nonneg h.deployed) n

lemma Reachable.sound {s : State} (h : Reachable E s) : Sound E s := by
  obtain ⟨h, n, rfl⟩ := h
  exact h.sound n

/-- **Stakes are conserved.**  In every reachable state the registry has of an exact stake token
at least the sum of all stakes; every stake is non-negative, and together with what was slashed it
is what the resolver has paid in since its registration; and the list of resolvers lists each
address that has an entry once, and no other. -/
theorem registry_stake_conserved {s : State} (h : Reachable E s) :
    (∀ asset, s.stakeAsset = some asset → E.exact asset →
      s.totalStake ≤ s.balances asset E.self) ∧
    (∀ r info, s.resolver? r = some info →
      0 ≤ info.stake ∧ info.stake + info.totalSlashed = deposited r s.events) ∧
    s.list.Nodup ∧ ∀ r, r ∈ s.list ↔ s.resolver? r ≠ none := by
  obtain ⟨-, -, haccounted, hnodup, hmem, hcovered⟩ := h.sound
  refine ⟨hcovered, ?_, hnodup, hmem⟩
  intro r info hr
  exact ⟨(haccounted r info hr).nonneg, (haccounted r info hr).deposited⟩

/-- The sample resolver after a registration, an increase and a slash. -/
theorem registry_stake_conserved_sample :
    (Sample.history.stateAt 3).list = [Sample.alice] ∧
      (Sample.history.stateAt 3).totalStake ≤ 90 ∧
      deposited Sample.alice (Sample.history.stateAt 3).events = 120 := by
  have h := registry_stake_conserved ⟨Sample.history, 3, rfl⟩
  have hbalance : (Sample.history.stateAt 3).balances Sample.token (Sample.env 1).self = 90 := by
    decide +kernel
  refine ⟨by decide +kernel, ?_, by decide +kernel⟩
  rw [← hbalance]
  exact h.1 Sample.token (by decide +kernel) rfl

end WaffleFinance.Soroban.Registry

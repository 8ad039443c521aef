import WaffleFinance.Evm.RegistryIndex
import WaffleFinance.Lib.Totals

/-!
# The registry conserves the stakes

Every token that the registry has pulled in is staked, slashed or returned.  So an exact stake
token covers all stakes, and what a resolver has at stake and what was slashed of it is what it
has paid in since it registered.
-/

namespace WaffleFinance.Evm.Registry

open Lib

variable {P : Platform}

/-! ### What is counted -/

/-- The sum of the stakes of the registered resolvers. -/
def State.totalStake (s : State P) : ℕ := (s.resolverList.map fun a => (s.resolvers a).stake).sum

/-- What was transferred for one purpose. -/
def amountFor (purpose : Purpose) (moves : List TokenMove) : ℕ :=
  ((moves.filter fun m => m.purpose = purpose).map TokenMove.amount).sum

/-- What the resolver `r` has paid in since it registered, after one more transfer. -/
def TokenMove.deposit (r : Address) (n : ℕ) (m : TokenMove) : ℕ :=
  match m.purpose with
  | .register => if m.account = r then m.amount else n
  | .increase => if m.account = r then n + m.amount else n
  | .unregister | .slash => n

/-- What the resolver `r` has paid in since it registered the last time. -/
def deposited (r : Address) (moves : List TokenMove) : ℕ := moves.foldl (TokenMove.deposit r) 0

lemma amountFor_append (purpose : Purpose) (moves ms : List TokenMove) :
    amountFor purpose (moves ++ ms) = amountFor purpose moves + amountFor purpose ms := by
  simp [amountFor]

lemma deposited_concat (r : Address) (moves : List TokenMove) (m : TokenMove) :
    deposited r (moves ++ [m]) = m.deposit r (deposited r moves) := by
  rw [deposited, List.foldl_append]
  rfl

/-- The transfer is not a deposit of `r`. -/
def TokenMove.Foreign (r : Address) (m : TokenMove) : Prop :=
  (m.purpose = .register ∨ m.purpose = .increase) → m.account ≠ r

lemma deposited_foreign {r : Address} {m : TokenMove} (h : m.Foreign r) (moves : List TokenMove) :
    deposited r (moves ++ [m]) = deposited r moves := by
  rw [deposited_concat]
  obtain ⟨purpose, account, amount⟩ := m
  cases purpose with
  | register => exact if_neg (h (.inl rfl))
  | increase => exact if_neg (h (.inr rfl))
  | unregister => rfl
  | slash => rfl

/-! ### The invariant -/

/-- The sum of all stakes, the empty ones included. -/
def State.stakeSum (s : State P) : ℕ := ∑ a, (s.resolvers a).stake

lemma Structured.totalStake_eq {s : State P} (h : Structured s) : s.totalStake = s.stakeSum := by
  have hnodup : s.resolverList.Nodup := h.indexed.nodup
  rw [State.totalStake, ← List.sum_toFinset _ hnodup]
  refine Finset.sum_subset (Finset.subset_univ _) fun a _ ha => ?_
  have hindex : s.resolverIndex a = 0 :=
    (h.storageInvariants.i1 a).2 fun hmem => ha (List.mem_toFinset.2 hmem)
  rw [h.cleared a hindex]

/-- What holds between the calls of a run. -/
structure Conserved (s : State P) : Prop where
  structured : Structured s
  accounted : ∀ a, s.resolverIndex a ≠ 0 →
    (s.resolvers a).stake + (s.resolvers a).totalSlashed = deposited a s.moves
  balanced : amountFor .slash s.moves + amountFor .unregister s.moves + s.stakeSum =
    amountFor .register s.moves + amountFor .increase s.moves
  covered : P.exact s.stakeAsset → s.stakeSum ≤ s.held

section Changed

variable {r : Address} {info : ResolverInfo} {l : IndexedList Address} {ms : List TokenMove}
  {gain loss : ℕ} {s s' : State P}

lemma Changed.stakeSum (h : Changed r info l ms gain loss s s') :
    s'.stakeSum + (s.resolvers r).stake = s.stakeSum + info.stake := by
  rw [State.stakeSum, State.stakeSum, h.resolvers]
  exact sum_update_add ResolverInfo.stake s.resolvers info (.inl (Finset.mem_univ r))

/-- What is left to show of a call that changes one entry. -/
lemma Changed.conserved (h : Changed r info l ms gain loss s s') (hs : Conserved s)
    (hs' : Structured s') (hothers : ∀ a, a ≠ r → l.index a ≠ 0 → s.resolverIndex a ≠ 0)
    (hforeign : ∀ a, a ≠ r → deposited a s'.moves = deposited a s.moves)
    (hinfo : l.index r ≠ 0 → info.stake + info.totalSlashed = deposited r s'.moves)
    (hstake : info.stake + loss = (s.resolvers r).stake + gain)
    (hbalance : amountFor .slash ms + amountFor .unregister ms + gain =
      amountFor .register ms + amountFor .increase ms + loss) :
    Conserved s' := by
  have hsum := h.stakeSum
  have hindex : s'.resolverIndex = l.index := congrArg IndexedList.index h.indexed
  refine ⟨hs', ?_, ?_, ?_⟩
  · rw [hindex]
    refine h.forall_resolvers (fun a i => l.index a ≠ 0 →
      i.stake + i.totalSlashed = deposited a s'.moves) hinfo fun a har ha => ?_
    rw [hforeign a har]
    exact hs.accounted a (hothers a har ha)
  · have hold := hs.balanced
    rw [h.moves]
    simp only [amountFor_append]
    omega
  · intro hx
    rw [h.stakeAsset] at hx
    have hheld := h.held hx
    have hcovered := hs.covered hx
    omega

end Changed

/-- Every call keeps the stakes. -/
lemma Outcome.conserved {s s' : State P} (h : Outcome s s') (hs : Conserved s) :
    Conserved s' := by
  have hs' := h.structured hs.structured
  cases h with
  | undisturbed hu =>
    have hmoves : s'.moves = s.moves := hu.moves.trans (List.append_nil _)
    refine ⟨hs', ?_, ?_, ?_⟩
    · rw [hu.resolverIndex, hu.resolvers, hmoves]
      exact hs.accounted
    · rw [State.stakeSum, hu.resolvers, hmoves]
      exact hs.balanced
    · intro hx
      rw [hu.stakeAsset] at hx
      rw [State.stakeSum, hu.resolvers]
      exact (hs.covered hx).trans (hu.held hx)
  | @registered r stake now hnew hc =>
    have hempty := hs.structured.cleared r hnew
    refine hc.conserved hs hs' ?_ ?_ ?_ ?_ ?_
    · intro a ha hne
      have hsame : (s.indexed.push r).index a = s.resolverIndex a := Function.update_of_ne ha ..
      rwa [hsame] at hne
    · intro a ha
      rw [hc.moves]
      exact deposited_foreign (fun _ => Ne.symm ha) _
    · intro _
      rw [hc.moves, deposited_concat]
      simp [TokenMove.deposit, newInfo]
    · rw [hempty]
      simp [newInfo]
    · simp [amountFor]
  | @increased r additional active hreg hc =>
    refine hc.conserved hs hs' (fun _ _ hne => hne) ?_ ?_ ?_ ?_
    · intro a ha
      rw [hc.moves]
      exact deposited_foreign (fun _ => Ne.symm ha) _
    · intro _
      have hold := hs.accounted r hreg
      rw [hc.moves, deposited_concat]
      simp only [TokenMove.deposit, if_true]
      omega
    · simp
    · simp [amountFor]
  | @unregistered r last ms hreg hlast hms hc =>
    have hgone := index_swapPop hs.structured.indexed hreg hlast
    refine hc.conserved hs hs' ?_ ?_ ?_ ?_ ?_
    · intro a _ hne h0
      exact hne ((hgone a).2 (.inl h0))
    · intro a ha
      rw [hc.moves, hms]
      split_ifs
      · exact deposited_foreign (fun hp => by simp at hp) _
      · rw [List.append_nil]
    · exact fun hne => absurd ((hgone r).2 (.inr rfl)) hne
    · simp
    · rw [hms]
      split_ifs with hpos
      · simp [amountFor]
      · simp [amountFor]
        omega
  | @slashed r beneficiary amount now active hreg hle hc =>
    refine hc.conserved hs hs' (fun _ _ hne => hne) ?_ ?_ ?_ ?_
    · intro a ha
      rw [hc.moves]
      exact deposited_foreign (fun hp => by simp at hp) _
    · intro _
      have hold := hs.accounted r hreg
      rw [hc.moves, deposited_foreign (fun hp => by simp at hp)]
      simp only
      omega
    · simp only
      omega
    · simp [amountFor]

/-! ### Whole histories -/

lemma deploy_conserved {d : Deployment} {s : State P} (h : deploy d = .ok s) : Conserved s := by
  have hs := deploy_structured h
  simp only [deploy, chain_eq_ok, failIf_eq_ok, exists_const, pure_eq_ok_iff] at h
  obtain ⟨-, -, rfl⟩ := h
  have hzero : ∀ s : State P, (∀ a, s.resolvers a = {}) → s.stakeSum = 0 := fun s hs =>
    Finset.sum_eq_zero fun a _ => by rw [hs a]
  refine ⟨hs, fun a ha => absurd rfl ha, ?_, fun _ => ?_⟩
  · rw [hzero _ fun a => rfl]
    rfl
  · rw [hzero _ fun a => rfl]
    exact Nat.zero_le _

lemma Reachable.conserved {s : State P} (h : Reachable s) : Conserved s := by
  obtain ⟨h, n, rfl⟩ := h
  show Conserved ((registry P).stateAt h.start h.calls n)
  exact Machine.stateAt_invariant (I := Conserved)
    (fun c _ s s' hs hok =>
      (exec_outcome hs.structured.guard hs.structured.indexed hok).conserved hs)
    (deploy_conserved h.deployed) n

/-- **Stakes are conserved.**  In every reachable state the registry has of an exact stake token
at least the sum of the stakes; what a registered resolver has at stake and what was slashed of it
is what it has paid in since it registered; and what went to the beneficiary of slashes, what was
returned and what is still at stake is no more than what was ever paid in. -/
theorem resolver_registry_conserves_stake {s : State P} (h : Reachable s) :
    (P.exact s.stakeAsset → s.totalStake ≤ s.held) ∧
    (∀ a ∈ s.resolverList,
      (s.resolvers a).stake + (s.resolvers a).totalSlashed = deposited a s.moves) ∧
    amountFor .slash s.moves + amountFor .unregister s.moves + s.totalStake ≤
      amountFor .register s.moves + amountFor .increase s.moves := by
  obtain ⟨hstructured, haccounted, hbalanced, hcovered⟩ := h.conserved
  rw [hstructured.totalStake_eq]
  refine ⟨hcovered, ?_, hbalanced.le⟩
  intro a ha
  refine haccounted a fun h0 => ?_
  exact (hstructured.storageInvariants.i1 a).1 h0 ha

/-- The sample registry before the first account leaves. -/
theorem resolver_registry_conserves_stake_sample :
    (Sample.history.stateAt 4).totalStake ≤ 130 ∧
      deposited 2 (Sample.history.stateAt 4).moves = 80 ∧
      ((Sample.history.stateAt 4).resolvers 2).stake = 30 ∧
      ((Sample.history.stateAt 4).resolvers 2).totalSlashed = 50 := by
  have h := resolver_registry_conserves_stake (s := Sample.history.stateAt 4)
    ⟨Sample.history, 4, rfl⟩
  have hheld : (Sample.history.stateAt 4).held = 130 := by decide +kernel
  have hstake : ((Sample.history.stateAt 4).resolvers 2).stake = 30 := by decide +kernel
  have hslashed : ((Sample.history.stateAt 4).resolvers 2).totalSlashed = 50 := by decide +kernel
  refine ⟨?_, ?_, hstake, hslashed⟩
  · rw [← hheld]
    exact h.1 (by decide +kernel)
  · rw [← h.2.1 2 (by decide +kernel), hstake, hslashed]

end WaffleFinance.Evm.Registry

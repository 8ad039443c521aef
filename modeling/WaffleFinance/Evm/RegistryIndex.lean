import WaffleFinance.Evm.RegistryCalls

/-!
# The storage invariants of the registry

`ResolverRegistry.sol` documents five invariants of its storage, `I1` to `I5`, and asserts parts
of them.  They hold in every reachable state, whatever the token's code does, and no assertion
ever fails.
-/

namespace WaffleFinance.Evm.Registry

open Lib

variable {P : Platform}

/-! ### The invariant -/

/-- What holds between the calls of a run. -/
structure Structured (s : State P) : Prop where
  guard : s.guard = P.guard.notEntered
  indexed : s.indexed.Consistent
  mirrored : ∀ a, s.resolverIndex a ≠ 0 → (s.resolvers a).resolver = a
  cleared : ∀ a, s.resolverIndex a = 0 → s.resolvers a = {}

variable {ms : List TokenMove} {s s' : State P}

lemma Moved.indexed {gain loss : ℕ} (h : Moved ms gain loss s s') : s'.indexed = s.indexed :=
  congrArg₂ IndexedList.mk h.resolverList h.resolverIndex

lemma Moved.structured {gain loss : ℕ} (h : Moved ms gain loss s s') (hs : Structured s) :
    Structured s' where
  guard := h.guard.trans hs.guard
  indexed := by
    rw [h.indexed]
    exact hs.indexed
  mirrored := by
    rw [h.resolverIndex, h.resolvers]
    exact hs.mirrored
  cleared := by
    rw [h.resolverIndex, h.resolvers]
    exact hs.cleared

/-- A call that changes the entry of `r`: the others stay registered or not as they were. -/
lemma Changed.structured {r : Address} {info : ResolverInfo} {l : IndexedList Address}
    {gain loss : ℕ} (h : Changed r info l ms gain loss s s') (hs : Structured s) (hl : l.Consistent)
    (hothers : ∀ a, a ≠ r → (l.index a = 0 ↔ s.resolverIndex a = 0))
    (hin : l.index r ≠ 0 → info.resolver = r) (hout : l.index r = 0 → info = {}) :
    Structured s' := by
  have hindex : s'.resolverIndex = l.index := congrArg IndexedList.index h.indexed
  refine ⟨h.guard, by rw [h.indexed]; exact hl, ?_, ?_⟩
  · rw [hindex]
    refine h.forall_resolvers (fun a i => l.index a ≠ 0 → i.resolver = a) hin fun a har ha => ?_
    exact hs.mirrored a fun h0 => ha ((hothers a har).2 h0)
  · rw [hindex]
    refine h.forall_resolvers (fun a i => l.index a = 0 → i = {}) hout fun a har ha => ?_
    exact hs.cleared a ((hothers a har).1 ha)

lemma index_swapPop (hs : s.indexed.Consistent) {r last : Address} (hr : s.resolverIndex r ≠ 0)
    (hlast : s.resolverList[s.resolverList.length - 1]? = some last) (a : Address) :
    (s.indexed.swapPop r last).index a = 0 ↔ s.resolverIndex a = 0 ∨ a = r := by
  have h := hs.swapPop_index hr hlast a
  have h' : (s.indexed.swapPop r last).index a ≠ 0 ↔ s.resolverIndex a ≠ 0 ∧ a ≠ r := h
  tauto

/-- Every call keeps the invariant. -/
lemma Outcome.structured (h : Outcome s s') (hs : Structured s) : Structured s' := by
  cases h with
  | undisturbed hu => exact hu.structured hs
  | @registered r stake now hnew hc =>
    refine hc.structured hs (hs.indexed.push hnew) ?_ (fun _ => rfl) ?_
    · intro a ha
      show Function.update s.resolverIndex r _ a = 0 ↔ s.resolverIndex a = 0
      rw [Function.update_of_ne ha]
    · intro h0
      have hpos : (s.indexed.push r).index r = s.resolverList.length + 1 :=
        Function.update_self ..
      omega
  | increased hreg hc | slashed hreg _ hc =>
    exact hc.structured hs hs.indexed (fun _ _ => Iff.rfl) (fun _ => hs.mirrored _ hreg)
      fun h0 => absurd h0 hreg
  | unregistered hreg hlast _ hc =>
    have hgone := index_swapPop hs.indexed hreg hlast
    refine hc.structured hs (hs.indexed.swapPop hreg hlast) ?_ ?_ fun _ => rfl
    · intro a ha
      simp [hgone a, ha]
    · exact fun hne => absurd ((hgone _).2 (.inr rfl)) hne

lemma deploy_structured {d : Deployment} (h : deploy d = .ok s) : Structured s := by
  simp only [deploy, chain_eq_ok, failIf_eq_ok, exists_const, pure_eq_ok_iff] at h
  obtain ⟨-, -, rfl⟩ := h
  exact ⟨rfl, IndexedList.consistent_empty, fun a ha => absurd rfl ha, fun a _ => rfl⟩

lemma History.structured (h : History P) (n : ℕ) : Structured (h.stateAt n) := by
  show Structured ((registry P).stateAt h.start h.calls n)
  exact Machine.stateAt_invariant (I := Structured)
    (fun c _ s s' hs hok => (exec_outcome hs.guard hs.indexed hok).structured hs)
    (deploy_structured h.deployed) n

lemma Reachable.structured (h : Reachable s) : Structured s := by
  obtain ⟨h, n, rfl⟩ := h
  exact h.structured n

lemma Structured.of_isActive (hs : Structured s) {a : Address} (h : isActive a s = true) :
    a ∈ s.resolverList ∧ s.minStake ≤ (s.resolvers a).stake := by
  rw [isActive, Bool.and_eq_true, decide_eq_true_eq] at h
  refine ⟨?_, h.2⟩
  have hmem : a ∈ s.indexed.list ↔ s.indexed.index a ≠ 0 := hs.indexed.mem_iff
  refine hmem.2 fun h0 => ?_
  rw [hs.cleared a h0] at h
  exact absurd h.1 (by decide)

/-! ### No assertion fails -/

/-- The panics that say that the storage is corrupt. -/
def Error.isInternal : Error → Bool
  | .panicAssert | .panicIndex | .panicPop | .panicUnderflow => true
  | _ => false

/-- The computation does not end in such a panic. -/
abbrev Clean {α : Type} (x : Except Error α) : Prop := Avoids (fun e => e.isInternal = true) x

lemma nonReentrantBefore_clean (s : State P) : Clean (nonReentrantBefore s) := by
  unfold nonReentrantBefore
  split
  · exact .of_ok ⟨_, rfl⟩
  · exact .of_error (by decide)

lemma checkedAdd_clean (a b : ℕ) : Clean (checkedAdd 256 Error.panicOverflow a b) := by
  unfold checkedAdd
  split
  · exact .of_ok ⟨_, rfl⟩
  · exact .of_error (by decide)

lemma ownershipCall_clean (f : P.ownable.Slots → Option P.ownable.Slots) (s : State P) :
    Clean (ownershipCall f s) := by
  unfold ownershipCall
  split
  · exact .of_ok ⟨_, rfl⟩
  · exact .of_error (by decide)

lemma safeTransfer_clean (purpose : Purpose) (recipient : Address) (amount : ℕ)
    (callee : Callee P) (s : State P) : Clean (safeTransfer purpose recipient amount callee s) := by
  refine .chain (.check (by decide)) fun _ _ => ?_
  simp only
  split_ifs
  · exact .chain (.check (by decide)) fun _ _ => .of_ok ⟨_, rfl⟩
  · exact .of_ok ⟨_, rfl⟩

lemma safeTransferFrom_clean (purpose : Purpose) (sender : Caller P) (amount : ℕ)
    (callee : Callee P) (s : State P) :
    Clean (safeTransferFrom purpose sender amount callee s) := by
  refine .chain (.check (by decide)) fun _ _ => ?_
  simp only
  split_ifs
  · exact .of_ok ⟨_, rfl⟩
  · exact .of_ok ⟨_, rfl⟩

/-- The two assertions of `register` hold by what it has just written. -/
lemma register_clean (now : ℕ) (caller : Caller P) (stake : ℕ) (pull : Callee P) (s : State P) :
    Clean (register now caller stake pull s) := by
  refine .chain (nonReentrantBefore_clean s) fun s₁ _ => ?_
  refine .chain (.check (by decide)) fun _ _ => ?_
  refine .chain (.check (by decide)) fun _ _ => ?_
  refine .chain (.check (by decide)) fun _ _ => ?_
  have hindex : ∀ s₂ : State P, (s₂.setIndex caller s₂.resolverList.length).resolverIndex caller =
      s₂.resolverList.length := fun s₂ => Function.update_self ..
  simp only [solAssert, hindex]
  refine .chain (.of_ok ⟨(), failIf_neg (by simp) _⟩) fun _ _ => ?_
  refine .chain (.of_ok ⟨_, checkedSub_eq_ok.2 ⟨by simp, rfl⟩⟩) fun slot hslot => ?_
  obtain ⟨-, rfl⟩ := checkedSub_eq_ok.1 hslot
  have hread : readAt (s₁.resolverList ++ [caller.1])
      ((s₁.resolverList ++ [caller.1]).length - 1) = .ok caller.1 :=
    readAt_eq_ok.2 (by simp)
  refine .chain (.of_ok ⟨_, hread⟩) fun stored hstored => ?_
  obtain rfl := Except.ok.inj (hread.symm.trans hstored)
  refine .chain (.of_ok ⟨(), failIf_neg (by simp) _⟩) fun _ _ => ?_
  exact .chain (safeTransferFrom_clean _ _ _ _ _) fun _ _ => .of_ok ⟨_, rfl⟩

lemma increaseStake_clean (caller : Caller P) (additional : ℕ) (pull : Callee P) (s : State P) :
    Clean (increaseStake caller additional pull s) := by
  refine .chain (nonReentrantBefore_clean s) fun _ _ => ?_
  refine .chain (.check (by decide)) fun _ _ => ?_
  refine .chain (.check (by decide)) fun _ _ => ?_
  refine .chain (checkedAdd_clean _ _) fun _ _ => ?_
  exact .chain (safeTransferFrom_clean _ _ _ _ _) fun _ _ => .of_ok ⟨_, rfl⟩

/-- The assertions of `unregister` and of the removal hold where the array is consistent. -/
lemma unregister_clean (caller : Caller P) (push : Callee P) (hs : s.indexed.Consistent) :
    Clean (unregister caller push s) := by
  refine .chain (nonReentrantBefore_clean s) fun s₁ hs₁ => ?_
  -- the guard is all that has changed
  have hsame : s₁.indexed = s.indexed := by
    unfold nonReentrantBefore at hs₁
    split at hs₁
    · cases hs₁
      rfl
    · cases hs₁
  rw [← hsame] at hs
  simp only
  by_cases hreg : s₁.resolverIndex caller = 0
  · rw [failIf_pos hreg]
    exact .of_error (by decide)
  rw [failIf_neg hreg, ok_chain]
  obtain ⟨last, hlast, hremove⟩ := removeFromList_ok hs hreg
  rw [hremove, ok_chain]
  have hgone : (s₁.indexed.swapPop caller last).index caller = 0 :=
    (index_swapPop hs hreg hlast caller).2 (.inr rfl)
  refine .chain (.of_ok ⟨(), failIf_neg (not_not.2 hgone) _⟩) fun _ _ => ?_
  refine .chain ?_ fun _ _ => .of_ok ⟨_, rfl⟩
  rw [returnStake]
  split_ifs
  · exact safeTransfer_clean _ _ _ _ _
  · exact .of_ok ⟨_, rfl⟩

lemma slash_clean (now : ℕ) (caller : Caller P) (resolver : Address) (amount : ℕ)
    (reason : SlashReason) (push : Callee P) (s : State P) :
    Clean (slash now caller resolver amount reason push s) := by
  refine .chain (.check (by decide)) fun _ _ => ?_
  refine .chain (nonReentrantBefore_clean s) fun s₁ _ => ?_
  refine .chain (.check (by decide)) fun _ _ => ?_
  refine .chain (.check (by decide)) fun _ _ => ?_
  refine .chain (.check (by decide)) fun _ hle => ?_
  rw [failIf_eq_ok, not_lt] at hle
  refine .chain (.of_ok ⟨_, checkedSub_eq_ok.2 ⟨hle, rfl⟩⟩) fun _ _ => ?_
  refine .chain (checkedAdd_clean _ _) fun _ _ => ?_
  exact .chain (safeTransfer_clean _ _ _ _ _) fun _ _ => .of_ok ⟨_, rfl⟩

lemma exec_unguarded_clean (now : ℕ) {a : Action P} (ha : a.isGuarded = false) (s : State P) :
    Clean (exec now a s) := by
  cases a with
  | tokens gift anything =>
    rw [exec]
    exact .of_ok ⟨_, rfl⟩
  | transferOwnership caller newOwner =>
    rw [exec]
    refine .chain (.check (by decide)) fun _ _ => ?_
    exact .chain (.check (by decide)) fun _ _ => ownershipCall_clean _ _
  | acceptOwnership caller | renounceOwnership caller =>
    rw [exec]
    exact ownershipCall_clean _ _
  | register _ _ _ _ => cases ha
  | increaseStake _ _ _ _ => cases ha
  | unregister _ _ _ => cases ha
  | slash _ _ _ _ _ _ => cases ha
  | _ =>
    rw [exec]
    refine .chain (.check (by decide)) fun _ _ => ?_
    exact .chain (.check (by decide)) fun _ _ => .of_ok ⟨_, rfl⟩

lemma exec_clean (now : ℕ) (a : Action P) (hs : s.indexed.Consistent) : Clean (exec now a s) := by
  by_cases ha : a.isGuarded = false
  · exact exec_unguarded_clean now ha s
  cases a with
  | register caller stake inner ok =>
    rw [exec]
    exact register_clean now caller stake _ s
  | increaseStake caller additional inner ok =>
    rw [exec]
    exact increaseStake_clean caller additional _ s
  | unregister caller inner ok =>
    rw [exec]
    exact unregister_clean caller _ hs
  | slash caller resolver amount reason inner ok =>
    rw [exec]
    exact slash_clean now caller resolver amount reason _ s
  | _ => exact absurd rfl ha

lemma exec_clean_entered (now : ℕ) (a : Action P) (hs : s.guard = P.guard.entered) :
    Clean (exec now a s) := by
  by_cases ha : a.isGuarded = true
  · rcases exec_guarded_entered now hs ha with h | h
    · rw [h]
      exact .of_error (by decide)
    · rw [h]
      exact .of_error (by decide)
  · exact exec_unguarded_clean now (Bool.not_eq_true _ ▸ ha) s

/-! ### The documented invariants -/

/-- The invariants `I1` to `I5` of the contract. -/
structure StorageInvariants (s : State P) : Prop where
  i1 : ∀ a, s.resolverIndex a = 0 ↔ a ∉ s.resolverList
  i2 : ∀ a, s.resolverIndex a ≠ 0 → s.resolverList[s.resolverIndex a - 1]? = some a
  i3 : ∀ a, s.resolverIndex a ≠ 0 → (s.resolvers a).resolver = a
  i4 : ∀ a, s.resolverIndex a = 0 → s.resolvers a = {}
  i5 : getResolverCount s = {a | s.resolverIndex a ≠ 0}.ncard

lemma Structured.storageInvariants (h : Structured s) : StorageInvariants s where
  i1 := fun a => by
    have hmem : a ∈ s.resolverList ↔ s.resolverIndex a ≠ 0 := h.indexed.mem_iff
    tauto
  i2 := fun a ha => h.indexed.getElem? ha
  i3 := h.mirrored
  i4 := h.cleared
  i5 := h.indexed.length_eq

lemma Structured.unregister_others (hs : Structured s) {now : ℕ} {caller : Caller P}
    {inner : List (Action P)} {ok : Bool} (h : exec now (.unregister caller inner ok) s = .ok s')
    (a : Address) :
    (a ∈ s'.resolverList ↔ a ∈ s.resolverList ∧ a ≠ caller) ∧
      (a ≠ caller → s'.resolvers a = s.resolvers a) := by
  rw [exec] at h
  obtain ⟨hreg, last, hlast, hc⟩ := unregister_changed hs.guard hs.indexed h
  constructor
  · have hafter : a ∈ (s.indexed.swapPop caller last).list ↔
        (s.indexed.swapPop caller last).index a ≠ 0 := (hs.indexed.swapPop hreg hlast).mem_iff
    have hbefore : a ∈ s.resolverList ↔ s.resolverIndex a ≠ 0 := hs.indexed.mem_iff
    have hgone := index_swapPop hs.indexed hreg hlast a
    have hlist : s'.resolverList = (s.indexed.swapPop caller last).list :=
      congrArg IndexedList.list hc.indexed
    rw [hlist]
    tauto
  · intro ha
    rw [hc.resolvers, Function.update_of_ne ha]

/-- **The storage invariants of the registry** hold in every reachable state.  The list has no
duplicates and the index inverts it; `unregister` takes out the caller and keeps everybody else;
and neither a call from outside nor one that the token's code makes ever fails an assertion, nor
an index or a subtraction. -/
theorem resolver_registry_indexed {s : State P} (h : Reachable s) :
    StorageInvariants s ∧ s.resolverList.Nodup ∧
    (∀ i a, s.resolverList[i]? = some a ↔ s.resolverIndex a = i + 1) ∧
    (∀ now caller inner ok s', exec now (.unregister caller inner ok) s = .ok s' →
      ∀ a, (a ∈ s'.resolverList ↔ a ∈ s.resolverList ∧ a ≠ caller) ∧
        (a ≠ caller → s'.resolvers a = s.resolvers a)) ∧
    (∀ now a e, exec now a s = .error e → e.isInternal = false) ∧
    ∀ now a e (s' : State P), s'.guard = P.guard.entered → exec now a s' = .error e →
      e.isInternal = false := by
  have hs := h.structured
  refine ⟨hs.storageInvariants, hs.indexed.nodup, hs.indexed, ?_, ?_, ?_⟩
  · exact fun now caller inner ok s' hok => hs.unregister_others hok
  · exact fun now a e he => Bool.not_eq_true _ ▸ exec_clean now a hs.indexed e he
  · exact fun now a e s' hs' he => Bool.not_eq_true _ ▸ exec_clean_entered now a hs' e he

/-- The sample registry after the first account has left: the second has moved into its slot. -/
theorem resolver_registry_indexed_sample :
    (Sample.history.stateAt 5).resolverList = [2] ∧
      (Sample.history.stateAt 5).resolverIndex 2 = 1 ∧
      StorageInvariants (Sample.history.stateAt 5) := by
  have h := resolver_registry_indexed (s := Sample.history.stateAt 5) ⟨Sample.history, 5, rfl⟩
  have hlist : (Sample.history.stateAt 5).resolverList = [2] := by decide +kernel
  refine ⟨hlist, ?_, h.1⟩
  rw [← h.2.2.1 0 2, hlist]
  rfl

/-! ### The listing of the active resolvers -/

lemma countActive_eq (s : State P) (l : List Address) (n : ℕ) :
    countActive s.minStake s l n = n + (l.filter fun a => isActive a s).length := by
  induction l generalizing n with
  | nil => rfl
  | cons a rest ih =>
    rw [countActive, ih, ih, List.filter_cons, isActive]
    split_ifs
    · rw [List.length_cons]
      omega
    · rfl

/-- The filling loop on an array with as many free places as active resolvers to come. -/
lemma fillActive_eq (s : State P) (l : List Address) (done : List ResolverInfo) :
    fillActive s.minStake s l done.length
        (done ++ List.replicate (l.filter fun a => isActive a s).length ({} : ResolverInfo)) =
      .ok (done ++ (l.filter fun a => isActive a s).map s.resolvers) := by
  -- along the list: `done` is what the loop has written already
  induction l generalizing done with
  | nil => simp [fillActive]
  | cons a rest ih =>
    rw [fillActive, ← isActive, List.filter_cons]
    by_cases ha : isActive a s = true
    · rw [if_pos ha, if_pos ha, failIf_neg (by simp), ok_chain, List.length_cons,
        List.replicate_succ, List.set_append_right _ _ le_rfl, Nat.sub_self, List.set_cons_zero]
      have hrest := ih (done ++ [s.resolvers a])
      rw [List.length_append, List.append_assoc, List.append_assoc] at hrest
      exact hrest
    · rw [if_neg ha, if_neg ha]
      exact ih done

/-- **The listing of the active resolvers.**  It never indexes out of bounds, and it has exactly
the entries of the listed resolvers that are active, in the order of the list.  Who is active is
registered with the minimal stake. -/
theorem active_resolvers_listed {s : State P} (h : Reachable s) :
    getActiveResolvers s = .ok (((list s).filter fun r => isActive r s).map s.resolvers) ∧
      ∀ r, isActive r s = true →
        r ∈ list s ∧ s.resolverIndex r ≠ 0 ∧ s.minStake ≤ (s.resolvers r).stake := by
  have hs := h.structured
  constructor
  · rw [getActiveResolvers, countActive_eq, zero_add]
    exact fillActive_eq s s.resolverList []
  · intro r hr
    obtain ⟨hmem, hstake⟩ := hs.of_isActive hr
    exact ⟨hmem, fun h0 => (hs.storageInvariants.i1 r).1 h0 hmem, hstake⟩

/-- The sample registry after the slash: of the two resolvers one has too little left. -/
theorem active_resolvers_listed_sample :
    list (Sample.history.stateAt 4) = [1, 2] ∧
      getActiveResolvers (Sample.history.stateAt 4) =
        .ok [(Sample.history.stateAt 4).resolvers 1] := by
  have h := active_resolvers_listed (s := Sample.history.stateAt 4) ⟨Sample.history, 4, rfl⟩
  have hlist : list (Sample.history.stateAt 4) = [1, 2] := by decide +kernel
  have hone : isActive 1 (Sample.history.stateAt 4) = true := by decide +kernel
  have htwo : isActive 2 (Sample.history.stateAt 4) = false := by decide +kernel
  refine ⟨hlist, ?_⟩
  rw [h.1, hlist]
  simp [hone, htwo]

end WaffleFinance.Evm.Registry

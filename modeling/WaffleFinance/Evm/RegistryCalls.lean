import WaffleFinance.Evm.Registry
import WaffleFinance.Lib.IndexedList
import WaffleFinance.Lib.Machine

/-!
# Calls to the registry and what they do

As for the escrow, an action is a tree: a call carries the actions that the token's code takes
while it has control.  All functions that move the stake token are guarded, so what is left to
that code are the settings of the owner and gifts to the registry.

A call that succeeds has one of the effects that `Outcome` lists.  The array and its index are an
`IndexedList`, and the two functions that write to them are its two operations.
-/

namespace WaffleFinance.Evm.Registry

open Lib

/-- What can happen to the registry. -/
inductive Action (P : Platform) where
  /-- The token contract changes the balance of the registry without its doing: an exact token
  only ever by `gift`, another one to anything. -/
  | tokens (gift anything : ℕ)
  | setMinStake (caller : Caller P) (newMinStake : ℕ)
  | setSlashBeneficiary (caller : Caller P) (newBeneficiary : Address)
  | transferOwnership (caller : Caller P) (newOwner : Address)
  | acceptOwnership (caller : Caller P)
  | renounceOwnership (caller : Caller P)
  /-- Here and below the token contract takes the actions `inner` and returns when `ok`. -/
  | register (caller : Caller P) (stake : ℕ) (inner : List (Action P)) (ok : Bool)
  | increaseStake (caller : Caller P) (additional : ℕ) (inner : List (Action P)) (ok : Bool)
  | unregister (caller : Caller P) (inner : List (Action P)) (ok : Bool)
  | slash (caller : Caller P) (resolver : Address) (amount : ℕ) (reason : SlashReason)
      (inner : List (Action P)) (ok : Bool)

variable {P : Platform}

/-- The balance moves on its own. -/
def driftTokens (gift anything : ℕ) (s : State P) : State P :=
  { s with held := if P.exact s.stakeAsset then s.held + gift else anything }

mutual

/-- Execute an action at the timestamp `now`. -/
def exec (now : ℕ) : Action P → State P → Except Error (State P)
  | .tokens gift anything, s => .ok (driftTokens gift anything s)
  | .setMinStake caller newMinStake, s => setMinStake caller newMinStake s
  | .setSlashBeneficiary caller newBeneficiary, s => setSlashBeneficiary caller newBeneficiary s
  | .transferOwnership caller newOwner, s => transferOwnership caller newOwner s
  | .acceptOwnership caller, s => ownershipCall (P.ownable.acceptOwnership caller) s
  | .renounceOwnership caller, s => ownershipCall (P.ownable.renounceOwnership caller) s
  | .register caller stake inner ok, s => register now caller stake ⟨execAll now inner, ok⟩ s
  | .increaseStake caller additional inner ok, s =>
      increaseStake caller additional ⟨execAll now inner, ok⟩ s
  | .unregister caller inner ok, s => unregister caller ⟨execAll now inner, ok⟩ s
  | .slash caller resolver amount reason inner ok, s =>
      slash now caller resolver amount reason ⟨execAll now inner, ok⟩ s

/-- Execute actions one after the other; one that reverts is rolled back. -/
def execAll (now : ℕ) : List (Action P) → State P → State P
  | [], s => s
  | a :: as, s =>
      execAll now as (match exec now a s with
        | .ok s' => s'
        | .error _ => s)

end

variable (P) in
/-- The registry as a machine; a call comes with the timestamp of its block. -/
def registry : Machine (State P) (ℕ × Action P) Error where
  exec := fun c s => exec c.1 c.2 s

/-- A history of calls from outside, from the deployment on. -/
structure History (P : Platform) where
  deployment : Deployment
  start : State P
  deployed : deploy deployment = .ok start
  calls : List (ℕ × Action P)

/-- The state after the first `n` calls of a history. -/
def History.stateAt (h : History P) (n : ℕ) : State P := (registry P).stateAt h.start h.calls n

/-- A state that the registry can be in between two calls. -/
def Reachable (s : State P) : Prop := ∃ (h : History P) (n : ℕ), s = h.stateAt n

/-! ### A history to evaluate -/

namespace Sample

open Evm.Sample (alice bob)

def carol : Caller .sample := ⟨3, by decide⟩

/-- The third account is the owner, and the token `7` is exact. -/
def deployment : Deployment where
  stakeAsset := 7
  minStake := 50
  slashBeneficiary := 9
  owner := 3
  held := 0

/-- The registry after its deployment. -/
def start : State .sample where
  stakeAsset := 7
  minStake := 50
  slashBeneficiary := 9
  resolvers := fun _ => {}
  resolverList := []
  resolverIndex := fun _ => 0
  guard := false
  ownership := (3, 0)
  held := 0
  events := []
  moves := []

/-- Two accounts register, one of them adds to its stake and is slashed, and the other leaves. -/
def history : History .sample where
  deployment := deployment
  start := start
  deployed := rfl
  calls :=
    [(1000, .register alice 100 [] true),
     (1001, .register bob 60 [] true),
     (1002, .increaseStake bob 20 [] true),
     (1003, .slash carol 2 50 .doubleSpend [] true),
     (1004, .unregister alice [] true)]

end Sample

/-! ### While a guarded function is running -/

/-- What happens to the registry apart from the resolvers: the transfers `ms` have been made, and
an exact stake token has `gain` more and `loss` less, at least. -/
structure Moved (ms : List TokenMove) (gain loss : ℕ) (s s' : State P) : Prop where
  stakeAsset : s'.stakeAsset = s.stakeAsset
  resolvers : s'.resolvers = s.resolvers
  resolverList : s'.resolverList = s.resolverList
  resolverIndex : s'.resolverIndex = s.resolverIndex
  guard : s'.guard = s.guard
  moves : s'.moves = s.moves ++ ms
  held : P.exact s.stakeAsset → s.held + gain ≤ s'.held + loss

/-- What code that has control in the middle of a guarded function leaves alone. -/
abbrev Undisturbed (s s' : State P) : Prop := Moved [] 0 0 s s'

lemma Moved.refl (s : State P) : Undisturbed s s :=
  ⟨rfl, rfl, rfl, rfl, rfl, by simp, fun _ => le_rfl⟩

lemma Moved.trans {ms ms' : List TokenMove} {gain loss gain' loss' : ℕ} {s₁ s₂ s₃ : State P}
    (h : Moved ms gain loss s₁ s₂) (h' : Moved ms' gain' loss' s₂ s₃) :
    Moved (ms ++ ms') (gain + gain') (loss + loss') s₁ s₃ where
  stakeAsset := h'.stakeAsset.trans h.stakeAsset
  resolvers := h'.resolvers.trans h.resolvers
  resolverList := h'.resolverList.trans h.resolverList
  resolverIndex := h'.resolverIndex.trans h.resolverIndex
  guard := h'.guard.trans h.guard
  moves := by rw [h'.moves, h.moves, List.append_assoc]
  held := by
    intro hx
    have h₁ := h.held hx
    have h₂ := h'.held (h.stakeAsset ▸ hx)
    omega

variable {s s' : State P}

lemma Moved.of_settings (hasset : s'.stakeAsset = s.stakeAsset)
    (hresolvers : s'.resolvers = s.resolvers) (hlist : s'.resolverList = s.resolverList)
    (hindex : s'.resolverIndex = s.resolverIndex) (hguard : s'.guard = s.guard)
    (hmoves : s'.moves = s.moves) (hheld : s'.held = s.held) : Undisturbed s s' :=
  ⟨hasset, hresolvers, hlist, hindex, hguard, by simp [hmoves], fun _ => by rw [hheld]⟩

lemma driftTokens_undisturbed (gift anything : ℕ) (s : State P) :
    Undisturbed s (driftTokens gift anything s) := by
  refine ⟨rfl, rfl, rfl, rfl, rfl, by simp [driftTokens], fun hx => ?_⟩
  simp [driftTokens, hx]

lemma ownershipCall_undisturbed {f : P.ownable.Slots → Option P.ownable.Slots}
    (h : ownershipCall f s = .ok s') : Undisturbed s s' := by
  unfold ownershipCall at h
  split at h
  · cases h
    exact .of_settings rfl rfl rfl rfl rfl rfl rfl
  · cases h

/-- The functions that nothing guards. -/
def Action.isGuarded : Action P → Bool
  | .register _ _ _ _ | .increaseStake _ _ _ _ | .unregister _ _ _ | .slash _ _ _ _ _ _ => true
  | _ => false

variable {now : ℕ} {a : Action P}

lemma exec_unguarded (ha : a.isGuarded = false) (h : exec now a s = .ok s') : Undisturbed s s' := by
  cases a with
  | tokens gift anything =>
    rw [exec] at h
    cases h
    exact driftTokens_undisturbed gift anything s
  | setMinStake caller newMinStake =>
    simp only [exec, setMinStake, chain_eq_ok, pure_eq_ok_iff] at h
    obtain ⟨-, -, -, -, rfl⟩ := h
    exact .of_settings rfl rfl rfl rfl rfl rfl rfl
  | setSlashBeneficiary caller newBeneficiary =>
    simp only [exec, setSlashBeneficiary, chain_eq_ok, pure_eq_ok_iff] at h
    obtain ⟨-, -, -, -, rfl⟩ := h
    exact .of_settings rfl rfl rfl rfl rfl rfl rfl
  | transferOwnership caller newOwner =>
    simp only [exec, transferOwnership, chain_eq_ok] at h
    obtain ⟨-, -, -, -, h⟩ := h
    exact ownershipCall_undisturbed h
  | acceptOwnership caller | renounceOwnership caller =>
    rw [exec] at h
    exact ownershipCall_undisturbed h
  | _ => cases ha

lemma nonReentrantBefore_entered (hs : s.guard = P.guard.entered) :
    nonReentrantBefore s = .error .reentrantCall := by
  simp [nonReentrantBefore, hs, P.guard.before_entered]

lemma nonReentrantBefore_notEntered (hs : s.guard = P.guard.notEntered) :
    nonReentrantBefore s = .ok { s with guard := P.guard.entered } := by
  simp [nonReentrantBefore, hs, P.guard.before_notEntered]

/-- A guarded function that is called while one is running is refused: by the guard, or because
the caller is not the owner. -/
lemma exec_guarded_entered (now : ℕ) (hs : s.guard = P.guard.entered) (ha : a.isGuarded = true) :
    exec now a s = .error .reentrantCall ∨ exec now a s = .error .unauthorizedAccount := by
  cases a with
  | register caller stake inner ok =>
    rw [exec, register, nonReentrantBefore_entered hs]
    exact .inl rfl
  | increaseStake caller additional inner ok =>
    rw [exec, increaseStake, nonReentrantBefore_entered hs]
    exact .inl rfl
  | unregister caller inner ok =>
    rw [exec, unregister, nonReentrantBefore_entered hs]
    exact .inl rfl
  | slash caller resolver amount reason inner ok =>
    rw [exec, slash, onlyOwner, nonReentrantBefore_entered hs]
    by_cases howner : P.ownable.owner s.ownership ≠ caller
    · rw [failIf_pos howner]
      exact .inr rfl
    · rw [failIf_neg howner]
      exact .inl rfl
  | _ => cases ha

lemma execAll_undisturbed (now : ℕ) (as : List (Action P)) (hs : s.guard = P.guard.entered) :
    Undisturbed s (execAll now as s) := by
  induction as generalizing s with
  | nil =>
    rw [execAll]
    exact Moved.refl s
  | cons a as ih =>
    rw [execAll]
    cases ha : exec now a s with
    | error e => exact ih hs
    | ok s' =>
      have hopen : a.isGuarded = false := by
        by_contra hguarded
        rw [Bool.not_eq_false] at hguarded
        rcases exec_guarded_entered now hs hguarded with h | h <;> rw [h] at ha <;> cases ha
      have h := exec_unguarded hopen ha
      exact h.trans (ih (h.guard.trans hs))

/-! ### Transfers -/

lemma safeTransfer_ok {purpose : Purpose} {recipient : Address} {amount : ℕ}
    {inner : List (Action P)} {ok : Bool} (hs : s.guard = P.guard.entered)
    (h : safeTransfer purpose recipient amount ⟨execAll now inner, ok⟩ s = .ok s') :
    Moved [⟨purpose, recipient, amount⟩] 0 amount s s' := by
  simp only [safeTransfer, chain_eq_ok, failIf_eq_ok, exists_const] at h
  obtain ⟨-, h⟩ := h
  obtain ⟨hasset, hres, hlist, hindex, hguard, hmoves, hheld⟩ :=
    execAll_undisturbed now inner hs
  rw [List.append_nil] at hmoves
  split_ifs at h with hx
  · simp only [chain_eq_ok, failIf_eq_ok, exists_const, pure_eq_ok_iff, not_lt] at h
    obtain ⟨henough, rfl⟩ := h
    refine ⟨hasset, hres, hlist, hindex, hguard, by simp [State.record, hmoves], fun hexact => ?_⟩
    have hkept := hheld hexact
    simp only [State.record] at henough ⊢
    omega
  rw [pure_eq_ok_iff] at h
  subst h
  refine ⟨hasset, hres, hlist, hindex, hguard, by simp [State.record, hmoves], fun hexact => ?_⟩
  have hkept := hheld hexact
  simp only [State.record]
  omega

lemma safeTransferFrom_ok {purpose : Purpose} {sender : Caller P} {amount : ℕ}
    {inner : List (Action P)} {ok : Bool} (hs : s.guard = P.guard.entered)
    (h : safeTransferFrom purpose sender amount ⟨execAll now inner, ok⟩ s = .ok s') :
    Moved [⟨purpose, sender, amount⟩] amount 0 s s' := by
  simp only [safeTransferFrom, chain_eq_ok, failIf_eq_ok, exists_const] at h
  obtain ⟨-, h⟩ := h
  obtain ⟨hasset, hres, hlist, hindex, hguard, hmoves, hheld⟩ :=
    execAll_undisturbed now inner hs
  rw [List.append_nil] at hmoves
  split_ifs at h with hx
  · rw [pure_eq_ok_iff] at h
    subst h
    refine ⟨hasset, hres, hlist, hindex, hguard, by simp [State.record, hmoves], fun hexact => ?_⟩
    have hkept := hheld hexact
    simp only [State.record]
    omega
  rw [pure_eq_ok_iff] at h
  subst h
  refine ⟨hasset, hres, hlist, hindex, hguard, by simp [State.record, hmoves], fun hexact => ?_⟩
  -- an exact token is still the one that was asked
  exact absurd (by rw [State.record, hasset]; exact hexact) hx

/-! ### Effects -/

/-- The array of resolvers with its index. -/
def State.indexed (s : State P) : IndexedList Address := ⟨s.resolverList, s.resolverIndex⟩

/-- The entry of `r` has become `info` and the indexed array `l`, and the transfers `ms` were made,
by which an exact stake token has `gain` more and `loss` less. -/
structure Changed (r : Address) (info : ResolverInfo) (l : IndexedList Address)
    (ms : List TokenMove) (gain loss : ℕ) (s s' : State P) : Prop where
  stakeAsset : s'.stakeAsset = s.stakeAsset
  resolvers : s'.resolvers = Function.update s.resolvers r info
  indexed : s'.indexed = l
  guard : s'.guard = P.guard.notEntered
  moves : s'.moves = s.moves ++ ms
  held : P.exact s.stakeAsset → s.held + gain ≤ s'.held + loss

/-- What holds of the new entry of `r` and of the old entries of the others. -/
lemma Changed.forall_resolvers {r : Address} {info : ResolverInfo} {l : IndexedList Address}
    {ms : List TokenMove} {gain loss : ℕ} (h : Changed r info l ms gain loss s s')
    (p : Address → ResolverInfo → Prop) (hr : p r info) (hothers : ∀ a, a ≠ r → p a (s.resolvers a))
    (a : Address) : p a (s'.resolvers a) := by
  rw [h.resolvers]
  exact (Function.forall_update_iff s.resolvers p).2 ⟨hr, hothers⟩ a

/-- What is stored about a new resolver. -/
def newInfo (r : Address) (stake now : ℕ) : ResolverInfo where
  resolver := r
  stake := stake
  registeredAt := now % 2 ^ 64
  lastSlashAt := 0
  totalSlashed := 0
  active := true

/-- What a call that succeeds has done. -/
inductive Outcome (s s' : State P) : Prop where
  | undisturbed : Undisturbed s s' → Outcome s s'
  | registered {r : Address} {stake now : ℕ} : s.resolverIndex r = 0 →
      Changed r (newInfo r stake now) (s.indexed.push r) [⟨.register, r, stake⟩] stake 0 s s' →
      Outcome s s'
  | increased {r : Address} {additional : ℕ} {active : Bool} : s.resolverIndex r ≠ 0 →
      Changed r { s.resolvers r with stake := (s.resolvers r).stake + additional, active := active }
        s.indexed [⟨.increase, r, additional⟩] additional 0 s s' →
      Outcome s s'
  | unregistered {r last : Address} {ms : List TokenMove} : s.resolverIndex r ≠ 0 →
      s.resolverList[s.resolverList.length - 1]? = some last →
      ms = (if 0 < (s.resolvers r).stake then [⟨.unregister, r, (s.resolvers r).stake⟩] else []) →
      Changed r {} (s.indexed.swapPop r last) ms 0 (s.resolvers r).stake s s' →
      Outcome s s'
  | slashed {r beneficiary : Address} {amount now : ℕ} {active : Bool} : s.resolverIndex r ≠ 0 →
      amount ≤ (s.resolvers r).stake →
      Changed r { s.resolvers r with
          stake := (s.resolvers r).stake - amount
          totalSlashed := (s.resolvers r).totalSlashed + amount
          lastSlashAt := now
          active := active }
        s.indexed [⟨.slash, beneficiary, amount⟩] 0 amount s s' →
      Outcome s s'

/-! ### The array -/

lemma readAt_eq_ok {l : List Address} {i : ℕ} {a : Address} :
    readAt l i = .ok a ↔ l[i]? = some a := by
  rw [readAt]
  cases l[i]? <;> simp

/-- In a consistent array a resolver is found and removed. -/
lemma removeFromList_ok {r : Address} (hs : s.indexed.Consistent) (hr : s.resolverIndex r ≠ 0) :
    ∃ last, s.resolverList[s.resolverList.length - 1]? = some last ∧
      removeFromList r (s.resolverIndex r) s = .ok { s with
        resolverList := (s.indexed.swapPop r last).list
        resolverIndex := (s.indexed.swapPop r last).index } := by
  have hlen : s.resolverIndex r ≤ s.resolverList.length := hs.index_le
  have hslot : s.resolverList[s.resolverIndex r - 1]? = some r := hs.getElem? hr
  obtain ⟨last, hlast⟩ : ∃ last, s.resolverList[s.resolverList.length - 1]? = some last :=
    ⟨_, List.getElem?_eq_getElem (by omega)⟩
  refine ⟨last, hlast, ?_⟩
  have hassert : 1 ≤ s.resolverIndex r ∧ s.resolverIndex r ≤ s.resolverList.length := by omega
  have hsub : ∀ n, 1 ≤ n → checkedSub Error.panicUnderflow n 1 = .ok (n - 1) := fun n hn =>
    checkedSub_eq_ok.2 ⟨hn, rfl⟩
  have hne : s.resolverList ≠ [] := by
    rintro hnil
    rw [hnil] at hlen
    exact hr (Nat.le_zero.1 hlen)
  simp only [removeFromList, solAssert, failIf_neg (not_not.2 hassert), ok_chain,
    hsub _ hassert.1, hsub _ (hassert.1.trans hassert.2), readAt_eq_ok.2 hslot,
    readAt_eq_ok.2 hlast, not_true_eq_false, failIf_neg not_false]
  by_cases hend : s.resolverIndex r = s.resolverList.length
  · -- the last one needs no swap
    have hswap : ¬ s.resolverIndex r - 1 ≠ s.resolverList.length - 1 := by omega
    have hpop : s.indexed.swapPop r last = ⟨s.resolverList.dropLast,
        Function.update s.resolverIndex r 0⟩ := if_pos hend
    rw [if_neg hswap, hpop]
    simp [popBack, failIf, State.setIndex, hne]
  have hswap : s.resolverIndex r - 1 ≠ s.resolverList.length - 1 := by omega
  have hpop : s.indexed.swapPop r last =
      ⟨(s.resolverList.set (s.resolverIndex r - 1) last).dropLast,
        Function.update (Function.update s.resolverIndex last (s.resolverIndex r)) r 0⟩ :=
    if_neg hend
  have hbound : ¬ s.resolverList.length ≤ s.resolverIndex r - 1 := by omega
  rw [if_pos hswap, hpop]
  simp [popBack, writeAt, failIf, State.setIndex, hne, hbound]

/-! ### The functions have these effects -/

section Outcomes

variable {now : ℕ} {caller : Caller P} {inner : List (Action P)} {ok : Bool} {s s' : State P}

/-- The end of a guarded function, which has written `info` and `l` and then made transfers. -/
lemma changed_of_moved {r : Address} {info : ResolverInfo} {l : IndexedList Address}
    {ms : List TokenMove} {gain loss : ℕ} {ev : Event} {s₁ s₂ : State P}
    (h : Moved ms gain loss s₁ s₂) (hasset : s₁.stakeAsset = s.stakeAsset)
    (hres : s₁.resolvers = Function.update s.resolvers r info) (hix : s₁.indexed = l)
    (hguard : s₁.guard = P.guard.entered) (hmoves : s₁.moves = s.moves)
    (hheld : s₁.held = s.held) :
    Changed r info l ms gain loss s (nonReentrantAfter (s₂.emit ev)) where
  stakeAsset := h.stakeAsset.trans hasset
  resolvers := h.resolvers.trans hres
  indexed := by
    rw [← hix]
    exact congrArg₂ IndexedList.mk h.resolverList h.resolverIndex
  guard := by
    show P.guard.nonReentrantAfter s₂.guard = P.guard.notEntered
    rw [h.guard, hguard, P.guard.after_entered]
  moves := h.moves.trans (by rw [hmoves])
  held := by
    intro hx
    have := h.held (hasset ▸ hx)
    rw [hheld] at this
    exact this

lemma register_outcome {stake : ℕ} (hs : s.guard = P.guard.notEntered)
    (h : register now caller stake ⟨execAll now inner, ok⟩ s = .ok s') : Outcome s s' := by
  rw [register, nonReentrantBefore_notEntered hs] at h
  simp only [solAssert, ok_chain, chain_eq_ok, failIf_eq_ok, exists_const, pure_eq_ok_iff,
    not_not] at h
  obtain ⟨-, -, hnew, -, slot, -, stored, -, -, s₂, htransfer, rfl⟩ := h
  have hmoved := safeTransferFrom_ok (by rfl) htransfer
  have hc : Changed caller.1 (newInfo caller stake now) (s.indexed.push caller)
      [⟨.register, caller, stake⟩] stake 0 s
      (nonReentrantAfter (s₂.emit (.registered caller stake))) := by
    refine changed_of_moved hmoved rfl rfl ?_ rfl rfl rfl
    simp [State.indexed, IndexedList.push, State.setIndex, State.setResolver]
  exact .registered hnew hc

lemma increaseStake_outcome {additional : ℕ} (hs : s.guard = P.guard.notEntered)
    (h : increaseStake caller additional ⟨execAll now inner, ok⟩ s = .ok s') : Outcome s s' := by
  rw [increaseStake, nonReentrantBefore_notEntered hs] at h
  simp only [ok_chain, chain_eq_ok, failIf_eq_ok, exists_const, pure_eq_ok_iff,
    checkedAdd_eq_ok] at h
  obtain ⟨-, hreg, stake, ⟨-, rfl⟩, s₂, htransfer, rfl⟩ := h
  have hmoved := safeTransferFrom_ok (by rfl) htransfer
  split_ifs at hmoved with hmin
  · exact .increased hreg (changed_of_moved hmoved rfl rfl rfl rfl rfl rfl)
  · exact .increased hreg (changed_of_moved hmoved rfl rfl rfl rfl rfl rfl)

lemma returnStake_ok {r : Address} {n : ℕ} (hs : s.guard = P.guard.entered)
    (h : returnStake r n ⟨execAll now inner, ok⟩ s = .ok s') :
    Moved (if 0 < n then [⟨.unregister, r, n⟩] else []) 0 n s s' := by
  rw [returnStake] at h
  split_ifs at h with hn
  · rw [if_pos hn]
    exact safeTransfer_ok hs h
  · rw [if_neg hn]
    cases h
    exact ⟨rfl, rfl, rfl, rfl, rfl, by simp, fun _ => by omega⟩

/-- What `unregister` does in a consistent array. -/
lemma unregister_changed (hs : s.guard = P.guard.notEntered) (hix : s.indexed.Consistent)
    (h : unregister caller ⟨execAll now inner, ok⟩ s = .ok s') :
    s.resolverIndex caller ≠ 0 ∧
      ∃ last, s.resolverList[s.resolverList.length - 1]? = some last ∧
        Changed caller {} (s.indexed.swapPop caller last)
          (if 0 < (s.resolvers caller).stake then
            [⟨.unregister, caller, (s.resolvers caller).stake⟩] else [])
          0 (s.resolvers caller).stake s s' := by
  rw [unregister, nonReentrantBefore_notEntered hs] at h
  simp only [solAssert, ok_chain, chain_eq_ok, failIf_eq_ok, exists_const, pure_eq_ok_iff,
    not_not] at h
  obtain ⟨hreg, s₁, hremove, -, s₂, hreturn, rfl⟩ := h
  obtain ⟨last, hlast, hremoved⟩ :=
    removeFromList_ok (s := { s with guard := P.guard.entered }) hix hreg
  obtain rfl := Except.ok.inj (hremoved.symm.trans hremove)
  have hmoved := returnStake_ok (by rfl) hreturn
  exact ⟨hreg, last, hlast, changed_of_moved hmoved rfl rfl rfl rfl rfl rfl⟩

lemma slash_outcome {r : Address} {amount : ℕ} {reason : SlashReason}
    (hs : s.guard = P.guard.notEntered)
    (h : slash now caller r amount reason ⟨execAll now inner, ok⟩ s = .ok s') :
    Outcome s s' := by
  rw [slash, nonReentrantBefore_notEntered hs] at h
  simp only [onlyOwner, ok_chain, chain_eq_ok, failIf_eq_ok, exists_const, pure_eq_ok_iff,
    checkedAdd_eq_ok, checkedSub_eq_ok, not_lt] at h
  obtain ⟨-, -, hreg, hle, stake, ⟨-, rfl⟩, total, ⟨-, rfl⟩, s₂, htransfer, rfl⟩ := h
  have hmoved := safeTransfer_ok (by rfl) htransfer
  split_ifs at hmoved with hmin
  · exact .slashed hreg hle (changed_of_moved hmoved rfl rfl rfl rfl rfl rfl)
  · exact .slashed hreg hle (changed_of_moved hmoved rfl rfl rfl rfl rfl rfl)

end Outcomes

/-- **Every call has one of the listed effects**, unless it reverts. -/
theorem exec_outcome (hs : s.guard = P.guard.notEntered) (hix : s.indexed.Consistent)
    (h : exec now a s = .ok s') : Outcome s s' := by
  by_cases ha : a.isGuarded = false
  · exact .undisturbed (exec_unguarded ha h)
  cases a with
  | register caller stake inner ok =>
    rw [exec] at h
    exact register_outcome hs h
  | increaseStake caller additional inner ok =>
    rw [exec] at h
    exact increaseStake_outcome hs h
  | unregister caller inner ok =>
    rw [exec] at h
    obtain ⟨hreg, last, hlast, hc⟩ := unregister_changed hs hix h
    exact .unregistered hreg hlast rfl hc
  | slash caller resolver amount reason inner ok =>
    rw [exec] at h
    exact slash_outcome hs h
  | _ => exact absurd rfl ha

end WaffleFinance.Evm.Registry

import WaffleFinance.Evm.Escrow
import WaffleFinance.Lib.Machine

/-!
# Calls to the escrow, re-entrant ones included

An `Action` is one thing that can happen to the escrow: a call of one of its functions by some
account, or tokens moving on their own.  A call that hands control to other code carries what
that code does: the list of actions it takes while it has control, calls back into any function
of the escrow among them, and whether it then returns or reverts.  So an action is a tree, and
quantifying over the trees quantifies over every behaviour of every callee.
-/

namespace WaffleFinance.Evm

open Lib

/-- What can happen to the escrow.  The functions that are not payable take no value: the call
reverts before it reaches the function. -/
inductive Action (P : Platform) where
  /-- Token contracts change the escrow's holdings without its doing: exact tokens only ever by
  `gift`, the others to anything. -/
  | tokens (gift anything : Address → ℕ)
  /-- A plain payment to the escrow. -/
  | receive (msg : Msg P)
  | setResolverRegistry (caller : Caller P) (newRegistry : Address)
  | transferOwnership (caller : Caller P) (newOwner : Address)
  | acceptOwnership (caller : Caller P)
  | renounceOwnership (caller : Caller P)
  /-- The token contract of the order takes the actions `inner` and returns when `ok`. -/
  | createOrder (msg : Msg P) (args : CreateArgs) (replies : CreateReplies)
      (inner : List (Action P)) (ok : Bool)
  /-- The two recipients take the actions `inner₁` and `inner₂`, and return when `ok₁`, `ok₂`. -/
  | claimOrder (caller : Caller P) (orderId : ℕ) (preimage : Bytes)
      (inner₁ : List (Action P)) (ok₁ : Bool) (inner₂ : List (Action P)) (ok₂ : Bool)
  | refundOrder (caller : Caller P) (orderId : ℕ)
      (inner₁ : List (Action P)) (ok₁ : Bool) (inner₂ : List (Action P)) (ok₂ : Bool)
  | withdraw (caller : Caller P) (inner : List (Action P)) (ok : Bool)

variable {P : Platform}

/-- Tokens that move on their own. -/
def driftTokens (gift anything : Address → ℕ) (s : State P) : State P :=
  { s with
    held := fun t => if P.exact t then s.held t + gift t else anything t
    given := fun t => s.given t + gift t }

mutual

/-- Execute an action at the timestamp `now`. -/
def exec (now : ℕ) : Action P → State P → Except Error (State P)
  | .tokens gift anything, s => .ok (driftTokens gift anything s)
  | .receive msg, s => receive msg.value s
  | .setResolverRegistry caller newRegistry, s => setResolverRegistry caller newRegistry s
  | .transferOwnership caller newOwner, s =>
      ownershipCall (P.ownable.transferOwnership caller newOwner) s
  | .acceptOwnership caller, s => ownershipCall (P.ownable.acceptOwnership caller) s
  | .renounceOwnership caller, s => ownershipCall (P.ownable.renounceOwnership caller) s
  | .createOrder msg args replies inner ok, s =>
      (createOrder now msg args replies ⟨execAll now inner, ok⟩ s).map Prod.snd
  | .claimOrder caller orderId preimage inner₁ ok₁ inner₂ ok₂, s =>
      claimOrder now caller orderId preimage ⟨execAll now inner₁, ok₁⟩ ⟨execAll now inner₂, ok₂⟩ s
  | .refundOrder caller orderId inner₁ ok₁ inner₂ ok₂, s =>
      refundOrder now caller orderId ⟨execAll now inner₁, ok₁⟩ ⟨execAll now inner₂, ok₂⟩ s
  | .withdraw caller inner ok, s =>
      (withdraw caller ⟨execAll now inner, ok⟩ s).map Prod.snd

/-- Execute actions one after the other; one that reverts is rolled back. -/
def execAll (now : ℕ) : List (Action P) → State P → State P
  | [], s => s
  | a :: as, s =>
      execAll now as (match exec now a s with
        | .ok s' => s'
        | .error _ => s)

end

variable (P) in
/-- The escrow as a machine; a call comes with the timestamp of its block. -/
def escrow : Machine (State P) (ℕ × Action P) Error where
  exec := fun c s => exec c.1 c.2 s

/-- A history of calls from outside.  Block timestamps do not decrease.  The id counter is
incremented `unchecked`, which relies on a chain never getting to `2 ^ 256` calls. -/
structure History (P : Platform) where
  calls : List (ℕ × Action P)
  timed : Machine.Timed Prod.fst calls
  short : calls.length < 2 ^ 256

/-- The state of a deployed escrow after the first `n` calls of a history. -/
def History.stateAt (h : History P) (d : Deployment) (n : ℕ) : State P :=
  (escrow P).stateAt (deploy d) h.calls n

/-- A state that the escrow can be in between two calls. -/
def Reachable (s : State P) : Prop := ∃ (d : Deployment) (h : History P) (n : ℕ), s = h.stateAt d n

/-! ### A history to evaluate -/

namespace Sample

/-- The secret of the sample orders. -/
def secret : Bytes := List.replicate 32 7

def deployment : Deployment := ⟨1, 0, 0, fun _ => 0⟩

/-- The terms of an order in the token `token` (`0` for ETH), whose lock lasts 300 seconds. -/
def args (token : Address) : CreateArgs where
  beneficiary := 2
  refundAddress := 1
  token := token
  amount := 10
  safetyDeposit := 3
  hashlock := Platform.sample.sha256 secret
  timelockSeconds := 300

def replies : CreateReplies := ⟨some true, 1, some 10, some 10⟩

/-- An order in ETH and one in the exact token `7`, both created at time `1000`.  The first is
claimed, the second refunded, both by the second account. -/
def history : History .sample where
  calls :=
    [(1000, .createOrder ⟨alice, 13⟩ (args 0) replies [] true),
     (1000, .createOrder ⟨alice, 3⟩ (args 7) replies [] true),
     (1200, .claimOrder bob 1 secret [] true [] true),
     (1400, .refundOrder bob 2 [] true [] true)]
  timed := by simp [Machine.Timed]
  short := by simp

end Sample

/-! ### While a guarded function is running -/

/-- An event of the registry pointer, which is not about any order. -/
def Event.isRegistry : Event → Bool
  | .resolverRegistryUpdated _ _ => true
  | _ => false

/-- The events that are about orders and credits. -/
def State.log (s : State P) : List Event := s.events.filter fun e => !e.isRegistry

/-- Of every exact token the escrow has `out` less, apart from what it has been given. -/
structure Spent (out : Address → ℕ) (s s' : State P) : Prop where
  given : ∀ t, s.given t ≤ s'.given t
  held : ∀ t, P.exact t → s'.held t + out t + s.given t = s.held t + s'.given t

namespace Spent

variable {out out' : Address → ℕ} {s₁ s₂ s₃ : State P}

lemma of_eq (hheld : s₂.held = s₁.held) (hgiven : s₂.given = s₁.given) :
    Spent (fun _ => 0) s₁ s₂ :=
  ⟨fun t => by rw [hgiven], fun t _ => by rw [hheld, hgiven, add_zero]⟩

lemma trans (h : Spent out s₁ s₂) (h' : Spent out' s₂ s₃) :
    Spent (fun t => out t + out' t) s₁ s₃ := by
  refine ⟨fun t => (h.given t).trans (h'.given t), fun t ht => ?_⟩
  have h₁ := h.held t ht
  have h₂ := h'.held t ht
  show s₃.held t + (out t + out' t) + s₁.given t = _
  omega

lemma le (h : Spent out s₁ s₂) {t : Address} (ht : P.exact t) :
    s₁.held t ≤ s₂.held t + out t := by
  have hgiven := h.given t
  have hheld := h.held t ht
  omega

end Spent

/-- What code that has control in the middle of a guarded function leaves alone: everything
that is about money, except that the escrow may be given exact tokens. -/
structure Undisturbed (s s' : State P) : Prop where
  orders : s'.orders = s.orders
  pending : s'.pendingWithdrawals = s.pendingWithdrawals
  balance : s'.balance = s.balance
  nextOrderId : s'.nextOrderId = s.nextOrderId
  minSafetyDeposit : s'.minSafetyDeposit = s.minSafetyDeposit
  guard : s'.guard = s.guard
  payouts : s'.payouts = s.payouts
  log : s'.log = s.log
  spent : Spent (fun _ => 0) s s'

namespace Undisturbed

lemma refl (s : State P) : Undisturbed s s :=
  ⟨rfl, rfl, rfl, rfl, rfl, rfl, rfl, rfl, .of_eq rfl rfl⟩

lemma trans {s₁ s₂ s₃ : State P} (h : Undisturbed s₁ s₂) (h' : Undisturbed s₂ s₃) :
    Undisturbed s₁ s₃ :=
  ⟨h'.orders.trans h.orders, h'.pending.trans h.pending, h'.balance.trans h.balance,
    h'.nextOrderId.trans h.nextOrderId, h'.minSafetyDeposit.trans h.minSafetyDeposit,
    h'.guard.trans h.guard, h'.payouts.trans h.payouts, h'.log.trans h.log,
    h.spent.trans h'.spent⟩

lemma held {s s' : State P} (h : Undisturbed s s') (t : Address) (ht : P.exact t) :
    s.held t ≤ s'.held t := h.spent.le ht

end Undisturbed

lemma driftTokens_undisturbed (gift anything : Address → ℕ) (s : State P) :
    Undisturbed s (driftTokens gift anything s) := by
  refine ⟨rfl, rfl, rfl, rfl, rfl, rfl, rfl, rfl, fun t => Nat.le_add_right _ _, fun t ht => ?_⟩
  simp only [driftTokens, ht, if_true]
  omega

variable {s s' : State P}

lemma setResolverRegistry_undisturbed {caller : Caller P} {newRegistry : Address}
    (h : setResolverRegistry caller newRegistry s = .ok s') : Undisturbed s s' := by
  simp only [setResolverRegistry, chain_eq_ok, failIf_eq_ok, exists_const, pure_eq_ok_iff] at h
  obtain ⟨-, -, rfl⟩ := h
  refine ⟨rfl, rfl, rfl, rfl, rfl, rfl, rfl, ?_, .of_eq rfl rfl⟩
  simp [State.log, State.emit, Event.isRegistry]

lemma ownershipCall_undisturbed {f : P.ownable.Slots → Option P.ownable.Slots}
    (h : ownershipCall f s = .ok s') : Undisturbed s s' := by
  unfold ownershipCall at h
  split at h
  · cases h
    exact ⟨rfl, rfl, rfl, rfl, rfl, rfl, rfl, rfl, .of_eq rfl rfl⟩
  · cases h

lemma nonReentrantBefore_entered (hs : s.guard = P.guard.entered) :
    nonReentrantBefore s = .error .reentrantCall := by
  simp [nonReentrantBefore, hs, P.guard.before_entered]

lemma nonReentrantBefore_notEntered (hs : s.guard = P.guard.notEntered) :
    nonReentrantBefore s = .ok { s with guard := P.guard.entered } := by
  simp [nonReentrantBefore, hs, P.guard.before_notEntered]

/-- An action taken while a guarded function is running disturbs nothing. -/
lemma exec_undisturbed {now : ℕ} {a : Action P} (hs : s.guard = P.guard.entered)
    (h : exec now a s = .ok s') : Undisturbed s s' := by
  cases a with
  | tokens gift anything =>
    rw [exec] at h
    cases h
    exact driftTokens_undisturbed gift anything s
  | receive msg =>
    rw [exec] at h
    cases h
  | setResolverRegistry caller newRegistry =>
    rw [exec] at h
    exact setResolverRegistry_undisturbed h
  | createOrder msg args replies inner ok =>
    -- the value arrives before the guard is asked
    exfalso
    rw [exec, createOrder] at h
    cases hv : acceptValue msg.value s with
    | error e =>
      rw [hv] at h
      cases h
    | ok s₁ =>
      have hg : s₁.guard = P.guard.entered := by
        simp only [acceptValue, chain_eq_ok, pure_eq_ok_iff] at hv
        obtain ⟨-, -, rfl⟩ := hv
        exact hs
      rw [hv, ok_chain, nonReentrantBefore_entered hg] at h
      cases h
  | claimOrder caller orderId preimage inner₁ ok₁ inner₂ ok₂ =>
    rw [exec, claimOrder, nonReentrantBefore_entered hs] at h
    cases h
  | refundOrder caller orderId inner₁ ok₁ inner₂ ok₂ =>
    rw [exec, refundOrder, nonReentrantBefore_entered hs] at h
    cases h
  | withdraw caller inner ok =>
    rw [exec, withdraw, nonReentrantBefore_entered hs] at h
    cases h
  | _ =>
    rw [exec] at h
    exact ownershipCall_undisturbed h

/-- **Re-entrancy does no harm.**  Whatever a callee does while a guarded function is running,
it leaves the money alone. -/
lemma execAll_undisturbed (now : ℕ) (as : List (Action P)) (hs : s.guard = P.guard.entered) :
    Undisturbed s (execAll now as s) := by
  induction as generalizing s with
  | nil =>
    rw [execAll]
    exact Undisturbed.refl s
  | cons a as ih =>
    rw [execAll]
    cases ha : exec now a s with
    | error e => exact ih hs
    | ok s' =>
      have h := exec_undisturbed hs ha
      exact h.trans (ih (h.guard.trans hs))

end WaffleFinance.Evm

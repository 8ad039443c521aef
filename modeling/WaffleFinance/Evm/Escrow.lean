import WaffleFinance.Evm.Platform

/-!
# The contract `HTLCEscrow`

The functions of `HTLCEscrow.sol`, one definition each, as functions on the state of the
contract.  A function that reverts returns the error; the caller of the function rolls the
state back.

Wherever the contract hands control to other code -- a native payment, a token transfer --
the function takes a `Callee`: what that code does to the state by calling back into the
escrow, and whether it returns or reverts.  Calls that cannot write (`isActive`, `allowance`,
`balanceOf`) are answered by values.
-/

namespace WaffleFinance.Evm

open Lib

/-! ### Data -/

inductive OrderStatus where
  | funded
  | claimed
  | refunded
deriving DecidableEq, Repr

/-- A single hash + time-locked order.  The default values are those of untouched storage. -/
structure Order where
  sender : Address := 0
  beneficiary : Address := 0
  refundAddress : Address := 0
  /-- `0` for native ETH. -/
  token : Address := 0
  amount : ℕ := 0
  safetyDeposit : ℕ := 0
  hashlock : Bytes32 := 0
  timelock : ℕ := 0
  createdAt : ℕ := 0
  finalisedAt : ℕ := 0
  status : OrderStatus := .funded
  preimageKeccak : Bytes32 := 0
deriving DecidableEq

/-- The reasons for a revert: the errors of the contract, and those of the code it calls. -/
inductive Error where
  | invalidAmount
  | invalidTimelock
  | invalidHashlock
  | invalidPreimage
  | invalidValue
  | invalidAddress
  | orderNotFound
  | orderNotClaimable
  | orderNotRefundable
  | notExpired
  | expired
  | safetyDepositTooSmall
  | resolverNotAuthorised
  | nativeTransferFailed
  | noPendingWithdrawal
  | invalidToken
  | insufficientAllowance (allowance required : ℕ)
  | insufficientBalance (balance required : ℕ)
  /-- Checked arithmetic overflowed. -/
  | panicOverflow
  /-- The guard refused a re-entrant call. -/
  | reentrantCall
  /-- The caller is not the owner, or the ownership code reverted. -/
  | unauthorizedAccount
  /-- A call to a token or to the registry reverted. -/
  | callFailed
  /-- Nobody holds the value of the call: balances are words of 256 bits. -/
  | valueUnavailable
deriving DecidableEq, Repr

inductive Event where
  | orderCreated (orderId : ℕ) (sender beneficiary token : Address) (amount safetyDeposit : ℕ)
      (hashlock : Bytes32) (timelock : ℕ)
  | orderClaimed (orderId : ℕ) (claimer : Address) (preimage : Bytes32)
      (amount safetyDeposit : ℕ)
  | orderRefunded (orderId : ℕ) (caller : Address) (amount safetyDeposit : ℕ)
  | payoutDeferred (orderId : ℕ) (recipient : Address) (amount : ℕ)
  | withdrawn (recipient : Address) (amount : ℕ)
  | resolverRegistryUpdated (previousRegistry newRegistry : Address)
deriving DecidableEq

/-- How a payout reached its recipient. -/
inductive Channel where
  /-- ETH that was pushed. -/
  | pushed
  /-- ETH that was credited to the recipient's pull-payment balance. -/
  | deferred
  /-- Tokens that were transferred. -/
  | transferred
deriving DecidableEq, Repr

/-- One payout made on account of an order, `token = 0` standing for ETH. -/
structure Payout where
  orderId : ℕ
  token : Address
  recipient : Address
  amount : ℕ
  channel : Channel
deriving DecidableEq

variable (P : Platform)

/-- The state of the escrow.  `balance` and `held` are its holdings of ETH and of each token;
`given`, `events` and `payouts` record what the chain has seen of it: `given` is what others have
given to it of each token. -/
structure State where
  resolverRegistry : Address
  minSafetyDeposit : ℕ
  nextOrderId : ℕ
  orders : ℕ → Order
  pendingWithdrawals : Address → ℕ
  guard : P.guard.Status
  ownership : P.ownable.Slots
  balance : ℕ
  held : Address → ℕ
  given : Address → ℕ
  events : List Event
  payouts : List Payout

/-- Code that the escrow hands control to: the calls it makes back into the escrow, and
whether it returns (`ok`) or reverts. -/
structure Callee where
  reenter : State P → State P
  ok : Bool

variable {P}

namespace State

def setOrder (s : State P) (orderId : ℕ) (o : Order) : State P :=
  { s with orders := Function.update s.orders orderId o }

def setPending (s : State P) (a : Address) (n : ℕ) : State P :=
  { s with pendingWithdrawals := Function.update s.pendingWithdrawals a n }

def setHeld (s : State P) (token : Address) (n : ℕ) : State P :=
  { s with held := Function.update s.held token n }

def emit (s : State P) (e : Event) : State P := { s with events := s.events ++ [e] }

def record (s : State P) (p : Payout) : State P := { s with payouts := s.payouts ++ [p] }

end State

/-- Five minutes. -/
def minTimelock : ℕ := 300

/-- 24 hours. -/
def maxTimelock : ℕ := 24 * 60 * 60

/-- The arguments of the constructor, the account that calls it, and the tokens that the address
of the escrow had before. -/
structure Deployment where
  deployer : Address
  resolverRegistry : Address
  minSafetyDeposit : ℕ
  held : Address → ℕ

/-- The state after the constructor. -/
def deploy (d : Deployment) : State P where
  resolverRegistry := d.resolverRegistry
  minSafetyDeposit := d.minSafetyDeposit
  nextOrderId := 1
  orders := fun _ => {}
  pendingWithdrawals := fun _ => 0
  guard := P.guard.notEntered
  ownership := P.ownable.deployedBy d.deployer
  balance := 0
  held := d.held
  given := fun _ => 0
  events := []
  payouts := []

/-! ### Modifiers and the calls of the EVM -/

def nonReentrantBefore (s : State P) : Except Error (State P) :=
  match P.guard.nonReentrantBefore s.guard with
  | some g => .ok { s with guard := g }
  | none => .error .reentrantCall

def nonReentrantAfter (s : State P) : State P :=
  { s with guard := P.guard.nonReentrantAfter s.guard }

/-- The value that comes with a call to a payable function. -/
def acceptValue (value : ℕ) (s : State P) : Except Error (State P) := do
  let balance ← checkedAdd 256 .valueUnavailable s.balance value
  pure { s with balance := balance }

/-- Stray ETH is rejected. -/
def receive (_value : ℕ) (_s : State P) : Except Error (State P) := .error .invalidValue

/-- The low-level call `recipient.call{value: amount}("")`: whether it succeeds, and the state after
it.  A payment to the escrow itself ends in `receive`; a callee that reverts takes all it did
back with it. -/
def callValue (recipient : Address) (amount : ℕ) (callee : Callee P) (s : State P) :
    Bool × State P :=
  if s.balance < amount then (false, s)
  else if recipient = P.self then
    match receive amount s with
    | .ok s' => (true, s')
    | .error _ => (false, s)
  else if callee.ok then (true, callee.reenter { s with balance := s.balance - amount })
  else (false, s)

/-- `IERC20(token).safeTransfer(recipient, amount)`.  After the token's own code has run, an exact
token has moved the amount; it reverts where the escrow does not hold that much. -/
def safeTransfer (token recipient : Address) (amount : ℕ) (callee : Callee P) (s : State P) :
    Except Error (State P) := do
  failIf (callee.ok = false) .callFailed
  let s := callee.reenter s
  if P.exact token ∧ recipient ≠ P.self then do
    failIf (s.held token < amount) .callFailed
    pure (s.setHeld token (s.held token - amount))
  else pure s

/-- `IERC20(token).safeTransferFrom(caller, address(this), amount)`. -/
def safeTransferFrom (token : Address) (amount : ℕ) (callee : Callee P) (s : State P) :
    Except Error (State P) := do
  failIf (callee.ok = false) .callFailed
  let s := callee.reenter s
  if P.exact token then pure (s.setHeld token (s.held token + amount)) else pure s

/-! ### Payouts -/

/-- Push ETH to the recipient; a push that fails is credited to the recipient's pull-payment
balance instead of reverting. -/
def payoutNative (recipient : Address) (amount orderId : ℕ) (callee : Callee P) (s : State P) :
    Except Error (State P) :=
  let call := callValue recipient amount callee s
  if call.1 then pure (call.2.record ⟨orderId, 0, recipient, amount, .pushed⟩)
  else do
    let s := call.2
    let credit ← checkedAdd 256 .panicOverflow (s.pendingWithdrawals recipient) amount
    pure (((s.setPending recipient credit).emit (.payoutDeferred orderId recipient amount)).record
      ⟨orderId, 0, recipient, amount, .deferred⟩)

/-- Route a payout to its recipient. -/
def payout (token recipient : Address) (amount orderId : ℕ) (callee : Callee P) (s : State P) :
    Except Error (State P) :=
  if token = 0 then payoutNative recipient amount orderId callee s
  else do
    let s ← safeTransfer token recipient amount callee s
    pure (s.record ⟨orderId, token, recipient, amount, .transferred⟩)

/-- The two payouts that end `claimOrder` and `refundOrder`: the locked amount to its
recipient, and the safety deposit, when there is one, to the caller. -/
def payoutBoth (o : Order) (recipient caller : Address) (orderId : ℕ) (first second : Callee P)
    (s : State P) : Except Error (State P) := do
  let s ← payout o.token recipient o.amount orderId first s
  if 0 < o.safetyDeposit then payout 0 caller o.safetyDeposit orderId second s else pure s

/-! ### The external functions -/

/-- The caller and the value of a call. -/
structure Msg (P : Platform) where
  sender : Caller P
  value : ℕ

structure CreateArgs where
  beneficiary : Address
  refundAddress : Address
  token : Address
  amount : ℕ
  safetyDeposit : ℕ
  hashlock : Bytes32
  timelockSeconds : ℕ

/-- The answers `createOrder` gets from the code it reads from; `none` is a call that reverts. -/
structure CreateReplies where
  isActive : Option Bool
  codeLength : ℕ
  allowance : Option ℕ
  balanceOf : Option ℕ

/-- The value of a call that may revert. -/
def reply {α : Type} : Option α → Except Error α
  | some a => .ok a
  | none => .error .callFailed

def requireActiveResolver (resolverRegistry : Address) (isActive : Option Bool) :
    Except Error Unit :=
  if resolverRegistry = 0 then .ok ()
  else do
    let active ← reply isActive
    failIf (active = false) .resolverNotAuthorised

/-- The part of `createOrder` that takes the funds.  The escrow has no function `allowance`,
so the call to it as a token reverts. -/
def pullFunds (value : ℕ) (a : CreateArgs) (r : CreateReplies) (pull : Callee P) (s : State P) :
    Except Error (State P) :=
  if a.token = 0 then do
    let total ← checkedAdd 256 .panicOverflow a.amount a.safetyDeposit
    failIf (value ≠ total) .invalidValue
    pure s
  else do
    failIf (value ≠ a.safetyDeposit) .invalidValue
    failIf (r.codeLength = 0) .invalidToken
    let allowed ← reply (if a.token = P.self then none else r.allowance)
    failIf (allowed < a.amount) (.insufficientAllowance allowed a.amount)
    let balance ← reply r.balanceOf
    failIf (balance < a.amount) (.insufficientBalance balance a.amount)
    safeTransferFrom a.token a.amount pull s

/-- Validation of the arguments of `createOrder`. -/
def createChecks (minSafetyDeposit : ℕ) (a : CreateArgs) : Except Error Unit := do
  failIf (a.amount = 0) .invalidAmount
  failIf (a.beneficiary = 0 ∨ a.refundAddress = 0) .invalidAmount
  failIf (a.hashlock = 0) .invalidHashlock
  failIf (a.timelockSeconds < minTimelock ∨ maxTimelock < a.timelockSeconds) .invalidTimelock
  failIf (a.safetyDeposit < minSafetyDeposit) .safetyDepositTooSmall

/-- Create and fund an order; returns its id.  The id counter is incremented `unchecked`. -/
def createOrder (now : ℕ) (msg : Msg P) (a : CreateArgs) (r : CreateReplies) (pull : Callee P)
    (s : State P) : Except Error (ℕ × State P) := do
  let s ← acceptValue msg.value s
  let s ← nonReentrantBefore s
  createChecks s.minSafetyDeposit a
  requireActiveResolver s.resolverRegistry r.isActive
  let s ← pullFunds msg.value a r pull s
  let orderId := s.nextOrderId
  let s := { s with nextOrderId := (s.nextOrderId + 1) % 2 ^ 256 }
  let absoluteTimelock ← checkedAdd 64 .panicOverflow (now % 2 ^ 64) a.timelockSeconds
  let s := s.setOrder orderId
    { sender := msg.sender
      beneficiary := a.beneficiary
      refundAddress := a.refundAddress
      token := a.token
      amount := a.amount
      safetyDeposit := a.safetyDeposit
      hashlock := a.hashlock
      timelock := absoluteTimelock
      createdAt := now % 2 ^ 64
      finalisedAt := 0
      status := .funded
      preimageKeccak := 0 }
  let s := s.emit (.orderCreated orderId msg.sender a.beneficiary a.token a.amount
    a.safetyDeposit a.hashlock absoluteTimelock)
  pure (orderId, nonReentrantAfter s)

variable (P) in
/-- The preimage must have 32 bytes and either of its digests must be the hashlock. -/
def preimageCheck (hashlock : Bytes32) (preimage : Bytes) : Except Error Unit := do
  failIf (preimage.length ≠ 32) .invalidPreimage
  failIf (P.sha256 preimage ≠ hashlock ∧ P.keccak256 preimage ≠ hashlock) .invalidPreimage

variable (P) in
/-- The checks of `claimOrder` on the order it finds in storage. -/
def claimChecks (now : ℕ) (o : Order) (preimage : Bytes) : Except Error Unit :=
  if o.status = .funded then do
    failIf (o.timelock ≤ now) .expired
    preimageCheck P o.hashlock preimage
  else if o.amount = 0 then .error .orderNotFound
  else .error .orderNotClaimable

/-- The checks of `refundOrder` on the order it finds in storage. -/
def refundChecks (now : ℕ) (o : Order) : Except Error Unit :=
  if o.status = .funded then failIf (now ≤ o.timelock) .notExpired
  else if o.amount = 0 then .error .orderNotFound
  else .error .orderNotRefundable

/-- The first word of a byte string.  `claimOrder` only gets here with 32 bytes. -/
def bytesToBytes32 (data : Bytes) : Bytes32 :=
  if data.length = 0 then 0
  else BitVec.ofNat 256 (((data ++ List.replicate 32 0).take 32).foldl
    (fun word (byte : UInt8) => word * 256 + byte.toNat) 0)

/-- Settle an order with the preimage of its hashlock. -/
def claimOrder (now : ℕ) (caller : Caller P) (orderId : ℕ) (preimage : Bytes)
    (first second : Callee P) (s : State P) : Except Error (State P) := do
  let s ← nonReentrantBefore s
  let o := s.orders orderId
  claimChecks P now o preimage
  let s := s.setOrder orderId
    { o with
      status := .claimed
      finalisedAt := now % 2 ^ 64
      preimageKeccak := P.keccak256 preimage }
  let s ← payoutBoth o o.beneficiary caller orderId first second s
  pure (nonReentrantAfter
    (s.emit (.orderClaimed orderId caller (bytesToBytes32 preimage) o.amount o.safetyDeposit)))

/-- Return an expired order to its refund address. -/
def refundOrder (now : ℕ) (caller : Caller P) (orderId : ℕ) (first second : Callee P)
    (s : State P) : Except Error (State P) := do
  let s ← nonReentrantBefore s
  let o := s.orders orderId
  refundChecks now o
  let s := s.setOrder orderId { o with status := .refunded, finalisedAt := now % 2 ^ 64 }
  let s ← payoutBoth o o.refundAddress caller orderId first second s
  pure (nonReentrantAfter (s.emit (.orderRefunded orderId caller o.amount o.safetyDeposit)))

/-- Pull the credit of the caller.  Where the transfer fails the source restores the credit
and reverts, which restores everything else as well. -/
def withdraw (caller : Caller P) (callee : Callee P) (s : State P) :
    Except Error (ℕ × State P) := do
  let s ← nonReentrantBefore s
  let amount := s.pendingWithdrawals caller
  failIf (amount = 0) .noPendingWithdrawal
  let call := callValue caller amount callee (s.setPending caller 0)
  failIf (call.1 = false) .nativeTransferFailed
  pure (amount, nonReentrantAfter (call.2.emit (.withdrawn caller amount)))

def setResolverRegistry (caller : Caller P) (newRegistry : Address) (s : State P) :
    Except Error (State P) := do
  failIf (P.ownable.owner s.ownership ≠ caller) .unauthorizedAccount
  failIf (newRegistry = 0) .invalidAddress
  let s' := { s with resolverRegistry := newRegistry }
  pure (s'.emit (.resolverRegistryUpdated s.resolverRegistry newRegistry))

/-- A function of the ownership code, which keeps its own storage. -/
def ownershipCall (f : P.ownable.Slots → Option P.ownable.Slots) (s : State P) :
    Except Error (State P) :=
  match f s.ownership with
  | some slots => .ok { s with ownership := slots }
  | none => .error .unauthorizedAccount

/-! ### When the checks pass -/

lemma preimageCheck_eq_ok {hashlock : Bytes32} {preimage : Bytes} {u : Unit} :
    preimageCheck P hashlock preimage = .ok u ↔
      preimage.length = 32 ∧ (P.sha256 preimage = hashlock ∨ P.keccak256 preimage = hashlock) := by
  simp only [preimageCheck, chain_eq_ok, failIf_eq_ok, exists_const]
  tauto

lemma claimChecks_eq_ok {now : ℕ} {o : Order} {preimage : Bytes} {u : Unit} :
    claimChecks P now o preimage = .ok u ↔ o.status = .funded ∧ now < o.timelock ∧
      preimage.length = 32 ∧
      (P.sha256 preimage = o.hashlock ∨ P.keccak256 preimage = o.hashlock) := by
  rw [claimChecks]
  by_cases hf : o.status = .funded
  · simp only [hf, if_true, chain_eq_ok, failIf_eq_ok, exists_const, preimageCheck_eq_ok,
      not_le, true_and]
  · rw [if_neg hf]
    split_ifs <;> simp [hf]

lemma refundChecks_eq_ok {now : ℕ} {o : Order} {u : Unit} :
    refundChecks now o = .ok u ↔ o.status = .funded ∧ o.timelock < now := by
  rw [refundChecks]
  by_cases hf : o.status = .funded
  · simp [hf]
  · rw [if_neg hf]
    split_ifs <;> simp [hf]

/-! ### Views -/

def getOrder (orderId : ℕ) (s : State P) : Except Error Order := do
  let o := s.orders orderId
  failIf (o.amount = 0) .orderNotFound
  pure o

end WaffleFinance.Evm

import WaffleFinance.Evm.Platform

/-!
# The contract `ResolverRegistry`

The functions of `ResolverRegistry.sol`, one definition each, in the manner of
`WaffleFinance/Evm/Escrow.lean`.

The contract keeps its resolvers in an array, with a mapping from each resolver to its place
counted from one.  It states as assertions that the two agree; an assertion that fails, an index
out of bounds and an underflow are errors of their own here.
-/

namespace WaffleFinance.Evm.Registry

open Lib

/-! ### Data -/

/-- What is stored about a resolver.  The default values are those of untouched storage. -/
structure ResolverInfo where
  resolver : Address := 0
  stake : ℕ := 0
  registeredAt : ℕ := 0
  lastSlashAt : ℕ := 0
  totalSlashed : ℕ := 0
  active : Bool := false
deriving DecidableEq

inductive SlashReason where
  | unspecified
  | nonFulfillment
  | invalidSettlement
  | doubleSpend
  | protocolAbuse
deriving DecidableEq, Repr

inductive Event where
  | registered (resolver : Address) (stake : ℕ)
  | stakeIncreased (resolver : Address) (added newTotal : ℕ)
  | unregistered (resolver : Address) (stakeReturned : ℕ)
  | slashed (resolver : Address) (amount : ℕ) (beneficiary : Address) (reason : SlashReason)
  | minStakeUpdated (oldMinStake newMinStake : ℕ)
  | slashBeneficiaryUpdated (oldBeneficiary newBeneficiary : Address)
deriving DecidableEq

/-- The reasons for a revert: the errors of the contract, the panics of the language, and the
errors of the code it calls. -/
inductive Error where
  | invalidAmount
  | invalidAddress
  | alreadyRegistered
  | notRegistered
  | stakeBelowMinimum
  /-- An `assert` failed. -/
  | panicAssert
  /-- An index is out of bounds. -/
  | panicIndex
  /-- `pop` on an empty array. -/
  | panicPop
  | panicUnderflow
  | panicOverflow
  /-- The guard refused a re-entrant call. -/
  | reentrantCall
  /-- The caller is not the owner, or the ownership code reverted. -/
  | unauthorizedAccount
  /-- The call to the token reverted. -/
  | callFailed
deriving DecidableEq, Repr

/-- What a transfer of the stake token is made for. -/
inductive Purpose where
  | register
  | increase
  | unregister
  | slash
deriving DecidableEq, Repr

/-- A transfer of the stake token between the registry and an account. -/
structure TokenMove where
  purpose : Purpose
  account : Address
  amount : ℕ
deriving DecidableEq

variable (P : Platform)

/-- The state of the registry.  `held` is its balance of the stake token; `events` and `moves`
record the events it has emitted and the transfers it has made. -/
structure State where
  stakeAsset : Address
  minStake : ℕ
  slashBeneficiary : Address
  resolvers : Address → ResolverInfo
  resolverList : List Address
  /-- Counted from one; zero for who is not registered. -/
  resolverIndex : Address → ℕ
  guard : P.guard.Status
  ownership : P.ownable.Slots
  held : ℕ
  events : List Event
  moves : List TokenMove

/-- The token's code: the calls it makes back into the registry, and whether it returns (`ok`) or
reverts. -/
structure Callee where
  reenter : State P → State P
  ok : Bool

variable {P}

namespace State

def setResolver (s : State P) (a : Address) (info : ResolverInfo) : State P :=
  { s with resolvers := Function.update s.resolvers a info }

def setIndex (s : State P) (a : Address) (n : ℕ) : State P :=
  { s with resolverIndex := Function.update s.resolverIndex a n }

def emit (s : State P) (e : Event) : State P := { s with events := s.events ++ [e] }

def record (s : State P) (m : TokenMove) : State P := { s with moves := s.moves ++ [m] }

end State

/-! ### Deployment -/

/-- The arguments of the constructor, and what the address of the registry had before. -/
structure Deployment where
  stakeAsset : Address
  minStake : ℕ
  slashBeneficiary : Address
  owner : Address
  held : ℕ

/-- The constructor. -/
def deploy (d : Deployment) : Except Error (State P) := do
  failIf (d.stakeAsset = 0 ∨ d.slashBeneficiary = 0 ∨ d.owner = 0) .invalidAddress
  failIf (d.minStake = 0) .invalidAmount
  pure
    { stakeAsset := d.stakeAsset
      minStake := d.minStake
      slashBeneficiary := d.slashBeneficiary
      resolvers := fun _ => {}
      resolverList := []
      resolverIndex := fun _ => 0
      guard := P.guard.notEntered
      ownership := P.ownable.deployedBy d.owner
      held := d.held
      events := []
      moves := [] }

/-! ### Modifiers and the constructs of the language -/

def nonReentrantBefore (s : State P) : Except Error (State P) :=
  match P.guard.nonReentrantBefore s.guard with
  | some g => .ok { s with guard := g }
  | none => .error .reentrantCall

def nonReentrantAfter (s : State P) : State P :=
  { s with guard := P.guard.nonReentrantAfter s.guard }

def onlyOwner (caller : Caller P) (s : State P) : Except Error Unit :=
  failIf (P.ownable.owner s.ownership ≠ caller) .unauthorizedAccount

/-- `assert(p)`. -/
def solAssert (p : Prop) [Decidable p] : Except Error Unit := failIf (¬ p) .panicAssert

/-- Read an element of an array. -/
def readAt (l : List Address) (i : ℕ) : Except Error Address :=
  match l[i]? with
  | some a => .ok a
  | none => .error .panicIndex

/-- Write an element of an array. -/
def writeAt (l : List Address) (i : ℕ) (a : Address) : Except Error (List Address) := do
  failIf (l.length ≤ i) .panicIndex
  pure (l.set i a)

/-- Remove the last element of an array. -/
def popBack (l : List Address) : Except Error (List Address) := do
  failIf (l = []) .panicPop
  pure l.dropLast

/-- `stakeAsset.safeTransfer(recipient, amount)`.  After the token's own code has run, an exact
token has moved the amount; it reverts where the registry does not hold that much. -/
def safeTransfer (purpose : Purpose) (recipient : Address) (amount : ℕ) (callee : Callee P)
    (s : State P) : Except Error (State P) := do
  failIf (callee.ok = false) .callFailed
  let s := (callee.reenter s).record ⟨purpose, recipient, amount⟩
  if P.exact s.stakeAsset ∧ recipient ≠ P.self then do
    failIf (s.held < amount) .callFailed
    pure { s with held := s.held - amount }
  else pure s

/-- `stakeAsset.safeTransferFrom(sender, address(this), amount)`. -/
def safeTransferFrom (purpose : Purpose) (sender : Caller P) (amount : ℕ) (callee : Callee P)
    (s : State P) : Except Error (State P) := do
  failIf (callee.ok = false) .callFailed
  let s := (callee.reenter s).record ⟨purpose, sender, amount⟩
  if P.exact s.stakeAsset then pure { s with held := s.held + amount } else pure s

/-! ### Resolvers -/

/-- Register with a stake. -/
def register (now : ℕ) (caller : Caller P) (stake : ℕ) (pull : Callee P) (s : State P) :
    Except Error (State P) := do
  let s ← nonReentrantBefore s
  failIf (caller.1 = 0) .invalidAddress
  failIf (stake < s.minStake) .stakeBelowMinimum
  failIf (s.resolverIndex caller ≠ 0) .alreadyRegistered
  let s := s.setResolver caller
    { resolver := caller
      stake := stake
      registeredAt := now % 2 ^ 64
      lastSlashAt := 0
      totalSlashed := 0
      active := true }
  let s := { s with resolverList := s.resolverList ++ [caller.1] }
  let s := s.setIndex caller s.resolverList.length
  solAssert (s.resolverIndex caller ≠ 0)
  let slot ← checkedSub .panicUnderflow (s.resolverIndex caller) 1
  let stored ← readAt s.resolverList slot
  solAssert (stored = caller)
  let s ← safeTransferFrom .register caller stake pull s
  pure (nonReentrantAfter (s.emit (.registered caller stake)))

/-- Add to the stake of the caller, who becomes active again when it is enough. -/
def increaseStake (caller : Caller P) (additional : ℕ) (pull : Callee P) (s : State P) :
    Except Error (State P) := do
  let s ← nonReentrantBefore s
  failIf (additional = 0) .invalidAmount
  failIf (s.resolverIndex caller = 0) .notRegistered
  let info := s.resolvers caller
  let stake ← checkedAdd 256 .panicOverflow info.stake additional
  let info := { info with stake := stake }
  let info := if s.minStake ≤ info.stake then { info with active := true } else info
  let s := s.setResolver caller info
  let s ← safeTransferFrom .increase caller additional pull s
  pure (nonReentrantAfter
    (s.emit (.stakeIncreased caller additional (s.resolvers caller).stake)))

/-- Remove a resolver from the array: the last element moves into its slot. -/
def removeFromList (resolver : Address) (idx : ℕ) (s : State P) : Except Error (State P) := do
  let listLen := s.resolverList.length
  solAssert (1 ≤ idx ∧ idx ≤ listLen)
  let slotIdx ← checkedSub .panicUnderflow idx 1
  let stored ← readAt s.resolverList slotIdx
  solAssert (stored = resolver)
  let lastIdx ← checkedSub .panicUnderflow listLen 1
  let s ←
    if slotIdx ≠ lastIdx then do
      let swapped ← readAt s.resolverList lastIdx
      let list ← writeAt s.resolverList slotIdx swapped
      pure ({ s with resolverList := list }.setIndex swapped idx)
    else pure s
  let s := s.setIndex resolver 0
  let list ← popBack s.resolverList
  pure { s with resolverList := list }

/-- Pay out what is left of a stake, which may be nothing. -/
def returnStake (resolver : Address) (stakeToReturn : ℕ) (push : Callee P) (s : State P) :
    Except Error (State P) :=
  if 0 < stakeToReturn then safeTransfer .unregister resolver stakeToReturn push s else pure s

/-- Withdraw the stake of the caller and remove it. -/
def unregister (caller : Caller P) (push : Callee P) (s : State P) : Except Error (State P) := do
  let s ← nonReentrantBefore s
  let idx := s.resolverIndex caller
  failIf (idx = 0) .notRegistered
  let stakeToReturn := (s.resolvers caller).stake
  let s ← removeFromList caller idx s
  let s := s.setResolver caller {}
  solAssert (s.resolverIndex caller = 0)
  let s ← returnStake caller stakeToReturn push s
  pure (nonReentrantAfter (s.emit (.unregistered caller stakeToReturn)))

/-! ### The owner -/

/-- Slash a registered resolver. -/
def slash (now : ℕ) (caller : Caller P) (resolver : Address) (amount : ℕ) (reason : SlashReason)
    (push : Callee P) (s : State P) : Except Error (State P) := do
  onlyOwner caller s
  let s ← nonReentrantBefore s
  failIf (amount = 0) .invalidAmount
  failIf (s.resolverIndex resolver = 0) .notRegistered
  let info := s.resolvers resolver
  failIf (info.stake < amount) .invalidAmount
  let stake ← checkedSub .panicUnderflow info.stake amount
  let totalSlashed ← checkedAdd 256 .panicOverflow info.totalSlashed amount
  let info := { info with
    stake := stake
    totalSlashed := totalSlashed
    lastSlashAt := now % 2 ^ 64 }
  let info := if info.stake < s.minStake then { info with active := false } else info
  let s := s.setResolver resolver info
  let s ← safeTransfer .slash s.slashBeneficiary amount push s
  pure (nonReentrantAfter (s.emit (.slashed resolver amount s.slashBeneficiary reason)))

def setMinStake (caller : Caller P) (newMinStake : ℕ) (s : State P) : Except Error (State P) := do
  onlyOwner caller s
  failIf (newMinStake = 0) .invalidAmount
  pure { s.emit (.minStakeUpdated s.minStake newMinStake) with minStake := newMinStake }

def setSlashBeneficiary (caller : Caller P) (newBeneficiary : Address) (s : State P) :
    Except Error (State P) := do
  onlyOwner caller s
  failIf (newBeneficiary = 0) .invalidAddress
  pure { s.emit (.slashBeneficiaryUpdated s.slashBeneficiary newBeneficiary) with
    slashBeneficiary := newBeneficiary }

/-- A function of the ownership code, which keeps its own storage. -/
def ownershipCall (f : P.ownable.Slots → Option P.ownable.Slots) (s : State P) :
    Except Error (State P) :=
  match f s.ownership with
  | some slots => .ok { s with ownership := slots }
  | none => .error .unauthorizedAccount

/-- Begin a handover of the ownership, to nobody but a real account. -/
def transferOwnership (caller : Caller P) (newOwner : Address) (s : State P) :
    Except Error (State P) := do
  onlyOwner caller s
  failIf (newOwner = 0) .invalidAddress
  ownershipCall (P.ownable.transferOwnership caller newOwner) s

/-! ### Views -/

def isActive (resolver : Address) (s : State P) : Bool :=
  (s.resolvers resolver).active && decide (s.minStake ≤ (s.resolvers resolver).stake)

def list (s : State P) : List Address := s.resolverList

def getResolverCount (s : State P) : ℕ := s.resolverList.length

/-- The first loop of `getActiveResolvers`. -/
def countActive (snap : ℕ) (s : State P) : List Address → ℕ → ℕ
  | [], activeCount => activeCount
  | a :: rest, activeCount =>
    if (s.resolvers a).active && decide (snap ≤ (s.resolvers a).stake) then
      countActive snap s rest (activeCount + 1)
    else countActive snap s rest activeCount

/-- The second loop of `getActiveResolvers`: the next place in `result` is `j`. -/
def fillActive (snap : ℕ) (s : State P) :
    List Address → ℕ → List ResolverInfo → Except Error (List ResolverInfo)
  | [], _, result => .ok result
  | a :: rest, j, result =>
    if (s.resolvers a).active && decide (snap ≤ (s.resolvers a).stake) then do
      failIf (result.length ≤ j) .panicIndex
      fillActive snap s rest (j + 1) (result.set j (s.resolvers a))
    else fillActive snap s rest j result

/-- The entries of the active resolvers, in an array that is counted out first. -/
def getActiveResolvers (s : State P) : Except Error (List ResolverInfo) :=
  let snap := s.minStake
  let activeCount := countActive snap s s.resolverList 0
  fillActive snap s s.resolverList 0 (List.replicate activeCount {})

end WaffleFinance.Evm.Registry

import WaffleFinance.Lib.Words

/-!
# What the Ethereum contracts stand on

The contracts import `ReentrancyGuard` and `Ownable2Step` from a library that is not part of
the repository, and they call the two digests of the EVM.  These are parameters of the
model: a `Platform` has them, with the documented behaviour of the guard as its laws.  The
digests are arbitrary functions, and of the ownership code nothing is assumed at all.

A platform also fixes the address the escrow is deployed at and which token contracts are
*exact*: their `transfer` and `transferFrom` move the stated amount and nothing else ever
takes tokens away from the escrow.  The other token contracts may do anything.
-/

namespace WaffleFinance.Evm

open Lib

instance neZero_addresses : NeZero (2 ^ 160 : ℕ) := ⟨by decide⟩

/-- Addresses; `0` is `address(0)`. -/
abbrev Address := Fin (2 ^ 160)

/-- The library contract `ReentrancyGuard`: the status variable it keeps and what its modifier
`nonReentrant` does to it before and after the body of a function.  `none` is a revert. -/
structure ReentrancyGuard where
  /-- The values of the status variable. -/
  Status : Type
  /-- The status outside every guarded function. -/
  notEntered : Status
  /-- The status inside a guarded function. -/
  entered : Status
  /-- What the modifier does before the body. -/
  nonReentrantBefore : Status → Option Status
  /-- What the modifier does after the body. -/
  nonReentrantAfter : Status → Status
  before_notEntered : nonReentrantBefore notEntered = some entered
  before_entered : nonReentrantBefore entered = none
  after_entered : nonReentrantAfter entered = notEntered

/-- The library contract `Ownable2Step`: the storage it keeps, who the owner is, and its three
functions, which get the caller and return `none` when they revert. -/
structure Ownable2Step where
  /-- The storage of the contract. -/
  Slots : Type
  /-- The storage after the constructor `Ownable(msg.sender)`. -/
  deployedBy : Address → Slots
  /-- The address that `onlyOwner` lets through. -/
  owner : Slots → Address
  transferOwnership : (caller newOwner : Address) → Slots → Option Slots
  acceptOwnership : (caller : Address) → Slots → Option Slots
  renounceOwnership : (caller : Address) → Slots → Option Slots

/-- The surroundings of one deployed escrow. -/
structure Platform where
  /-- The address of the escrow, `address(this)`. -/
  self : Address
  sha256 : Bytes → Bytes32
  keccak256 : Bytes → Bytes32
  guard : ReentrancyGuard
  ownable : Ownable2Step
  /-- The token contracts that move exactly the stated amounts. -/
  exact : Address → Bool

/-! ### The laws can be met -/

/-- A guard that keeps one bit. -/
def ReentrancyGuard.bit : ReentrancyGuard where
  Status := Bool
  notEntered := false
  entered := true
  nonReentrantBefore := fun entered => if entered then none else some true
  nonReentrantAfter := fun _ => false
  before_notEntered := rfl
  before_entered := rfl
  after_entered := rfl

/-- Ownership that keeps the owner and the account it is being handed to. -/
def Ownable2Step.pair : Ownable2Step where
  Slots := Address × Address
  deployedBy := fun deployer => (deployer, 0)
  owner := Prod.fst
  transferOwnership := fun caller newOwner s =>
    if caller = s.1 then some (s.1, newOwner) else none
  acceptOwnership := fun caller s => if caller = s.2 then some (caller, 0) else none
  renounceOwnership := fun caller s => if caller = s.1 then some (0, 0) else none

/-- A platform on which the model can be evaluated.  Its digests are toys. -/
def Platform.sample : Platform where
  self := 100
  sha256 := fun bytes => BitVec.ofNat 256 (bytes.foldl (fun n b => 3 * n + b.toNat) 1)
  keccak256 := fun bytes => BitVec.ofNat 256 (bytes.foldl (fun n b => 5 * n + b.toNat) 1)
  guard := .bit
  ownable := .pair
  exact := fun token => token == 7

/-! ### Callers -/

/-- An account that calls the escrow.  The escrow makes no call to itself but the plain
payment of `_payoutNative`, so the caller of a function is another account. -/
abbrev Caller (P : Platform) := {a : Address // a ≠ P.self}

namespace Sample

def alice : Caller .sample := ⟨1, by decide⟩

def bob : Caller .sample := ⟨2, by decide⟩

end Sample

end WaffleFinance.Evm

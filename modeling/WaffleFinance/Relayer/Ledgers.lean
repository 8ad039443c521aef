import WaffleFinance.Relayer.Orders

/-!
# The two ledgers on disk

`RefundLedger` is meant to make a refund happen once for each order: who wants to refund claims the
order, and a claim is granted when there is no entry.  A claim lives in memory only; a refund that
was paid, or of which it is not known whether it was, is written to disk.

`StellarProofLedger` is meant to make a Stellar payment count once: the first to consume its hash
is told so, and the mark stays for ever.
-/

namespace WaffleFinance.Relayer

/-! ### Refunds -/

/-- The state of a refund.  Amounts are in stroops. -/
inductive RefundState where
  | inFlight
  | committed (txHash : Text) (amount : ℕ) (ledger : Option ℕ) (committedAt : ℕ)
  | ambiguous (ambiguousAt : ℕ)
  deriving DecidableEq

/-- The entries of the ledger, by order. -/
abbrev RefundLedger := Text → Option RefundState

namespace RefundLedger

/-- Whether the claim is granted, and the ledger afterwards. -/
def claim (l : RefundLedger) (orderId : Text) : Bool × RefundLedger :=
  match l orderId with
  | some _ => (false, l)
  | none => (true, Function.update l orderId (some .inFlight))

def commit (l : RefundLedger) (now : ℕ) (orderId txHash : Text) (amount : ℕ)
    (ledger : Option ℕ) : RefundLedger :=
  match l orderId with
  | some (.committed ..) => l
  | _ => Function.update l orderId (some (.committed txHash amount ledger now))

/-- Give a claim back.  What is on disk stays. -/
def release (l : RefundLedger) (orderId : Text) : RefundLedger :=
  match l orderId with
  | some .inFlight => Function.update l orderId none
  | _ => l

def markAmbiguous (l : RefundLedger) (now : ℕ) (orderId : Text) : RefundLedger :=
  Function.update l orderId (some (.ambiguous now))

def resolveAmbiguous (l : RefundLedger) (now : ℕ) (orderId txHash : Text) (amount : ℕ)
    (ledger : Option ℕ) : RefundLedger :=
  match l orderId with
  | some (.ambiguous _) => l.commit now orderId txHash amount ledger
  | _ => l

def releaseAmbiguous (l : RefundLedger) (orderId : Text) : RefundLedger :=
  match l orderId with
  | some (.ambiguous _) => Function.update l orderId none
  | _ => l

/-- What a new process reads from disk. -/
def reload (l : RefundLedger) : RefundLedger := fun orderId =>
  match l orderId with
  | some .inFlight => none
  | e => e

variable {l : RefundLedger} {orderId : Text}

lemma claim_of_none (h : l orderId = none) :
    l.claim orderId = (true, Function.update l orderId (some .inFlight)) := by
  simp [claim, h]

lemma claim_of_some {e : RefundState} (h : l orderId = some e) :
    l.claim orderId = (false, l) := by
  simp [claim, h]

lemma release_of_inFlight (h : l orderId = some .inFlight) :
    l.release orderId = Function.update l orderId none := by
  simp [release, h]

@[simp] lemma release_claimed (h : l orderId = none) :
    release (Function.update l orderId (some .inFlight)) orderId = l := by
  rw [release_of_inFlight (Function.update_self ..), Function.update_idem, ← h,
    Function.update_eq_self]

end RefundLedger

/-! ### Consumed payments -/

/-- The record of a consumed payment. -/
structure ConsumedProof where
  orderId : Text
  /-- In stroops. -/
  verifiedAmount : ℕ
  ledgerSequence : ℕ
  consumedAt : ℕ
  deriving DecidableEq

/-- The consumed payments, by transaction hash. -/
abbrev StellarProofLedger := Text → Option ConsumedProof

namespace StellarProofLedger

def isConsumed (l : StellarProofLedger) (stellarTxHash : Text) : Bool := (l stellarTxHash).isSome

/-- Whether the hash is consumed now, and the ledger afterwards. -/
def consume (l : StellarProofLedger) (stellarTxHash : Text) (entry : ConsumedProof) :
    Bool × StellarProofLedger :=
  match l stellarTxHash with
  | some _ => (false, l)
  | none => (true, Function.update l stellarTxHash (some entry))

variable {l : StellarProofLedger} {stellarTxHash : Text}

lemma consume_of_none (h : l stellarTxHash = none) (entry : ConsumedProof) :
    l.consume stellarTxHash entry = (true, Function.update l stellarTxHash (some entry)) := by
  simp [consume, h]

lemma consume_of_some {e : ConsumedProof} (h : l stellarTxHash = some e) (entry : ConsumedProof) :
    l.consume stellarTxHash entry = (false, l) := by
  simp [consume, h]

end StellarProofLedger

end WaffleFinance.Relayer

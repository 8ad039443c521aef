import Mathlib

/-!
# The life of an order

The statuses of an order of the coordinator and the table of allowed transitions.  A status without
a transition is terminal.
-/

namespace WaffleFinance.Coordinator

abbrev Text := List Char

/-- Texts are compared character by character. -/
scoped instance lawfulBEqText : LawfulBEq Text := inferInstance

inductive OrderStatus where
  | announced
  | srcLocked
  | dstLocked
  | secretRevealed
  | completed
  | refunded
  | failed
  | expired
  | cancelled
  | abandoned
  deriving DecidableEq, Repr

namespace OrderStatus

/-- The status as it is written in the database and in messages. -/
def text : OrderStatus → Text
  | announced => "announced".toList
  | srcLocked => "src_locked".toList
  | dstLocked => "dst_locked".toList
  | secretRevealed => "secret_revealed".toList
  | completed => "completed".toList
  | refunded => "refunded".toList
  | failed => "failed".toList
  | expired => "expired".toList
  | cancelled => "cancelled".toList
  | abandoned => "abandoned".toList

end OrderStatus

/-- The table of allowed transitions. -/
def orderStatusTransitions : OrderStatus → List OrderStatus
  | .announced => [.srcLocked, .cancelled, .abandoned, .failed, .expired]
  | .srcLocked => [.dstLocked, .secretRevealed, .refunded, .failed, .expired]
  | .dstLocked => [.secretRevealed, .refunded, .failed, .expired]
  | .secretRevealed => [.completed, .refunded, .failed]
  | .completed => []
  | .refunded => []
  | .failed => []
  | .expired => [.refunded, .failed]
  | .cancelled => []
  | .abandoned => []

def canTransition (source target : OrderStatus) : Bool :=
  (orderStatusTransitions source).contains target

def isTerminal (status : OrderStatus) : Bool := (orderStatusTransitions status).length == 0

lemma canTransition_of_isTerminal {source : OrderStatus} (h : isTerminal source = true)
    (target : OrderStatus) : canTransition source target = false := by
  have hnil : orderStatusTransitions source = [] :=
    List.length_eq_zero_iff.1 (by simpa [isTerminal] using h)
  simp [canTransition, hnil]

/-- An order is locked on its source chain only out of `announced`. -/
lemma canTransition_srcLocked {source : OrderStatus} :
    canTransition source .srcLocked = true ↔ source = .announced := by
  cases source <;> decide

lemma canTransition_dstLocked {source : OrderStatus} :
    canTransition source .dstLocked = true ↔ source = .srcLocked := by
  cases source <;> decide

end WaffleFinance.Coordinator

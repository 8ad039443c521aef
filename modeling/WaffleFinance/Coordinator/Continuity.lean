import WaffleFinance.Coordinator.Surfaces

/-!
# What stays of an order

Requests, listeners and reconcilers fill in the row of an order, take parts of it back and move its
cursors.  None of them touches what was announced, loses a secret or moves a cursor back.
-/

namespace WaffleFinance.Coordinator

open Lib OrdersRepository

namespace OrderRow

/-- What was announced of an order. -/
def announcement (r : OrderRow) : AnnounceOrderInput :=
  ⟨r.direction, r.hashlock, r.srcChain, r.srcAddress, r.srcAsset, r.srcAmount, r.srcSafetyDeposit,
    r.dstChain, r.dstAddress, r.dstAsset, r.dstAmount⟩

/-- The row `r` can have become the row `r'`. -/
structure Continues (r r' : OrderRow) : Prop where
  terms : r'.announcement = r.announcement
  secret : r.preimage.isSome → r'.preimage.isSome
  ethereum : r.lastEthBlock.getD 0 ≤ r'.lastEthBlock.getD 0
  soroban : r.lastSorobanLedger.getD 0 ≤ r'.lastSorobanLedger.getD 0
  solana : r.lastSolanaSlot.getD 0 ≤ r'.lastSolanaSlot.getD 0

namespace Continues

variable {r r' r'' : OrderRow}

lemma refl (r : OrderRow) : r.Continues r := ⟨rfl, id, le_rfl, le_rfl, le_rfl⟩

lemma trans (h : r.Continues r') (h' : r'.Continues r'') : r.Continues r'' where
  terms := h'.terms.trans h.terms
  secret := h'.secret ∘ h.secret
  ethereum := h.ethereum.trans h'.ethereum
  soroban := h.soroban.trans h'.soroban
  solana := h.solana.trans h'.solana

lemma mutated (m : Mutation) (r : OrderRow) : r.Continues (m.row r) := by
  cases m <;>
    simp only [Mutation.row, setStatusRow, lockRow, secretRow, rollbackRow, withdrawRow] <;>
    split_ifs <;>
    first | exact refl r | exact ⟨rfl, fun _ => rfl, le_rfl, le_rfl, le_rfl⟩ |
      exact ⟨rfl, id, le_rfl, le_rfl, le_rfl⟩

lemma advanced (chain : Chain) (position : ℕ) (r : OrderRow) :
    r.Continues (advanceRow chain position r) := by
  -- a cursor is set to the maximum of what it was and the position
  cases chain with
  | ethereum => exact ⟨rfl, id, le_max_left _ _, le_rfl, le_rfl⟩
  | stellar => exact ⟨rfl, id, le_rfl, le_max_left _ _, le_rfl⟩
  | solana => exact ⟨rfl, id, le_rfl, le_rfl, le_max_left _ _⟩

end Continues

end OrderRow

lemma RowStep.continues {q : Call} {p : Text} {r : OrderRow} {o : Option OrderRow}
    (h : RowStep q p (some r) o) : ∃ r', o = some r' ∧ r.Continues r' := by
  cases h with
  | same => exact ⟨r, rfl, .refl r⟩
  | mutated => exact ⟨_, rfl, .mutated _ r⟩
  | advanced _ chain position => exact ⟨_, rfl, .advanced chain position r⟩

variable (service : SecretService) (aes : Aes) (hashes : Hashes) (d : Db) (es : SecretEventLog)

/-- One event keeps the row. -/
lemma continues_succ {p : Text} {n : ℕ} {r : OrderRow}
    (hr : (secretPool service aes hashes d es n).state.orders.get p = some r) :
    ∃ r', (secretPool service aes hashes d es (n + 1)).state.orders.get p = some r' ∧
      r.Continues r' := by
  have hkeeps : repository.Keeps (@Supervised SecretRequest fun _ _ => True) (fun _ _ _ => True)
      fun _ _ => True := ⟨fun _ _ _ => trivial, fun _ _ _ => trivial, fun _ _ => trivial⟩
  have hes : Store.Permits (SecretRequest.code service aes hashes) (fun _ _ _ => True) d es :=
    fun _ _ _ _ _ => trivial
  rcases Store.step_cases follows_supervised hkeeps trivial hes n with
    hsame | ⟨q, fate, qs, -, hstate, -⟩
  · exact ⟨r, by rw [hsame, hr], .refl r⟩
  · have hstep := rowStep q fate (secretPool service aes hashes d es n).state p
    rw [hr] at hstep
    rw [hstate]
    exact hstep.continues

/-- **What stays of an order.**  Whatever requests and events come in, in whatever order their calls
are carried out and whichever of them fail: an order that is in the database stays there with the
terms that were announced, keeps a secret once it has one, and its cursors never go back. -/
theorem order_continues (p : Text) (m k : ℕ) :
    (secretPool service aes hashes d es m).state.orders.get p = none ∨
      ∃ r r', (secretPool service aes hashes d es m).state.orders.get p = some r ∧
        (secretPool service aes hashes d es (m + k)).state.orders.get p = some r' ∧
        r.Continues r' := by
  cases hr : (secretPool service aes hashes d es m).state.orders.get p with
  | none => exact .inl rfl
  | some r =>
    right
    induction k with
    | zero => exact ⟨r, r, rfl, hr, .refl r⟩
    | succ k ih =>
      obtain ⟨_, r', ⟨⟩, hr', hcontinues⟩ := ih
      obtain ⟨r'', hr'', hcontinues'⟩ := continues_succ service aes hashes d es hr'
      exact ⟨r, r'', rfl, hr'', hcontinues.trans hcontinues'⟩

end WaffleFinance.Coordinator

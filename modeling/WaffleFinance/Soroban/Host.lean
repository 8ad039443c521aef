import WaffleFinance.Lib.Words
import WaffleFinance.Lib.Totals

/-!
# What the Soroban contracts stand on

Three rules of the host matter here:
a call that fails is rolled back as a whole; a contract that is on the call stack cannot be
entered again; and `require_auth` passes for a contract's address only in calls which that
contract makes itself.  By the last two no contract ever sees its own authorisation.

The token contracts are not part of the repository.  A token is *exact* when its transfers move
the stated amount and are refused where the source does not have it.  Of exact tokens the model
keeps the balances.  The other token contracts may do anything that a contract can do: fail, and
bring about transfers of exact tokens between other parties.
-/

namespace WaffleFinance.Soroban

open Lib

instance neZero_keys : NeZero (2 ^ 256 : ℕ) := ⟨by decide⟩

/-- Addresses of accounts and of contracts. -/
inductive Address where
  | account (key : Fin (2 ^ 256))
  | contract (hash : Fin (2 ^ 256))
deriving DecidableEq, Fintype

/-- The surroundings of a deployed contract. -/
structure Env where
  /-- The address of the contract, `env.current_contract_address()`. -/
  self : Address
  sha256 : Bytes → Bytes32
  /-- The token contracts whose transfers are exact. -/
  exact : Address → Bool
  /-- The lifetime that the network gives to a new persistent entry. -/
  minPersistentTtl : ℕ

/-- The circumstances of a call: the ledger it is made in and the addresses that authorise it. -/
structure Invocation (E : Env) where
  timestamp : ℕ
  sequence : ℕ
  auth : Address → Bool
  auth_self : auth E.self = false

lemma Invocation.ne_self_of_auth {E : Env} (inv : Invocation E) {a : Address}
    (h : inv.auth a = true) : a ≠ E.self := by
  rintro rfl
  rw [inv.auth_self] at h
  cases h

/-- The rule of `extend_ttl`: an entry that has less than `threshold` ledgers to live gets
`extendTo`. -/
def extendTtl (sequence threshold extendTo liveUntil : ℕ) : ℕ :=
  if liveUntil - sequence < threshold then sequence + extendTo else liveUntil

/-! ### Tokens -/

/-- The balances of the exact tokens, by token and holder. -/
abbrev Balances := Address → Address → ℤ

/-- A transfer of an exact token from an account other than the contract. -/
structure Move (E : Env) where
  asset : Address
  source : Address
  target : Address
  amount : ℤ
  source_ne : source ≠ E.self
  amount_nonneg : 0 ≤ amount

/-- What a contract that is called does: the transfers it brings about and its result, `none` for
a call that fails. -/
structure Reply (E : Env) (α : Type) where
  moves : List (Move E)
  result : Option α

variable {E : Env}

/-- The transfer happens where the source has the amount. -/
def Move.apply (b : Balances) (m : Move E) : Balances :=
  if m.amount ≤ b m.asset m.source then
    Function.update b m.asset (move (b m.asset) m.source m.target m.amount)
  else b

def applyMoves (ms : List (Move E)) (b : Balances) : Balances := ms.foldl Move.apply b

/-- `token::Client::new(env, asset).transfer(source, target, amount)`. -/
def tokenTransfer {ε : Type} (failed : ε) (asset source target : Address) (amount : ℤ)
    (r : Reply E Unit) (b : Balances) : Except ε Balances := do
  failIf (r.result = none) failed
  let b := applyMoves r.moves b
  if E.exact asset then do
    failIf (amount < 0 ∨ b asset source < amount) failed
    pure (Function.update b asset (move (b asset) source target amount))
  else pure b

/-- The balances after a transfer that has gone through. -/
def transferred (asset source target : Address) (amount : ℤ) (r : Reply E Unit) (b : Balances) :
    Balances :=
  let b := applyMoves r.moves b
  if E.exact asset then Function.update b asset (move (b asset) source target amount) else b

/-! ### What the moves of other parties do -/

/-- None of the transfers of an asset goes to the contract. -/
def NoGifts (asset : Address) (ms : List (Move E)) : Prop :=
  ∀ m ∈ ms, m.asset = asset → m.target ≠ E.self

lemma Move.apply_cases (m : Move E) (b : Balances) (asset : Address) :
    m.apply b asset = b asset ∨
      m.asset = asset ∧ m.apply b asset = move (b asset) m.source m.target m.amount := by
  rw [Move.apply]
  split_ifs with hcov
  · by_cases ha : asset = m.asset
    · subst ha
      exact .inr ⟨rfl, Function.update_self ..⟩
    · exact .inl (Function.update_of_ne ha ..)
  · exact .inl rfl

lemma Move.apply_self_le (m : Move E) (b : Balances) (asset : Address) :
    b asset E.self ≤ m.apply b asset E.self := by
  rcases m.apply_cases b asset with h | ⟨-, h⟩
  · rw [h]
  · rw [h]
    exact le_move m.amount_nonneg m.source_ne.symm

lemma Move.apply_self_eq {m : Move E} {asset : Address} (hm : m.asset = asset → m.target ≠ E.self)
    (b : Balances) : m.apply b asset E.self = b asset E.self := by
  rcases m.apply_cases b asset with h | ⟨hasset, h⟩
  · rw [h]
  · rw [h, move_of_ne m.source_ne.symm (hm hasset).symm]

lemma Move.sum_apply (m : Move E) (b : Balances) (asset : Address) :
    ∑ a, m.apply b asset a = ∑ a, b asset a := by
  rcases m.apply_cases b asset with h | ⟨-, h⟩
  · rw [h]
  · rw [h, sum_move]

lemma applyMoves_self_le (ms : List (Move E)) (b : Balances) (asset : Address) :
    b asset E.self ≤ applyMoves ms b asset E.self := by
  -- move by move, each on the balances that the ones before have left
  induction ms generalizing b with
  | nil => exact le_rfl
  | cons m ms ih => exact (m.apply_self_le b asset).trans (ih (m.apply b))

lemma applyMoves_self_eq {ms : List (Move E)} {asset : Address} (hms : NoGifts asset ms)
    (b : Balances) : applyMoves ms b asset E.self = b asset E.self := by
  induction ms generalizing b with
  | nil => rfl
  | cons m ms ih =>
    have hrest := ih (fun m' hm' => hms m' (List.mem_cons_of_mem m hm')) (m.apply b)
    exact hrest.trans (Move.apply_self_eq (hms m List.mem_cons_self) b)

lemma sum_applyMoves (ms : List (Move E)) (b : Balances) (asset : Address) :
    ∑ a, applyMoves ms b asset a = ∑ a, b asset a := by
  induction ms generalizing b with
  | nil => rfl
  | cons m ms ih => exact (ih (m.apply b)).trans (m.sum_apply b asset)

/-! ### What a call does to the contract's balances -/

variable (E) in
/-- The contract's balances have changed by `flow`, and by what other parties have given to it,
which is nothing of an asset when the call is `clean` for it.  The totals are what they were. -/
structure Flow (flow : Address → ℤ) (clean : Address → Prop) (b b' : Balances) : Prop where
  le : ∀ asset, E.exact asset → b asset E.self + flow asset ≤ b' asset E.self
  eq : ∀ asset, E.exact asset → clean asset → b' asset E.self = b asset E.self + flow asset
  total : ∀ asset, ∑ a, b' asset a = ∑ a, b asset a

namespace Flow

variable {flow flow' : Address → ℤ} {clean clean' : Address → Prop} {b b' b'' : Balances}

lemma refl (clean : Address → Prop) (b : Balances) : Flow E (fun _ => 0) clean b b :=
  ⟨by simp, by simp, fun _ => rfl⟩

lemma trans (h : Flow E flow clean b b') (h' : Flow E flow' clean' b' b'') :
    Flow E (fun asset => flow asset + flow' asset) (fun asset => clean asset ∧ clean' asset)
      b b'' := by
  refine ⟨fun asset ha => ?_, fun asset ha hc => ?_, fun asset => ?_⟩
  · have h₁ := h.le asset ha
    have h₂ := h'.le asset ha
    show b asset E.self + (flow asset + flow' asset) ≤ b'' asset E.self
    omega
  · rw [h'.eq asset ha hc.2, h.eq asset ha hc.1, add_assoc]
  · exact (h'.total asset).trans (h.total asset)

/-- Transfers of other parties. -/
lemma of_moves (ms : List (Move E)) (b : Balances) :
    Flow E (fun _ => 0) (fun asset => NoGifts asset ms) b (applyMoves ms b) := by
  refine ⟨fun asset _ => ?_, fun asset _ hms => ?_, sum_applyMoves ms b⟩
  · rw [add_zero]
    exact applyMoves_self_le ms b asset
  · rw [add_zero, applyMoves_self_eq hms]

end Flow

section Transfer

variable {ε : Type} {failed : ε} {asset source target : Address} {amount : ℤ} {r : Reply E Unit}
  {b b' : Balances}

lemma tokenTransfer_ok (h : tokenTransfer failed asset source target amount r b = .ok b') :
    (E.exact asset = true ∧ 0 ≤ amount ∧
      b' = Function.update (applyMoves r.moves b) asset
        (move (applyMoves r.moves b asset) source target amount)) ∨
    (E.exact asset = false ∧ b' = applyMoves r.moves b) := by
  simp only [tokenTransfer, chain_eq_ok, failIf_eq_ok, exists_const] at h
  obtain ⟨-, h⟩ := h
  by_cases hx : E.exact asset = true
  · rw [if_pos hx] at h
    simp only [chain_eq_ok, failIf_eq_ok, exists_const, pure_eq_ok_iff, not_or, not_lt] at h
    exact .inl ⟨hx, h.1.1, h.2.symm⟩
  · rw [if_neg hx, pure_eq_ok_iff] at h
    exact .inr ⟨by simpa using hx, h.symm⟩

lemma eq_transferred (h : tokenTransfer failed asset source target amount r b = .ok b') :
    b' = transferred asset source target amount r b := by
  rcases tokenTransfer_ok h with ⟨hx, -, rfl⟩ | ⟨hx, rfl⟩ <;> simp [transferred, hx]

/-- The moves of the token contract, and then a transfer that changes the contract's balance
by `n`. -/
lemma Flow.of_transfer {n : ℤ} {clean : Prop}
    (h : tokenTransfer failed asset source target amount r b = .ok b')
    (hle : 0 ≤ amount → ∀ f : Address → ℤ, f E.self + n ≤ move f source target amount E.self)
    (heq : clean → ∀ f : Address → ℤ, move f source target amount E.self = f E.self + n) :
    Flow E (fun t => if t = asset then n else 0)
      (fun t => NoGifts t r.moves ∧ (t = asset → clean)) b b' := by
  have hmoves := Flow.of_moves r.moves b
  rcases tokenTransfer_ok h with ⟨hx, hn, rfl⟩ | ⟨hx, rfl⟩
  · refine ⟨fun t ht => ?_, fun t ht hc => ?_, fun t => ?_⟩
    · have hge := hmoves.le t ht
      by_cases hta : t = asset
      · subst hta
        have hself := hle hn (applyMoves r.moves b t)
        rw [Function.update_self, if_pos rfl]
        omega
      · rw [Function.update_of_ne hta, if_neg hta]
        exact hge
    · have hsame := hmoves.eq t ht hc.1
      by_cases hta : t = asset
      · subst hta
        rw [Function.update_self, if_pos rfl, heq (hc.2 rfl), hsame, add_zero]
      · rw [Function.update_of_ne hta, if_neg hta]
        exact hsame
    · by_cases hta : t = asset
      · subst hta
        rw [Function.update_self, sum_move]
        exact hmoves.total t
      · rw [Function.update_of_ne hta]
        exact hmoves.total t
  · -- a token that is not exact does not count
    have hne : ∀ t, E.exact t = true → t ≠ asset := by
      rintro t ht rfl
      rw [ht] at hx
      cases hx
    refine ⟨fun t ht => ?_, fun t ht hc => ?_, hmoves.total⟩
    · rw [if_neg (hne t ht)]
      exact hmoves.le t ht
    · rw [if_neg (hne t ht)]
      exact hmoves.eq t ht hc.1

lemma Flow.of_transfer_in (hs : source ≠ E.self)
    (h : tokenTransfer failed asset source E.self amount r b = .ok b') :
    Flow E (fun t => if t = asset then amount else 0) (fun t => NoGifts t r.moves) b b' := by
  have hin : Flow E (fun t => if t = asset then amount else 0)
      (fun t => NoGifts t r.moves ∧ (t = asset → True)) b b' :=
    Flow.of_transfer h (fun _ _ => (move_dst hs amount).ge) (fun _ _ => move_dst hs amount)
  exact ⟨hin.le, fun t ht hc => hin.eq t ht ⟨hc, fun _ => trivial⟩, hin.total⟩

lemma Flow.of_transfer_out
    (h : tokenTransfer failed asset E.self target amount r b = .ok b') :
    Flow E (fun t => if t = asset then -amount else 0)
      (fun t => NoGifts t r.moves ∧ (t = asset → target ≠ E.self)) b b' := by
  refine Flow.of_transfer h (fun hn f => ?_) (fun ht f => ?_)
  · by_cases ht : target = E.self
    · rw [ht, move_self]
      omega
    · rw [move_src (Ne.symm ht)]
      omega
  · rw [move_src (Ne.symm ht)]
    omega

lemma tokenTransfer_out_ok (failed : ε) (target : Address) (hr : r.result = some ())
    (hn : 0 ≤ amount) (hcov : E.exact asset → amount ≤ b asset E.self) :
    ∃ b', tokenTransfer failed asset E.self target amount r b = .ok b' := by
  rw [tokenTransfer]
  rw [failIf_neg (by simp [hr]), ok_chain]
  by_cases hx : E.exact asset = true
  · have hge := applyMoves_self_le r.moves b asset
    have hcov' := hcov hx
    simp only [if_pos hx]
    rw [failIf_neg (by omega), ok_chain]
    exact ⟨_, rfl⟩
  · simp only [if_neg hx]
    exact ⟨_, rfl⟩

end Transfer

/-! ### A sample ledger -/

namespace Sample

/-- The contract with the address `hash`, on a ledger on which all tokens are exact. -/
def env (hash : Fin (2 ^ 256)) : Env where
  self := .contract hash
  sha256 := fun p => BitVec.ofNat 256 (p.map UInt8.toNat).sum
  exact := fun _ => true
  minPersistentTtl := 4096

def alice : Address := .account 1

def bob : Address := .account 2

def token : Address := .contract 7

variable {hash : Fin (2 ^ 256)}

/-- A call at a time, authorised by one account. -/
def signedBy (key : Fin (2 ^ 256)) (timestamp : ℕ) : Invocation (env hash) where
  timestamp := timestamp
  sequence := timestamp / 5
  auth := fun a => a = .account key
  auth_self := by simp [env]

/-- A call that does what it is asked to do and nothing else. -/
def quiet {α : Type} (a : α) : Reply (env hash) α := ⟨[], some a⟩

end Sample

end WaffleFinance.Soroban

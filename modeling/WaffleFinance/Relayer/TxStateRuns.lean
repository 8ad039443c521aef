import WaffleFinance.Relayer.TxStateStore

/-!
# What holds of every transaction record

Whatever an operation or a part of `reconcile` does to the store is one of three moves: a new
record, one more attempt to recover a record, and a transition that is allowed and comes with the
fields that belong to it (`TxMove`).  What each move keeps holds along every run: the shape of the
records, and that a record at an end stays there.
-/

namespace WaffleFinance.Relayer

open Lib

/-! ### The shape of a record -/

/-- The transitions lead from `pending_submission` to a state, without a gap. -/
inductive TxPath : List TxTransition → TxState → Prop
  | nil : TxPath [] .pendingSubmission
  | snoc {ts : List TxTransition} {t : TxTransition} (h : TxPath ts t.fromState)
      (hallowed : t.fromState.isTransitionAllowed t.toState = true) :
      TxPath (ts ++ [t]) t.toState

/-- The fields that belong to a state. -/
structure TxStateRecord.Sound (maxRecovery : ℕ) (r : TxStateRecord) : Prop where
  path : TxPath r.transitions r.state
  txHash : r.state ∈ [.submissionAcked, .chainMined, .coordinatorRecorded, .complete] →
    r.txHash.isSome = true
  minedBlock : r.state ∈ [.chainMined, .coordinatorRecorded, .complete] →
    r.minedBlock.isSome = true
  coordinatorRef : r.state ∈ [.coordinatorRecorded, .complete] → r.coordinatorRef.isSome = true
  failureReason : r.state = .terminalFailure → r.failureReason.isSome = true
  recoveryAttempts : r.recoveryAttempts ≤ maxRecovery

@[simp] lemma TxStateRecord.state_advance (r : TxStateRecord) (now : ℕ) (target : TxState)
    (patch : TxPatch) (note : Text) : (r.advance now target patch note).state = target := rfl

/-- The patch has what the new state asks for. -/
def TxPatch.Fits (patch : TxPatch) : TxState → Prop
  | .submissionAcked => patch.txHash.isSome = true
  | .chainMined => patch.txHash.isSome = true ∧ patch.minedBlock.isSome = true
  | .coordinatorRecorded => patch.coordinatorRef.isSome = true
  | .terminalFailure => patch.failureReason.isSome = true
  | .pendingSubmission | .complete => True

/-! ### Moves -/

/-- What may happen to the store at once.  `known` is what is known of the orders of new records,
and `valid` of the block numbers. -/
inductive TxMove (known : Text → Prop) (valid : ℤ → Prop) (s : TxStateStore) : TxStateStore → Prop
  | create {orderId : Text} (now : ℕ) (correlationId route : Text) (hnew : s.get orderId = none)
      (hknown : known orderId) :
      TxMove known valid s (s.put (TxStateStore.newRecord now orderId correlationId route))
  | recover {orderId : Text} {r : TxStateRecord} (hget : s.get orderId = some r)
      (hmax : r.recoveryAttempts < s.maxRecovery) :
      TxMove known valid s (s.put { r with recoveryAttempts := r.recoveryAttempts + 1 })
  | advance {orderId : Text} {r : TxStateRecord} {target : TxState} {patch : TxPatch}
      (now : ℕ) (note : Text) (hget : s.get orderId = some r)
      (hallowed : r.state.isTransitionAllowed target = true) (hfits : patch.Fits target)
      (hvalid : ∀ b ∈ patch.minedBlock, valid b) :
      TxMove known valid s (s.put (r.advance now target patch note))

abbrev TxMoves (known : Text → Prop) (valid : ℤ → Prop) : TxStateStore → TxStateStore → Prop :=
  Relation.ReflTransGen (TxMove known valid)

namespace TxStateStore

variable {known : Text → Prop} {valid : ℤ → Prop} (s : TxStateStore) (now : ℕ)

lemma transition_moves {orderId : Text} {target : TxState} {patch : TxPatch} {note : Text}
    (hfits : patch.Fits target) (hvalid : ∀ b ∈ patch.minedBlock, valid b) :
    TxMoves known valid s (s.transition now orderId target patch note).2 := by
  unfold transition
  split
  · exact .refl
  rename_i r hget
  split
  · rename_i hallowed
    exact .single (.advance now note hget hallowed hfits hvalid)
  · exact .refl

lemma create_moves {orderId : Text} (correlationId route : Text) (hknown : known orderId) :
    TxMoves known valid s (s.create now orderId correlationId route).2 := by
  unfold create
  split
  · exact .refl
  · rename_i hnew
    exact .single (.create now correlationId route hnew hknown)

lemma ackSubmission_moves (orderId txHash : Text) :
    TxMoves known valid s (s.ackSubmission now orderId txHash).2 :=
  s.transition_moves now rfl (by simp [TxPatch.empty])

lemma recordReceipt_moves (orderId : Text) {receipt : TxReceipt}
    (hvalid : valid receipt.blockNumber) :
    TxMoves known valid s (s.recordReceipt now orderId receipt).2 := by
  unfold recordReceipt
  split
  · exact .refl
  split
  · refine s.transition_moves now ⟨rfl, rfl⟩ fun b hb => ?_
    rw [← Option.some.inj hb]
    exact hvalid
  · split
    · exact .refl
    · exact .refl

lemma recordCoordinatorAck_moves (orderId coordinatorRef : Text) :
    TxMoves known valid s (s.recordCoordinatorAck now orderId coordinatorRef).2 :=
  s.transition_moves now rfl (by simp [TxPatch.empty])

lemma markComplete_moves (orderId : Text) : TxMoves known valid s (s.markComplete now orderId).2 :=
  s.transition_moves now trivial (by simp [TxPatch.empty])

lemma markFailed_moves (orderId reason : Text) :
    TxMoves known valid s (s.markFailed now orderId reason).2 :=
  s.transition_moves now rfl (by simp [TxPatch.empty])

@[simp] lemma unlessThrown_snd {α : Type} (outcome : ReconcileOutcome) (result : TxResult α) :
    (outcome.unlessThrown result).2 = result.2 := by
  unfold ReconcileOutcome.unlessThrown
  split <;> rfl

lemma reconcileState_moves (r : TxStateRecord) (provider : Bool) :
    TxMoves known valid s (s.reconcileState now r provider).2 := by
  unfold reconcileState
  split
  · split
    · rw [unlessThrown_snd]
      exact s.markFailed_moves now _ _
    · exact .refl
  · split
    · exact .refl
    · exact .refl
  · exact .refl
  · rw [unlessThrown_snd]
    exact s.markComplete_moves now _
  · exact .refl
  · exact .refl

lemma reconcileRecord_moves (orderId : Text) (provider : Bool) :
    TxMoves known valid s (s.reconcileRecord now orderId provider).2 := by
  unfold reconcileRecord
  split
  · exact .refl
  rename_i r hget
  split
  · rw [unlessThrown_snd]
    exact s.markFailed_moves now _ _
  · rename_i hmax
    exact .head (.recover hget (not_le.1 hmax)) (reconcileState_moves _ now _ _)

lemma reconcileReceipt_moves (orderId : Text) {answer : Option (Option TxReceipt)}
    (hvalid : ∀ receipt, answer = some (some receipt) → valid receipt.blockNumber) :
    TxMoves known valid s (s.reconcileReceipt now orderId answer).2 := by
  unfold reconcileReceipt
  split
  · exact .refl
  · exact .refl
  · rename_i receipt
    split
    · rw [unlessThrown_snd]
      exact s.markFailed_moves now _ _
    · rw [unlessThrown_snd]
      exact s.recordReceipt_moves now orderId (hvalid receipt rfl)

end TxStateStore

/-- The receipt that comes with a step. -/
def TxStep.receipt : TxStep → Option TxReceipt
  | recordReceipt _ receipt => receipt
  | answer _ receipt => receipt.join
  | _ => none

/-- The order for which a step may make a record. -/
def TxStep.newOrder : TxStep → Option Text
  | create orderId _ _ => orderId
  | _ => none

namespace TxRelay

variable {known : Text → Prop} {valid : ℤ → Prop} (x : TxRelay) (now : ℕ)

lemma next_moves (i : ℕ) : TxMoves known valid x.store (x.next now i).store := by
  unfold next
  split
  · exact .refl
  rename_i w hw
  split
  · rename_i orderId rest hremaining hwaiting
    have hmoves : TxMoves known valid x.store
        (x.store.reconcileRecord now orderId w.provider).2 :=
      x.store.reconcileRecord_moves now orderId w.provider
    dsimp only
    split
    · exact hmoves
    · exact hmoves
  · exact .refl

lemma answer_moves (i : ℕ) {answer : Option (Option TxReceipt)}
    (hvalid : ∀ receipt, answer = some (some receipt) → valid receipt.blockNumber) :
    TxMoves known valid x.store (x.answer now i answer).store := by
  unfold TxRelay.answer
  split
  · exact .refl
  · split
    · exact .refl
    · exact x.store.reconcileReceipt_moves now _ hvalid

lemma step_moves (c : TxStep) (hknown : ∀ orderId ∈ c.newOrder, known orderId)
    (hvalid : ∀ receipt ∈ c.receipt, valid receipt.blockNumber) :
    TxMoves known valid x.store (x.step now c).store := by
  cases c with
  | create orderId correlationId route =>
    exact x.store.create_moves now _ _ (hknown orderId rfl)
  | ackSubmission orderId txHash => exact x.store.ackSubmission_moves now _ _
  | recordReceipt orderId receipt =>
    exact x.store.recordReceipt_moves now orderId (hvalid receipt rfl)
  | recordCoordinatorAck orderId coordinatorRef => exact x.store.recordCoordinatorAck_moves now _ _
  | markComplete orderId => exact x.store.markComplete_moves now _
  | markFailed orderId reason => exact x.store.markFailed_moves now _ _
  | reconcile provider => exact .refl
  | next i => exact x.next_moves now i
  | answer i receipt =>
    refine x.answer_moves now i fun r hr => hvalid r ?_
    rw [hr]
    rfl

end TxRelay

/-! ### What the moves keep -/

namespace TxStateStore

variable {known : Text → Prop} {valid : ℤ → Prop} {s s' : TxStateStore} {orderId : Text}
  {r : TxStateRecord}

lemma get_put (s : TxStateStore) (r : TxStateRecord) (orderId : Text) :
    (s.put r).get orderId = if orderId = r.orderId then some r else s.get orderId := by
  unfold put get
  split
  · rename_i h
    rw [h, InsertionMap.get_insert_self]
  · rename_i h
    exact InsertionMap.get_insert_of_ne _ h _

/-- Every record is under its order and has the right shape. -/
def Sound (s : TxStateStore) : Prop :=
  ∀ orderId r, s.get orderId = some r → r.orderId = orderId ∧ r.Sound s.maxRecovery

lemma Sound.put (h : s.Sound) (hr : r.Sound s.maxRecovery) : (s.put r).Sound := by
  intro orderId r' hget
  rw [get_put] at hget
  split at hget
  · rename_i hid
    cases hget
    exact ⟨hid.symm, hr⟩
  · exact h orderId r' hget

lemma sound_newRecord (maxRecovery now : ℕ) (orderId correlationId route : Text) :
    (newRecord now orderId correlationId route).Sound maxRecovery where
  path := .nil
  txHash := by simp [newRecord]
  minedBlock := by simp [newRecord]
  coordinatorRef := by simp [newRecord]
  failureReason := by simp [newRecord]
  recoveryAttempts := Nat.zero_le _

lemma isSome_or_left {α : Type} {a b : Option α} (h : a.isSome = true) :
    (a.or b).isSome = true := by
  simp [h]

lemma isSome_or_right {α : Type} {a b : Option α} (h : b.isSome = true) :
    (a.or b).isSome = true := by
  simp [h]

lemma eq_chainMined_of_allowed {a : TxState}
    (h : a.isTransitionAllowed .coordinatorRecorded = true) : a = .chainMined := by
  cases a <;> simp_all [TxState.isTransitionAllowed, TxState.allowedTransitions]

lemma eq_coordinatorRecorded_of_allowed {a : TxState}
    (h : a.isTransitionAllowed .complete = true) : a = .coordinatorRecorded := by
  cases a <;> simp_all [TxState.isTransitionAllowed, TxState.allowedTransitions]

lemma not_allowed_pendingSubmission (a : TxState) :
    a.isTransitionAllowed .pendingSubmission = false := by
  cases a <;> rfl

lemma not_allowed_of_isTerminalState {a : TxState} (h : a.isTerminalState = true) (b : TxState) :
    a.isTransitionAllowed b = false := by
  cases a <;> simp_all [TxState.isTerminalState, TxState.isTransitionAllowed,
    TxState.allowedTransitions]

/-- A transition that is allowed and fits gives a record of the right shape: the fields of the
states before are there already, and those of the new state come with the patch. -/
lemma sound_advance {maxRecovery : ℕ} {target : TxState} {patch : TxPatch}
    (h : r.Sound maxRecovery) (hallowed : r.state.isTransitionAllowed target = true)
    (hfits : patch.Fits target) (now : ℕ) (note : Text) :
    (r.advance now target patch note).Sound maxRecovery := by
  have hpath : TxPath (r.advance now target patch note).transitions target :=
    .snoc (t := ⟨r.state, target, now, note⟩) h.path hallowed
  cases target with
  | pendingSubmission => simp [not_allowed_pendingSubmission] at hallowed
  | submissionAcked =>
    refine ⟨hpath, fun _ => ?_, by simp, by simp, by simp,
      h.recoveryAttempts⟩
    exact isSome_or_left (hfits)
  | chainMined =>
    refine ⟨hpath, fun _ => ?_, fun _ => ?_, by simp, by simp,
      h.recoveryAttempts⟩
    · exact isSome_or_left (hfits.1)
    · exact isSome_or_left (hfits.2)
  | coordinatorRecorded =>
    have hstate := eq_chainMined_of_allowed hallowed
    refine ⟨hpath, fun _ => ?_, fun _ => ?_, fun _ => ?_, by simp, h.recoveryAttempts⟩
    · exact isSome_or_right ((h.txHash (by simp [hstate])))
    · exact isSome_or_right ((h.minedBlock (by simp [hstate])))
    · exact isSome_or_left (hfits)
  | complete =>
    have hstate := eq_coordinatorRecorded_of_allowed hallowed
    refine ⟨hpath, fun _ => ?_, fun _ => ?_, fun _ => ?_, by simp, h.recoveryAttempts⟩
    · exact isSome_or_right ((h.txHash (by simp [hstate])))
    · exact isSome_or_right ((h.minedBlock (by simp [hstate])))
    · exact isSome_or_right ((h.coordinatorRef (by simp [hstate])))
  | terminalFailure =>
    refine ⟨hpath, by simp, by simp, by simp, fun _ => ?_,
      h.recoveryAttempts⟩
    exact isSome_or_left (hfits)

lemma Sound.move (h : s.Sound) (hmove : TxMove known valid s s') : s'.Sound := by
  cases hmove with
  | create now correlationId route hnew _ => exact h.put (sound_newRecord _ now _ _ _)
  | recover hget hmax =>
    have hr := (h _ _ hget).2
    exact h.put { hr with recoveryAttempts := hmax }
  | advance now note hget hallowed hfits _ =>
    exact h.put (sound_advance (h _ _ hget).2 hallowed hfits now note)

lemma Sound.moves (h : s.Sound) (hmoves : TxMoves known valid s s') : s'.Sound := by
  induction hmoves with
  | refl => exact h
  | tail _ hmove ih => exact ih.move hmove

lemma maxRecovery_moves (hmoves : TxMoves known valid s s') :
    s'.maxRecovery = s.maxRecovery := by
  induction hmoves with
  | refl => rfl
  | tail _ hmove ih =>
    rw [← ih]
    cases hmove <;> rfl

/-- A record stays, and one at an end keeps its state. -/
lemma Sound.get_move (h : s.Sound) (hmove : TxMove known valid s s')
    (hget : s.get orderId = some r) :
    ∃ r', s'.get orderId = some r' ∧ (r.state.isTerminalState = true → r'.state = r.state) := by
  cases hmove with
  | create now correlationId route hnew _ =>
    refine ⟨r, ?_, fun _ => rfl⟩
    rw [get_put, if_neg]
    · exact hget
    · rintro rfl
      rw [show s.get _ = none from hnew] at hget
      cases hget
  | recover hget' hmax =>
    rename_i orderId' r₀
    rw [get_put]
    split
    · rename_i hid
      refine ⟨_, rfl, fun _ => ?_⟩
      rw [hid, show r₀.orderId = orderId' from (h _ _ hget').1, hget'] at hget
      rw [Option.some.inj hget]
    · exact ⟨r, hget, fun _ => rfl⟩
  | advance now note hget' hallowed hfits hvalid =>
    rename_i orderId' r₀ target patch
    rw [get_put]
    split
    · rename_i hid
      refine ⟨_, rfl, fun hterminal => ?_⟩
      change orderId = r₀.orderId at hid
      rw [hid, (h _ _ hget').1, hget'] at hget
      cases hget
      rw [not_allowed_of_isTerminalState hterminal] at hallowed
      cases hallowed
    · exact ⟨r, hget, fun _ => rfl⟩

lemma Sound.get_moves (h : s.Sound) (hmoves : TxMoves known valid s s')
    (hget : s.get orderId = some r) :
    ∃ r', s'.get orderId = some r' ∧ (r.state.isTerminalState = true → r'.state = r.state) := by
  induction hmoves with
  | refl => exact ⟨r, hget, fun _ => rfl⟩
  | tail hmoves hmove ih =>
    obtain ⟨r', hget', hstate⟩ := ih
    obtain ⟨r'', hget'', hstate'⟩ := (h.moves hmoves).get_move hmove hget'
    refine ⟨r'', hget'', fun hterminal => ?_⟩
    rw [hstate' (by rw [hstate hterminal]; exact hterminal), hstate hterminal]

end TxStateStore

/-! ### The runs of `reconcile` -/

/-- Every record that was scanned is counted, still to come, or waited for. -/
def Sweep.Balanced (w : Sweep) : Prop :=
  w.advanced + w.failed + w.skipped + w.remaining.length + w.waiting.toList.length = w.scanned

lemma Sweep.balanced_count {w : Sweep} (outcome : ReconcileOutcome)
    (h : w.advanced + w.failed + w.skipped + 1 + w.remaining.length + w.waiting.toList.length =
      w.scanned) : (w.count outcome).Balanced := by
  cases outcome <;> simp only [Sweep.Balanced, Sweep.count] <;> omega

namespace TxRelay

variable {x : TxRelay}

lemma balanced_set {i : ℕ} {w : Sweep} (h : ∀ w ∈ x.sweeps, w.Balanced) (hw : w.Balanced) :
    ∀ w' ∈ x.sweeps.set i w, w'.Balanced := by
  intro w' hmem
  rcases List.mem_or_eq_of_mem_set hmem with hold | rfl
  · exact h w' hold
  · exact hw

lemma balanced_step (now : ℕ) (c : TxStep) (h : ∀ w ∈ x.sweeps, w.Balanced) :
    ∀ w ∈ (x.step now c).sweeps, w.Balanced := by
  cases c with
  | reconcile provider =>
    intro w hw
    rcases List.mem_append.1 hw with hold | hnew
    · exact h w hold
    · rw [List.mem_singleton.1 hnew]
      simp [Sweep.Balanced, newSweep]
  | next i =>
    simp only [step, next]
    split
    · exact h
    rename_i w hw
    have hbalanced := h w (List.mem_of_getElem? hw)
    split
    · rename_i orderId rest hremaining hwaiting
      unfold Sweep.Balanced at hbalanced
      rw [hremaining, hwaiting] at hbalanced
      simp only [List.length_cons, Option.toList_none, List.length_nil] at hbalanced
      split
      · refine balanced_set h (Sweep.balanced_count _ ?_)
        simp only [hwaiting, Option.toList_none, List.length_nil]
        omega
      · refine balanced_set h ?_
        simp only [Sweep.Balanced, Option.toList_some, List.length_singleton]
        omega
    · exact h
  | answer i receipt =>
    simp only [step, TxRelay.answer]
    split
    · exact h
    rename_i w hw
    have hbalanced := h w (List.mem_of_getElem? hw)
    split
    · exact h
    rename_i orderId hwaiting
    unfold Sweep.Balanced at hbalanced
    rw [hwaiting] at hbalanced
    simp only [Option.toList_some, List.length_singleton] at hbalanced
    refine balanced_set h (Sweep.balanced_count _ ?_)
    simp only [Option.toList_none, List.length_nil]
    omega
  | _ => exact h

/-! ### Errors -/

def thrown {ε α : Type} : Except ε α → Option ε
  | .ok _ => none
  | .error e => some e

/-- What an operation throws.  `reconcile` throws nothing. -/
def error (x : TxRelay) (now : ℕ) : TxStep → Option TxStateError
  | .create orderId correlationId route => thrown (x.store.create now orderId correlationId route).1
  | .ackSubmission orderId txHash => thrown (x.store.ackSubmission now orderId txHash).1
  | .recordReceipt orderId receipt => thrown (x.store.recordReceipt now orderId receipt).1
  | .recordCoordinatorAck orderId coordinatorRef =>
    thrown (x.store.recordCoordinatorAck now orderId coordinatorRef).1
  | .markComplete orderId => thrown (x.store.markComplete now orderId).1
  | .markFailed orderId reason => thrown (x.store.markFailed now orderId reason).1
  | .reconcile _ | .next _ | .answer _ _ => none

lemma transition_of_thrown {s : TxStateStore} {now : ℕ} {orderId : Text} {target : TxState}
    {patch : TxPatch} {note : Text} {e : TxStateError}
    (h : thrown (s.transition now orderId target patch note).1 = some e) :
    (s.transition now orderId target patch note).2 = s := by
  unfold TxStateStore.transition at h ⊢
  split at h
  · rfl
  split at h
  · cases h
  · rename_i hallowed
    simp [hallowed]

lemma step_of_error {now : ℕ} {c : TxStep} {e : TxStateError} (h : x.error now c = some e) :
    x.step now c = x := by
  have hstore : ∀ s, s = x.store → { x with store := s } = x := by
    rintro s rfl
    rfl
  cases c with
  | create orderId correlationId route =>
    refine hstore _ ?_
    simp only [error] at h
    unfold TxStateStore.create at h ⊢
    split at h
    · rfl
    · cases h
  | recordReceipt orderId receipt =>
    refine hstore _ ?_
    simp only [error] at h
    unfold TxStateStore.recordReceipt at h ⊢
    split at h
    · rfl
    rename_i r hget
    split at h
    · rename_i hallowed
      simp [TxStateStore.transition, hget, hallowed, Except.map, thrown] at h
    rename_i hallowed
    split at h
    · cases h
    · rename_i hdup
      simp only [hallowed, hdup, if_false, Bool.false_eq_true]
  | reconcile provider => cases h
  | next i => cases h
  | answer i receipt => cases h
  | _ => exact hstore _ (transition_of_thrown h)

/-! ### A whole run -/

section Run

variable (pendingTimeoutMs maxRecovery : ℕ) (steps : List (TxStep × ℕ))

/-- The state after the first `n` steps. -/
def after (n : ℕ) : TxRelay := machine.stateAt (initial pendingTimeoutMs maxRecovery) steps n

lemma moves_after {i j : ℕ} (hij : i ≤ j) :
    TxMoves (fun _ => True) (fun _ => True) (after pendingTimeoutMs maxRecovery steps i).store
      (after pendingTimeoutMs maxRecovery steps j).store := by
  refine Machine.stateAt_from (M := machine) (I := fun x => TxMoves (fun _ => True)
    (fun _ => True) (after pendingTimeoutMs maxRecovery steps i).store x.store) hij ?_ .refl
  rintro n c - - ⟨-, hok⟩ ih
  rw [← Except.ok.inj hok]
  exact ih.trans (step_moves _ c.2 c.1 (fun _ _ => trivial) fun _ _ => trivial)

lemma sound_after (n : ℕ) : (after pendingTimeoutMs maxRecovery steps n).store.Sound := by
  have hinitial : (initial pendingTimeoutMs maxRecovery).store.Sound := by
    intro orderId r hget
    simp [initial, TxStateStore.get] at hget
  exact hinitial.moves (moves_after pendingTimeoutMs maxRecovery steps n.zero_le)

lemma maxRecovery_after (n : ℕ) :
    (after pendingTimeoutMs maxRecovery steps n).store.maxRecovery = maxRecovery :=
  TxStateStore.maxRecovery_moves (moves_after pendingTimeoutMs maxRecovery steps n.zero_le)

lemma balanced_after (n : ℕ) :
    ∀ w ∈ (after pendingTimeoutMs maxRecovery steps n).sweeps, w.Balanced := by
  refine Machine.stateAt_invariant (M := machine) (I := fun x => ∀ w ∈ x.sweeps, w.Balanced)
    ?_ (by simp [initial]) n
  rintro c - x x' ih hok
  rw [← Except.ok.inj hok]
  exact balanced_step c.2 c.1 ih

end Run

end TxRelay

open TxRelay

/-- Whatever happens to the store, in whatever order and with any runs of `reconcile` at once: every
record has the right shape, one at an end stays there, an operation that throws changes nothing, and
the summary of a run that is over adds up. -/
theorem tx_state_invariants (pendingTimeoutMs maxRecovery : ℕ) (steps : List (TxStep × ℕ)) :
    (∀ n orderId r, (after pendingTimeoutMs maxRecovery steps n).store.get orderId = some r →
      r.Sound maxRecovery) ∧
    (∀ i j, i ≤ j → ∀ orderId r,
      (after pendingTimeoutMs maxRecovery steps i).store.get orderId = some r →
      r.state.isTerminalState = true →
      ∃ r', (after pendingTimeoutMs maxRecovery steps j).store.get orderId = some r' ∧
        r'.state = r.state) ∧
    (∀ n now c e, (after pendingTimeoutMs maxRecovery steps n).error now c = some e →
      (after pendingTimeoutMs maxRecovery steps n).step now c =
        after pendingTimeoutMs maxRecovery steps n) ∧
    ∀ n, ∀ w ∈ (after pendingTimeoutMs maxRecovery steps n).sweeps, w.IsOver →
      w.advanced + w.failed + w.skipped = w.scanned := by
  refine ⟨fun n orderId r hget => ?_, fun i j hij orderId r hget hterminal => ?_,
    fun n now c e herror => step_of_error herror, fun n w hw hover => ?_⟩
  · have hsound := (sound_after pendingTimeoutMs maxRecovery steps n orderId r hget).2
    rwa [maxRecovery_after] at hsound
  · obtain ⟨r', hget', hstate⟩ := (sound_after pendingTimeoutMs maxRecovery steps i).get_moves
      (moves_after pendingTimeoutMs maxRecovery steps hij) hget
    exact ⟨r', hget', hstate hterminal⟩
  · have hbalanced := balanced_after pendingTimeoutMs maxRecovery steps n w hw
    unfold Sweep.Balanced at hbalanced
    rw [hover.1, hover.2] at hbalanced
    simpa using hbalanced

end WaffleFinance.Relayer

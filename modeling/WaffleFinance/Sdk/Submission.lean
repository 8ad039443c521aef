import WaffleFinance.Lib.Machine
import WaffleFinance.Lib.SequenceNumbers

/-!
# Submitting a Soroban transaction

`orchestrateTransaction` of the SDK builds, simulates, signs and submits a transaction and waits for
its inclusion.  After some failures it starts again, with the sequence number that the account has
by then.

One call runs against an account.  A transaction may be included at any time after it was handed to
`sendTransaction`, whatever was answered, unless it was rejected.  A hash is the transaction itself,
and the node tells the truth when it reports success.
-/

namespace WaffleFinance.Sdk

open Lib

/-! ### Errors and configuration -/

/-- A transaction as it is handed over: the attempt, how often its fee was raised, its number. -/
structure Envelope where
  attempt : ℕ
  bumps : ℕ
  sequence : ℕ
  deriving DecidableEq

inductive HtlcErrorCode where
  | walletUnavailable
  | simulationFailed
  | txRejected
  | chainError
  deriving DecidableEq

structure HtlcSubmissionMeta where
  attempts : ℕ
  feeBumpHistory : List ℚ
  lastHash : Option Envelope

structure HtlcError where
  code : HtlcErrorCode
  retryable : Bool
  submissionMeta : HtlcSubmissionMeta

structure OrchestrationConfig where
  maxRetries : ℕ
  feeBumpCap : ℚ
  feeBumpMultiplier : ℚ

/-- The defaults. -/
def OrchestrationConfig.standard : OrchestrationConfig := ⟨3, 1000000, 2⟩

/-- `Number.MAX_SAFE_INTEGER`. -/
def maxSafeInteger : ℕ := 2 ^ 53 - 1

inductive StellarRejectionCode where
  | txBadSeq
  | txInsufficientFee
  | txInsufficientBalance
  | txBadAuth
  | txFailed
  | unknown
  deriving DecidableEq

/-! ### What the call waits for -/

inductive SimulationAnswer where
  | unreachable
  | rejected
  | accepted (fee : ℕ)
  deriving DecidableEq

inductive SendAnswer where
  | networkError
  | pending
  | duplicate
  | tryAgainLater
  | error (code : StellarRejectionCode)
  deriving DecidableEq

inductive StatusAnswer where
  | unreachable
  | notFound
  | success
  | failed
  | deadline
  deriving DecidableEq

inductive SubmissionPhase where
  /-- The account, for its sequence number. -/
  | building (attempt : ℕ)
  | simulating (attempt sequence : ℕ)
  | signing (attempt sequence fee : ℕ)
  /-- The answer to `sendTransaction`. -/
  | sending (attempt sequence bumps : ℕ) (baseFee : ℚ)
  /-- The signature of a transaction with a higher fee. -/
  | bumping (attempt sequence bumps : ℕ) (baseFee : ℚ)
  | polling (hash : Envelope) (attempt : ℕ)
  | done (outcome : Except HtlcError Envelope)

structure Submission where
  cfg : OrchestrationConfig
  ledger : SequencedLedger Envelope
  phase : SubmissionPhase
  feeBumpHistory : List ℚ
  lastHash : Option Envelope

inductive SubmissionStep where
  | built (ok : Bool)
  | simulated (answer : SimulationAnswer)
  | signed (ok : Bool)
  | sent (answer : SendAnswer)
  | polled (answer : StatusAnswer)
  /-- The network includes a transaction. -/
  | confirm (i : ℕ)
  /-- The account is used by somebody else. -/
  | foreign
  deriving DecidableEq

namespace Submission

variable (s : Submission)

def makeError (code : HtlcErrorCode) (retryable : Bool) (attempts : ℕ) : Submission :=
  { s with phase := .done (.error ⟨code, retryable, ⟨attempts, s.feeBumpHistory, s.lastHash⟩⟩) }

/-- Another attempt, or the error if it was the last one. -/
def retryOr (attempt : ℕ) (code : HtlcErrorCode) : Submission :=
  if attempt < s.cfg.maxRetries then { s with phase := .building (attempt + 1) }
  else s.makeError code false attempt

/-- The start of a call, with the number of the account. -/
def initial (cfg : OrchestrationConfig) (sequence : ℕ) : Submission :=
  let s : Submission := ⟨cfg, .new sequence, .building 1, [], none⟩
  if ¬ 1 < cfg.feeBumpMultiplier then s.makeError .txRejected false 0
  else if ¬ 0 < cfg.feeBumpCap then s.makeError .txRejected false 0
  else if cfg.maxRetries = 0 then s.makeError .chainError false 0
  else s

/-- `sendTransaction` is called. -/
def send (attempt sequence bumps : ℕ) (baseFee : ℚ) : Submission :=
  { s with
    ledger := s.ledger.hand ⟨attempt, bumps, sequence⟩
    phase := .sending attempt sequence bumps baseFee }

/-- The node has rejected the transaction. -/
def rejected (attempt sequence bumps : ℕ) (baseFee : ℚ) : StellarRejectionCode → Submission
  | .txBadSeq => s.retryOr attempt .txRejected
  | .txInsufficientFee =>
    let newBaseFee := baseFee * s.cfg.feeBumpMultiplier
    if s.cfg.feeBumpCap < newBaseFee then s.makeError .txRejected false attempt
    else
      { s with
        feeBumpHistory := s.feeBumpHistory ++ [newBaseFee]
        phase := .bumping attempt sequence bumps newBaseFee }
  | _ => s.makeError .txRejected false attempt

/-- The answer to `sendTransaction`.  Only what has not been included is rejected. -/
def sent (attempt sequence bumps : ℕ) (baseFee : ℚ) (answer : SendAnswer) : Submission :=
  let hash : Envelope := ⟨attempt, bumps, sequence⟩
  match answer with
  | .networkError => s.retryOr attempt .chainError
  | .pending => { s with lastHash := some hash, phase := .polling hash attempt }
  | .duplicate => { s with lastHash := some hash, phase := .polling hash attempt }
  | .tryAgainLater => retryOr { s with lastHash := some hash } attempt .chainError
  | .error code =>
    if hash ∈ s.ledger.included then s
    else
      rejected { s with lastHash := some hash, ledger := s.ledger.reject hash } attempt sequence
        bumps baseFee code

/-- `pollStatus`.  Success is reported of what has been included. -/
def polled (hash : Envelope) (attempt : ℕ) : StatusAnswer → Submission
  | .unreachable => s
  | .notFound => s
  | .success => if hash ∈ s.ledger.included then { s with phase := .done (.ok hash) } else s
  | .failed => s.makeError .txRejected false attempt
  | .deadline => s.makeError .chainError true attempt

def step (s : Submission) : SubmissionStep → Submission
  | .built ok =>
    match s.phase with
    | .building attempt =>
      if ok then { s with phase := .simulating attempt s.ledger.sequence }
      else s.retryOr attempt .chainError
    | _ => s
  | .simulated answer =>
    match s.phase, answer with
    | .simulating attempt _, .unreachable => s.retryOr attempt .chainError
    | .simulating attempt _, .rejected => s.makeError .simulationFailed false attempt
    | .simulating attempt sequence, .accepted fee =>
      { s with phase := .signing attempt sequence fee }
    | _, _ => s
  | .signed ok =>
    match s.phase with
    | .signing attempt sequence fee =>
      if ¬ ok then s.makeError .walletUnavailable false attempt
      else if maxSafeInteger < fee then s.makeError .txRejected false 0
      else s.send attempt sequence 0 fee
    | .bumping attempt sequence bumps baseFee =>
      if ¬ ok then s.makeError .walletUnavailable false attempt
      else s.send attempt sequence (bumps + 1) baseFee
    | _ => s
  | .sent answer =>
    match s.phase with
    | .sending attempt sequence bumps baseFee => s.sent attempt sequence bumps baseFee answer
    | _ => s
  | .polled answer =>
    match s.phase with
    | .polling hash attempt => s.polled hash attempt answer
    | _ => s
  | .confirm i => { s with ledger := s.ledger.confirm Envelope.sequence i }
  | .foreign => { s with ledger := s.ledger.foreign }

def machine : Machine Submission SubmissionStep Empty := ⟨fun x s => .ok (s.step x)⟩

/-- The state after the first `n` steps. -/
def after (cfg : OrchestrationConfig) (sequence : ℕ) (steps : List SubmissionStep) (n : ℕ) :
    Submission :=
  machine.stateAt (initial cfg sequence) steps n

/-! ### At most once -/

/-- At most one transaction of the call is included, and the hash it returns is that of this one. -/
structure AppliesOnce (s : Submission) : Prop where
  single : s.ledger.included.length ≤ 1
  reported : ∀ hash, s.phase = .done (.ok hash) → s.ledger.included = [hash]

end Submission

def SubmissionPhase.isBuilding : SubmissionPhase → Bool
  | building _ => true
  | _ => false

/-- The number of the transaction that is being prepared. -/
def SubmissionPhase.sequence? : SubmissionPhase → Option ℕ
  | simulating _ sequence => some sequence
  | signing _ sequence _ => some sequence
  | sending _ sequence _ _ => some sequence
  | bumping _ sequence _ _ => some sequence
  | _ => none

namespace Submission

/-- The condition on a step: no transaction is built once one has been included. -/
def Meets (s : Submission) : SubmissionStep → Prop
  | .built ok => ok = true → s.phase.isBuilding = true → s.ledger.included = []
  | _ => True

instance decidableMeets (s : Submission) (x : SubmissionStep) : Decidable (s.Meets x) := by
  unfold Meets
  split <;> infer_instance

/-- The invariant. -/
structure Sound (s : Submission) : Prop where
  spends : s.ledger.Spends Envelope.sequence
  usable : ∀ n, s.phase.sequence? = some n → s.ledger.Usable n
  reported : ∀ hash, s.phase = .done (.ok hash) → s.ledger.included = [hash]

variable {s : Submission} {attempt sequence bumps : ℕ} {baseFee : ℚ}

/-- Nothing is being prepared, and nothing was returned. -/
lemma Sound.of_phase (h : s.ledger.Spends Envelope.sequence) (hnone : s.phase.sequence? = none)
    (hopen : ∀ hash, s.phase ≠ .done (.ok hash)) : s.Sound where
  spends := h
  usable := fun n hn => by
    rw [hnone] at hn
    cases hn
  reported := fun hash hdone => absurd hdone (hopen hash)

lemma Sound.makeError (h : s.ledger.Spends Envelope.sequence) (code : HtlcErrorCode)
    (retryable : Bool) (attempts : ℕ) : (s.makeError code retryable attempts).Sound :=
  Sound.of_phase h rfl (by simp [Submission.makeError])

lemma Sound.retryOr (h : s.ledger.Spends Envelope.sequence) (attempt : ℕ)
    (code : HtlcErrorCode) : (s.retryOr attempt code).Sound := by
  unfold Submission.retryOr
  split
  · exact Sound.of_phase h rfl (by simp)
  · exact Sound.makeError h code false attempt

/-- A transaction is handed over whose number may be used. -/
lemma Sound.send (h : s.ledger.Spends Envelope.sequence) (hn : s.ledger.Usable sequence)
    (attempt bumps : ℕ) (baseFee : ℚ) : (s.send attempt sequence bumps baseFee).Sound where
  spends := h.hand hn
  usable := fun n hphase => by
    cases hphase
    exact { hn with }
  reported := fun _ hdone => by cases hdone

lemma Sound.rejected (h : s.ledger.Spends Envelope.sequence) (hn : s.ledger.Usable sequence)
    (attempt bumps : ℕ) (baseFee : ℚ) (code : StellarRejectionCode) :
    (s.rejected attempt sequence bumps baseFee code).Sound := by
  cases code with
  | txBadSeq => exact Sound.retryOr h attempt .txRejected
  | txInsufficientFee =>
    simp only [Submission.rejected]
    split
    · exact Sound.makeError h .txRejected false attempt
    · refine ⟨h, fun n hphase => ?_, fun _ hdone => by cases hdone⟩
      cases hphase
      exact hn
  | _ => exact Sound.makeError h .txRejected false attempt

lemma Sound.sent (h : s.Sound) (hphase : s.phase = .sending attempt sequence bumps baseFee)
    (answer : SendAnswer) : (s.sent attempt sequence bumps baseFee answer).Sound := by
  have hn : s.ledger.Usable sequence := h.usable sequence (by rw [hphase]; rfl)
  cases answer with
  | networkError => exact Sound.retryOr h.spends attempt .chainError
  | tryAgainLater =>
    exact @Sound.retryOr { s with lastHash := some ⟨attempt, bumps, sequence⟩ } h.spends attempt
      .chainError
  | error code =>
    simp only [Submission.sent]
    split
    · exact h
    exact @Sound.rejected
      { s with
        lastHash := some ⟨attempt, bumps, sequence⟩
        ledger := s.ledger.reject ⟨attempt, bumps, sequence⟩ } sequence
      (h.spends.reject _) { hn with } attempt bumps baseFee code
  | _ => exact Sound.of_phase h.spends rfl (by simp [Submission.sent])

lemma Sound.polled (h : s.Sound) (hash : Envelope) (attempt : ℕ) (answer : StatusAnswer) :
    (s.polled hash attempt answer).Sound := by
  cases answer with
  | unreachable => exact h
  | notFound => exact h
  | success =>
    simp only [Submission.polled]
    split
    · rename_i hmem
      refine ⟨h.spends, fun _ hn => (by cases hn), fun hash' hdone => ?_⟩
      cases hdone
      obtain ⟨t, ht⟩ := List.length_eq_one_iff.1
        (le_antisymm h.spends.single (List.length_pos_of_mem hmem))
      rw [ht] at hmem ⊢
      rw [List.mem_singleton.1 hmem]
    · exact h
  | failed => exact Sound.makeError h.spends .txRejected false attempt
  | deadline => exact Sound.makeError h.spends .chainError true attempt

lemma Sound.step (h : s.Sound) {x : SubmissionStep} (hmeets : s.Meets x) : (s.step x).Sound := by
  cases x with
  | built ok =>
    simp only [Submission.step]
    split
    · rename_i attempt hphase
      cases ok with
      | true =>
        have hnone := hmeets rfl (by rw [hphase]; rfl)
        refine ⟨h.spends, fun n hn => ?_, fun _ hdone => by cases hdone⟩
        cases hn
        exact SequencedLedger.usable_sequence hnone
      | false => exact Sound.retryOr h.spends attempt .chainError
    · exact h
  | simulated answer =>
    simp only [Submission.step]
    split
    · exact Sound.retryOr h.spends _ .chainError
    · exact Sound.makeError h.spends .simulationFailed false _
    · rename_i attempt sequence fee hphase
      refine ⟨h.spends, fun n hn => ?_, fun _ hdone => by cases hdone⟩
      cases hn
      exact h.usable sequence (by rw [hphase]; rfl)
    · exact h
  | signed ok =>
    simp only [Submission.step]
    split
    · rename_i attempt sequence fee hphase
      split
      · exact Sound.makeError h.spends .walletUnavailable false attempt
      · split
        · exact Sound.makeError h.spends .txRejected false 0
        · exact Sound.send h.spends (h.usable sequence (by rw [hphase]; rfl)) attempt 0 fee
    · rename_i attempt sequence bumps baseFee hphase
      split
      · exact Sound.makeError h.spends .walletUnavailable false attempt
      · exact Sound.send h.spends (h.usable sequence (by rw [hphase]; rfl)) attempt (bumps + 1)
          baseFee
    · exact h
  | sent answer =>
    simp only [Submission.step]
    split
    · rename_i hphase
      exact h.sent hphase answer
    · exact h
  | polled answer =>
    simp only [Submission.step]
    split
    · exact h.polled _ _ answer
    · exact h
  | confirm i =>
    exact ⟨h.spends.confirm i, fun n hn => (h.usable n hn).confirm h.spends i,
      fun hash hdone => h.spends.included_eq (h.reported hash hdone) i⟩
  | foreign =>
    exact ⟨h.spends.foreign, fun n hn => (h.usable n hn).foreign, h.reported⟩

lemma Sound.initial (cfg : OrchestrationConfig) (sequence : ℕ) : (initial cfg sequence).Sound := by
  have hnew : (SequencedLedger.new sequence).Spends Envelope.sequence :=
    SequencedLedger.Spends.new sequence
  simp only [Submission.initial]
  split
  · exact Sound.makeError hnew .txRejected false 0
  split
  · exact Sound.makeError hnew .txRejected false 0
  · split
    · exact Sound.makeError hnew .chainError false 0
    · exact Sound.of_phase hnew rfl (by simp)

/-- In a run in which no transaction is built once one has been included, the operation is applied
at most once, and the hash that is returned is that of the transaction that did it. -/
theorem submission_applies_once (cfg : OrchestrationConfig) (sequence : ℕ)
    (steps : List SubmissionStep)
    (hsteps : ∀ n x, steps[n]? = some x → (after cfg sequence steps n).Meets x) (n : ℕ) :
    (after cfg sequence steps n).AppliesOnce := by
  have hsound : (after cfg sequence steps n).Sound := by
    refine Machine.stateAt_steps (fun m x s' hx hs hok => ?_) (Sound.initial cfg sequence) n
    cases hok
    exact hs.step (hsteps m x hx)
  exact ⟨hsound.spends.single, hsound.reported⟩

/-- One attempt up to the answer of the node. -/
def attemptSteps (answer : SendAnswer) : List SubmissionStep :=
  [.built true, .simulated (.accepted 100), .signed true, .sent answer]

/-- The first attempt is lost, and the second one is included. -/
def lostThenIncluded : List SubmissionStep :=
  attemptSteps .networkError ++ attemptSteps .pending ++ [.confirm 1, .polled .success]

theorem submission_applies_once_lost :
    (after .standard 7 lostThenIncluded 10).AppliesOnce := by
  refine submission_applies_once .standard 7 lostThenIncluded (fun n x hx => ?_) 10
  have hall : ∀ n : Fin lostThenIncluded.length,
      (after .standard 7 lostThenIncluded n).Meets (lostThenIncluded.get n) := by
    decide +kernel
  obtain ⟨hlt, rfl⟩ := List.getElem?_eq_some_iff.1 hx
  exact hall ⟨n, hlt⟩

/-- The answer to the first attempt is lost, but the transaction is included; the second one is
built with the next number and is included too. -/
theorem submission_applies_twice :
    ¬ (after .standard 7 (attemptSteps .networkError ++ [.confirm 0] ++
      attemptSteps .pending ++ [.confirm 0]) 10).AppliesOnce := by
  intro h
  exact absurd h.single (by decide +kernel)

end Submission

end WaffleFinance.Sdk

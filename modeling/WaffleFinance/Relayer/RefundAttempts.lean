import WaffleFinance.Relayer.Refund
import WaffleFinance.Lib.Alone

/-!
# The attempts of a refund

`refundXlmToUser` submits the refund until it is accepted or there is no point in going on.  Here it
is called without a ledger, with any answers of Horizon.  The attempts are few and alike
(`refund_retry_discipline`).  What the code takes for a transient error may be the answer to a
transaction that has landed, though: then the next attempt pays a second time
(`refund_paid_twice`).
-/

namespace WaffleFinance.Relayer

open Lib Process

/-- A timeout, or a terminal error without a special treatment. -/
def HorizonError.ends : HorizonError → Bool
  | .timeout => true
  | .terminal code => code ≠ .txBadSeq ∧ code ≠ .txInsufficientFee
  | .transient => false

/-- An exchange with Horizon. -/
inductive Exchange where
  | load (answer : Except RawError Unit)
  | submit (destination : Text) (stroops fee : ℕ) (answer : Except RawError (Text × Option ℕ))

namespace Exchange

def ofQuery : (q : Query) × Reply q → Option Exchange
  | ⟨.loadAccount _, answer⟩ => some (load answer)
  | ⟨.submitRefund refund stroops fee, answer⟩ =>
    some (submit refund.stellarAddress stroops fee answer)
  | _ => none

/-- The fee of a submission. -/
def fee? : Exchange → Option ℕ
  | load _ => none
  | submit _ _ fee _ => some fee

def outcome : Exchange → Option HorizonError
  | load (.error err) | submit _ _ _ (.error err) => some (classifyHorizonError err)
  | _ => none

/-- After this nothing is submitted any more. -/
def ends (x : Exchange) : Bool := x.outcome.any HorizonError.ends

end Exchange

/-- `refundXlmToUser` without a ledger. -/
def refundWithoutLedger (args : RefundXlmArgs) : Task (Except RefundError RefundXlmResult) :=
  refundXlmToUser { args with ledger := false }

/-- The exchanges of a task. -/
def horizonLog {α : Type} (x : Task α) (rs : Answers Query Reply) (s : State) : List Exchange :=
  (x.exchanges rs s).filterMap Exchange.ofQuery

lemma horizonLog_bind {α β : Type} (x : Task α) (f : α → Task β) (rs : Answers Query Reply)
    (s : State) : horizonLog (x >>= f) rs s = horizonLog x rs s ++
      horizonLog (f (x.play rs s).1) (x.play rs s).2.1 (x.play rs s).2.2 := by
  rw [horizonLog, exchanges_bind, List.filterMap_append]
  rfl

/-! ### The loop -/

section Loop

variable (destination : Text) (stroops cap : ℕ)

/-- One attempt, and how it ends. -/
inductive Attempt (fee : ℕ) : List Exchange → Except HorizonError RefundXlmResult → Prop
  | unloaded (err : RawError) : Attempt fee [.load (.error err)] (.error (classifyHorizonError err))
  | rejected (err : RawError) :
      Attempt fee [.load (.ok ()), .submit destination stroops fee (.error err)]
        (.error (classifyHorizonError err))
  | accepted (hash : Text) (ledger : Option ℕ) :
      Attempt fee [.load (.ok ()), .submit destination stroops fee (.ok (hash, ledger))]
        (.ok ⟨hash, stroops, ledger⟩)

/-- After this error there is another attempt, with the second fee. -/
inductive Retried (fee : ℕ) : HorizonError → ℕ → Prop
  | badSeq : Retried fee (.terminal .txBadSeq) fee
  | bumped (h : fee * 2 ≤ cap) : Retried fee (.terminal .txInsufficientFee) (fee * 2)
  | transient : Retried fee .transient fee

/-- Attempts one after the other, with the number of those that are left after the first. -/
inductive Attempts :
    ℕ → ℕ → List Exchange → Except RefundError RefundXlmResult → Prop
  | none (left fee : ℕ) (e : RefundError) : Attempts left fee [] (.error e)
  | accepted {left fee : ℕ} {xs : List Exchange} {result : RefundXlmResult}
      (h : Attempt destination stroops fee xs (.ok result)) : Attempts left fee xs (.ok result)
  | failed {left fee : ℕ} {xs : List Exchange} {e : HorizonError} (e' : RefundError)
      (h : Attempt destination stroops fee xs (.error e)) : Attempts left fee xs (.error e')
  | again {left fee fee' : ℕ} {xs ys : List Exchange} {e : HorizonError}
      {out : Except RefundError RefundXlmResult}
      (h : Attempt destination stroops fee xs (.error e)) (hretried : Retried cap fee e fee')
      (rest : Attempts left fee' ys out) : Attempts (left + 1) fee (xs ++ ys) out

end Loop

variable (args : RefundXlmArgs) (stroops : ℕ)

lemma submitOnce_attempt (fee : ℕ) (rs : Answers Query Reply) (s : State) :
    Attempt args.refund.stellarAddress stroops fee (horizonLog (submitOnce args stroops fee) rs s)
      ((submitOnce args stroops fee).play rs s).1 := by
  have hload : horizonLog (await (.loadAccount args.refund)) rs s =
      [.load (rs 0 (.loadAccount args.refund))] := rfl
  unfold submitOnce
  rw [horizonLog_bind, play_bind, hload, play_query]
  dsimp only
  cases rs 0 (.loadAccount args.refund) with
  | error err => exact .unloaded err
  | ok _ =>
    have hsubmit : horizonLog (await (.submitRefund args.refund stroops fee))
        (fun i => rs (i + 1)) s = [.submit args.refund.stellarAddress stroops fee
          (rs 1 (.submitRefund args.refund stroops fee))] := rfl
    dsimp only
    rw [horizonLog_bind, play_bind, hsubmit, play_query]
    dsimp only
    cases rs 1 (.submitRefund args.refund stroops fee) with
    | error err => exact .rejected err
    | ok p => exact .accepted p.1 p.2

lemma submitLoop_attempts (left fee : ℕ) (rs : Answers Query Reply) (s : State) :
    Attempts args.refund.stellarAddress stroops args.feeBumpCapStroops left fee
      (horizonLog (submitLoop args stroops left fee) rs s)
      ((submitLoop args stroops left fee).play rs s).1 := by
  have hfirst := submitOnce_attempt args stroops fee rs s
  unfold submitLoop
  rw [horizonLog_bind, play_bind]
  cases hout : ((submitOnce args stroops fee).play rs s).1 with
  | ok result =>
    rw [hout, ← List.append_nil (horizonLog _ _ _)] at hfirst
    cases args.ledger <;> exact .accepted hfirst
  | error e =>
    rw [hout] at hfirst
    have hend : ∀ e', Attempts args.refund.stellarAddress stroops args.feeBumpCapStroops left fee
        (horizonLog (submitOnce args stroops fee) rs s ++ []) (.error e') := by
      rw [List.append_nil]
      exact fun e' => .failed e' hfirst
    cases e with
    | timeout => exact hend _
    | transient =>
      cases left with
      | zero => exact hend _
      | succ left => exact .again hfirst .transient (submitLoop_attempts left fee _ _)
    | terminal code =>
      cases code with
      | txBadSeq =>
        cases left with
        | zero => exact hend _
        | succ left => exact .again hfirst .badSeq (submitLoop_attempts left fee _ _)
      | txInsufficientFee =>
        dsimp only
        split_ifs with hcap
        · exact hend _
        cases left with
        | zero => exact hend _
        | succ left =>
          exact .again hfirst (.bumped (not_lt.1 hcap)) (submitLoop_attempts left (fee * 2) _ _)
      | _ => exact hend _

lemma horizonLog_resolveRefundStroops (rs : Answers Query Reply) (s : State) :
    horizonLog (resolveRefundStroops args) rs s = [] := by
  unfold resolveRefundStroops
  cases given args.refund.stellarTxHash with
  | none => rfl
  | some _ =>
    have hops : horizonLog (await (.refundOps args.refund)) rs s = [] := rfl
    dsimp only
    rw [horizonLog_bind, hops, play_query, List.nil_append]
    dsimp only
    cases rs 0 (.refundOps args.refund) with
    | none => rfl
    | some ops =>
      dsimp only
      cases ops.find? (HorizonOp.paysTo args.publicKey) <;> rfl

lemma refundWithoutLedger_attempts (rs : Answers Query Reply) (s : State) :
    ∃ stroops, Attempts args.refund.stellarAddress stroops args.feeBumpCapStroops args.maxRetries
      baseFee (horizonLog (refundWithoutLedger args) rs s)
      ((refundWithoutLedger args).play rs s).1 := by
  unfold refundWithoutLedger refundXlmToUser
  by_cases hcap : args.feeBumpCapStroops = 0
  · rw [if_pos hcap]
    exact ⟨0, .none _ _ _⟩
  have hread : horizonLog (Process.read : Task State) rs s = [] := rfl
  rw [if_neg hcap, horizonLog_bind, play_bind, hread]
  simp only [Bool.false_eq_true, if_false, List.nil_append]
  rw [horizonLog_bind, play_bind, horizonLog_resolveRefundStroops, List.nil_append]
  cases ((resolveRefundStroops _).play _ _).1 with
  | none => exact ⟨0, .none _ _ _⟩
  | some stroops =>
    exact ⟨lessFee stroops, submitLoop_attempts { args with ledger := false } _ _ _ _ _⟩

/-! ### What the attempts have in common -/

/-- The discipline of the attempts. -/
structure Disciplined (destination : Text) (stroops cap left fee : ℕ) (xs : List Exchange)
    (out : Except RefundError RefundXlmResult) : Prop where
  count : (xs.filterMap Exchange.fee?).length ≤ left + 1
  alike : ∀ x ∈ xs, ∀ f ∈ x.fee?, ∃ answer, x = .submit destination stroops f answer
  rising : (xs.filterMap Exchange.fee?).Pairwise (· ≤ ·)
  capped : ∀ f ∈ xs.filterMap Exchange.fee?, fee ≤ f ∧ f ≤ cap
  ended : xs.Pairwise fun x y => x.ends = true → y.fee? = none
  result : ∀ result, out = .ok result →
    ∃ f ledger, xs.getLast? = some (.submit destination stroops f (.ok (result.hash, ledger)))

variable {destination : Text} {cap left fee : ℕ} {xs ys : List Exchange}
  {out : Except RefundError RefundXlmResult} {stroops : ℕ}

namespace Attempt

variable {r : Except HorizonError RefundXlmResult} (h : Attempt destination stroops fee xs r)

include h

lemma fees : xs.filterMap Exchange.fee? = [] ∨ xs.filterMap Exchange.fee? = [fee] := by
  cases h with
  | unloaded err => exact Or.inl rfl
  | rejected err => exact Or.inr rfl
  | accepted hash ledger => exact Or.inr rfl

lemma alike : ∀ x ∈ xs, ∀ f ∈ x.fee?, ∃ answer, x = .submit destination stroops f answer := by
  cases h <;> simp [Exchange.fee?]

/-- Only the last exchange of an attempt can be the end. -/
lemma ended : xs.Pairwise fun x y => x.ends = true → y.fee? = none := by
  cases h <;> simp [Exchange.ends, Exchange.outcome]

lemma ends_eq {e : HorizonError} (he : r = .error e) : ∀ x ∈ xs, x.ends = true → e.ends = true := by
  subst he
  cases h <;> simp [Exchange.ends, Exchange.outcome]

lemma disciplined (hfee : fee ≤ cap) (left : ℕ)
    (hout : ∀ result, out = .ok result → r = .ok result) :
    Disciplined destination stroops cap left fee xs out := by
  have hfees := h.fees
  refine ⟨?_, h.alike, ?_, ?_, h.ended, fun result hresult => ?_⟩
  · rcases hfees with hfees | hfees <;> simp [hfees]
  · rcases hfees with hfees | hfees <;> simp [hfees]
  · rcases hfees with hfees | hfees <;> simp [hfees, hfee]
  · obtain rfl := hout result hresult
    cases h with
    | accepted hash ledger => exact ⟨fee, ledger, rfl⟩

end Attempt

lemma Retried.fee_le {e : HorizonError} {fee' : ℕ} (h : Retried cap fee e fee') (hfee : fee ≤ cap) :
    fee ≤ fee' ∧ fee' ≤ cap ∧ e.ends = false := by
  cases h with
  | badSeq | transient => exact ⟨le_rfl, hfee, rfl⟩
  | bumped hcap => exact ⟨by omega, hcap, rfl⟩

lemma Attempts.disciplined (h : Attempts destination stroops cap left fee xs out)
    (hfee : fee ≤ cap) : Disciplined destination stroops cap left fee xs out := by
  induction h with
  | none left fee e => exact ⟨by simp, by simp, by simp, by simp, by simp, by simp⟩
  | accepted h => exact h.disciplined hfee _ fun result hresult => by rw [Except.ok.inj hresult]
  | failed e' h => exact h.disciplined hfee _ nofun
  | @again left fee fee' xs ys e out h hretried rest ih =>
    obtain ⟨hle, hcap, hgoes⟩ := hretried.fee_le hfee
    have hys := ih hcap
    have hfees := h.fees
    refine ⟨?_, ?_, ?_, ?_, ?_, fun result hresult => ?_⟩
    · have hcount := hys.count
      rw [List.filterMap_append, List.length_append]
      rcases hfees with hfees | hfees <;> rw [hfees] <;> simp <;> omega
    · intro x hx
      rcases List.mem_append.1 hx with hx | hx
      · exact h.alike x hx
      · exact hys.alike x hx
    · rw [List.filterMap_append]
      rcases hfees with hfees | hfees <;> rw [hfees]
      · exact hys.rising
      · exact List.pairwise_cons.2 ⟨fun f hf => hle.trans (hys.capped f hf).1, hys.rising⟩
    · intro f hf
      rw [List.filterMap_append] at hf
      rcases List.mem_append.1 hf with hf | hf
      · rcases hfees with hfees | hfees <;> rw [hfees] at hf <;> simp_all
      · exact ⟨hle.trans (hys.capped f hf).1, (hys.capped f hf).2⟩
    · refine List.pairwise_append.2 ⟨h.ended, hys.ended, fun x hx y _ hends => ?_⟩
      rw [h.ends_eq rfl x hx hends] at hgoes
      cases hgoes
    · obtain ⟨f, ledger, hlast⟩ := hys.result result hresult
      exact ⟨f, ledger, by rw [List.getLast?_append, hlast]; rfl⟩

/-- A call of `refundXlmToUser` with a cap that is at least the base fee. -/
structure CappedRefund extends RefundXlmArgs where
  cap_ok : baseFee ≤ feeBumpCapStroops

/-- Few transactions are submitted, and all of them make the same payment, with fees that rise up to
the cap.  Nothing comes after an end, and a result is that of the last transaction. -/
theorem refund_retry_discipline (args : CappedRefund) (rs : Answers Query Reply) (s : State) :
    ∃ stroops, Disciplined args.refund.stellarAddress stroops args.feeBumpCapStroops
      args.maxRetries baseFee (horizonLog (refundWithoutLedger args.toRefundXlmArgs) rs s)
      ((refundWithoutLedger args.toRefundXlmArgs).play rs s).1 := by
  obtain ⟨stroops, hattempts⟩ := refundWithoutLedger_attempts args.toRefundXlmArgs rs s
  exact ⟨stroops, hattempts.disciplined args.cap_ok⟩

/-! ### What has landed -/

/-- The transaction was rejected, with result codes. -/
def RawError.rejects (err : RawError) : Bool :=
  err.response.any fun p => p.1 = 400 ∧ (p.2.1.isSome ∨ p.2.2 ≠ [])

namespace Exchange

/-- A payment that may be on the chain. -/
def mayLand : Exchange → Bool
  | submit _ _ _ (.ok _) => true
  | submit _ _ _ (.error err) => !err.rejects
  | load _ => false

/-- A payment that may be on the chain, and is tried again. -/
def unclear (x : Exchange) : Bool := x.mayLand && x.outcome = some .transient

end Exchange

open Exchange

lemma rejects_of_terminal {err : RawError} {code : ResultCode}
    (h : classifyHorizonError err = .terminal code) : err.rejects = true := by
  unfold classifyHorizonError at h
  unfold RawError.rejects
  cases hresponse : err.response with
  | none =>
    rw [hresponse] at h
    split_ifs at h
  | some p =>
    obtain ⟨status, txCode, opCodes⟩ := p
    rw [hresponse] at h
    dsimp only at h
    split_ifs at h with htimeout hstatus hseq hfee
    · simp [hstatus, hseq]
    · simp [hstatus, hfee]
    · cases hfind : (txCode.toList ++ opCodes).find? ResultCode.terminal with
      | none =>
        rw [hfind] at h
        cases h
      | some found =>
        have hmem := List.mem_of_find?_eq_some hfind
        cases txCode with
        | some _ => simp [hstatus]
        | none => simpa [hstatus] using List.ne_nil_of_mem hmem

lemma Attempt.mayLand_le {r : Except HorizonError RefundXlmResult}
    (h : Attempt destination stroops fee xs r) : (xs.filter mayLand).length ≤ 1 := by
  cases h with
  | unloaded err => simp [mayLand]
  | rejected err => exact List.length_filter_le _ [_]
  | accepted hash ledger => exact le_rfl

lemma Attempt.mayLand_cases {e : HorizonError} {fee' : ℕ}
    (h : Attempt destination stroops fee xs (.error e)) (hretried : Retried cap fee e fee') :
    xs.filter mayLand = [] ∨ ∃ x ∈ xs, x.unclear = true := by
  cases h with
  | unloaded err => exact .inl rfl
  | rejected err =>
    generalize he : classifyHorizonError err = e at hretried
    cases hretried with
    | badSeq | bumped => exact .inl (by simp [mayLand, rejects_of_terminal he])
    | transient =>
      cases hrejects : err.rejects with
      | true => exact .inl (by simp [mayLand, hrejects])
      | false =>
        exact .inr ⟨_, List.mem_cons_of_mem _ List.mem_cons_self,
          by simp [unclear, outcome, mayLand, he, hrejects]⟩

/-- Nothing that may land is submitted after an unclear answer. -/
def Settles (xs : List Exchange) : Prop :=
  xs.Pairwise fun x y => x.unclear = true → y.mayLand = false

lemma Attempts.pays_once (h : Attempts destination stroops cap left fee xs out)
    (hsettles : Settles xs) : (xs.filter mayLand).length ≤ 1 := by
  induction h with
  | none left fee e => simp
  | accepted h => exact h.mayLand_le
  | failed e' h => exact h.mayLand_le
  | @again left fee fee' xs ys e out h hretried rest ih =>
    obtain ⟨-, hrest, hacross⟩ := List.pairwise_append.1 hsettles
    rw [List.filter_append, List.length_append]
    rcases h.mayLand_cases hretried with hnone | ⟨x, hx, hunclear⟩
    · rw [hnone]
      simpa using ih hrest
    · have hys : ys.filter mayLand = [] :=
        List.filter_eq_nil_iff.2 fun y hy => by simp [hacross x hx y hy hunclear]
      rw [hys]
      exact h.mayLand_le

/-- At most one payment of a refund may be on the chain, exactly if nothing that may land is
submitted after an answer that leaves open whether the payment has landed. -/
theorem refund_pays_once_iff (args : RefundXlmArgs) (rs : Answers Query Reply) (s : State) :
    ((horizonLog (refundWithoutLedger args) rs s).filter Exchange.mayLand).length ≤ 1 ↔
      Settles (horizonLog (refundWithoutLedger args) rs s) := by
  constructor
  · intro hone
    have hpairs : ((horizonLog (refundWithoutLedger args) rs s).filter mayLand).Pairwise
        fun _ _ => False := by
      generalize (horizonLog (refundWithoutLedger args) rs s).filter mayLand = ys at hone
      match ys, hone with
      | [], _ | [_], _ => simp
    refine (List.pairwise_filter.1 hpairs).imp fun {x y} hxy hunclear => ?_
    have hx : x.mayLand = true := (Bool.and_eq_true_iff.1 hunclear).1
    exact Bool.eq_false_iff.2 fun hy => hxy hx hy
  · obtain ⟨stroops, hattempts⟩ := refundWithoutLedger_attempts args rs s
    exact hattempts.pays_once

namespace Sample

def refundArgs : RefundXlmArgs := ⟨⟨[], ['u'], none⟩, ['k'], some 1000, 3, 10000, true⟩

/-- The first transaction is answered with the status 503. -/
def unavailable : Answers Query Reply
  | 1, .submitRefund .. => .error ⟨some (503, none, []), false, false⟩
  | _, q => kind [] q

end Sample

/-- There are two transactions, and they make the same payment. -/
theorem refund_retry_discipline_sample :
    (horizonLog (refundWithoutLedger Sample.refundArgs) Sample.unavailable
      .initial).filterMap Exchange.fee? = [100, 100] ∧
    ∃ stroops, Disciplined ['u'] stroops 10000 3 baseFee
      (horizonLog (refundWithoutLedger Sample.refundArgs) Sample.unavailable .initial)
      ((refundWithoutLedger Sample.refundArgs).play Sample.unavailable .initial).1 :=
  ⟨by decide +kernel, refund_retry_discipline ⟨Sample.refundArgs, by decide⟩ _ _⟩

/-- The second attempt is accepted, and the first one may have landed. -/
theorem refund_paid_twice :
    ((horizonLog (refundWithoutLedger Sample.refundArgs) Sample.unavailable .initial).filter
      Exchange.mayLand).length = 2 := by
  decide +kernel

end WaffleFinance.Relayer

import WaffleFinance.Relayer.Turns

/-!
# Runs of the relayer

The rule by which the invariants of the relayer are proved.  What a run keeps is a property of the
core of the state and of the queries that are pending; one shows that each turn of `Turn`, and each
crash, keeps it, possibly under a condition on what happens (`TurnsKeep`).

That the turns are all there is depends on `Calm` and on the claims of the manual refunds that wait
(`Claims`).  This holds in all runs, as does `Accounts`; `relayer_invariant` carries both along with
every other invariant.
-/

namespace WaffleFinance.Relayer

open Lib

lemma answered_add (q : Query) (r : Reply q) (qs : Multiset Query) :
    (.answer q r : RelayerCause).answered + qs = q ::ₘ qs :=
  Multiset.singleton_add q qs

/-! ### Queries of the different kinds -/

/-- The release that waits for the verification of its payment. -/
def Query.verifies : Query → Option Release
  | .fetchPayment r => some r
  | _ => none

/-- The order of which a manual refund waits. -/
def Query.refunding : Query → Option Text
  | .fetchRefunded refund => some refund.orderId
  | _ => none

def Query.submitsRefund : Query → Bool
  | .submitRefund .. => true
  | _ => false

section

variable {q : Query}

lemma refunding_of_plain (h : q.plain = true) : q.refunding = none := by
  cases q <;> simp_all [Query.plain, Query.refunding]

lemma refunding_of_deal {d : Deal} (h : q.deal = some d) : q.refunding = none := by
  cases q <;> simp_all [Query.deal, Query.refunding]

lemma refunding_of_found {m : Match} (h : q.found = some m) : q.refunding = none := by
  cases q <;> simp_all [Query.found, Query.refunding]

lemma submitsRefund_of_deal {d : Deal} (h : q.deal = some d) : q.submitsRefund = false := by
  cases q <;> simp_all [Query.deal, Query.submitsRefund]

lemma deal_of_found {m : Match} (h : q.found = some m) : q.deal = none := by
  cases q <;> simp_all [Query.found, Query.deal]

lemma submitsRefund_of_found {m : Match} (h : q.found = some m) : q.submitsRefund = false := by
  cases q <;> simp_all [Query.found, Query.submitsRefund]

lemma deal_of_plain (h : q.plain = true) : q.deal = none := by
  cases q <;> simp_all [Query.plain, Query.deal]

lemma submitsRefund_of_plain (h : q.plain = true) : q.submitsRefund = false := by
  cases q <;> simp_all [Query.plain, Query.submitsRefund]

lemma mem_asked {o : Option Query} {qs : Multiset Query} :
    q ∈ (o.toList : Multiset Query) + qs ↔ o = some q ∨ q ∈ qs := by
  simp [Multiset.mem_add, Option.mem_toList]

lemma asked_some (q : Query) (qs : Multiset Query) :
    ((some q).toList : Multiset Query) + qs = q ::ₘ qs :=
  Multiset.singleton_add q qs

lemma asked_none (qs : Multiset Query) :
    ((none : Option Query).toList : Multiset Query) + qs = qs :=
  zero_add qs

lemma countP_asked_eq_zero {o : Option Query} {p : Query → Prop} [DecidablePred p]
    (h : ∀ q, o = some q → ¬ p q) : (o.toList : Multiset Query).countP p = 0 := by
  rw [Multiset.countP_eq_zero]
  intro q hq
  exact h q (by simpa [Option.mem_toList] using hq)

end

/-! ### Claims -/

/-- The ledger of refunds has claims only; a manual refund that waits holds one, and no two hold
the same. -/
structure Claims (k : Core) (qs : Multiset Query) : Prop where
  calm : ∀ orderId, k.refunds orderId = none ∨ k.refunds orderId = some .inFlight
  held : ∀ q ∈ qs, ∀ orderId, q.refunding = some orderId → k.refunds orderId = some .inFlight
  once : ∀ orderId, qs.countP (fun q => q.refunding = some orderId) ≤ 1

namespace Claims

variable {k k' : Core} {qs ans : Multiset Query} {o : Option Query}

/-- Answers that are not waited for any more. -/
lemma of_add (h : Claims k (ans + qs)) : Claims k qs where
  calm := h.calm
  held q hq := h.held q (Multiset.mem_add.2 (Or.inr hq))
  once orderId := by
    have hle := h.once orderId
    rw [Multiset.countP_add] at hle
    omega

/-- A turn without a claim. -/
lemma of_same (h : Claims k (ans + qs)) (hk : k'.refunds = k.refunds)
    (ho : ∀ q, o = some q → q.refunding = none) : Claims k' ((o.toList : Multiset Query) + qs) where
  calm := hk ▸ h.calm
  held q hq orderId hid := by
    rcases mem_asked.1 hq with hq | hq
    · rw [ho q hq] at hid
      cases hid
    · rw [hk]
      exact h.of_add.held q hq orderId hid
  once orderId := by
    rw [Multiset.countP_add, countP_asked_eq_zero (fun q hq => by simp [ho q hq]), zero_add]
    exact h.of_add.once orderId

lemma of_claim (h : Claims k qs) {refund : Refund} (hfree : k.refunds refund.orderId = none)
    (hk : k'.refunds = Function.update k.refunds refund.orderId (some .inFlight)) :
    Claims k' (.fetchRefunded refund ::ₘ qs) where
  calm := by
    rw [hk]
    exact (Function.forall_update_iff k.refunds fun _ e => e = none ∨ e = some .inFlight).2
      ⟨Or.inr rfl, fun orderId _ => h.calm orderId⟩
  held q hq orderId hid := by
    rw [hk]
    by_cases hrefund : orderId = refund.orderId
    · subst hrefund
      simp
    rw [Function.update_of_ne hrefund]
    rcases Multiset.mem_cons.1 hq with rfl | hq
    · exact absurd (Option.some.inj hid).symm hrefund
    · exact h.held q hq orderId hid
  once orderId := by
    rw [Multiset.countP_cons]
    by_cases hid : refund.orderId = orderId
    · -- whoever waits holds a claim, and there was none
      have hnone : qs.countP (fun q => q.refunding = some orderId) = 0 := by
        rw [Multiset.countP_eq_zero]
        intro q hq hrefunding
        have hheld := h.held q hq orderId hrefunding
        rw [← hid, hfree] at hheld
        cases hheld
      rw [hnone]
      split <;> omega
    · rw [if_neg (by simpa [Query.refunding] using hid)]
      exact h.once orderId

lemma of_release {refund : Refund} (h : Claims k (.fetchRefunded refund ::ₘ qs))
    (hk : k'.refunds = Function.update k.refunds refund.orderId none) : Claims k' qs where
  calm := by
    rw [hk]
    exact (Function.forall_update_iff k.refunds fun _ e => e = none ∨ e = some .inFlight).2
      ⟨Or.inl rfl, fun orderId _ => h.calm orderId⟩
  held q hq orderId hid := by
    -- the claim that is given back was held by one process only
    have hne : orderId ≠ refund.orderId := by
      rintro rfl
      have hone := h.once refund.orderId
      have hself : (Query.fetchRefunded refund).refunding = some refund.orderId := rfl
      rw [Multiset.countP_cons, if_pos hself] at hone
      have hpos : 0 < qs.countP (fun q => q.refunding = some refund.orderId) :=
        Multiset.countP_pos.2 ⟨q, hq, hid⟩
      omega
    rw [hk, Function.update_of_ne hne]
    exact h.held q (Multiset.mem_cons_of_mem hq) orderId hid
  once orderId := by
    have hle := h.once orderId
    rw [Multiset.countP_cons] at hle
    omega

variable {s : State}

/-- Every turn keeps the claims. -/
lemma turn {c : Config} {cause : RelayerCause}
    (h : Claims s.core (cause.answered + qs)) (hturn : Turn c cause s o k) :
    Claims k ((o.toList : Multiset Query) + qs) := by
  have hplain (ho : Plain o) (hk : k.refunds = s.core.refunds) :
      Claims k ((o.toList : Multiset Query) + qs) :=
    h.of_same hk fun q hq => refunding_of_plain (ho q hq)
  cases hturn with
  | idle hcause ho => exact hplain ho rfl
  | asked req r | sent | funded => exact h.of_same rfl (by rintro q ⟨rfl⟩; rfl)
  | received req r order reqNet _ _ _ _ ho =>
    rcases ho with rfl | ⟨rfl, -⟩
    · exact hplain plain_none rfl
    · exact h.of_same rfl (by rintro q ⟨rfl⟩; rfl)
  | consumed r key p entry _ _ _ ho =>
    rcases ho with rfl | ⟨rfl, -⟩
    · exact h.of_same rfl (by rintro q ⟨rfl⟩; rfl)
    · exact hplain plain_none rfl
  | advanced q' d _ hq' => exact h.of_same rfl (by rintro q ⟨rfl⟩; exact refunding_of_deal hq')
  | relabelled _ _ _ _ _ ho => exact hplain ho rfl
  | matched _ _ _ _ _ _ _ ho =>
    rcases ho with ⟨rfl, -⟩ | ho
    · exact h.of_same rfl (by rintro q ⟨rfl⟩; rfl)
    · exact hplain ho rfl
  | funding q' m _ hq' => exact h.of_same rfl (by rintro q ⟨rfl⟩; exact refunding_of_found hq')
  | fundingEnded _ _ _ _ ho => exact hplain ho rfl
  | claimed req refund hfree => exact h.of_add.of_claim hfree rfl
  | unclaimed refund =>
    rw [answered_add] at h
    rw [asked_none]
    exact h.of_release rfl
  | _ => exact hplain plain_none rfl

/-- An answer that nobody hears. -/
lemma lose {q : Query} {r : Reply q} (h : Claims s.core (q ::ₘ qs)) :
    Claims (effect q r s).core qs := by
  have hledger : (effect q r s).core.refunds = s.core.refunds := by
    show (effect q r s).refundLedger = s.refundLedger
    unfold effect
    split <;> rfl
  rw [← Multiset.singleton_add] at h
  have hqs := h.of_add
  exact ⟨hledger ▸ hqs.calm, hledger ▸ hqs.held, hqs.once⟩

/-- A claim lives in memory only. -/
lemma restart (h : Claims s.core qs) : Claims s.restart.core 0 := by
  refine ⟨fun orderId => Or.inl ?_, by simp, by simp⟩
  show s.refundLedger.reload orderId = none
  rcases h.calm orderId with hentry | hentry <;>
    simp [RefundLedger.reload, show s.refundLedger orderId = _ from hentry]

/-- With the claims in order every process is bound to its turns. -/
lemma ready (h : Claims s.core qs) : ready none s ∧ ∀ q ∈ qs, ready (some q) s := by
  refine ⟨h.calm, ?_⟩
  intro q hq
  cases q with
  | fetchRefunded refund => exact ⟨h.calm, h.held _ hq refund.orderId rfl⟩
  | _ => exact h.calm

end Claims

/-! ### Accounts -/

/-- A payment to the relayer, from the account that was expected, has been found. -/
def Deal.Verified (c : Config) (d : Deal) : Prop :=
  ∃ network key fetched, c.stellarAccount network = some key ∧
    verifyIncomingStellarPayment key d.release.expectedSourceAccount fetched = .ok d.payment

/-- ETH goes out only against payments that were verified and consumed, and no XLM goes back. -/
structure Accounts (c : Config) (k : Core) (qs : Multiset Query) : Prop where
  pending : ∀ q ∈ qs, ∀ d, q.deal = some d → d ∈ k.taken
  released : ∀ x ∈ k.payouts, ∀ d, x.deal = some d → d ∈ k.taken
  consumed : ∀ d ∈ k.taken, k.proofs d.release.stellarTxHash ≠ none
  marked : ∀ stellarTxHash, k.proofs stellarTxHash ≠ none →
    ∃ d ∈ k.taken, d.release.stellarTxHash = stellarTxHash
  verified : ∀ d ∈ k.taken, d.Verified c
  noRefund : ∀ x ∈ k.payouts, x.isRefund = false
  quiet : ∀ q ∈ qs, q.submitsRefund = false

namespace Accounts

variable {c : Config} {k k' : Core} {qs ans : Multiset Query} {o : Option Query}

/-- A query that may be pending. -/
def Fits (k : Core) (o : Option Query) : Prop :=
  ∀ q, o = some q → (∀ d, q.deal = some d → d ∈ k.taken) ∧ q.submitsRefund = false

lemma fits_plain (h : Plain o) : Fits k o := by
  intro q hq
  have hplain := h q hq
  refine ⟨fun d hd => ?_, submitsRefund_of_plain hplain⟩
  rw [deal_of_plain hplain] at hd
  cases hd

variable {q : Query}

lemma fits_deal {d : Deal} (h : q.deal = some d) (hd : d ∈ k.taken) : Fits k (some q) := by
  rintro _ ⟨rfl⟩
  refine ⟨fun d' hd' => ?_, submitsRefund_of_deal h⟩
  rw [h] at hd'
  exact Option.some.inj hd' ▸ hd

lemma fits_other (h : q.deal = none) (hq : q.submitsRefund = false) : Fits k (some q) := by
  rintro _ ⟨rfl⟩
  refine ⟨fun d hd => ?_, hq⟩
  rw [h] at hd
  cases hd

lemma of_add (h : Accounts c k (ans + qs)) : Accounts c k qs :=
  { h with
    pending := fun q hq => h.pending q (Multiset.mem_add.2 (Or.inr hq))
    quiet := fun q hq => h.quiet q (Multiset.mem_add.2 (Or.inr hq)) }

lemma ask (h : Accounts c k qs) (ho : Fits k o) :
    Accounts c k ((o.toList : Multiset Query) + qs) :=
  { h with
    pending := by
      intro q hq
      rcases mem_asked.1 hq with hq | hq
      · exact (ho q hq).1
      · exact h.pending q hq
    quiet := by
      intro q hq
      rcases mem_asked.1 hq with hq | hq
      · exact (ho q hq).2
      · exact h.quiet q hq }

/-- Nothing is consumed and nothing paid. -/
lemma same (h : Accounts c k (ans + qs)) (hpayouts : k'.payouts = k.payouts)
    (htaken : k'.taken = k.taken) (hproofs : k'.proofs = k.proofs) (ho : Fits k o) :
    Accounts c k' ((o.toList : Multiset Query) + qs) := by
  have hasked := h.of_add.ask ho
  exact ⟨htaken ▸ hasked.pending, hpayouts ▸ htaken ▸ hasked.released,
    hproofs ▸ htaken ▸ hasked.consumed, hproofs ▸ htaken ▸ hasked.marked,
    htaken ▸ hasked.verified, hpayouts ▸ hasked.noRefund, hasked.quiet⟩

lemma consume (h : Accounts c k qs) {d : Deal} {entry : ConsumedProof} (hd : d.Verified c)
    (htaken : k'.taken = k.taken ++ [d]) (hpayouts : k'.payouts = k.payouts)
    (hproofs : k'.proofs = Function.update k.proofs d.release.stellarTxHash (some entry)) :
    Accounts c k' qs := by
  have hmem {d' : Deal} (hd' : d' ∈ k.taken) : d' ∈ k'.taken := by
    rw [htaken]
    exact List.mem_append_left _ hd'
  have hcases {d' : Deal} (hd' : d' ∈ k'.taken) : d' ∈ k.taken ∨ d' = d := by
    simpa [htaken] using hd'
  refine ⟨fun q hq d' hd' => hmem (h.pending q hq d' hd'), ?_, ?_, ?_, ?_,
    hpayouts ▸ h.noRefund, h.quiet⟩
  · rw [hpayouts]
    exact fun x hx d' hd' => hmem (h.released x hx d' hd')
  · intro d' hd'
    rw [hproofs]
    by_cases hhash : d'.release.stellarTxHash = d.release.stellarTxHash
    · simp [hhash]
    rw [Function.update_of_ne hhash]
    rcases hcases hd' with hd' | rfl
    · exact h.consumed d' hd'
    · exact absurd rfl hhash
  · intro stellarTxHash hmarked
    by_cases hhash : stellarTxHash = d.release.stellarTxHash
    · exact ⟨d, by simp [htaken], hhash.symm⟩
    · rw [hproofs, Function.update_of_ne hhash] at hmarked
      obtain ⟨d', hd', hhash'⟩ := h.marked stellarTxHash hmarked
      exact ⟨d', hmem hd', hhash'⟩
  · intro d' hd'
    rcases hcases hd' with hd' | rfl
    · exact h.verified d' hd'
    · exact hd

lemma pay (h : Accounts c k qs) {x : Payout} (hx : ∀ d, x.deal = some d → d ∈ k.taken)
    (hrefund : x.isRefund = false) (hpayouts : k'.payouts = k.payouts ++ [x])
    (htaken : k'.taken = k.taken) (hproofs : k'.proofs = k.proofs) : Accounts c k' qs where
  pending := htaken ▸ h.pending
  released y hy d hd := by
    rw [htaken]
    rw [hpayouts, List.mem_append, List.mem_singleton] at hy
    rcases hy with hy | rfl
    · exact h.released y hy d hd
    · exact hx d hd
  consumed := hproofs ▸ htaken ▸ h.consumed
  marked := hproofs ▸ htaken ▸ h.marked
  verified := htaken ▸ h.verified
  noRefund y hy := by
    rw [hpayouts, List.mem_append, List.mem_singleton] at hy
    rcases hy with hy | rfl
    · exact h.noRefund y hy
    · exact hrefund
  quiet := h.quiet

lemma mem_taken {reply : Reply q} {d : Deal} (hq : q.deal = some d)
    (h : Accounts c k ((.answer q reply : RelayerCause).answered + qs)) : d ∈ k.taken :=
  h.pending q (by simp [Cause.answered]) d hq

/-- Every turn keeps the accounts. -/
lemma turn {cause : RelayerCause} {s : State}
    (h : Accounts c s.core (cause.answered + qs)) (hturn : Turn c cause s o k) :
    Accounts c k ((o.toList : Multiset Query) + qs) := by
  cases hturn with
  | idle hcause ho | relabelled _ _ _ _ _ ho | fundingEnded _ _ _ _ ho =>
    exact h.same rfl rfl rfl (fits_plain ho)
  | asked req r | claimed req refund hfree => exact h.same rfl rfl rfl (fits_other rfl rfl)
  | received req r order reqNet _ _ _ _ ho =>
    rcases ho with rfl | ⟨rfl, -⟩
    · exact h.same rfl rfl rfl (fits_plain plain_none)
    · exact h.same rfl rfl rfl (fits_other rfl rfl)
  | consumed r key p entry hkey hverify _ ho =>
    obtain ⟨network, hkey⟩ := hkey
    have hverified : Deal.Verified c ⟨r, p⟩ := ⟨network, key, _, hkey, hverify⟩
    refine ask (h.of_add.consume hverified rfl rfl rfl) ?_
    rcases ho with rfl | ⟨rfl, -⟩
    · exact fits_deal rfl (List.mem_append_right _ (List.mem_singleton_self _))
    · exact fits_plain plain_none
  | advanced q' d hq hq' => exact h.same rfl rfl rfl (fits_deal hq' (mem_taken hq h))
  | sent d wei txHash =>
    have hd : d ∈ s.core.taken := mem_taken rfl h
    refine ask (h.of_add.pay ?_ rfl rfl rfl rfl) (fits_other rfl rfl)
    rintro _ ⟨rfl⟩
    exact hd
  | sentXlmToEth d wei txHash =>
    have hd : d ∈ s.core.taken := mem_taken rfl h
    refine ask (h.of_add.pay ?_ rfl rfl rfl rfl) (fits_plain plain_none)
    rintro _ ⟨rfl⟩
    exact hd
  | matched _ _ _ _ _ _ _ ho =>
    rcases ho with ⟨rfl, -⟩ | ho
    · exact h.same rfl rfl rfl (fits_other rfl rfl)
    · exact h.same rfl rfl rfl (fits_plain ho)
  | funding q' m _ hq' =>
    exact h.same rfl rfl rfl (fits_other (deal_of_found hq') (submitsRefund_of_found hq'))
  | funded m wei txHash =>
    exact ask (h.of_add.pay (fun d hd => by cases hd) rfl rfl rfl rfl) (fits_other rfl rfl)
  | _ => exact h.same rfl rfl rfl (fits_plain plain_none)

/-- An answer that nobody hears. -/
lemma lose {s : State} {r : Reply q} (h : Accounts c s.core (q ::ₘ qs)) :
    Accounts c (effect q r s).core qs := by
  have hqs : Accounts c s.core qs := by
    rw [← Multiset.singleton_add] at h
    exact h.of_add
  cases q with
  | ethSend d wei =>
    have hd : d ∈ s.core.taken := h.pending _ (Multiset.mem_cons_self _ _) d rfl
    cases r with
    | none => exact hqs
    | some txHash =>
      refine hqs.pay ?_ rfl rfl rfl rfl
      rintro _ ⟨rfl⟩
      exact hd
  | htlcCreate m wei =>
    cases r with
    | none => exact hqs
    | some txHash => exact hqs.pay (fun d hd => by cases hd) rfl rfl rfl rfl
  | submitRefund refund stroops fee =>
    have hquiet := h.quiet _ (Multiset.mem_cons_self _ _)
    simp [Query.submitsRefund] at hquiet
  | _ => exact hqs

/-- The ledger of consumed payments is on disk. -/
lemma restart {s : State} (h : Accounts c s.core 0) : Accounts c s.restart.core 0 :=
  ⟨h.pending, h.released, h.consumed, h.marked, h.verified, h.noRefund, h.quiet⟩

end Accounts

/-! ### The rule -/

/-- Each turn that is `allowed`, and each crash that is, keeps `I`. -/
structure TurnsKeep (c : Config) (allowed : Option RelayerCause → State → Multiset Query → Prop)
    (I : Core → Multiset Query → Prop) : Prop where
  turn : ∀ {cause : RelayerCause} {s : State} {qs : Multiset Query} {o : Option Query} {k : Core},
    Accounts c s.core (cause.answered + qs) →
      I s.core (cause.answered + qs) →
        allowed (some cause) s (cause.answered + qs) → Turn c cause s o k →
          I k ((o.toList : Multiset Query) + qs)
  crash : ∀ {s s' : State} {qs : Multiset Query}, Accounts c s.core qs → I s.core qs →
    allowed none s qs → (relayer c).Orphaned qs s s' → I s'.restart.core 0

section

variable {c : Config} {allowed : Option RelayerCause → State → Multiset Query → Prop}
  {I : Core → Multiset Query → Prop}

/-- The relayer after the first `n` events of a run. -/
def pool (c : Config) (es : List (Event Query Reply Request)) (n : ℕ) :
    Pool State Query Reply (Option Response) :=
  (relayer c).poolAt State.initial es n

/-- Every step of the run meets the condition. -/
def EachStep (c : Config) (allowed : Option RelayerCause → State → Multiset Query → Prop)
    (es : List (Event Query Reply Request)) : Prop :=
  ∀ n e x, es[n]? = some e → (pool c es n).stimulus e = some x →
    allowed x (pool c es n).state (pool c es n).pending

/-- What is carried along. -/
def Carried (c : Config) (I : Core → Multiset Query → Prop) (s : State) (qs : Multiset Query) :
    Prop :=
  Claims s.core qs ∧ Accounts c s.core qs ∧ I s.core qs

lemma TurnsKeep.carried (h : TurnsKeep c allowed I) {cause : RelayerCause} {s s' : State}
    {qs : Multiset Query} {o : Option Query}
    (hI : Carried c I s (cause.answered + qs))
    (hallowed : allowed (some cause) s (cause.answered + qs))
    (hturn : Turn c cause s o s'.core) : Carried c I s' ((o.toList : Multiset Query) + qs) := by
  obtain ⟨hclaims, haccounts, hI⟩ := hI
  exact ⟨hclaims.turn hturn, haccounts.turn hturn, h.turn haccounts hI hallowed hturn⟩

lemma TurnsKeep.keeps (h : TurnsKeep c allowed I) :
    Contract.Keeps (relayer c) (contract c) allowed (Carried c I) where
  ready hI := hI.1.ready
  start {r s s' qs o} hI hallowed hturn := by
    have hzero : qs = (.start r : RelayerCause).answered + qs := (zero_add qs).symm
    rw [hzero] at hI hallowed
    exact h.carried hI hallowed hturn
  answer {q r s s' qs o} hI hallowed hturn := by
    rw [← answered_add q r] at hI hallowed
    exact h.carried hI hallowed hturn
  crash {s s' qs} hI hallowed horphaned := by
    obtain ⟨hclaims, haccounts, hI⟩ := hI
    have hclaims' : Claims s'.core 0 :=
      horphaned.preserves (I := fun s qs => Claims s.core qs) Claims.lose hclaims
    have haccounts' : Accounts c s'.core 0 :=
      horphaned.preserves (I := fun s qs => Accounts c s.core qs) Accounts.lose haccounts
    exact ⟨hclaims'.restart, haccounts'.restart, h.crash haccounts hI hallowed horphaned⟩

/-- An invariant of the turns holds in every state of every run whose steps are allowed. -/
theorem relayer_invariant (h : TurnsKeep c allowed I) (hinitial : I State.initial.core 0)
    {es : List (Event Query Reply Request)} (hes : EachStep c allowed es) (n : ℕ) :
    Accounts c (pool c es n).state.core (pool c es n).pending ∧
      I (pool c es n).state.core (pool c es n).pending := by
  have hclaims : Claims State.initial.core 0 := ⟨fun _ => Or.inl rfl, by simp, by simp⟩
  have haccounts : Accounts c State.initial.core 0 := by
    refine ⟨by simp, ?_, ?_, ?_, ?_, ?_, by simp⟩ <;> simp [State.initial, State.core]
  exact (System.invariant code_meets h.keeps ⟨hclaims, haccounts, hinitial⟩ hes n).2

end

/-! ### A run to evaluate -/

namespace Sample

/-- An order of 5 XLM from `u`, with the ETH to go to `a`. -/
def order : CreateRequest where
  fromChain := some ['s']
  toChain := some ['e']
  fromToken := some ['X']
  toToken := some ['E']
  amount := some (.number 5)
  ethAddress := some ['a']
  stellarAddress := some ['u']
  direction := some .xlmToEth
  random := ['r']

def orderId : Text := orderIdOf 0 order.random

/-- The request to release the ETH for the order. -/
def claim : XlmToEthRequest where
  orderId := some orderId
  stellarTxHash := some ['h']
  stellarAddress := some ['u']
  ethAddress := some ['a']

def answerTo (i : ℕ) : Event Query Reply Request := .answer i (kind (memoOf orderId))

/-- The latest query is answered. -/
def respond : Event Query Reply Request := answerTo 0

/-- The order is created, and both routes are asked to release its ETH.  The answer comes to
`/xlm-to-eth` first, then to `/process`. -/
def settled : List (Event Query Reply Request) :=
  [.start (.create order), respond, .start (.xlmToEth claim),
    .start (.process { orderId := some orderId, stellarTxHash := some ['h'] }), answerTo 1,
    answerTo 1, respond, respond, respond]

def release : Release where
  route := .xlmToEth
  orderId := orderId
  stellarTxHash := ['h']
  expectedSourceAccount := some ['u']
  ethAddress := some ['a']
  direction := some .xlmToEth
  exchangeRate := some 10

def deal : Deal where
  release := release
  payment := ⟨1, 50000000, ['u'], 100, some (memoOf orderId)⟩

def heard (q : Query) : RelayerCause := .answer q (kind (memoOf orderId) q)

/-- The causes of the turns of `settled`. -/
def causes : List RelayerCause :=
  [.start (.create order), heard (.prices orderId .xlmToEth), .start (.xlmToEth claim),
    .start (.process { orderId := some orderId, stellarTxHash := some ['h'] }),
    heard (.fetchPayment release), heard (.fetchPayment { release with route := .process }),
    heard (.coordinator deal), heard (.ethBalance deal), heard (.ethSend deal 500000000000000000)]

lemma stimulus_settled {n i : ℕ} {q : Query} (hn : settled[n]? = some (answerTo i))
    (hq : (pool config settled n).asked[i]? = some q) {e : Event Query Reply Request}
    (he : settled[n]? = some e) : (pool config settled n).stimulus e = some (some (heard q)) := by
  rw [hn] at he
  cases he
  exact Pool.stimulus_answer hq _

/-- What `settled` has to meet at its steps. -/
lemma eachStep_settled {allowed : Option RelayerCause → State → Multiset Query → Prop}
    (h : ∀ n cause, causes[n]? = some cause →
      allowed (some cause) (pool config settled n).state (pool config settled n).pending) :
    EachStep config allowed settled := by
  intro n e x he hx
  have hcause : ∃ cause, causes[n]? = some cause ∧
      (pool config settled n).stimulus e = some (some cause) := by
    match n, he with
    | 0, he | 2, he | 3, he => exact ⟨_, rfl, by rw [← Option.some.inj he]; rfl⟩
    | 1, he | 4, he | 5, he | 6, he | 7, he | 8, he =>
      exact ⟨_, rfl, stimulus_settled rfl (by decide +kernel) he⟩
    | n + 9, he => cases he
  obtain ⟨cause, hn, hstimulus⟩ := hcause
  rw [hstimulus] at hx
  cases hx
  exact h n cause hn

end Sample

end WaffleFinance.Relayer

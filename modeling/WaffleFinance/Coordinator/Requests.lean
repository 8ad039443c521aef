import WaffleFinance.Coordinator.EventSpec
import WaffleFinance.Coordinator.SecretService

/-!
# All requests at once

Everything the coordinator does for orders and secrets, as requests that run at once, and the calls
of the repository that they make.

Whatever is to be shown about all of them is asked of the jobs alone: `Admits` is a protocol that
lets every other call pass, and `AdmitsSecrets` says which jobs the requests start.
-/

namespace WaffleFinance.Coordinator

open Lib OrdersRepository Store

/-! ### Requests -/

/-- The service records no secret on behalf of the caller. -/
def OrderRequest.withoutSecret : OrderRequest → Bool
  | .run (.recordSecret ..) => false
  | _ => true

/-- What the coordinator does: the service for orders, and every way on which a preimage comes in.
A listener is given what it remembers. -/
inductive SecretRequest where
  | order (r : OrderRequest) (withoutSecret : r.withoutSecret = true)
  | reveal (publicId preimage txHash : Text) (nonce : Nonce)
  | get (publicId : Text) (nonce : Nonce)
  | recoverFromEthereumLogs (logs : List EthClaimed)
  | reconcile (nodes : Reconciler.Nodes) (cursors : Option Reconciler.Cursors)
  | sorobanListener (cache : List SorobanListener.Key) (ev : SorobanEvent) (path : WorkflowPath)
  | solanaListener (cache : List Text) (tx : SolanaTx)

/-- A listener is told of a claim. -/
def SecretRequest.hearsClaim : SecretRequest → Bool
  | sorobanListener _ ev _ =>
    match ev.decoded with
    | some (.claimed ..) => true
    | _ => false
  | solanaListener _ tx => tx.eventType = some .orderClaimed
  | _ => false

section Code

variable (service : SecretService) (aes : Aes) (hashes : Hashes)

def SecretRequest.code : SecretRequest → Serve Unit
  | order r _ => r.code
  | reveal publicId preimage txHash nonce =>
    service.reveal aes hashes publicId preimage txHash nonce
  | get publicId nonce => do
    let _ ← service.get aes publicId nonce
    pure ()
  | recoverFromEthereumLogs logs => do
    let _ ← SecretReconciler.recoverFromEthereumLogs hashes logs
    pure ()
  | reconcile nodes cursors => do
    let _ ← Reconciler.run hashes nodes cursors
    pure ()
  | sorobanListener cache ev path => do
    let _ ← SorobanListener.processSorobanEvent cache ev path
    pure ()
  | solanaListener cache tx => do
    let _ ← SolanaListener.handleLogs cache tx
    pure ()

/-- What happens to the coordinator. -/
abbrev SecretEventLog := List (Event Call (fun _ => Fate) SecretRequest)

/-- The pool of requests after `n` events. -/
abbrev secretPool (d : Db) (es : SecretEventLog) (n : ℕ) :=
  (Store.server (SecretRequest.code service aes hashes)).poolAt d es n

end Code

/-! ### What a call does to a secret -/

/-- The columns for the secret are the same. -/
structure OrderRow.SameSecret (r r' : OrderRow) : Prop where
  hashlock : r'.hashlock = r.hashlock
  preimage : r'.preimage = r.preimage
  version : r'.preimageEncVersion = r.preimageEncVersion

/-- What a call can do to the secret of an order. -/
inductive SecretStep (q : Call) (p : Text) : Option OrderRow → OrderRow → Prop
  | kept {r r' : OrderRow} (same : r.SameSecret r') : SecretStep q p (some r) r'
  | stored {r r' seen : OrderRow} {preimage txHash : Text} {encVersion : Option ℕ}
      (call_eq : q = .commit (.recordSecret p preimage txHash encVersion) seen)
      (hashlock_eq : r'.hashlock = r.hashlock) (preimage_eq : r'.preimage = some preimage)
      (version_eq : r'.preimageEncVersion = encVersion) : SecretStep q p (some r) r'
  | announced {input : AnnounceOrderInput} (call_eq : q = .announce input) :
      SecretStep q p none input.row

/-- Only one kind of write touches the secret. -/
lemma Mutation.sameSecret_row (m : Mutation) (r : OrderRow) :
    r.SameSecret (m.row r) ∨ ∃ input, m = .recordSecretRevealed input ∧
      (m.row r).hashlock = r.hashlock ∧ (m.row r).preimage = some input.preimage ∧
      (m.row r).preimageEncVersion = input.encVersion := by
  cases m with
  | recordSecretRevealed input =>
    by_cases hkept : isTerminal r.status ∨ r.preimage = some input.preimage ∨
        ¬ encVersionAllowed input.encVersion
    · refine Or.inl ?_
      show r.SameSecret (secretRow input r)
      unfold secretRow
      rw [if_pos hkept]
      exact ⟨rfl, rfl, rfl⟩
    refine Or.inr ⟨input, rfl, ?_⟩
    show (secretRow input r).hashlock = _ ∧ (secretRow input r).preimage = _ ∧
      (secretRow input r).preimageEncVersion = _
    unfold secretRow
    rw [if_neg hkept]
    exact ⟨rfl, rfl, rfl⟩
  | setStatus p status actor expected =>
    refine Or.inl ?_
    show r.SameSecret (setStatusRow _ _ r)
    unfold setStatusRow
    split_ifs <;> exact ⟨rfl, rfl, rfl⟩
  | recordSrcLock input | recordDstLock input =>
    refine Or.inl ?_
    show r.SameSecret (lockRow _ r)
    unfold lockRow
    split_ifs <;> exact ⟨rfl, rfl, rfl⟩
  | rollbackSrcLock p actor | rollbackDstLock p actor =>
    refine Or.inl ?_
    show r.SameSecret (rollbackRow _ r)
    unfold rollbackRow
    split_ifs <;> exact ⟨rfl, rfl, rfl⟩
  | _ =>
    refine Or.inl ?_
    show r.SameSecret (withdrawRow _ r)
    unfold withdrawRow
    split_ifs <;> exact ⟨rfl, rfl, rfl⟩

lemma secretStep {q : Call} {fate : Fate} {d : Db} {p : Text} {r' : OrderRow}
    (hr' : (repository.run q fate d).2.orders.get p = some r') :
    SecretStep q p (d.orders.get p) r' := by
  have hstep := rowStep q fate d p
  rw [hr'] at hstep
  generalize d.orders.get p = before at hstep
  cases hstep with
  | same => exact .kept ⟨rfl, rfl, rfl⟩
  | @mutated m r hm hid =>
    rcases m.sameSecret_row r with hsame | ⟨input, rfl, hhashlock, hpreimage, hversion⟩
    · exact .kept hsame
    cases q <;> simp only [Call.mutation, Option.some.injEq, reduceCtorEq] at hm
    case commit job seen =>
      cases job <;> cases hm
      obtain rfl := hid
      exact .stored rfl hhashlock hpreimage hversion
  | advanced r chain position =>
    cases chain <;> exact .kept ⟨rfl, rfl, rfl⟩
  | announced hcall => exact .announced hcall

/-! ### Protocols that look at jobs -/

/-- A protocol that asks something of a job when it is started, depending on the state in which the
call before it was made. -/
structure Admits {Req : Type} (P : Store.Protocol Db Call Fate Req) (J : Db → Job → Prop) :
    Prop where
  plain : ∀ {c s q}, (∀ job, q ≠ .check job) → (∀ job r, q ≠ .commit job r) → P c s (some q)
  check : ∀ {c s job}, J s job → P c s (some (.check job))
  commit : ∀ {fate s job r}, s.orders.get job.publicId = some r → job.verdict r = .proceed →
    P (.answer (.check job) fate) s (some (.commit job r))
  last : ∀ {c s}, P c s none

lemma Admits.mono {Req : Type} {P P' : Store.Protocol Db Call Fate Req} {J : Db → Job → Prop}
    (h : Admits P J) (hP : ∀ {c s o}, P c s o → P' c s o) : Admits P' J :=
  ⟨fun hcheck hcommit => hP (h.plain hcheck hcommit), fun hjob => hP (h.check hjob),
    fun hget hverdict => hP (h.commit hget hverdict), hP h.last⟩

/-- What the requests start, the listeners apart: a preimage that fits the hashlock of the order, as
it is or under the key for writing, or a blob for an order that has a preimage. -/
structure AdmitsSecrets (service : SecretService) (aes : Aes) (hashes : Hashes)
    (J : Db → Job → Prop) : Prop where
  other : ∀ {s job}, job.leg ≠ some .secret → J s job
  found : ∀ {s p r preimage txHash}, s.orders.get p = some r →
    validatePreimage hashes preimage r.hashlock = true → J s (.recordSecret p preimage txHash none)
  revealed : ∀ {s p r preimage txHash nonce}, s.orders.get p = some r →
    validatePreimage hashes preimage r.hashlock = true →
    J s (.recordSecret p (service.stored aes preimage nonce).1 txHash
      (service.stored aes preimage nonce).2)
  rekeyed : ∀ {s p r key plaintext txHash nonce}, s.orders.get p = some r → r.preimage ≠ none →
    key ∈ service.encKeys →
    J s (.recordSecret p (encryptSecret aes plaintext key nonce) txHash (some 1))

/-- A write comes right after a read that has passed the checks, and a job is started only where `J`
holds. -/
structure Supervised {Req : Type} (J : Db → Job → Prop) (c : CallCause Req) (s : Db)
    (o : Option Call) : Prop where
  commit : ∀ {job r}, o = some (.commit job r) → ∃ fate, c = .answer (.check job) fate ∧
    s.orders.get job.publicId = some r ∧ job.verdict r = .proceed
  check : ∀ {job}, o = some (.check job) → J s job

lemma admits_supervised {Req : Type} (J : Db → Job → Prop) :
    Admits (@Supervised Req J) J where
  plain hcheck hcommit :=
    ⟨fun h => absurd (Option.some.inj h) (hcommit _ _),
      fun h => absurd (Option.some.inj h) (hcheck _)⟩
  check hjob := by
    refine ⟨nofun, ?_⟩
    rintro _ ⟨⟩
    exact hjob
  commit {fate _ _ _} hget hverdict := by
    refine ⟨?_, nofun⟩
    rintro _ _ ⟨⟩
    exact ⟨fate, rfl, hget, hverdict⟩
  last := ⟨nofun, nofun⟩

/-- A call that neither starts a job nor ends one. -/
def Call.plain : Call → Bool
  | .check _ | .commit _ _ => false
  | _ => true

section Admits

variable {Req : Type} {P : Store.Protocol Db Call Fate Req} {J : Db → Job → Prop}
  {service : SecretService} {aes : Aes} {hashes : Hashes} {c : CallCause Req} {s : Db}

lemma Admits.heeds_plain (hP : Admits P J) {q : Call} (hq : q.plain = true) :
    repository.Heeds P (call q) :=
  heeds_call fun _ _ => hP.plain (by rintro _ rfl; cases hq) (by rintro _ _ rfl; cases hq)

lemma Admits.issues_run (hP : Admits P J) {job : Job} (hjob : J s job) :
    repository.Issues P (fun _ _ _ => True) (fun _ _ _ => True) (OrderService.run job) c s := by
  refine issues_bind (issues_call (hP.check hjob) ?_ fun _ _ _ _ => trivial)
  intro fate s o ho
  obtain rfl := run_check_ok ho
  cases hget : s.orders.get job.publicId with
  | none => exact (issues_throw _).2 trivial
  | some r =>
    dsimp only
    cases hverdict : job.verdict r with
    | ignore => exact (issues_pure _).2 trivial
    | refuse m => exact (issues_throw _).2 trivial
    | proceed =>
      refine issues_bind
        (issues_call (hP.commit hget hverdict) ?_ fun _ _ _ _ => trivial)
      intro fate' s' _ _
      cases job.cursor r with
      | none => exact (issues_pure _).2 trivial
      | some cursor => exact hP.heeds_plain rfl _ _

lemma Admits.heeds_run (hP : Admits P J) {job : Job} (hjob : ∀ s, J s job) :
    repository.Heeds P (OrderService.run job) :=
  fun _ s => hP.issues_run (hjob s)

lemma Admits.issues_find (hP : Admits P J) (l : Lookup) :
    repository.Issues P (fun _ s o => o = l.first s) (fun _ _ _ => True) l.find c s := by
  have hread : ∀ {q : Call} (f : Db → q.Result), (∀ job, q ≠ .check job) →
      (∀ job r, q ≠ .commit job r) → q.program = .statement (fun d => .ok (f d, d)) →
      repository.Issues P (fun _ s a => a = f s) (fun _ _ _ => True) (call q) c s := by
    intro q f hcheck hcommit hprogram
    exact issues_call (hP.plain hcheck hcommit) (fun _ _ _ ha => run_read_ok hprogram ha)
      fun _ _ _ _ => trivial
  cases l with
  | byHashlock hashlock =>
    exact @hread (.findByHashlock hashlock) (fun d => Lookup.first d (.byHashlock hashlock))
      (by simp) (by simp) rfl
  | bySrcOrderId chain orderId =>
    exact @hread (.findBySrcOrderId chain orderId)
      (fun d => Lookup.first d (.bySrcOrderId chain orderId)) (by simp) (by simp) rfl

lemma Admits.heeds_find (hP : Admits P J) (l : Lookup) : repository.Heeds P l.find :=
  fun _ _ => (hP.issues_find l).mono (fun _ => trivial) fun h => h

lemma Admits.heeds_advanceOrderCursor (hP : Admits P J) (p : Text) (chain : Chain) (position : ℕ) :
    repository.Heeds P (advanceOrderCursor p chain position) := by
  unfold advanceOrderCursor
  split
  · exact heeds_pure ()
  · exact hP.heeds_plain rfl

end Admits

/-! ### Every request starts only such jobs -/

section Heeds

variable {Req : Type} {P : Store.Protocol Db Call Fate Req} {J : Db → Job → Prop}
  {service : SecretService} {aes : Aes} {hashes : Hashes} {c : CallCause Req} {s : Db}
  (hP : Admits P J) (hJ : AdmitsSecrets service aes hashes J)

namespace Handling

include hP

lemma heeds_claim (h : Handling) : repository.Heeds P h.claim := by
  unfold Handling.claim
  split
  · exact heeds_pure ()
  · exact heeds_bind (hP.heeds_plain rfl) fun _ => heeds_pure ()

lemma heeds_finish (h : Handling) (p : Text) (position : ℕ) :
    repository.Heeds P (h.finish p position) :=
  heeds_bind (hP.heeds_advanceOrderCursor p h.chain position) fun _ =>
    heeds_bind (heeds_claim hP h) fun _ => heeds_pure false

variable {h : Handling} {last : Option EventKey}

omit hP in
include hJ in
lemma admits_plan (hh : h.Standard hashes last) {p : Text} {r : OrderRow}
    (hget : s.orders.get p = some r) {position : ℕ} {j : Job}
    (hplan : h.plan p r position = .apply j) : J s j := by
  cases hh with
  | created _ _ _ lock =>
    obtain ⟨input, -, rfl⟩ := createdHandling_plan hplan
    exact hJ.other (by simp [Job.leg])
  | claimed _ _ _ preimage txHash =>
    have hplan' : (if validatePreimage hashes preimage r.hashlock then
      Plan.apply (.recordSecret p preimage txHash none) else .pass) = Plan.apply j := hplan
    split at hplan'
    · rename_i hvalid
      obtain rfl := Plan.apply.inj hplan'
      exact hJ.found hget hvalid
    · cases hplan'
  | refunded =>
    obtain rfl := refundedHandling_plan hplan
    exact hJ.other (by simp [Job.leg])

include hJ

lemma issues_dispatch (hh : h.Standard hashes last) {p : Text} {r : OrderRow}
    (hget : s.orders.get p = some r) (position : ℕ) :
    repository.Issues P (fun _ _ _ => True) (fun _ _ _ => True) (h.dispatch p r position) c s := by
  unfold Handling.dispatch
  split
  · exact heeds_bind (heeds_claim hP h) (fun _ => heeds_pure false) c s
  split
  · cases hplan : h.plan p r position with
    | drop => exact (issues_pure _).2 trivial
    | pass => exact heeds_finish hP h p position c s
    | apply j =>
      refine issues_bind ((hP.issues_run (admits_plan hJ hh hget hplan)).mono
        (fun {c s _} _ => ?_) fun h => h)
      exact heeds_bind (hP.heeds_advanceOrderCursor p h.chain position) (fun _ =>
        heeds_bind (heeds_claim hP h) fun _ => heeds_pure true) c s
  · exact heeds_finish hP h p position c s

lemma heeds_replay (hh : h.Standard hashes last) : repository.Heeds P h.replay := by
  refine heeds_tryCatch (fun c s => issues_bind ((hP.issues_find h.lookup).mono
    (fun {c s found} hfound => ?_) fun h => h)) fun e => ?_
  · cases found with
    | none => exact (issues_pure _).2 trivial
    | some order =>
      dsimp only
      cases h.position with
      | none => exact (issues_pure _).2 trivial
      | some position => exact issues_dispatch hP hJ hh (get_of_first hfound.symm) position
  · unfold Handling.excuse
    split
    · cases h.position with
      | none => exact heeds_pure false
      | some position =>
        refine heeds_bind (hP.heeds_find _) fun found => ?_
        cases found with
        | none => exact heeds_pure false
        | some order => exact heeds_finish hP h _ _
    · exact heeds_pure false

end Handling

namespace Reconciler

include hP hJ

lemma heeds_replayEach {entries : List Entry}
    (h : ∀ e ∈ entries, e.handling.Standard hashes none) (seen : EventSeenSet) (n : ℕ) :
    repository.Heeds P (replayEach entries seen n) := by
  induction entries generalizing seen n with
  | nil => exact heeds_pure _
  | cons e rest ih =>
    have hrest := ih fun e' he' => h e' (List.mem_cons_of_mem e he')
    unfold replayEach
    rcases seen.checkAndMark e.key e.semKey with ⟨_ | kind, seen'⟩
    · refine heeds_bind (heeds_bind (hP.heeds_plain rfl)
        fun claimed => ?_) fun applied => hrest _ _
      cases claimed with
      | false => exact heeds_pure false
      | true => exact Handling.heeds_replay hP hJ (h e List.mem_cons_self)
    · exact hrest _ _

lemma heeds_replaySorobanPages (pages : List (List SorobanEvent)) (eventIndex : ℕ)
    (seen : EventSeenSet) (n : ℕ) :
    repository.Heeds P (replaySorobanPages hashes pages eventIndex seen n) := by
  induction pages generalizing eventIndex seen n with
  | nil => exact heeds_pure _
  | cons page rest ih =>
    have hentries : ∀ e ∈ pageEntries hashes page eventIndex,
        e.handling.Standard hashes none := by
      intro e he
      obtain ⟨p, -, hp⟩ := List.mem_filterMap.1 he
      exact SorobanEvent.standard_entry hp
    refine heeds_bind (hP.heeds_plain rfl) fun _ =>
      heeds_bind (heeds_replayEach hP hJ hentries _ _) fun r => ?_
    dsimp only
    split
    · exact heeds_pure _
    · exact ih _ _ _

lemma heeds_replaySolana (fromSlot toSlot : ℕ) (txs : List SolanaTx) (seen : EventSeenSet) :
    repository.Heeds P (replaySolana hashes fromSlot toSlot txs seen) := by
  induction txs generalizing seen with
  | nil => exact heeds_pure ()
  | cons tx rest ih =>
    unfold replaySolana
    split
    · exact ih _
    refine heeds_bind (heeds_tryCatch (heeds_bind
      (hP.heeds_plain rfl) fun _ => heeds_pure true)
      fun _ => heeds_pure false) fun fetched => ?_
    cases fetched with
    | false => exact ih _
    | true =>
      cases hentry : tx.entry hashes with
      | none => exact ih _
      | some e =>
        obtain ⟨key, hstandard⟩ := SolanaTx.standard_entry hentry
        dsimp only
        rcases seen.checkAndMark e.key e.semKey with ⟨_ | kind, seen'⟩
        · exact heeds_bind (heeds_tryCatch (Handling.heeds_replay hP hJ hstandard)
            fun _ => heeds_pure false) fun _ => ih _
        · exact ih _

omit hJ in
lemma heeds_computeFrom (chain : Chain) (tip lookback : ℕ) :
    repository.Heeds P (computeFrom chain tip lookback) :=
  heeds_bind (hP.heeds_plain rfl) fun _ =>
    heeds_bind (hP.heeds_plain rfl) fun _ => heeds_pure _

lemma heeds_reconcileEthereum (node : EthNode) :
    repository.Heeds P (reconcileEthereum hashes node) := by
  have hrpc : repository.Heeds P (call .rpc) := hP.heeds_plain rfl
  have hfilter : ∀ {α : Type} {entry : α → Option Entry} {logs : List α},
      (∀ {log e}, entry log = some e → e.handling.Standard hashes none) →
      ∀ e ∈ logs.filterMap entry, e.handling.Standard hashes none := by
    intro α entry logs hentry e he
    obtain ⟨log, -, hlog⟩ := List.mem_filterMap.1 he
    exact hentry hlog
  refine heeds_bind hrpc fun _ => heeds_bind (heeds_computeFrom hP _ _ _) fun _ =>
    heeds_bind hrpc fun _ => heeds_bind hrpc fun _ => heeds_bind hrpc fun _ =>
      heeds_bind ?_ fun _ =>
        heeds_bind (hP.heeds_plain rfl) fun _ => heeds_pure _
  exact heeds_bind (heeds_replayEach hP hJ (hfilter EthCreated.standard_entry) _ _) fun _ =>
    heeds_bind (heeds_replayEach hP hJ (hfilter EthClaimed.standard_entry) _ _) fun _ =>
      heeds_bind (heeds_replayEach hP hJ (hfilter EthRefunded.standard_entry) _ _) fun _ =>
        heeds_pure _

lemma heeds_reconcileSoroban (hwm : ℕ) (node : SorobanNode) :
    repository.Heeds P (reconcileSoroban hashes hwm node) := by
  refine heeds_bind (hP.heeds_plain rfl) fun _ => ?_
  dsimp only
  split
  · exact heeds_pure _
  · exact heeds_bind (heeds_replaySorobanPages hP hJ _ _ _ _) fun _ =>
      heeds_bind (hP.heeds_plain rfl) fun _ => heeds_pure _

lemma heeds_reconcileSolana (hwm : ℕ) (node : SolanaNode) :
    repository.Heeds P (reconcileSolana hashes hwm node) := by
  refine heeds_bind (hP.heeds_plain rfl) fun _ => ?_
  dsimp only
  split
  · exact heeds_pure _
  exact heeds_bind (hP.heeds_plain rfl) fun _ =>
    heeds_bind (heeds_computeFrom hP _ _ _) fun _ =>
      heeds_bind (hP.heeds_plain rfl) fun _ =>
        heeds_bind (heeds_replaySolana hP hJ _ _ _ _) fun _ =>
          heeds_bind (hP.heeds_plain rfl) fun _ => heeds_pure _

lemma heeds_reconciler_run (nodes : Nodes) (cursors : Option Cursors) :
    repository.Heeds P (run hashes nodes cursors) := by
  have hchains : ∀ cursors : Cursors, repository.Heeds P (do
      let _ ← tryCatch (reconcileEthereum hashes nodes.ethereum) fun _ => pure 0
      let soroban ← tryCatch (reconcileSoroban hashes cursors.soroban nodes.soroban)
        fun _ => pure cursors.soroban
      let solana ← tryCatch (reconcileSolana hashes cursors.solana nodes.solana)
        fun _ => pure cursors.solana
      pure ⟨soroban, solana⟩ : Serve Cursors) := fun cursors =>
    heeds_bind (heeds_tryCatch (heeds_reconcileEthereum hP hJ _)
      fun _ => heeds_pure _) fun _ =>
    heeds_bind (heeds_tryCatch (heeds_reconcileSoroban hP hJ _ _)
      fun _ => heeds_pure _) fun _ =>
    heeds_bind (heeds_tryCatch (heeds_reconcileSolana hP hJ _ _)
      fun _ => heeds_pure _) fun _ => heeds_pure _
  cases cursors with
  | some cursors => exact hchains cursors
  | none =>
    refine heeds_bind ?_ hchains
    exact heeds_bind (hP.heeds_plain rfl) fun _ =>
      heeds_bind (hP.heeds_plain rfl) fun _ =>
        heeds_bind (hP.heeds_plain rfl) fun _ => heeds_pure _

end Reconciler

namespace SecretService

lemma mem_of_writeKey {key : StorageKey} (h : service.writeKey = some key) :
    key ∈ service.encKeys :=
  List.mem_of_mem_head? h

include hP

/-- `get` of an order gives the row that is there. -/
lemma issues_call_get (p : Text) :
    repository.Issues P (fun _ s o => o = s.orders.get p) (fun _ _ _ => True) (call (.get p)) c
      s := by
  exact issues_call (hP.plain (by simp) (by simp)) (fun _ _ _ ho => run_get_ok ho)
    fun _ _ _ _ => trivial

include hJ

lemma heeds_reveal (p preimage txHash : Text) (nonce : Nonce) :
    repository.Heeds P (service.reveal aes hashes p preimage txHash nonce) := by
  intro c s
  refine issues_bind ((issues_call_get hP p).mono (fun {c s order} horder => ?_) fun h => h)
  cases order with
  | none => exact (issues_throw _).2 trivial
  | some order =>
    dsimp only
    split
    · exact (issues_throw _).2 trivial
    rename_i hvalid
    refine issues_tryCatch ((hP.issues_run (hJ.revealed horder.symm ?_)).mono
      (fun h => h) fun _ => (issues_throw _).2 trivial)
    simpa using hvalid

lemma issues_reencryptStoredSecret {p plaintext : Text} {order : OrderRow} {nonce : Nonce}
    (hget : s.orders.get p = some order) (hsome : order.preimage ≠ none) :
    repository.Issues P (fun _ _ _ => True) (fun _ _ _ => True)
      (service.reencryptStoredSecret aes p plaintext order nonce) c s := by
  unfold SecretService.reencryptStoredSecret
  cases hkey : service.writeKey with
  | none => exact (issues_pure _).2 trivial
  | some key =>
    refine issues_tryCatch ((hP.issues_run ?_).mono (fun h => h)
      fun _ => (issues_pure _).2 trivial)
    exact hJ.rekeyed hget hsome (mem_of_writeKey hkey)

lemma issues_decryptWith {p blob : Text} {order : OrderRow} {nonce : Nonce}
    (hget : s.orders.get p = some order) (hsome : order.preimage ≠ none)
    (keys : List StorageKey) (rotate : Bool) (lastError : Text) :
    repository.Issues P (fun _ _ _ => True) (fun _ _ _ => True)
      (service.decryptWith aes p blob order nonce keys rotate lastError) c s := by
  induction keys generalizing rotate lastError with
  | nil => exact (issues_throw _).2 trivial
  | cons key keys ih =>
    unfold SecretService.decryptWith
    cases decryptSecret aes blob key with
    | error message => exact ih true message
    | ok plaintext =>
      cases rotate with
      | false => exact (issues_pure _).2 trivial
      | true =>
        refine issues_bind ((issues_reencryptStoredSecret hP hJ hget hsome).mono
          (fun _ => ?_) fun h => h)
        exact (issues_pure _).2 trivial

lemma heeds_get (p : Text) (nonce : Nonce) : repository.Heeds P (service.get aes p nonce) := by
  intro c s
  refine issues_bind ((issues_call_get hP p).mono (fun {c s order} horder => ?_) fun h => h)
  cases order with
  | none => exact (issues_pure _).2 trivial
  | some order =>
    dsimp only
    cases hpreimage : truthy order.preimage with
    | none => exact (issues_pure _).2 trivial
    | some blob =>
      have hsome : order.preimage ≠ none := by
        intro hnone
        rw [hnone] at hpreimage
        cases hpreimage
      dsimp only
      split
      · exact (issues_pure _).2 trivial
      split
      · exact (issues_throw _).2 trivial
      · refine issues_bind ((issues_decryptWith hP hJ horder.symm hsome _ _ _).mono
          (fun _ => ?_) fun h => h)
        exact (issues_pure _).2 trivial

end SecretService

namespace SecretReconciler

include hP hJ

lemma heeds_recoverOneOrder (orderId preimage txHash : Text) :
    repository.Heeds P (recoverOneOrder hashes orderId preimage txHash) := by
  intro c s
  refine issues_bind ((hP.issues_find (.bySrcOrderId .ethereum orderId)).mono
    (fun {c s found} hfound => ?_) fun h => h)
  cases found with
  | none => exact (issues_pure _).2 trivial
  | some order =>
    dsimp only
    split
    · exact (issues_pure _).2 trivial
    split
    · exact (issues_pure _).2 trivial
    rename_i hvalid
    have hjob : J s (.recordSecret order.1 preimage txHash none) :=
      hJ.found (get_of_first hfound.symm) (by simpa using hvalid)
    refine issues_tryCatch (issues_bind ((hP.issues_run hjob).mono
      (fun _ => (issues_pure _).2 trivial) fun _ => ?_))
    split
    · exact (issues_pure _).2 trivial
    · exact (issues_pure _).2 trivial

lemma heeds_recoverFromEthereumLogs (logs : List EthClaimed) :
    repository.Heeds P (recoverFromEthereumLogs hashes logs) := by
  have heach : ∀ claims, repository.Heeds P (recoverEach hashes claims) := by
    intro claims
    induction claims with
    | nil => exact heeds_pure _
    | cons claim claims ih =>
      exact heeds_bind (heeds_recoverOneOrder hP hJ _ _ _) fun _ =>
        heeds_bind ih fun _ => heeds_pure _
  refine heeds_bind (heeds_tryCatch (heeds_bind
    (hP.heeds_plain rfl) fun _ => heeds_pure true)
    fun _ => heeds_pure false) fun fetched => ?_
  cases fetched with
  | false => exact heeds_pure _
  | true => exact heach _

end SecretReconciler

include hP hJ

lemma heeds_expireEach (orders : List (Text × OrderRow)) (count : ℕ) :
    repository.Heeds P (OrderService.expireEach orders count) := by
  induction orders generalizing count with
  | nil => exact heeds_pure _
  | cons order orders ih =>
    have hmark : repository.Heeds P (OrderService.markStatus order.1 .expired) :=
      hP.heeds_run fun _ => hJ.other (by simp [Job.leg])
    unfold OrderService.expireEach
    split
    · exact ih _
    split
    · exact ih _
    · exact heeds_bind (heeds_tryCatch (heeds_bind hmark
        fun _ => heeds_pure true) fun _ => heeds_pure false) fun _ => ih _

lemma OrderRequest.heeds_code (r : OrderRequest) (h : r.withoutSecret = true) :
    repository.Heeds P r.code := by
  cases r with
  | announce input =>
    refine heeds_bind (heeds_bind (hP.heeds_plain rfl)
      fun found => ?_) fun _ => heeds_pure ()
    cases found with
    | none => exact hP.heeds_plain rfl
    | some order => exact heeds_throw _
  | run job =>
    cases job with
    | recordSecret => cases h
    | recordSrcLock input | recordDstLock input =>
      exact hP.heeds_run fun _ => hJ.other (by simp [Job.leg])
    | markStatus p status => exact hP.heeds_run fun _ => hJ.other (by simp [Job.leg])
  | expireStaleOrders now =>
    exact heeds_bind (heeds_bind (hP.heeds_plain rfl) fun _ =>
      heeds_expireEach hP hJ _ _) fun _ => heeds_pure ()
  | _ => exact hP.heeds_plain rfl

/-! ### The listeners -/

omit hJ in
lemma Watch.heeds_handle {w : Watch} (hw : ∀ s p, J s (w.job p)) :
    repository.Heeds P w.handle := by
  have hfind : ∀ ls, repository.Heeds P (findAny ls) := by
    intro ls
    induction ls with
    | nil => exact heeds_pure none
    | cons l ls ih =>
      refine heeds_bind (hP.heeds_find l) fun found => ?_
      cases found with
      | none => exact ih
      | some order => exact heeds_pure _
  refine heeds_tryCatch (heeds_bind (hfind _) fun found => ?_)
    fun _ => heeds_pure _
  cases found with
  | none => exact heeds_pure _
  | some order =>
    dsimp only
    split
    · exact heeds_bind (hP.heeds_run fun s => hw s _) fun _ => heeds_pure _
    · exact heeds_pure _

lemma SorobanListener.heeds_processSorobanEvent (cache : List SorobanListener.Key)
    (ev : SorobanEvent) (path : WorkflowPath)
    (hheard : (SecretRequest.sorobanListener cache ev path).hearsClaim = true →
      ∀ s p preimage txHash, J s (.recordSecret p preimage txHash none)) :
    repository.Heeds P (SorobanListener.processSorobanEvent cache ev path) := by
  unfold SorobanListener.processSorobanEvent
  cases hkw : SorobanListener.decode ev path with
  | none => exact heeds_pure _
  | some kw =>
    have hjob : ∀ s p, J s (kw.2.job p) := by
      unfold SorobanListener.decode at hkw
      split at hkw
      · cases hkw
      obtain ⟨decoded, hdecoded, rfl⟩ := Option.map_eq_some_iff.1 hkw
      intro s p
      cases decoded with
      | created => exact hJ.other (by simp [SorobanListener.watch, createdWatch, Job.leg])
      | refunded => exact hJ.other (by simp [SorobanListener.watch, refundedWatch, Job.leg])
      | claimed =>
        exact hheard (by simp only [SecretRequest.hearsClaim, hdecoded]) s p _ _
    dsimp only
    split
    · exact heeds_pure _
    · refine heeds_bind (Watch.heeds_handle hP hjob) fun outcome => ?_
      cases outcome <;> exact heeds_pure _

lemma SolanaListener.heeds_handleLogs (cache : List Text) (tx : SolanaTx)
    (hheard : (SecretRequest.solanaListener cache tx).hearsClaim = true →
      ∀ s p preimage txHash, J s (.recordSecret p preimage txHash none)) :
    repository.Heeds P (SolanaListener.handleLogs cache tx) := by
  unfold SolanaListener.handleLogs
  split
  · exact heeds_pure _
  cases hw : SolanaListener.watch tx with
  | none => exact heeds_pure _
  | some w =>
    have hjob : ∀ s p, J s (w.job p) := by
      obtain ⟨eventType, htype, hw⟩ := Option.bind_eq_some_iff.1 hw
      intro s p
      cases eventType with
      | orderCreated =>
        obtain ⟨hashlock, -, hw⟩ := Option.bind_eq_some_iff.1 hw
        obtain ⟨orderId, -, hw⟩ := Option.bind_eq_some_iff.1 hw
        obtain ⟨timelock, -, hw⟩ := Option.bind_eq_some_iff.1 hw
        cases hw
        exact hJ.other (by simp [createdWatch, Job.leg])
      | orderClaimed =>
        obtain ⟨preimage, -, hw⟩ := Option.bind_eq_some_iff.1 hw
        obtain ⟨orderId, -, hw⟩ := Option.bind_eq_some_iff.1 hw
        cases hw
        exact hheard (decide_eq_true htype) s p _ _
      | orderRefunded =>
        obtain ⟨orderId, -, hw⟩ := Option.bind_eq_some_iff.1 hw
        cases hw
        exact hJ.other (by simp [refundedWatch, Job.leg])
    refine heeds_bind (Watch.heeds_handle hP hjob) fun outcome => ?_
    cases outcome <;> exact heeds_pure _

/-- Every request, if the listeners may store what they are told. -/
lemma SecretRequest.heeds_code (r : SecretRequest)
    (hheard : r.hearsClaim = true →
      ∀ s p preimage txHash, J s (.recordSecret p preimage txHash none)) :
    repository.Heeds P (r.code service aes hashes) := by
  cases r with
  | order r h => exact OrderRequest.heeds_code hP hJ r h
  | reveal p preimage txHash nonce =>
    exact SecretService.heeds_reveal hP hJ p preimage txHash nonce
  | get p nonce =>
    exact heeds_bind (SecretService.heeds_get hP hJ p nonce) fun _ => heeds_pure ()
  | recoverFromEthereumLogs logs =>
    exact heeds_bind (SecretReconciler.heeds_recoverFromEthereumLogs hP hJ logs) fun _ =>
      heeds_pure ()
  | reconcile nodes cursors =>
    exact heeds_bind (Reconciler.heeds_reconciler_run hP hJ nodes cursors) fun _ =>
      heeds_pure ()
  | sorobanListener cache ev path =>
    exact heeds_bind (SorobanListener.heeds_processSorobanEvent hP hJ cache ev path hheard)
      fun _ => heeds_pure ()
  | solanaListener cache tx =>
    exact heeds_bind (SolanaListener.heeds_handleLogs hP hJ cache tx hheard) fun _ =>
      heeds_pure ()

end Heeds

end WaffleFinance.Coordinator

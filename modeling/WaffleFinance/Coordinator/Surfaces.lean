import WaffleFinance.Coordinator.ReadBack

/-!
# Where a secret is shown

A client can read the preimage of an order in four places: with the order, in the history of an
address, in the event that tells of the secret, and from the service for secrets.  The first three
show the column as it is; only the last one knows about encryption.
-/

namespace WaffleFinance.Coordinator

open Lib OrdersRepository
open Multiset (mem_cons_self mem_cons_of_mem mem_add mem_cons notMem_zero)

/-! ### The four places -/

/-- The secret in what the routes for orders return. -/
structure SecretBlock where
  revealed : Bool
  preimage : Option Text
  revealedTx : Option Text

/-- The part of `serialiseOrder` that is about the secret. -/
def serialiseSecret (order : OrderRow) : SecretBlock where
  revealed := order.preimage ≠ none
  preimage := order.preimage
  revealedTx := order.secretRevealedTx

/-- The event that is sent to the subscribers of an order. -/
structure SecretRevealedData where
  orderId : Text
  preimage : Text
  revealedTx : Option Text

def buildSecretRevealedPayload (orderId preimage : Text) (revealedTx : Option Text) :
    SecretRevealedData :=
  ⟨orderId, preimage, revealedTx⟩

/-- `recordSecret` sends the event when its write has come back without an error. -/
def broadcastOf {Req : Type} (s : Db) : CallCause Req → Option SecretRevealedData
  | .answer (.commit (.recordSecret publicId preimage txHash encVersion) seen) fate =>
    match (repository.run (.commit (.recordSecret publicId preimage txHash encVersion) seen)
        fate s).1 with
    | .ok _ => some (buildSecretRevealedPayload publicId preimage (some txHash))
    | .error _ => none
  | _ => none

section Shows

variable (service : SecretService) (aes : Aes) (hashes : Hashes) (d : Db) (es : SecretEventLog)

/-- After `n` events one of the places shows this preimage for the order.  A page of the history can
be from the cache, and the event was sent earlier. -/
inductive Shows (p : Text) : ℕ → Text → Prop
  | order {n : ℕ} {r : OrderRow} {v : Text}
      (get_eq : (secretPool service aes hashes d es n).state.orders.get p = some r)
      (preimage_eq : (serialiseSecret r).preimage = some v) : Shows p n v
  | history {m n : ℕ} {r : OrderRow} {v : Text} (earlier : m ≤ n)
      (get_eq : (secretPool service aes hashes d es m).state.orders.get p = some r)
      (preimage_eq : (serialiseSecret r).preimage = some v) : Shows p n v
  | event {m n : ℕ} {e : Event Call (fun _ => Fate) SecretRequest} {c : CallCause SecretRequest}
      {data : SecretRevealedData} (earlier : m < n) (event_eq : es[m]? = some e)
      (stimulus_eq : (secretPool service aes hashes d es m).stimulus e = some (some c))
      (broadcast_eq : broadcastOf (secretPool service aes hashes d es m).state c = some data)
      (orderId_eq : data.orderId = p) : Shows p n data.preimage
  | secret {n : ℕ} {nonce : Nonce} {rs : Answers Call fun _ => Fate} {v : Text}
      (get_eq : (Process.play (service.get aes p nonce).run rs
        (secretPool service aes hashes d es n).state).1 = .ok (some v)) : Shows p n v

end Shows

/-! ### What can be shown -/

/-- `0x` and hexadecimal digits, as the routes ask for. -/
def isHexText : Text → Bool
  | '0' :: 'x' :: digits => digits ≠ [] && digits.all fun c => (hexValue c).isSome
  | _ => false

/-- The text can be shown as it is to whoever wants to claim the other leg. -/
structure Plain (hashes : Hashes) (v : Text) (encVersion : Option ℕ) (hashlock : Text) : Prop where
  version : encVersion = none
  hex : isHexText v = true
  valid : validatePreimage hashes v hashlock = true

instance plainDecidable (hashes : Hashes) (v : Text) (encVersion : Option ℕ) (hashlock : Text) :
    Decidable (Plain hashes v encVersion hashlock) :=
  decidable_of_iff (encVersion = none ∧ isHexText v = true ∧
      validatePreimage hashes v hashlock = true)
    ⟨fun h => ⟨h.1, h.2.1, h.2.2⟩, fun h => ⟨h.version, h.hex, h.valid⟩⟩

/-- A secret that the job stores can be shown. -/
def Job.Shown (hashes : Hashes) : Job → OrderRow → Prop
  | .recordSecret _ v _ encVersion, r => Plain hashes v encVersion r.hashlock
  | _, _ => True

instance Job.shownDecidable (hashes : Hashes) :
    (job : Job) → (r : OrderRow) → Decidable (job.Shown hashes r)
  | .recordSecret _ v _ encVersion, r => plainDecidable hashes v encVersion r.hashlock
  | .recordSrcLock _, _ => inferInstanceAs (Decidable True)
  | .recordDstLock _, _ => inferInstanceAs (Decidable True)
  | .markStatus _ _, _ => inferInstanceAs (Decidable True)

/-- A secret that passes the checks can be shown and nobody waits to write another one; the order is
not at its end when a secret is written. -/
def Presentable {Req : Type} (hashes : Hashes) (x : Option (CallCause Req)) (s : Db)
    (qs : Multiset Call) : Prop :=
  (∀ job ∈ checkOf x, job.leg = some .secret → ∀ r ∈ s.orders.get job.publicId,
    job.verdict r = .proceed →
      job.Shown hashes r ∧ ∀ q ∈ qs, ∀ job' ∈ q.writes, ¬ Rivals job job') ∧
  ∀ w ∈ commitOf x, w.1.leg = some .secret → ∀ r ∈ s.orders.get w.1.publicId,
    isTerminal r.status = false

instance presentableDecidable {Req : Type} (hashes : Hashes) (x : Option (CallCause Req)) (s : Db)
    (qs : Multiset Call) : Decidable (Presentable hashes x s qs) :=
  inferInstanceAs (Decidable ((∀ job ∈ checkOf x, job.leg = some .secret →
    ∀ r ∈ s.orders.get job.publicId, job.verdict r = .proceed →
      job.Shown hashes r ∧ ∀ q ∈ qs, ∀ job' ∈ q.writes, ¬ Rivals job job') ∧
    ∀ w ∈ commitOf x, w.1.leg = some .secret → ∀ r ∈ s.orders.get w.1.publicId,
      isTerminal r.status = false))

/-- Every preimage that is stored or about to be stored can be shown, and nobody waits to replace
one. -/
structure Presented (hashes : Hashes) (s : Db) (qs : Multiset Call) : Prop where
  stored : ∀ {p r v}, s.orders.get p = some r → r.preimage = some v →
    Plain hashes v r.preimageEncVersion r.hashlock
  written : ∀ {p v txHash encVersion seen},
    Call.commit (.recordSecret p v txHash encVersion) seen ∈ qs →
      ∃ r, s.orders.get p = some r ∧ Plain hashes v encVersion r.hashlock ∧
        ∀ v', r.preimage = some v' → v' = v
  agreed : ∀ {p v txHash encVersion seen v' txHash' encVersion' seen'},
    Call.commit (.recordSecret p v txHash encVersion) seen ∈ qs →
    Call.commit (.recordSecret p v' txHash' encVersion') seen' ∈ qs → v = v'

/-! ### One call -/

section Step

variable {hashes : Hashes} {s : Db} {q : Call} {qs : Multiset Call} {fate : Fate} {p v : Text}
  {r r' : OrderRow}

namespace Presented

lemma preimage_run (h : Presented hashes s (q ::ₘ qs)) (hget : s.orders.get p = some r)
    (hv : r.preimage = some v) (hget' : (repository.run q fate s).2.orders.get p = some r') :
    r'.preimage = some v := by
  have hstep := secretStep hget'
  rw [hget] at hstep
  cases hstep with
  | kept hsame => rw [hsame.preimage, hv]
  | stored hcall _ hpreimage _ =>
    subst hcall
    obtain ⟨r₀, hget₀, -, hsame⟩ := h.written (mem_cons_self _ _)
    obtain rfl := Option.some.inj (hget.symm.trans hget₀)
    rw [hpreimage, hsame v hv]

lemma plain_run (h : Presented hashes s (q ::ₘ qs))
    (hget' : (repository.run q fate s).2.orders.get p = some r') (hv : r'.preimage = some v) :
    Plain hashes v r'.preimageEncVersion r'.hashlock := by
  have hstep := secretStep hget'
  generalize hbefore : s.orders.get p = before at hstep
  cases hstep with
  | kept hsame =>
    rw [hsame.version, hsame.hashlock]
    exact h.stored hbefore (hsame.preimage ▸ hv)
  | stored hcall hhashlock hpreimage hversion =>
    subst hcall
    obtain ⟨r₀, hget₀, hplain, -⟩ := h.written (mem_cons_self _ _)
    obtain rfl := Option.some.inj (hbefore.symm.trans hget₀)
    obtain rfl := Option.some.inj (hpreimage.symm.trans hv)
    rwa [hversion, hhashlock]
  | announced => cases hv

/-- After a call that has its turn. -/
lemma run (h : Presented hashes s (q ::ₘ qs)) (fate : Fate) :
    Presented hashes (repository.run q fate s).2 qs where
  stored hget hv := h.plain_run hget hv
  written {p v txHash encVersion seen} hmem := by
    obtain ⟨r, hget, hplain, hsame⟩ := h.written (mem_cons_of_mem hmem)
    cases hafter : (repository.run q fate s).2.orders.get p with
    | none =>
      have hstep := rowStep q fate s p
      rw [hget, hafter] at hstep
      cases hstep
    | some r' =>
      have hstep := secretStep hafter
      rw [hget] at hstep
      cases hstep with
      | kept hkept =>
        refine ⟨r', rfl, hkept.hashlock ▸ hplain, fun v' hv' => hsame v' ?_⟩
        rw [← hkept.preimage, hv']
      | stored hcall hhashlock hpreimage _ =>
        subst hcall
        refine ⟨r', rfl, hhashlock ▸ hplain, fun v' hv' => ?_⟩
        obtain rfl := Option.some.inj (hpreimage.symm.trans hv')
        exact h.agreed (mem_cons_self _ _) (mem_cons_of_mem hmem)
  agreed hmem hmem' := h.agreed (mem_cons_of_mem hmem) (mem_cons_of_mem hmem')

/-- Somebody asks who does not want to write a secret. -/
lemma ask (h : Presented hashes s qs) {o : Option Call}
    (ho : ∀ p v txHash encVersion seen,
      o ≠ some (.commit (.recordSecret p v txHash encVersion) seen)) :
    Presented hashes s ((o.toList : Multiset Call) + qs) := by
  have hold : ∀ {p v txHash encVersion seen},
      Call.commit (.recordSecret p v txHash encVersion) seen ∈ (o.toList : Multiset Call) + qs →
        Call.commit (.recordSecret p v txHash encVersion) seen ∈ qs := by
    intro p v txHash encVersion seen hmem
    exact (mem_issued.1 hmem).resolve_left (ho p v txHash encVersion seen)
  exact ⟨h.stored, fun hmem => h.written (hold hmem),
    fun hmem hmem' => h.agreed (hold hmem) (hold hmem')⟩

/-- Somebody wants to write a secret that can be shown, and has no rivals. -/
lemma commit (h : Presented hashes s qs) {txHash : Text} {encVersion : Option ℕ}
    (hget : s.orders.get p = some r) (hnone : r.preimage = none)
    (hplain : Plain hashes v encVersion r.hashlock)
    (hrivals : ∀ v' txHash' encVersion' seen',
      Call.commit (.recordSecret p v' txHash' encVersion') seen' ∈ qs → v = v') :
    Presented hashes s (.commit (.recordSecret p v txHash encVersion) r ::ₘ qs) where
  stored := h.stored
  written {p' v' txHash' encVersion' seen'} hmem := by
    rcases mem_cons.1 hmem with heq | hmem
    · obtain ⟨hjob, -⟩ := Call.commit.inj heq
      obtain ⟨rfl, rfl, rfl, rfl⟩ := Job.recordSecret.inj hjob
      refine ⟨r, hget, hplain, fun v'' hv'' => ?_⟩
      rw [hnone] at hv''
      cases hv''
    · exact h.written hmem
  agreed {p' v₁ txHash₁ encVersion₁ seen₁ v₂ txHash₂ encVersion₂ seen₂} hmem₁ hmem₂ := by
    rcases mem_cons.1 hmem₁ with heq₁ | hold₁
    · obtain ⟨hjob₁, -⟩ := Call.commit.inj heq₁
      obtain ⟨rfl, rfl, rfl, rfl⟩ := Job.recordSecret.inj hjob₁
      rcases mem_cons.1 hmem₂ with heq₂ | hold₂
      · obtain ⟨hjob₂, -⟩ := Call.commit.inj heq₂
        obtain ⟨-, rfl, -⟩ := Job.recordSecret.inj hjob₂
        rfl
      · exact hrivals _ _ _ _ hold₂
    · rcases mem_cons.1 hmem₂ with heq₂ | hold₂
      · obtain ⟨hjob₂, -⟩ := Call.commit.inj heq₂
        obtain ⟨rfl, rfl, rfl, rfl⟩ := Job.recordSecret.inj hjob₂
        exact (hrivals _ _ _ _ hold₁).symm
      · exact h.agreed hold₁ hold₂

lemma keeps {J : Db → Job → Prop} :
    repository.Keeps (@Supervised SecretRequest J) (Presentable hashes) (Presented hashes) := by
  refine ⟨fun {r s qs o} h _ ho => h.ask ?_, fun {q fate s qs o} h hallowed ho => ?_,
    fun {s qs} h _ => ?_⟩
  · intro p v txHash encVersion seen hcommit
    obtain ⟨fate, hcause, -⟩ := ho.commit hcommit
    cases hcause
  · by_cases hcommit : ∃ p v txHash encVersion seen,
        o = some (.commit (.recordSecret p v txHash encVersion) seen)
    · obtain ⟨p, v, txHash, encVersion, seen, rfl⟩ := hcommit
      obtain ⟨fate', hcause, hget, hverdict⟩ := ho.commit rfl
      obtain ⟨rfl, -⟩ := Cause.answer.inj hcause
      obtain ⟨hshown, hrivals⟩ := hallowed.1 (.recordSecret p v txHash encVersion) rfl rfl seen
        hget hverdict
      have hrest : Presented hashes s qs := by
        have hrun := h.run fate
        rwa [run_check_snd] at hrun
      rw [run_check_snd]
      show Presented hashes s ({Call.commit _ seen} + qs)
      rw [Multiset.singleton_add]
      refine hrest.commit hget (secretVerdict_proceed hverdict).1 hshown ?_
      intro v' txHash' encVersion' seen' hmem
      by_contra hne
      refine hrivals _ (mem_cons_of_mem hmem) _ rfl ⟨rfl, rfl, ?_⟩
      intro heq
      exact hne (by simpa [Job.payload, Job.write, Mutation.records] using heq)
    · refine (h.run fate).ask fun p v txHash encVersion seen heq => hcommit ?_
      exact ⟨p, v, txHash, encVersion, seen, heq⟩
  · exact ⟨h.stored, fun hmem => absurd hmem (notMem_zero _),
      fun hmem => absurd hmem (notMem_zero _)⟩

end Presented

/-- A secret whose write comes back without an error is stored, if the order is not at its end. -/
lemma preimage_of_commit {txHash : Text} {encVersion : Option ℕ} {seen : OrderRow}
    (hget : s.orders.get p = some r) (hopen : isTerminal r.status = false)
    (hok : (repository.run (.commit (.recordSecret p v txHash encVersion) seen) fate s).1 = .ok ())
    (hget' : (repository.run (.commit (.recordSecret p v txHash encVersion) seen) fate
      s).2.orders.get p = some r') : r'.preimage = some v := by
  have hrun : repository.run (.commit (.recordSecret p v txHash encVersion) seen) fate s =
      (((Job.recordSecret p v txHash encVersion).write.program.exec fate s).1.mapError
        DbError.service, ((Job.recordSecret p v txHash encVersion).write.program.exec fate s).2) :=
    rfl
  rw [hrun] at hok hget'
  rcases (Job.recordSecret p v txHash encVersion).write.exec_cases fate s with
    ⟨e, hexec⟩ | ⟨o, ho, hexec⟩
  · rw [hexec] at hok
    cases hok
  rw [hexec] at hget'
  have hdecision : secretDecision ⟨p, v, txHash, encVersion, none⟩ (some r) = .ok o := by
    rw [← hget]
    exact ho
  have hrecord : ∀ r₁ e, o = some (r₁, e) → r' = r₁ := by
    rintro r₁ e rfl
    have hput : ((s.put p r₁).append e).orders.get p = some r' := hget'
    rw [Db.orders_append, Db.get_put_self hget] at hput
    exact (Option.some.inj hput).symm
  simp only [secretDecision, hopen, Bool.false_eq_true, if_false] at hdecision
  split at hdecision
  · rename_i hsame
    rw [hrecord _ _ (Except.ok.inj hdecision).symm]
    exact hsame
  split at hdecision
  · rw [hrecord _ _ (Except.ok.inj hdecision).symm]
    rfl
  · cases hdecision

end Step

/-- The service for secrets shows what is stored, if that is not a blob. -/
lemma ensures_get {service : SecretService} {aes : Aes} {s : Db} {p : Text} (nonce : Nonce)
    (hhex : ∀ r v, s.orders.get p = some r → r.preimage = some v → isHexText v = true) :
    (service.get aes p nonce).Ensures
      (fun o _ => ∀ v, o = some v → ∃ r, s.orders.get p = some r ∧ r.preimage = some v)
      (fun _ _ => True) s := by
  unfold SecretService.get
  refine Fallible.ensures_bind (Store.ensures_call (fun fate o ho => ?_) fun _ _ _ => trivial)
  obtain rfl := run_get_ok ho
  cases hget : s.orders.get p with
  | none => exact (Fallible.ensures_pure _).2 nofun
  | some r =>
    dsimp only
    cases hblob : truthy r.preimage with
    | none => exact (Fallible.ensures_pure _).2 nofun
    | some blob =>
      have hpreimage : r.preimage = some blob := (Option.filter_eq_some_iff.1 hblob).1
      have hplain : isEncryptedBlob blob = false := by
        have hblobhex := hhex r blob hget hpreimage
        unfold isHexText at hblobhex
        split at hblobhex
        · rfl
        · cases hblobhex
      dsimp only
      rw [hplain]
      refine (Fallible.ensures_pure _).2 fun v hv => ?_
      cases hv
      exact ⟨r, rfl, hpreimage⟩

/-! ### Runs -/

section Runs

variable {service : SecretService} {aes : Aes} {hashes : Hashes} {es : SecretEventLog}

lemma follows_supervised (r : SecretRequest) (s : Db) :
    repository.Follows (@Supervised SecretRequest fun _ _ => True) (r.code service aes hashes)
      (.start r) s := by
  have hadmits : AdmitsSecrets service aes hashes fun _ _ => True :=
    ⟨fun _ => trivial, fun _ _ => trivial, fun _ _ => trivial, fun _ _ _ => trivial⟩
  exact (SecretRequest.heeds_code (admits_supervised _) hadmits r fun _ _ _ _ _ =>
    trivial).follows (fun _ _ => (admits_supervised _).last) _ s

lemma presented_empty : Presented hashes Db.empty 0 where
  stored hget := by cases hget
  written hmem := absurd hmem (notMem_zero _)
  agreed hmem := absurd hmem (notMem_zero _)

lemma presented_at
    (hes : Store.Permits (SecretRequest.code service aes hashes) (Presentable hashes) Db.empty es)
    (n : ℕ) : Presented hashes (secretPool service aes hashes Db.empty es n).state
      (secretPool service aes hashes Db.empty es n).pending :=
  Store.invariant follows_supervised Presented.keeps presented_empty hes n

lemma preimage_later
    (hes : Store.Permits (SecretRequest.code service aes hashes) (Presentable hashes) Db.empty es)
    {m n : ℕ} (hmn : m ≤ n) {p v : Text} {r : OrderRow}
    (hget : (secretPool service aes hashes Db.empty es m).state.orders.get p = some r)
    (hv : r.preimage = some v) :
    ∃ r', (secretPool service aes hashes Db.empty es n).state.orders.get p = some r' ∧
      r'.preimage = some v := by
  induction n, hmn using Nat.le_induction with
  | base => exact ⟨r, hget, hv⟩
  | succ n _ ih =>
    obtain ⟨r', hget', hv'⟩ := ih
    rcases Store.step_cases follows_supervised Presented.keeps presented_empty hes n with
      hsame | ⟨q, fate, qs, hpending, hstate, -⟩
    · exact ⟨r', hsame ▸ hget', hv'⟩
    have hpresented := presented_at hes n
    rw [hpending] at hpresented
    rw [hstate]
    cases hafter : (repository.run q fate
        (secretPool service aes hashes Db.empty es n).state).2.orders.get p with
    | none =>
      have hstep := rowStep q fate (secretPool service aes hashes Db.empty es n).state p
      rw [hget', hafter] at hstep
      cases hstep
    | some r'' => exact ⟨r'', rfl, hpresented.preimage_run hget' hv' hafter⟩

/-- The preimage of an event that was sent is stored. -/
lemma preimage_of_broadcast
    (hes : Store.Permits (SecretRequest.code service aes hashes) (Presentable hashes) Db.empty es)
    {m : ℕ} {e : Event Call (fun _ => Fate) SecretRequest} {c : CallCause SecretRequest}
    {data : SecretRevealedData} (he : es[m]? = some e)
    (hc : (secretPool service aes hashes Db.empty es m).stimulus e = some (some c))
    (hdata : broadcastOf (secretPool service aes hashes Db.empty es m).state c = some data) :
    ∃ r, (secretPool service aes hashes Db.empty es (m + 1)).state.orders.get data.orderId =
      some r ∧ r.preimage = some data.preimage := by
  unfold broadcastOf at hdata
  split at hdata
  · rename_i p v txHash encVersion seen fate
    split at hdata
    · rename_i hok
      cases hdata
      obtain ⟨o, qs, hpending, hstate, -, -⟩ :=
        Store.turn follows_supervised Presented.keeps presented_empty hes he hc
      obtain ⟨r, hget, -, -⟩ := (presented_at hes m).written (Pool.mem_pending_of_stimulus hc)
      have hopen := (hes m e _ he hc).2 (.recordSecret p v txHash encVersion, seen) rfl rfl r hget
      show ∃ r, (secretPool service aes hashes Db.empty es (m + 1)).state.orders.get p = some r ∧
        r.preimage = some v
      rw [hstate]
      show ∃ r, (repository.run (.commit (.recordSecret p v txHash encVersion) seen) fate
        (secretPool service aes hashes Db.empty es m).state).2.orders.get p = some r ∧
          r.preimage = some v
      cases hafter : (repository.run (.commit (.recordSecret p v txHash encVersion) seen) fate
          (secretPool service aes hashes Db.empty es m).state).2.orders.get p with
      | none =>
        have hstep := rowStep (.commit (.recordSecret p v txHash encVersion) seen) fate
          (secretPool service aes hashes Db.empty es m).state p
        rw [hget, hafter] at hstep
        cases hstep
      | some r' => exact ⟨r', rfl, preimage_of_commit hget hopen hok hafter⟩
    · cases hdata
  · cases hdata

end Runs

/-- As long as every secret that passes the checks can be shown, is alone and finds its order open:
whatever place shows a preimage of an order, in any state that any requests lead to, it is the one
that is stored, with `0x` in front, and it belongs to the hashlock of the order. -/
theorem every_surface_shows_the_secret (service : SecretService) (aes : Aes) (hashes : Hashes)
    (es : SecretEventLog)
    (hes : Store.Permits (SecretRequest.code service aes hashes) (Presentable hashes) Db.empty es)
    (p : Text) (n : ℕ) (v : Text) (hshows : Shows service aes hashes Db.empty es p n v) :
    ∃ r, (secretPool service aes hashes Db.empty es n).state.orders.get p = some r ∧
      r.preimage = some v ∧ isHexText v = true ∧ validatePreimage hashes v r.hashlock = true := by
  have hstored : ∃ r, (secretPool service aes hashes Db.empty es n).state.orders.get p = some r ∧
      r.preimage = some v := by
    cases hshows with
    | @order _ r _ hget hv => exact ⟨r, hget, hv⟩
    | history hmn hget hv => exact preimage_later hes hmn hget hv
    | event hmn he hc hdata hid =>
      obtain ⟨r, hget, hv⟩ := preimage_of_broadcast hes he hc hdata
      rw [hid] at hget
      exact preimage_later hes hmn hget hv
    | @secret _ nonce rs _ hget =>
      have hhex : ∀ r v, (secretPool service aes hashes Db.empty es n).state.orders.get p =
          some r → r.preimage = some v → isHexText v = true :=
        fun r v hr hv => ((presented_at hes n).stored hr hv).hex
      have hensures := @ensures_get service aes _ p nonce hhex
      exact (Process.Always.play hensures rs).1 _ hget v rfl
  obtain ⟨r, hget, hv⟩ := hstored
  have hplain := (presented_at hes n).stored hget hv
  exact ⟨r, hget, hv, hplain.hex, hplain.valid⟩

/-! ### Runs to evaluate -/

open Sample in
theorem every_surface_shows_the_secret_sample :
    ∃ v, Shows plainService toyAes hashes Db.empty revealing sampleId 11
        v ∧
      ∃ r, (secretPool plainService toyAes hashes Db.empty revealing
          11).state.orders.get sampleId = some r ∧
        r.preimage = some v ∧ isHexText v = true ∧
          validatePreimage hashes v r.hashlock = true := by
  have hes : Store.Permits (SecretRequest.code plainService toyAes hashes)
      (Presentable hashes) Db.empty revealing :=
    Store.permits_of_permitted (by decide +kernel)
  have hsome : ((secretPool plainService toyAes hashes Db.empty
      revealing 11).state.orders.get sampleId).bind OrderRow.preimage = some "0xab".toList := by
    decide +kernel
  obtain ⟨r, hget, hv⟩ := Option.bind_eq_some_iff.1 hsome
  have hshows : Shows plainService toyAes hashes Db.empty revealing
      sampleId 11 "0xab".toList :=
    .order hget hv
  exact ⟨_, hshows, every_surface_shows_the_secret _ _ _ _ hes sampleId 11 _ hshows⟩

open Sample in
/-- With a key, the order is shown with the blob. -/
theorem blob_is_shown :
    ∃ v, Shows service toyAes hashes Db.empty revealing sampleId 11 v ∧
      isHexText v = false ∧ v ≠ "0xab".toList := by
  have hsome : (((secretPool service toyAes hashes Db.empty revealing
      11).state.orders.get sampleId).bind OrderRow.preimage).any
        (fun v => !isHexText v && v ≠ "0xab".toList) = true := by
    decide +kernel
  obtain ⟨v, hv, hnot⟩ := Option.any_eq_true _ _ |>.1 hsome
  obtain ⟨r, hget, hpreimage⟩ := Option.bind_eq_some_iff.1 hv
  refine ⟨v, .order hget hpreimage, ?_⟩
  simpa using hnot

end WaffleFinance.Coordinator

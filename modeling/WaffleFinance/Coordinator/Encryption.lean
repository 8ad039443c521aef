import WaffleFinance.Coordinator.Requests
import WaffleFinance.Coordinator.SecretCipher

/-!
# Secrets at rest

With a storage key, `SecretService.reveal` stores a preimage as an encrypted blob.  The other
writers of the column do not know about the key: the secret reconciler, the listeners and the claim
handlers of the reconciler store what they read from the chain (`claim_stored_in_the_clear`).
-/

namespace WaffleFinance.Coordinator

open Lib OrdersRepository

/-! ### Protocol -/

/-- A preimage that is stored as it is. -/
def Job.inTheClear : Job → Bool
  | .recordSecret _ _ _ none => true
  | _ => false

section Protocol

variable (service : SecretService) (aes : Aes)

/-- The text is a blob under one of the keys, and not what is in it. -/
def SecretService.IsBlob (v : Text) : Prop :=
  ∃ key ∈ service.encKeys, ∃ nonce plaintext,
    v = encryptSecret aes plaintext key nonce ∧ v ≠ plaintext

/-- If the job stores a preimage, it is a blob. -/
def SecretService.Seals : Job → Prop
  | .recordSecret _ v _ encVersion => encVersion = some 1 ∧ service.IsBlob aes v
  | _ => True

/-- A write comes right after a read that has passed the checks, and a preimage is a blob or marked
as none. -/
structure Guarded {Req : Type} (c : CallCause Req) (s : Db) (o : Option Call) : Prop where
  commit : ∀ {job r}, o = some (.commit job r) → ∃ fate, c = .answer (.check job) fate ∧
    s.orders.get job.publicId = some r ∧ job.verdict r = .proceed
  check : ∀ {job}, o = some (.check job) → job.inTheClear = true ∨ service.Seals aes job

variable {service aes} {Req : Type}

lemma isBlob_encryptSecret {key : StorageKey} (h : key ∈ service.encKeys) (plaintext : Text)
    (nonce : Nonce) : service.IsBlob aes (encryptSecret aes plaintext key nonce) :=
  ⟨key, h, nonce, plaintext, rfl, encryptSecret_ne aes plaintext key nonce⟩

lemma guarded_of_supervised {c : CallCause Req} {s : Db} {o : Option Call}
    (h : Supervised (fun _ job => job.inTheClear = true ∨ service.Seals aes job) c s o) :
    Guarded service aes c s o :=
  ⟨h.commit, h.check⟩

lemma admits_guarded : Admits (@Guarded service aes Req)
    fun _ job => job.inTheClear = true ∨ service.Seals aes job :=
  (admits_supervised _).mono guarded_of_supervised

lemma admitsSecrets_sealed (hashes : Hashes) (hkeys : service.encKeys ≠ []) :
    AdmitsSecrets service aes hashes
      fun _ job => job.inTheClear = true ∨ service.Seals aes job where
  other {_ job} hjob := by
    cases job with
    | recordSecret => exact absurd rfl hjob
    | _ => exact Or.inr trivial
  found _ _ := Or.inl rfl
  revealed {_ p _ preimage txHash nonce} _ _ := by
    obtain ⟨key, hkey⟩ : ∃ key, service.writeKey = some key :=
      ⟨_, List.head?_eq_some_head hkeys⟩
    refine Or.inr ?_
    unfold SecretService.stored
    rw [hkey]
    exact ⟨rfl, isBlob_encryptSecret (SecretService.mem_of_writeKey hkey) preimage nonce⟩
  rekeyed _ _ hkey := Or.inr ⟨rfl, isBlob_encryptSecret hkey _ _⟩

end Protocol

/-! ### Runs -/

section Runs

variable (service : SecretService) (aes : Aes)

/-- The preimage of the order, if there is one, is an encrypted blob. -/
def SecretService.Sealed (r : OrderRow) : Prop :=
  ∀ v, r.preimage = some v → r.preimageEncVersion = some 1 ∧ service.IsBlob aes v

/-- A preimage that is to be stored as it is does not find an order that can take it. -/
def Unexposed {Req : Type} (x : Option (CallCause Req)) (s : Db) (_ : Multiset Call) : Prop :=
  ∀ job ∈ checkOf x, job.inTheClear = true → ∀ r ∈ s.orders.get job.publicId,
    job.verdict r ≠ .proceed

instance unexposedDecidable {Req : Type} (x : Option (CallCause Req)) (s : Db)
    (qs : Multiset Call) : Decidable (Unexposed x s qs) :=
  inferInstanceAs (Decidable (∀ job ∈ checkOf x, job.inTheClear = true →
    ∀ r ∈ s.orders.get job.publicId, job.verdict r ≠ .proceed))

/-- Every preimage in the database is a blob, and so is every one that is about to be written. -/
structure AtRest (s : Db) (qs : Multiset Call) : Prop where
  sealed : ∀ {p r}, s.orders.get p = some r → service.Sealed aes r
  checks : ∀ {job}, Call.check job ∈ qs → job.inTheClear = true ∨ service.Seals aes job
  commits : ∀ {job seen}, Call.commit job seen ∈ qs → service.Seals aes job

variable {service aes}

lemma sealed_run {q : Call} {fate : Fate} {s : Db} {p : Text} {r' : OrderRow}
    (hsealed : ∀ {p r}, s.orders.get p = some r → service.Sealed aes r)
    (hcommit : ∀ job seen, q = .commit job seen → service.Seals aes job)
    (hr' : (repository.run q fate s).2.orders.get p = some r') : service.Sealed aes r' := by
  have hstep := secretStep hr'
  generalize hbefore : s.orders.get p = before at hstep
  cases hstep with
  | kept hsecret =>
    intro v hv
    rw [hsecret.version]
    exact hsealed hbefore v (hsecret.preimage ▸ hv)
  | stored hcall _ hpreimage hversion =>
    intro v hv
    rw [hpreimage] at hv
    cases hv
    rw [hversion]
    exact hcommit _ _ hcall
  | announced => exact nofun

lemma atRest_keeps : repository.Keeps (@Guarded service aes SecretRequest) Unexposed
    (AtRest service aes) := by
  refine ⟨fun {r s qs o} h _ ho => ?_, fun {q f s qs o} h hallowed ho => ?_, fun h _ => ?_⟩
  · refine ⟨h.sealed, fun hmem => ?_, fun hmem => ?_⟩
    · rcases mem_issued.1 hmem with hmem | hmem
      · exact ho.check hmem
      · exact h.checks hmem
    · rcases mem_issued.1 hmem with hmem | hmem
      · obtain ⟨fate, hcause, -⟩ := ho.commit hmem
        cases hcause
      · exact h.commits hmem
  · refine ⟨fun {p r'} hr' => ?_, fun hmem => ?_, fun {job seen} hmem => ?_⟩
    · refine sealed_run h.sealed (fun job seen hq => ?_) hr'
      subst hq
      exact h.commits (Multiset.mem_cons_self _ _)
    · rcases mem_issued.1 hmem with hmem | hmem
      · exact ho.check hmem
      · exact h.checks (Multiset.mem_cons_of_mem hmem)
    · rcases mem_issued.1 hmem with hmem | hmem
      · -- the write belongs to the read that has just been answered
        obtain ⟨fate, hcause, hget, hverdict⟩ := ho.commit hmem
        obtain ⟨rfl, -⟩ := Cause.answer.inj hcause
        refine (h.checks (Multiset.mem_cons_self _ _)).resolve_left fun hclear => ?_
        exact hallowed job rfl hclear seen hget hverdict
      · exact h.commits (Multiset.mem_cons_of_mem hmem)
  · exact ⟨h.sealed, fun hmem => absurd hmem (Multiset.notMem_zero _),
      fun hmem => absurd hmem (Multiset.notMem_zero _)⟩

end Runs

/-- Encryption at rest: with a storage key, and as long as no preimage that is stored as it is finds
an order that can take it, every preimage is an encrypted blob with version 1, in every state that
any requests lead to. -/
theorem secrets_encrypted_at_rest (service : SecretService) (aes : Aes) (hashes : Hashes)
    (hkeys : service.encKeys ≠ []) (d : Db)
    (hd : ∀ p r, d.orders.get p = some r → service.Sealed aes r) (es : SecretEventLog)
    (hes : Store.Permits (SecretRequest.code service aes hashes) Unexposed d es) (n : ℕ) (p : Text)
    (r : OrderRow) (hr : (secretPool service aes hashes d es n).state.orders.get p = some r) :
    service.Sealed aes r := by
  have hstart : AtRest service aes d 0 :=
    ⟨fun {p r} => hd p r, fun hmem => absurd hmem (Multiset.notMem_zero _),
      fun hmem => absurd hmem (Multiset.notMem_zero _)⟩
  have hfollows : ∀ (r : SecretRequest) s, repository.Follows (@Guarded service aes SecretRequest)
      (r.code service aes hashes) (.start r) s :=
    fun r s => (SecretRequest.heeds_code admits_guarded (admitsSecrets_sealed hashes hkeys)
      r fun _ _ _ _ _ => Or.inl rfl).follows (fun _ _ => admits_guarded.last) _ s
  exact (Store.invariant hfollows atRest_keeps hstart hes n).sealed hr

namespace Sample

def storageKey : StorageKey := ⟨List.replicate 32 7, rfl⟩

def nonce : Nonce := ⟨List.replicate 12 9, rfl⟩

def service : SecretService := ⟨.mainnet, [storageKey], fun _ => by simp⟩

/-- Every preimage belongs to the order. -/
def hashes : Hashes := ⟨fun _ => sampleInput.hashlock, fun _ => []⟩

def secretTurn : Event Call (fun _ => Fate) SecretRequest := .answer 0 fun _ => Fate.calm

/-- An order is announced and locked on its source chain. -/
def lockedOrder : SecretEventLog :=
  [.start (.order (.announce sampleInput) rfl), secretTurn, secretTurn,
    .start (.order (.run (.recordSrcLock srcLock)) rfl), secretTurn, secretTurn, secretTurn]

/-- Then its secret is revealed to the coordinator. -/
def revealing : SecretEventLog :=
  lockedOrder ++ [.start (.reveal sampleId "0xab".toList "0xt9".toList nonce), secretTurn,
    secretTurn, secretTurn]

/-- The claim of the deposit on Ethereum. -/
def claim : EthClaimed := ⟨⟨some 9, some "0xt9".toList, some 0⟩, some 7, some "0xab".toList⟩

/-- The secret reconciler sees the claim first. -/
def recovering : SecretEventLog :=
  lockedOrder ++ [.start (.recoverFromEthereumLogs [claim]), secretTurn, secretTurn, secretTurn,
    secretTurn]

end Sample

open Sample in
theorem secrets_encrypted_at_rest_sample :
    service.encKeys ≠ [] ∧
      Store.Permits (SecretRequest.code service toyAes hashes) Unexposed
        Db.empty revealing ∧
      ∃ r, (secretPool service toyAes hashes Db.empty revealing
          11).state.orders.get sampleId = some r ∧ r.preimage ≠ none ∧
        service.Sealed toyAes r := by
  have hes : Store.Permits (SecretRequest.code service toyAes hashes) Unexposed
      Db.empty revealing :=
    Store.permits_of_permitted (by decide +kernel)
  have hsome : ((secretPool service toyAes hashes Db.empty revealing
      11).state.orders.get sampleId).any (fun r => r.preimage ≠ none) = true := by
    decide +kernel
  obtain ⟨r, hr, hpreimage⟩ := Option.any_eq_true _ _ |>.1 hsome
  refine ⟨by simp [service], hes, r, hr, by simpa using hpreimage, ?_⟩
  exact secrets_encrypted_at_rest _ _ _ (by simp [service]) Db.empty
    (fun _ _ h => by cases h) _ hes 11 sampleId r hr

open Sample in
/-- The secret reconciler stores the preimage of a claim as it is, although there is a key. -/
theorem claim_stored_in_the_clear :
    ((secretPool service toyAes hashes Db.empty recovering
        12).state.orders.get sampleId).map (fun r => (r.preimage, r.preimageEncVersion)) =
      some (some "0xab".toList, none) ∧
      service.network = .mainnet ∧ service.encKeys.length = 1 := by
  decide +kernel

end WaffleFinance.Coordinator

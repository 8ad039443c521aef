import WaffleFinance.Coordinator.Encryption

/-!
# Preimages in the database

Whoever reveals a secret, and both reconcilers, compare the preimage to the hashlock of the order
before they store it.  The listeners do not: they store what the event says
(`false_preimage_stored`).
-/

namespace WaffleFinance.Coordinator

open Lib OrdersRepository SecretService
open Multiset (mem_add mem_cons_self mem_cons_of_mem notMem_zero)

section Integrity

variable (service : SecretService) (aes : Aes) (hashes : Hashes)

/-- What is stored with this version is a preimage for the hashlock, as it is or as a blob. -/
def SecretService.Genuine (v : Text) (encVersion : Option ℕ) (hashlock : Text) : Prop :=
  (encVersion = none ∧ validatePreimage hashes v hashlock = true) ∨
    (encVersion = some 1 ∧ ∃ key ∈ service.encKeys, ∃ nonce t, v = encryptSecret aes t key nonce ∧
      validatePreimage hashes t hashlock = true)

/-- The preimage of the order, if there is one, belongs to its hashlock. -/
def SecretService.Intact (r : OrderRow) : Prop :=
  ∀ v, r.preimage = some v → service.Genuine aes hashes v r.preimageEncVersion r.hashlock

/-- If the job stores a preimage, it belongs to the order. -/
def SecretService.Belongs (s : Db) : Job → Prop
  | .recordSecret p v _ encVersion => ∃ r, s.orders.get p = some r ∧
      service.Genuine aes hashes v encVersion r.hashlock
  | _ => True

/-- If the job stores a preimage, it belongs to the order, or the order has one already. -/
def SecretService.Fits (s : Db) : Job → Prop
  | .recordSecret p v _ encVersion => ∃ r, s.orders.get p = some r ∧
      (r.preimage ≠ none ∨ service.Genuine aes hashes v encVersion r.hashlock)
  | _ => True

/-- A preimage that is stored as it is belongs to the order. -/
def Job.truthful : Job → OrderRow → Bool
  | .recordSecret _ v _ none, r => validatePreimage hashes v r.hashlock
  | _, _ => true

/-- A preimage that is stored as it is belongs to the order that it finds, if that can take it. -/
def Truthful {Req : Type} (x : Option (CallCause Req)) (s : Db) (_ : Multiset Call) : Prop :=
  ∀ job ∈ checkOf x, ∀ r ∈ s.orders.get job.publicId, job.verdict r = .proceed →
    job.truthful hashes r = true

instance truthfulDecidable {Req : Type} (x : Option (CallCause Req)) (s : Db)
    (qs : Multiset Call) : Decidable (Truthful hashes x s qs) :=
  inferInstanceAs (Decidable (∀ job ∈ checkOf x, ∀ r ∈ s.orders.get job.publicId,
    job.verdict r = .proceed → job.truthful hashes r = true))

/-- Every preimage in the database belongs to its order, and so does every one that is about to be
written. -/
structure AllGenuine (s : Db) (qs : Multiset Call) : Prop where
  intact : ∀ {p r}, s.orders.get p = some r → service.Intact aes hashes r
  checks : ∀ {job}, Call.check job ∈ qs → job.inTheClear = true ∨ service.Fits aes hashes s job
  commits : ∀ {job seen}, Call.commit job seen ∈ qs → service.Belongs aes hashes s job

end Integrity

/-! ### One call -/

section Calls

variable {service : SecretService} {aes : Aes} {hashes : Hashes} {q : Call} {fate : Fate} {s : Db}
  {p : Text} {r : OrderRow} {job : Job}

/-- An order stays, with its hashlock and with a preimage if it has one. -/
lemma get_run (hget : s.orders.get p = some r) :
    ∃ r', (repository.run q fate s).2.orders.get p = some r' ∧ r'.hashlock = r.hashlock ∧
      (r.preimage ≠ none → r'.preimage ≠ none) := by
  cases hafter : (repository.run q fate s).2.orders.get p with
  | none =>
    have hstep := rowStep q fate s p
    rw [hget, hafter] at hstep
    cases hstep
  | some r' =>
    refine ⟨r', rfl, ?_⟩
    have hstep := secretStep hafter
    rw [hget] at hstep
    cases hstep with
    | kept hsame =>
      refine ⟨hsame.hashlock, fun hsome => ?_⟩
      rwa [hsame.preimage]
    | stored _ hhashlock hpreimage =>
      refine ⟨hhashlock, fun _ => ?_⟩
      rw [hpreimage]
      exact Option.some_ne_none _

lemma SecretService.Fits.run (h : service.Fits aes hashes s job) :
    service.Fits aes hashes (repository.run q fate s).2 job := by
  cases job with
  | recordSecret p v txHash encVersion =>
    obtain ⟨r, hget, hfits⟩ := h
    obtain ⟨r', hget', hhashlock, hsome⟩ := @get_run q fate s p r hget
    refine ⟨r', hget', hfits.imp hsome fun hgenuine => ?_⟩
    rwa [hhashlock]
  | _ => exact trivial

lemma SecretService.Belongs.run (h : service.Belongs aes hashes s job) :
    service.Belongs aes hashes (repository.run q fate s).2 job := by
  cases job with
  | recordSecret p v txHash encVersion =>
    obtain ⟨r, hget, hgenuine⟩ := h
    obtain ⟨r', hget', hhashlock, -⟩ := @get_run q fate s p r hget
    refine ⟨r', hget', ?_⟩
    rwa [hhashlock]
  | _ => exact trivial

/-- A job that fits an order and may write to it stores a preimage that belongs to the order. -/
lemma SecretService.Fits.belongs (h : service.Fits aes hashes s job)
    (hget : s.orders.get job.publicId = some r) (hverdict : job.verdict r = .proceed) :
    service.Belongs aes hashes s job := by
  cases job with
  | recordSecret p v txHash encVersion =>
    obtain ⟨r', hget', hfits⟩ := h
    obtain rfl : r = r' := Option.some.inj (hget.symm.trans hget')
    refine ⟨r, hget, hfits.resolve_left fun hsome => ?_⟩
    exact hsome (secretVerdict_proceed hverdict).1
  | _ => exact trivial

lemma belongs_of_truthful (hclear : job.inTheClear = true)
    (hget : s.orders.get job.publicId = some r) (htruthful : job.truthful hashes r = true) :
    service.Belongs aes hashes s job := by
  cases job with
  | recordSecret p v txHash encVersion =>
    cases encVersion with
    | none => exact ⟨r, hget, Or.inl ⟨rfl, htruthful⟩⟩
    | some version => cases hclear
  | _ => exact trivial

lemma SecretService.Fits.truthful (h : service.Fits aes hashes s job)
    (hget : s.orders.get job.publicId = some r) (hverdict : job.verdict r = .proceed) :
    job.truthful hashes r = true := by
  have hbelongs := h.belongs hget hverdict
  cases job with
  | recordSecret p v txHash encVersion =>
    cases encVersion with
    | none =>
      obtain ⟨r', hget', hgenuine⟩ := hbelongs
      obtain rfl : r = r' := Option.some.inj (hget.symm.trans hget')
      rcases hgenuine with ⟨-, hvalid⟩ | ⟨hversion, -⟩
      · exact hvalid
      · cases hversion
    | some version => rfl
  | _ => rfl

lemma intact_run {r' : OrderRow}
    (hintact : ∀ {p r}, s.orders.get p = some r → service.Intact aes hashes r)
    (hcommit : ∀ job seen, q = .commit job seen → service.Belongs aes hashes s job)
    (hr' : (repository.run q fate s).2.orders.get p = some r') :
    service.Intact aes hashes r' := by
  have hstep := secretStep hr'
  generalize hbefore : s.orders.get p = before at hstep
  cases hstep with
  | kept hsame =>
    intro v hv
    rw [hsame.version, hsame.hashlock]
    exact hintact hbefore v (hsame.preimage ▸ hv)
  | stored hcall hhashlock hpreimage hversion =>
    intro v hv
    obtain ⟨r, hget, hgenuine⟩ := hcommit _ _ hcall
    obtain rfl := Option.some.inj (hget.symm.trans hbefore)
    obtain rfl := Option.some.inj (hpreimage.symm.trans hv)
    rwa [hversion, hhashlock]
  | announced => exact nofun

end Calls

/-! ### Runs -/

section Runs

variable {service : SecretService} {aes : Aes} {hashes : Hashes}

lemma admitsSecrets_fits (lenient : Prop) :
    AdmitsSecrets service aes hashes fun s job =>
      (lenient ∧ job.inTheClear = true) ∨ service.Fits aes hashes s job where
  other {_ job} hjob := by
    cases job with
    | recordSecret => exact absurd rfl hjob
    | _ => exact Or.inr trivial
  found hget hvalid := Or.inr ⟨_, hget, Or.inr (Or.inl ⟨rfl, hvalid⟩)⟩
  revealed {_ _ r preimage _ nonce} hget hvalid := by
    refine Or.inr ⟨r, hget, Or.inr ?_⟩
    unfold stored
    cases hkey : service.writeKey with
    | none => exact Or.inl ⟨rfl, hvalid⟩
    | some key =>
      exact Or.inr ⟨rfl, key, mem_of_writeKey hkey, nonce, preimage, rfl, hvalid⟩
  rekeyed hget hsome _ := Or.inr ⟨_, hget, Or.inl hsome⟩

lemma allGenuine_keeps :
    repository.Keeps (@Supervised SecretRequest fun s job =>
      (True ∧ job.inTheClear = true) ∨ service.Fits aes hashes s job) (Truthful hashes)
        (AllGenuine service aes hashes) := by
  refine ⟨fun {r s qs o} h _ ho => ?_, fun {q f s qs o} h hallowed ho => ?_, fun h _ => ?_⟩
  · refine ⟨h.intact, fun hmem => ?_, fun hmem => ?_⟩
    · rcases mem_issued.1 hmem with hmem | hmem
      · exact (ho.check hmem).imp And.right id
      · exact h.checks hmem
    · rcases mem_issued.1 hmem with hmem | hmem
      · obtain ⟨fate, hcause, -⟩ := ho.commit hmem
        cases hcause
      · exact h.commits hmem
  · refine ⟨fun {p r'} hr' => ?_, fun hmem => ?_, fun {job seen} hmem => ?_⟩
    · refine intact_run h.intact (fun job seen hq => ?_) hr'
      subst hq
      exact h.commits (mem_cons_self _ _)
    · rcases mem_issued.1 hmem with hmem | hmem
      · exact (ho.check hmem).imp And.right fun h => h.run
      · exact (h.checks (mem_cons_of_mem hmem)).imp id fun h => h.run
    · rcases mem_issued.1 hmem with hmem | hmem
      · -- the write belongs to the read that has just been answered
        obtain ⟨fate, hcause, hget, hverdict⟩ := ho.commit hmem
        obtain ⟨rfl, -⟩ := Cause.answer.inj hcause
        have hbelongs : service.Belongs aes hashes s job := by
          rcases h.checks (mem_cons_self _ _) with hclear | hfits
          · exact belongs_of_truthful hclear hget (hallowed job rfl seen hget hverdict)
          · exact hfits.belongs hget hverdict
        exact hbelongs.run
      · exact (h.commits (mem_cons_of_mem hmem)).run
  · exact ⟨h.intact, fun hmem => absurd hmem (notMem_zero _),
      fun hmem => absurd hmem (notMem_zero _)⟩

/-- Every read that waits is for a job that fits. -/
def AllFit (service : SecretService) (aes : Aes) (hashes : Hashes) (s : Db)
    (qs : Multiset Call) : Prop :=
  ∀ job, Call.check job ∈ qs → service.Fits aes hashes s job

lemma allFit_keeps :
    repository.Keeps (@Supervised SecretRequest fun s job =>
      (False ∧ job.inTheClear = true) ∨ service.Fits aes hashes s job) (fun _ _ _ => True)
        (AllFit service aes hashes) := by
  refine ⟨fun {r s qs o} h _ ho job hmem => ?_, fun {q f s qs o} h _ ho job hmem => ?_,
    fun _ _ _ hmem => absurd hmem (notMem_zero _)⟩
  · rcases mem_issued.1 hmem with hmem | hmem
    · exact (ho.check hmem).resolve_left fun h => h.1
    · exact h job hmem
  · rcases mem_issued.1 hmem with hmem | hmem
    · exact ((ho.check hmem).resolve_left fun h => h.1).run
    · exact (h job (mem_cons_of_mem hmem)).run

lemma exists_of_mem_checkOf {Req : Type} {x : Option (CallCause Req)} {job : Job}
    (h : job ∈ checkOf x) : ∃ fate, x = some (.answer (.check job) fate) := by
  unfold checkOf at h
  split at h
  · cases h
    exact ⟨_, rfl⟩
  · cases h

/-- Where the listeners are told of no claim, every preimage is compared to the hashlock. -/
lemma permits_truthful {d : Db} {es : SecretEventLog}
    (hes : ∀ r, .start r ∈ es → r.hearsClaim = false) :
    Store.Permits (SecretRequest.code service aes hashes) (Truthful hashes) d es := by
  have hcode : ∀ r, .start r ∈ es → ∀ s, repository.Follows (@Supervised SecretRequest fun s job =>
      (False ∧ job.inTheClear = true) ∨ service.Fits aes hashes s job)
        (r.code service aes hashes) (.start r) s := by
    intro r hr s
    refine (SecretRequest.heeds_code (admits_supervised _) (admitsSecrets_fits False) r
      fun hclaim => ?_).follows (fun _ _ => (admits_supervised _).last) _ s
    rw [hes r hr] at hclaim
    cases hclaim
  intro n e x he hx job hjob r hget hverdict
  have hfit : AllFit service aes hashes (secretPool service aes hashes d es n).state
      (secretPool service aes hashes d es n).pending :=
    Store.invariant_of_starts hcode allFit_keeps
      (fun _ hmem => absurd hmem (notMem_zero _)) (fun _ _ _ _ _ => trivial) n
  obtain ⟨fate, rfl⟩ := exists_of_mem_checkOf hjob
  exact (hfit job (Pool.mem_pending_of_stimulus hx)).truthful hget hverdict

end Runs

/-- Preimage integrity: as long as every preimage that is stored as it is belongs to the order that
it finds, every preimage in the database belongs to its order, in every state that any requests lead
to.  All requests see to that but those in which a listener is told of a claim. -/
theorem preimages_intact (service : SecretService) (aes : Aes) (hashes : Hashes) (d : Db)
    (hd : ∀ p r, d.orders.get p = some r → service.Intact aes hashes r) (es : SecretEventLog) :
    (Store.Permits (SecretRequest.code service aes hashes) (Truthful hashes) d es →
      ∀ n p r, (secretPool service aes hashes d es n).state.orders.get p = some r →
        service.Intact aes hashes r) ∧
      ((∀ r, .start r ∈ es → r.hearsClaim = false) →
        Store.Permits (SecretRequest.code service aes hashes) (Truthful hashes) d es) := by
  refine ⟨fun hes n p r hr => ?_, permits_truthful⟩
  have hstart : AllGenuine service aes hashes d 0 :=
    ⟨fun {p r} => hd p r, fun hmem => absurd hmem (Multiset.notMem_zero _),
      fun hmem => absurd hmem (Multiset.notMem_zero _)⟩
  have hfollows : ∀ (r : SecretRequest) s, repository.Follows
      (@Supervised SecretRequest fun s job =>
        (True ∧ job.inTheClear = true) ∨ service.Fits aes hashes s job)
      (r.code service aes hashes) (.start r) s := by
    intro r s
    exact (SecretRequest.heeds_code (admits_supervised _) (admitsSecrets_fits True) r
      fun _ _ _ _ _ => Or.inl ⟨trivial, rfl⟩).follows (fun _ _ => (admits_supervised _).last) _ s
  exact (Store.invariant hfollows allGenuine_keeps hstart hes n).intact hr

namespace Sample

/-- No preimage belongs to the order. -/
def wrongHashes : Hashes := ⟨fun _ => [], fun _ => []⟩

/-- The lock on Stellar is claimed; the listener is told so. -/
def hearing : SecretEventLog :=
  lockedOrder ++ [.start (.sorobanListener [] ⟨9, "t9".toList, "0".toList,
    some (.claimed 7 (List.replicate 64 'a') "ab".toList)⟩ .live), secretTurn, secretTurn,
    secretTurn, secretTurn]

end Sample

open Sample in
theorem preimages_intact_sample :
    ∃ r, (secretPool service toyAes hashes Db.empty revealing
        11).state.orders.get sampleId = some r ∧ r.preimage ≠ none ∧
      service.Intact toyAes hashes r := by
  have hsome : ((secretPool service toyAes hashes Db.empty revealing
      11).state.orders.get sampleId).any (fun r => r.preimage ≠ none) = true := by
    decide +kernel
  obtain ⟨r, hr, hpreimage⟩ := Option.any_eq_true _ _ |>.1 hsome
  have hboth := preimages_intact service toyAes hashes Db.empty
    (fun _ _ h => by cases h) revealing
  refine ⟨r, hr, by simpa using hpreimage, hboth.1 (hboth.2 ?_) 11 sampleId r hr⟩
  intro r hr
  simp only [revealing, lockedOrder, secretTurn, List.cons_append,
    List.nil_append, List.mem_cons, Event.start.injEq, reduceCtorEq, List.not_mem_nil, or_false,
    false_or] at hr
  rcases hr with rfl | rfl | rfl <;> rfl

open Sample in
/-- The listener stores a preimage that does not hash to the hashlock of the order. -/
theorem false_preimage_stored :
    ((secretPool service toyAes wrongHashes Db.empty hearing
        12).state.orders.get sampleId).map (fun r => (r.preimage, r.preimageEncVersion)) =
      some (some "ab".toList, none) ∧
      validatePreimage wrongHashes "ab".toList sampleInput.hashlock = false := by
  decide +kernel

end WaffleFinance.Coordinator

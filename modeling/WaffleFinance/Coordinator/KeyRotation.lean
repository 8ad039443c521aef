import WaffleFinance.Coordinator.ReadBack

/-!
# Changing the storage key

`SecretService.get` stores a secret again when it had to use an older key, and a client may reveal a
secret twice.  Both end in `recordSecret`, which compares the new text with the stored one.  Two
blobs of one secret differ in their random bytes, so that the new one is refused as a conflict: no
secret ever moves to the first key, and no second reveal is accepted.
-/

namespace WaffleFinance.Coordinator

open Lib
open OrdersRepository (findByPublicId)

/-- The order has a text in the column that the key turns into the preimage. -/
def StoredUnder (aes : Aes) (d : Db) (publicId : Text) (key : StorageKey) (t : Text) : Prop :=
  ∃ r v, d.orders.get publicId = some r ∧ r.preimage = some v ∧ decryptSecret aes v key = .ok t

section Reads

variable {fates : Call → Fate} {d : Db} {p : Text}

lemma exec_findByPublicId_cases (fate : Fate) :
    (findByPublicId p).exec fate d = (.ok (d.orders.get p), d) ∨
      ∃ e, (findByPublicId p).exec fate d = (.error e, d) := by
  unfold findByPublicId Statement.byPublicId
  rw [Sql.exec_statement]
  cases fate 0 with
  | some e => exact Or.inr ⟨e, rfl⟩
  | none => exact Or.inl rfl

lemma eval_check_cases (job : Job) :
    (call (.check job)).eval fates d = (.ok (d.orders.get job.publicId), d) ∨
      ∃ e, (call (.check job)).eval fates d = (.error e, d) := by
  have hrun : (call (.check job)).eval fates d =
      (((findByPublicId job.publicId).exec (fates (.check job))
        d).1.mapError DbError.service,
      ((findByPublicId job.publicId).exec (fates (.check job)) d).2) := rfl
  rw [hrun]
  rcases exec_findByPublicId_cases (fates (.check job)) with h | ⟨e, h⟩
  · exact Or.inl (by rw [h]; rfl)
  · exact Or.inr ⟨e.service, by rw [h]; rfl⟩

lemma eval_get_cases :
    (call (.get p)).eval fates d = (.ok (d.orders.get p), d) ∨
      ∃ e, (call (.get p)).eval fates d = (.error e, d) := by
  have hrun : (call (.get p)).eval fates d =
      (((findByPublicId p).exec (fates (.get p)) d).1.mapError DbError.service,
      ((findByPublicId p).exec (fates (.get p)) d).2) := rfl
  rw [hrun]
  rcases exec_findByPublicId_cases (fates (.get p)) with h | ⟨e, h⟩
  · exact Or.inl (by rw [h]; rfl)
  · exact Or.inr ⟨e.service, by rw [h]; rfl⟩

end Reads

section Rotation

variable {service : SecretService} {aes : Aes} {hashes : Hashes} {primary key : StorageKey}
  {older : List StorageKey} {fates : Call → Fate} {d : Db} {p t v : Text} {r : OrderRow}
  {nonce₀ nonce : Nonce}

lemma eval_recordSecret_conflict {txHash v' : Text} {encVersion : Option ℕ}
    (hget : d.orders.get p = some r) (hv : r.preimage = some v) (hne : v' ≠ v) :
    ∃ e, (OrderService.recordSecret p v' txHash encVersion).eval fates d = (.error e, d) := by
  have hverdict : ∃ message, (Job.recordSecret p v' txHash encVersion).verdict r =
      .refuse message := by
    show ∃ message, secretVerdict p v' r = .refuse message
    have hne' : r.preimage ≠ some v' := by
      rw [hv]
      exact fun h => hne (Option.some.inj h).symm
    unfold secretVerdict
    rw [if_neg hne', if_pos ⟨by rw [hv]; exact Option.some_ne_none v, hne'⟩]
    exact ⟨_, rfl⟩
  obtain ⟨message, hverdict⟩ := hverdict
  unfold OrderService.recordSecret OrderService.run
  rcases @eval_check_cases fates d (.recordSecret p v' txHash encVersion) with h | ⟨e, h⟩
  · have hrow : d.orders.get (Job.recordSecret p v' txHash encVersion).publicId = some r := hget
    rw [hrow] at h
    rw [Fallible.eval_bind_ok h]
    dsimp only
    rw [hverdict]
    exact ⟨_, rfl⟩
  · exact ⟨e, Fallible.eval_bind_error h _⟩

lemma encryptSecret_ne_encryptSecret {keys : List StorageKey} (haes : aes.Correct)
    (hexclusive : aes.Exclusive keys key nonce₀ t) (ht : t ≠ []) (hprimary : primary ∈ keys)
    (h : key ≠ primary ∨ nonce ≠ nonce₀) :
    encryptSecret aes t primary nonce ≠ encryptSecret aes t key nonce₀ := by
  intro heq
  rcases h with hkey | hnonce
  · obtain ⟨message, herror⟩ : ∃ message,
        decryptSecret aes (encryptSecret aes t key nonce₀) primary = .error message :=
      decryptSecret_other hexclusive ht hprimary (Ne.symm hkey)
    rw [← heq, decryptSecret_own haes ht] at herror
    cases herror
  · exact hnonce (nonce_eq_of_encryptSecret_eq heq)

lemma eval_reencryptStoredSecret_same (hget : d.orders.get p = some r) (hv : r.preimage = some v)
    (hne : ∀ primary ∈ service.writeKey, encryptSecret aes t primary nonce ≠ v) :
    (service.reencryptStoredSecret aes p t r nonce).eval fates d = (.ok (), d) := by
  unfold SecretService.reencryptStoredSecret
  cases hkey : service.writeKey with
  | none => rfl
  | some primary =>
    dsimp only
    obtain ⟨e, he⟩ := @eval_recordSecret_conflict fates d p v r
      (r.secretRevealedTx.getD "0xrekey".toList) _ (some 1) hget hv (hne primary hkey)
    rw [Fallible.eval_tryCatch, he]
    rfl

/-- The key of the blob is found, wherever it stands in the ring. -/
lemma eval_decryptWith_ring (haes : aes.Correct) (ht : t ≠ [])
    (hget : d.orders.get p = some r) (hv : r.preimage = some (encryptSecret aes t key nonce₀))
    (hne : ∀ primary ∈ service.writeKey,
      encryptSecret aes t primary nonce ≠ encryptSecret aes t key nonce₀)
    (keys : List StorageKey) (hexclusive : aes.Exclusive keys key nonce₀ t) (hkey : key ∈ keys)
    (rotate : Bool) (lastError : Text) :
    (service.decryptWith aes p (encryptSecret aes t key nonce₀) r nonce keys rotate
      lastError).eval fates d = (.ok t, d) := by
  induction keys generalizing rotate lastError with
  | nil => cases hkey
  | cons key' keys ih =>
    unfold SecretService.decryptWith
    by_cases heq : key' = key
    · subst heq
      rw [decryptSecret_own haes ht]
      cases rotate with
      | false => rfl
      | true => exact Fallible.eval_bind_ok (eval_reencryptStoredSecret_same hget hv hne) _
    obtain ⟨message, herror⟩ : ∃ message,
        decryptSecret aes (encryptSecret aes t key nonce₀) key' = .error message :=
      decryptSecret_other hexclusive ht List.mem_cons_self heq
    rw [herror]
    refine ih (fun k hk => hexclusive k (List.mem_cons_of_mem key' hk)) ?_ true message
    exact (List.mem_cons.1 hkey).resolve_left (Ne.symm heq)

/-- `get` gives out a secret under an older key and leaves it there. -/
lemma eval_get_older (haes : aes.Correct)
    (hexclusive : aes.Exclusive service.encKeys key nonce₀ t) (ht : t ≠ [])
    (hkeys : service.encKeys = primary :: older) (hkey : key ∈ service.encKeys)
    (hother : key ≠ primary) (hget : d.orders.get p = some r)
    (hv : r.preimage = some (encryptSecret aes t key nonce₀))
    (hread : (call (.get p)).eval fates d = (.ok (some r), d)) :
    (service.get aes p nonce).eval fates d = (.ok (some t), d) := by
  have hwrite : service.writeKey = some primary := by
    unfold SecretService.writeKey
    rw [hkeys]
    rfl
  have hne : ∀ primary ∈ service.writeKey,
      encryptSecret aes t primary nonce ≠ encryptSecret aes t key nonce₀ := by
    rintro primary' hprimary
    rw [hwrite, Option.mem_some_iff] at hprimary
    subst hprimary
    exact encryptSecret_ne_encryptSecret haes hexclusive ht (by simp [hkeys]) (Or.inl hother)
  have hempty : service.encKeys.isEmpty = false := by
    rw [hkeys]
    rfl
  have hblob : encryptSecret aes t key nonce₀ ≠ [] := by
    obtain ⟨_, hblob⟩ := exists_encryptSecret_eq aes t key nonce₀
    rw [hblob]
    exact List.cons_ne_nil _ _
  unfold SecretService.get
  rw [Fallible.eval_bind_ok hread]
  dsimp only
  rw [hv, SecretService.truthy_some hblob]
  dsimp only
  rw [isEncryptedBlob_encryptSecret, hempty]
  exact Fallible.eval_bind_ok
    (eval_decryptWith_ring haes ht hget hv hne _ hexclusive hkey false []) _

lemma eval_reveal_again (hwrite : service.writeKey = some primary)
    (hget : d.orders.get p = some r) (hv : r.preimage = some v)
    (hne : encryptSecret aes t primary nonce ≠ v) (txHash : Text) :
    ∃ e, (service.reveal aes hashes p t txHash nonce).eval fates d = (.error e, d) := by
  have hstored : service.stored aes t nonce = (encryptSecret aes t primary nonce, some 1) := by
    unfold SecretService.stored
    rw [hwrite]
  unfold SecretService.reveal
  rcases @eval_get_cases fates d p with h | ⟨e, h⟩
  · rw [hget] at h
    rw [Fallible.eval_bind_ok h]
    dsimp only
    split
    · exact ⟨_, rfl⟩
    · obtain ⟨e, he⟩ := @eval_recordSecret_conflict fates d p v r txHash _ (some 1) hget hv hne
      rw [hstored, Fallible.eval_tryCatch, he]
      exact ⟨_, rfl⟩
  · exact ⟨e, Fallible.eval_bind_error h _⟩

end Rotation

/-- A secret that was encrypted with one of the keys is read without an error, and yet never comes
under the first key; and it cannot be revealed again with other random bytes. -/
theorem rotation_never_converges (service : SecretService) (aes : Aes) (haes : aes.Correct)
    (hashes : Hashes) (primary : StorageKey) (older : List StorageKey)
    (hkeys : service.encKeys = primary :: older) (key : StorageKey)
    (hkey : key ∈ service.encKeys) (d : Db) (publicId : Text) (r : OrderRow)
    (hget : d.orders.get publicId = some r) (t : Text) (ht : t ≠ []) (nonce₀ : Nonce)
    (hexclusive : aes.Exclusive service.encKeys key nonce₀ t)
    (hstored : r.preimage = some (encryptSecret aes t key nonce₀)) :
    (key ≠ primary → ∀ nonce,
      (service.get aes publicId nonce).eval (fun _ => Fate.calm) d = (.ok (some t), d) ∧
        ∀ fates a d', (service.get aes publicId nonce).eval fates d = (.ok a, d') →
          ¬ StoredUnder aes d' publicId primary t) ∧
      ∀ nonce, key ≠ primary ∨ nonce ≠ nonce₀ → ∀ txHash fates, ∃ e,
        (service.reveal aes hashes publicId t txHash nonce).eval fates d = (.error e, d) := by
  have hwrite : service.writeKey = some primary := by
    unfold SecretService.writeKey
    rw [hkeys]
    rfl
  have hprimary : primary ∈ service.encKeys := by simp [hkeys]
  refine ⟨fun hother nonce => ⟨?_, ?_⟩, ?_⟩
  · exact eval_get_older haes hexclusive ht hkeys hkey hother hget hstored
      (SecretService.eval_call_get hget)
  · rintro fates a d' heval ⟨r', v, hget', hv, hdecrypt⟩
    have hd : d' = d := by
      rcases @eval_get_cases fates d publicId with h | ⟨e, h⟩
      · rw [hget] at h
        have hsame : (service.get aes publicId nonce).eval fates d = (.ok (some t), d) :=
          eval_get_older haes hexclusive ht hkeys hkey hother hget hstored h
        exact (Prod.mk.inj (heval.symm.trans hsame)).2
      · cases heval.symm.trans (Fallible.eval_bind_error h _)
    subst hd
    obtain rfl : r = r' := Option.some.inj (hget.symm.trans hget')
    obtain rfl : encryptSecret aes t key nonce₀ = v := Option.some.inj (hstored.symm.trans hv)
    obtain ⟨message, herror⟩ : ∃ message,
        decryptSecret aes (encryptSecret aes t key nonce₀) primary = .error message :=
      decryptSecret_other hexclusive ht hprimary (Ne.symm hother)
    rw [hdecrypt] at herror
    cases herror
  · intro nonce hdiffers txHash fates
    exact eval_reveal_again hwrite hget hstored
      (encryptSecret_ne_encryptSecret haes hexclusive ht hprimary hdiffers) txHash

namespace Sample

/-- The key before `storageKey`. -/
def oldKey : StorageKey := ⟨List.replicate 32 5, rfl⟩

/-- Both keys, the new one first. -/
def ring : SecretService := ⟨.mainnet, [storageKey, oldKey], fun _ => by simp⟩

def otherNonce : Nonce := ⟨List.replicate 12 8, rfl⟩

/-- The order with its secret under the old key. -/
def oldSecret : OrderRow :=
  { sampleInput.row with
    status := .secretRevealed
    preimage := some (encryptSecret toyAes "0xab".toList oldKey nonce)
    preimageEncVersion := some 1
    secretRevealedTx := some "0xt9".toList }

def oldSecretDb : Db := { Db.empty with orders := InsertionMap.empty.insert sampleId oldSecret }

end Sample

open Sample in
theorem rotation_never_converges_sample :
    (ring.get toyAes sampleId otherNonce).eval (fun _ => Fate.calm)
        oldSecretDb = (.ok (some "0xab".toList), oldSecretDb) ∧
      ¬ StoredUnder toyAes oldSecretDb sampleId storageKey
        "0xab".toList := by
  have hne : oldKey ≠ storageKey := by
    intro h
    exact absurd (congrArg StorageKey.bytes h) (by decide)
  obtain ⟨hread, hstored⟩ := (rotation_never_converges ring toyAes
    correct_toyAes hashes storageKey [oldKey] rfl oldKey
    (by simp [ring]) oldSecretDb sampleId oldSecret rfl "0xab".toList
    (by decide) nonce (exclusive_toyAes _ _ _ _) rfl).1 hne otherNonce
  exact ⟨hread, hstored _ _ _ hread⟩

open Sample in
/-- Reading gives the preimage and leaves the old blob, which the new key does not open; and the
same preimage is refused when it is revealed again. -/
theorem old_blob_stays :
    ((ring.get toyAes sampleId otherNonce).eval (fun _ => Fate.calm)
        oldSecretDb).1 = .ok (some "0xab".toList) ∧
      (((ring.get toyAes sampleId otherNonce).eval (fun _ => Fate.calm)
        oldSecretDb).2.orders.get sampleId).bind OrderRow.preimage =
          some (encryptSecret toyAes "0xab".toList oldKey nonce) ∧
      decryptSecret toyAes (encryptSecret toyAes "0xab".toList oldKey
        nonce) storageKey = .error
          ("Decryption failed: authentication tag mismatch. The key may be wrong, ".toList ++
            "or the stored blob has been tampered with.".toList) ∧
      ((ring.reveal toyAes hashes sampleId "0xab".toList "0xt9".toList
        otherNonce).eval (fun _ => Fate.calm) oldSecretDb).1 =
          .error ⟨.revealConflict,
            "order is no longer in a state that can accept a secret reveal".toList⟩ := by
  decide +kernel

end WaffleFinance.Coordinator

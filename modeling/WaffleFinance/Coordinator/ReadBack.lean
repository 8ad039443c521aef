import WaffleFinance.Coordinator.Encryption

/-!
# Reading a secret back

`SecretService.get` takes a stored text for a blob if it does not begin with `0x` and has only
characters that blobs have.  The digits that the Soroban decoder gives for a preimage are such a
text: a secret that was claimed on Stellar cannot be read again (`soroban_secret_is_lost`).

`read_back_iff` says for every writer of the column when the preimage is read back.
-/

namespace WaffleFinance.Coordinator

open Lib Fallible

/-! ### Reading -/

namespace SecretService

variable {service : SecretService} {aes : Aes} {d : Db} {p v : Text} {r : OrderRow} {nonce : Nonce}

lemma eval_call_get (hget : d.orders.get p = some r) :
    (call (.get p)).eval (fun _ => Fate.calm) d = (.ok (some r), d) := by
  rw [← hget]
  rfl

lemma truthy_some (hne : v ≠ []) : truthy (some v) = some v := by
  simp [truthy, hne]

/-- A text that begins with `0x` is given out as it is. -/
lemma eval_get_plain (hget : d.orders.get p = some r) (hv : r.preimage = some v) (hne : v ≠ [])
    (hplain : isEncryptedBlob v = false) :
    (service.get aes p nonce).eval (fun _ => Fate.calm) d = (.ok (some v), d) := by
  unfold get
  rw [eval_bind_ok (eval_call_get hget)]
  dsimp only
  rw [hv, truthy_some hne]
  dsimp only
  rw [hplain]
  rfl

lemma eval_get_blob (hget : d.orders.get p = some r) (hv : r.preimage = some v) (hne : v ≠ [])
    (hblob : isEncryptedBlob v = true) (hkeys : service.encKeys ≠ []) :
    (service.get aes p nonce).eval (fun _ => Fate.calm) d =
      (service.decryptWith aes p v r nonce service.encKeys false [] >>= fun t =>
        pure (some t)).eval (fun _ => Fate.calm) d := by
  have hempty : service.encKeys.isEmpty = false := by simpa using hkeys
  unfold get
  rw [eval_bind_ok (eval_call_get hget)]
  dsimp only
  rw [hv, truthy_some hne]
  dsimp only
  rw [hblob, hempty]
  rfl

lemma eval_get_no_key (hget : d.orders.get p = some r) (hv : r.preimage = some v) (hne : v ≠ [])
    (hblob : isEncryptedBlob v = true) (hkeys : service.encKeys = []) :
    ∃ e, (service.get aes p nonce).eval (fun _ => Fate.calm) d = (.error e, d) := by
  unfold get
  rw [eval_bind_ok (eval_call_get hget)]
  dsimp only
  rw [hv, truthy_some hne]
  dsimp only
  rw [hblob, hkeys]
  exact ⟨_, rfl⟩

lemma eval_reencryptStoredSecret (t : Text) :
    ∃ d', (service.reencryptStoredSecret aes p t r nonce).eval (fun _ => Fate.calm) d =
      (.ok (), d') := by
  unfold reencryptStoredSecret
  cases service.writeKey with
  | none => exact ⟨d, rfl⟩
  | some key =>
    dsimp only
    rw [eval_tryCatch]
    split
    · exact ⟨_, rfl⟩
    · exact ⟨_, rfl⟩

/-- What is given out for a blob was decrypted with one of the keys. -/
lemma eval_decryptWith (keys : List StorageKey) (rotate : Bool) (lastError t : Text) (d' : Db)
    (h : (service.decryptWith aes p v r nonce keys rotate lastError).eval
      (fun _ => Fate.calm) d = (.ok t, d')) :
    ∃ key ∈ keys, decryptSecret aes v key = .ok t := by
  induction keys generalizing rotate lastError with
  | nil =>
    unfold decryptWith at h
    cases h
  | cons key keys ih =>
    unfold decryptWith at h
    cases hdecrypt : decryptSecret aes v key with
    | error message =>
      rw [hdecrypt] at h
      obtain ⟨key', hkey', ht⟩ := ih true message h
      exact ⟨key', List.mem_cons_of_mem key hkey', ht⟩
    | ok plaintext =>
      rw [hdecrypt] at h
      have ht : plaintext = t := by
        cases rotate with
        | false =>
          obtain ⟨hok, -⟩ := Prod.mk.inj h
          exact Except.ok.inj hok
        | true =>
          obtain ⟨d'', hd''⟩ := @eval_reencryptStoredSecret service aes d p r nonce plaintext
          have heval := (eval_bind_ok hd'' _).symm.trans h
          obtain ⟨hok, -⟩ := Prod.mk.inj heval
          exact Except.ok.inj hok
      exact ⟨key, List.mem_cons_self, ht ▸ hdecrypt⟩

end SecretService

lemma length_decryptSecret {aes : Aes} (haes : aes.Correct) {v t : Text} {key : StorageKey}
    (h : decryptSecret aes v key = .ok t) : t.length + 29 ≤ v.length := by
  unfold decryptSecret at h
  dsimp only at h
  split_ifs at h with hshort hversion
  cases hdecipher : aes.decipher key (((Base64.decode v).drop 1).take 12)
      (((Base64.decode v).drop 13).take 16) ((Base64.decode v).drop 29) with
  | none =>
    rw [hdecipher] at h
    cases h
  | some plaintext =>
    rw [hdecipher] at h
    cases h
    have hle := haes.length_decipher hdecipher
    have hdecode := Base64.length_decode_le v
    rw [List.length_drop] at hle
    omega

/-! ### Writers -/

/-- Who writes a preimage.  The two events of chains that give bytes are turned into texts by the
coordinator; the other two come in as texts. -/
inductive SecretWriter where
  | reveal (text : Text) (nonce : Nonce)
  | ethereumClaim
  | sorobanClaim
  | solanaClaim (text : Text)

namespace SecretWriter

/-- The text that is handed on. -/
def text (bytes : List UInt8) : SecretWriter → Text
  | reveal t _ => t
  | ethereumClaim => '0' :: 'x' :: hexText bytes
  | sorobanClaim => hexText bytes
  | solanaClaim t => t

/-- What is stored, and its version. -/
def stored (service : SecretService) (aes : Aes) (bytes : List UInt8) :
    SecretWriter → Text × Option ℕ
  | reveal t nonce => service.stored aes t nonce
  | w => (w.text bytes, none)

/-- The call of `recordSecret`. -/
def job (service : SecretService) (aes : Aes) (bytes : List UInt8) (publicId txHash : Text)
    (w : SecretWriter) : Job :=
  .recordSecret publicId (w.stored service aes bytes).1 txHash (w.stored service aes bytes).2

end SecretWriter

/-- `get` gives the preimage, in hexadecimal digits with `0x`. -/
def ReadsBack (service : SecretService) (aes : Aes) (d : Db) (publicId : Text) (bytes : List UInt8)
    (nonce : Nonce) : Prop :=
  ∃ digits d', (service.get aes publicId nonce).eval (fun _ => Fate.calm) d =
      (.ok (some ('0' :: 'x' :: digits)), d') ∧ bytesFromHex digits = bytes

section Texts

variable {t : Text} {bytes : List UInt8}

lemma not_isEncryptedBlob_withHex (digits : Text) :
    isEncryptedBlob ('0' :: 'x' :: digits) = false := rfl

/-- Digits without `0x` are taken for a blob. -/
lemma isEncryptedBlob_digits (hne : t ≠ []) (h : ∀ c ∈ t, isHexDigit c = true) :
    isEncryptedBlob t = true := by
  have hbegins : "0x".toList.isPrefixOf t = false := by
    match t with
    | [] => rfl
    | [c] => simp [List.isPrefixOf]
    | c :: x :: rest =>
      have hx : x ≠ 'x' := by
        rintro rfl
        exact absurd (h 'x' (by simp)) (by decide)
      simp [List.isPrefixOf, Ne.symm hx]
  have hall : (t.all fun c => c ∈ Base64.alphabet) = true :=
    List.all_eq_true.2 fun c hc => decide_eq_true (mem_alphabet_of_isHexDigit (h c hc))
  unfold isEncryptedBlob
  rw [hbegins, hall]
  simp [hne]

end Texts

section ReadBack

variable {service : SecretService} {aes : Aes} {bytes : List UInt8} {p : Text} {w : SecretWriter}

lemma SecretWriter.stored_cases (service : SecretService) (aes : Aes) (bytes : List UInt8)
    (w : SecretWriter) :
    w.stored service aes bytes = (w.text bytes, none) ∨
      ∃ key rest nonce, service.encKeys = key :: rest ∧
        w.stored service aes bytes = (encryptSecret aes (w.text bytes) key nonce, some 1) := by
  cases w with
  | reveal t nonce =>
    show service.stored aes t nonce = (t, none) ∨ ∃ key rest nonce', _ ∧
      service.stored aes t nonce = (encryptSecret aes t key nonce', some 1)
    unfold SecretService.stored SecretService.writeKey
    cases hkeys : service.encKeys with
    | nil => exact Or.inl rfl
    | cons key rest => exact Or.inr ⟨key, rest, nonce, rfl, rfl⟩
  | _ => exact Or.inl rfl

/-- A secret that is recorded is in the column afterwards. -/
lemma preimage_run_job {d : Db} {r : OrderRow} {txHash : Text} (hget : d.orders.get p = some r)
    (hverdict : (w.job service aes bytes p txHash).verdict r = .proceed) :
    ((((OrderService.run (w.job service aes bytes p txHash)).eval
      (fun _ => Fate.calm) d).2.orders.get p).bind OrderRow.preimage) =
        some (w.stored service aes bytes).1 := by
  have hwritable :
      OrdersRepository.encVersionAllowed (w.stored service aes bytes).2 = true := by
    rcases w.stored_cases service aes bytes with hplain | ⟨key, rest, nonce, -, hblob⟩
    · rw [hplain]
      rfl
    · rw [hblob]
      rfl
  obtain ⟨hnone, hrecord⟩ := secretVerdict_proceed hverdict
  obtain ⟨hterminal, -⟩ := recordVerdict_proceed hrecord
  obtain ⟨d', heval, hbody⟩ :=
    Job.eval_run_proceed (show (w.job service aes bytes p txHash).Writable from hwritable) hget
      hverdict
  have hrow : ((w.job service aes bytes p txHash).write.row r).preimage =
      some (w.stored service aes bytes).1 := by
    show (OrdersRepository.secretRow _ r).preimage = _
    unfold OrdersRepository.secretRow
    rw [if_neg]
    · rfl
    · rw [hterminal, hnone]
      simp [hwritable]
  rw [heval]
  obtain ⟨r', hr', hr''⟩ := Option.map_eq_some_iff.1 hbody
  have hpreimage := congrArg OrderRow.preimage hr''
  have hget' : d'.orders.get p = some r' := hr'
  show (d'.orders.get p).bind OrderRow.preimage = _
  rw [hget', Option.bind_some]
  exact hpreimage.trans hrow

/-- A blob under the first key is read as the text that is in it. -/
lemma SecretService.eval_get_own (haes : aes.Correct) {d : Db} {r : OrderRow} {key : StorageKey}
    {rest : List StorageKey} {t : Text} {nonce nonce' : Nonce} (hget : d.orders.get p = some r)
    (hkeys : service.encKeys = key :: rest)
    (hv : r.preimage = some (encryptSecret aes t key nonce)) (ht : t ≠ []) :
    (service.get aes p nonce').eval (fun _ => Fate.calm) d = (.ok (some t), d) := by
  have hne : encryptSecret aes t key nonce ≠ [] := by
    obtain ⟨_, hblob⟩ := exists_encryptSecret_eq aes t key nonce
    rw [hblob]
    exact List.cons_ne_nil _ _
  have hdecrypt : (service.decryptWith aes p (encryptSecret aes t key nonce) r nonce'
      service.encKeys false []).eval (fun _ => Fate.calm) d = (.ok t, d) := by
    rw [hkeys]
    unfold SecretService.decryptWith
    rw [decryptSecret_own haes ht]
    rfl
  rw [SecretService.eval_get_blob hget hv hne (isEncryptedBlob_encryptSecret aes t key nonce)
    (by rw [hkeys]; exact List.cons_ne_nil _ _), eval_bind_ok hdecrypt]
  rfl

/-- With `0x` the secret is read back, and what is stored is what it looks like. -/
lemma readsBack_of_withHex (haes : aes.Correct) {d : Db} {r : OrderRow} {digits : Text}
    {nonce : Nonce} (hget : d.orders.get p = some r)
    (hv : r.preimage = some (w.stored service aes bytes).1)
    (htext : w.text bytes = '0' :: 'x' :: digits) (hdigits : bytesFromHex digits = bytes) :
    ReadsBack service aes d p bytes nonce ∧
      isEncryptedBlob (w.stored service aes bytes).1 =
        decide ((w.stored service aes bytes).2 = some 1) := by
  rcases w.stored_cases service aes bytes with hplain | ⟨key, rest, nonce', hkeys, hblob⟩
  · rw [hplain, htext] at hv ⊢
    exact ⟨⟨digits, d, SecretService.eval_get_plain hget hv (List.cons_ne_nil _ _)
      (not_isEncryptedBlob_withHex digits), hdigits⟩, rfl⟩
  rw [hblob, htext] at hv ⊢
  refine ⟨⟨digits, d, ?_, hdigits⟩, ?_⟩
  · exact SecretService.eval_get_own haes hget hkeys hv (List.cons_ne_nil _ _)
  · rw [isEncryptedBlob_encryptSecret]
    rfl

/-- Without `0x` it is not. -/
lemma not_readsBack_of_digits (haes : aes.Correct) (hbytes : bytes.length = 32) {d : Db}
    {r : OrderRow} {nonce : Nonce} (hget : d.orders.get p = some r)
    (hv : r.preimage = some (w.stored service aes bytes).1)
    (hlength : (w.text bytes).length = 64) (hhex : ∀ c ∈ w.text bytes, isHexDigit c = true) :
    ¬ ReadsBack service aes d p bytes nonce := by
  rintro ⟨digits, d', heval, hdigits⟩
  have hne : w.text bytes ≠ [] := List.ne_nil_of_length_pos (by omega)
  have hlong := length_bytesFromHex_le digits
  rw [hdigits, hbytes] at hlong
  rcases w.stored_cases service aes bytes with hplain | ⟨key, rest, nonce', hkeys, hblob⟩
  · rw [hplain] at hv
    have hlooks := isEncryptedBlob_digits hne hhex
    by_cases hkeys : service.encKeys = []
    · obtain ⟨e, herror⟩ := @SecretService.eval_get_no_key service aes d p _ r nonce hget hv hne
        hlooks hkeys
      rw [heval] at herror
      cases herror
    -- what comes out of the blob would be too short
    rw [SecretService.eval_get_blob hget hv hne hlooks hkeys, eval_bind] at heval
    split at heval
    · rename_i t d'' hdecrypt
      obtain ⟨hok, -⟩ := Prod.mk.inj heval
      obtain ⟨key, -, ht⟩ := SecretService.eval_decryptWith _ _ _ _ _ hdecrypt
      have hshort : t.length + 29 ≤ (w.text bytes).length := length_decryptSecret haes ht
      rw [Option.some.inj (Except.ok.inj hok), List.length_cons, List.length_cons] at hshort
      omega
    · cases heval
  · rw [hblob] at hv
    rw [SecretService.eval_get_own haes hget hkeys hv hne] at heval
    obtain ⟨hok, -⟩ := Prod.mk.inj heval
    refine not_prefix_digits hhex ⟨digits, ?_⟩
    exact (Option.some.inj (Except.ok.inj hok)).symm

end ReadBack

/-- A preimage of 32 bytes that is recorded by any of the writers is read back later, and the test
for blobs is right about what is stored, exactly if the writer hands on a text with `0x`. -/
theorem read_back_iff (service : SecretService) (aes : Aes) (haes : aes.Correct) (w : SecretWriter)
    (bytes : List UInt8) (hbytes : bytes.length = 32) (hw : Spells (w.text bytes) bytes)
    (publicId txHash : Text) (d : Db) (r : OrderRow) (hget : d.orders.get publicId = some r)
    (hverdict : (w.job service aes bytes publicId txHash).verdict r = .proceed) (later : Db)
    (hlater : (later.orders.get publicId).bind OrderRow.preimage =
      (((OrderService.run (w.job service aes bytes publicId txHash)).eval
        (fun _ => Fate.calm) d).2.orders.get publicId).bind OrderRow.preimage) (nonce : Nonce) :
    (ReadsBack service aes later publicId bytes nonce ∧
      isEncryptedBlob (w.stored service aes bytes).1 =
        decide ((w.stored service aes bytes).2 = some 1)) ↔
      "0x".toList <+: w.text bytes := by
  rw [preimage_run_job hget hverdict] at hlater
  obtain ⟨r', hget', hv⟩ := Option.bind_eq_some_iff.1 hlater
  obtain ⟨digits, htext | htext, hlength, hhex, hdigits⟩ := hw
  · refine ⟨fun _ => ⟨digits, htext.symm⟩, fun _ => ?_⟩
    exact readsBack_of_withHex haes hget' hv htext hdigits
  · subst htext
    refine ⟨fun h => ?_, fun h => absurd h (not_prefix_digits hhex)⟩
    exact absurd h.1 (not_readsBack_of_digits haes hbytes hget' hv (by omega) hhex)

namespace Sample

/-- The order after its source lock was recorded. -/
def lockedDb : Db :=
  { Db.empty with
    orders := InsertionMap.empty.insert sampleId { sampleInput.row with status := .srcLocked } }

/-- A preimage. -/
def secretBytes : List UInt8 := List.replicate 32 0

/-- No key is configured. -/
def plainService : SecretService := ⟨.testnet, [], fun h => by cases h⟩

/-- The claim of the lock on Stellar. -/
def sorobanClaim : SorobanEvent :=
  ⟨9, "t9".toList, "0".toList, some (.claimed 7 (List.replicate 64 'a') (hexText secretBytes))⟩

/-- The database after the listener has seen the claim. -/
def claimedDb : Db :=
  ((SorobanListener.processSorobanEvent [] sorobanClaim .live).eval (fun _ => Fate.calm) lockedDb).2

end Sample

open Sample in
theorem read_back_iff_sample :
    ReadsBack service toyAes
      (((OrderService.run ((SecretWriter.reveal ('0' :: 'x' :: hexText secretBytes)
        nonce).job service toyAes secretBytes sampleId
          "0xt9".toList)).eval (fun _ => Fate.calm) lockedDb).2) sampleId
      secretBytes nonce := by
  have hspells : Spells ((SecretWriter.reveal ('0' :: 'x' :: hexText secretBytes)
      nonce).text secretBytes) secretBytes :=
    spells_withHex secretBytes
  exact ((read_back_iff service toyAes correct_toyAes
    (.reveal ('0' :: 'x' :: hexText secretBytes) nonce) secretBytes rfl
    hspells sampleId "0xt9".toList lockedDb _ rfl (by decide +kernel) _ rfl
    nonce).2 ⟨hexText secretBytes, rfl⟩).1

open Sample in
/-- The listener stores the digits that the decoder gives, and `get` takes them for a blob. -/
theorem soroban_secret_is_lost :
    (claimedDb.orders.get sampleId).map (fun r => (r.status, r.preimage)) =
        some (.secretRevealed, some (hexText secretBytes)) ∧
      ((plainService.get toyAes sampleId nonce).eval (fun _ => Fate.calm)
        claimedDb).1 = .error (SecretService.otherError
          ("stored preimage is encrypted but no decryption key is configured; ".toList ++
            "set SECRET_STORAGE_KEY in the coordinator environment".toList)) := by
  decide +kernel

end WaffleFinance.Coordinator

import WaffleFinance.Coordinator.SecretService

/-!
# Blobs and hexadecimal texts

What is known about the texts in the column for preimages: how a blob is taken apart again, and
what the test that tells blobs from plain texts makes of either.

Of the cipher itself it is assumed that the right key gives back the text (`Aes.Correct`) and, where
it matters, that another key of the ring gives nothing (`Aes.Exclusive`).
-/

namespace WaffleFinance.Coordinator

open Lib

/-! ### The cipher -/

/-- The key gives back what it has encrypted, and what comes out is not longer than what is in. -/
structure Aes.Correct (aes : Aes) : Prop where
  decipher_encipher : ∀ key nonce t,
    aes.decipher key nonce.bytes (aes.tag key nonce t) (aes.ciphertext key nonce t) = some t
  length_decipher : ∀ {key iv tag ciphertext t},
    aes.decipher key iv tag ciphertext = some t → t.length ≤ ciphertext.length

/-- What was encrypted with one key does not pass the check of the tag with another one of these. -/
def Aes.Exclusive (aes : Aes) (keys : List StorageKey) (key : StorageKey) (nonce : Nonce)
    (t : Text) : Prop :=
  ∀ key' ∈ keys, key' ≠ key →
    aes.decipher key' nonce.bytes (aes.tag key nonce t) (aes.ciphertext key nonce t) = none

section Blobs

variable {aes : Aes} {key key' : StorageKey} {nonce nonce' : Nonce} {t : Text}

lemma decode_encryptSecret (aes : Aes) (t : Text) (key : StorageKey) (nonce : Nonce) :
    Base64.decode (encryptSecret aes t key nonce) =
      versionAes256Gcm :: (nonce.bytes ++ (aes.tag key nonce t ++ aes.ciphertext key nonce t)) := by
  unfold encryptSecret
  rw [Base64.decode_encode, List.append_assoc]

/-- Which key it is tried with only matters for the cipher. -/
lemma decryptSecret_encryptSecret (ht : t ≠ []) :
    decryptSecret aes (encryptSecret aes t key nonce) key' =
      (aes.decipher key' nonce.bytes (aes.tag key nonce t) (aes.ciphertext key nonce t)).elim
        (.error ("Decryption failed: authentication tag mismatch. The key may be wrong, ".toList ++
          "or the stored blob has been tampered with.".toList)) .ok := by
  have htag := aes.length_tag key nonce t
  have hnonce := nonce.length_eq
  have hlength : ¬ (versionAes256Gcm ::
      (nonce.bytes ++ (aes.tag key nonce t ++ aes.ciphertext key nonce t))).length < 30 := by
    have hle := aes.length_le key nonce t
    have hpos := List.length_pos_of_ne_nil ht
    simp only [List.length_cons, List.length_append]
    omega
  have hiv : ((versionAes256Gcm ::
      (nonce.bytes ++ (aes.tag key nonce t ++ aes.ciphertext key nonce t))).drop 1).take 12 =
        nonce.bytes := by
    rw [List.drop_one, List.tail_cons, List.take_left' hnonce]
  have htag' : ((versionAes256Gcm ::
      (nonce.bytes ++ (aes.tag key nonce t ++ aes.ciphertext key nonce t))).drop 13).take 16 =
        aes.tag key nonce t := by
    rw [List.drop_succ_cons, List.drop_left' hnonce, List.take_left' htag]
  have hrest : (versionAes256Gcm ::
      (nonce.bytes ++ (aes.tag key nonce t ++ aes.ciphertext key nonce t))).drop 29 =
        aes.ciphertext key nonce t := by
    rw [List.drop_succ_cons, ← List.append_assoc,
      List.drop_left' (by rw [List.length_append, hnonce, htag])]
  unfold decryptSecret
  dsimp only
  rw [decode_encryptSecret, if_neg hlength, if_neg (by simp), hiv, htag', hrest]
  cases aes.decipher key' nonce.bytes (aes.tag key nonce t) (aes.ciphertext key nonce t) <;> rfl

lemma decryptSecret_own (haes : aes.Correct) (ht : t ≠ []) :
    decryptSecret aes (encryptSecret aes t key nonce) key = .ok t := by
  rw [decryptSecret_encryptSecret ht, haes.decipher_encipher, Option.elim_some]

lemma decryptSecret_other {keys : List StorageKey} (haes : aes.Exclusive keys key nonce t)
    (ht : t ≠ []) (hmem : key' ∈ keys) (hkey : key' ≠ key) :
    ∃ message, decryptSecret aes (encryptSecret aes t key nonce) key' = .error message := by
  rw [decryptSecret_encryptSecret ht, haes key' hmem hkey]
  exact ⟨_, rfl⟩

lemma nonce_eq_of_encryptSecret_eq
    (h : encryptSecret aes t key nonce = encryptSecret aes t key' nonce') : nonce = nonce' := by
  have hbytes := congrArg Base64.decode h
  rw [decode_encryptSecret, decode_encryptSecret] at hbytes
  have hparts := List.append_inj (List.cons.inj hbytes).2
    (nonce.length_eq.trans nonce'.length_eq.symm)
  cases nonce
  cases nonce'
  simpa using hparts.1

lemma exists_encryptSecret_eq (aes : Aes) (t : Text) (key : StorageKey) (nonce : Nonce) :
    ∃ rest, encryptSecret aes t key nonce = 'A' :: rest := by
  obtain ⟨b, c, rest, hbytes⟩ : ∃ b c rest,
      nonce.bytes ++ aes.tag key nonce t ++ aes.ciphertext key nonce t = b :: c :: rest := by
    have hnonce := nonce.length_eq
    match hb : nonce.bytes with
    | [] => simp [hb] at hnonce
    | [_] => simp [hb] at hnonce
    | b :: c :: rest => exact ⟨b, c, _, rfl⟩
  unfold encryptSecret
  rw [hbytes]
  have hzero : (versionAes256Gcm.toNat * 65536 + b.toNat * 256 + c.toNat) / 262144 = 0 := by
    have hb := b.toNat_lt
    have hc := c.toNat_lt
    have hversion : versionAes256Gcm.toNat = 1 := rfl
    omega
  rw [Base64.encode, hzero]
  exact ⟨_, rfl⟩

lemma isEncryptedBlob_encryptSecret (aes : Aes) (t : Text) (key : StorageKey) (nonce : Nonce) :
    isEncryptedBlob (encryptSecret aes t key nonce) = true := by
  have halphabet : (encryptSecret aes t key nonce).all (fun c => c ∈ Base64.alphabet) = true :=
    List.all_eq_true.2 fun c hc => decide_eq_true (Base64.mem_alphabet_of_mem_encode hc)
  obtain ⟨rest, hblob⟩ := exists_encryptSecret_eq aes t key nonce
  unfold isEncryptedBlob
  rw [halphabet, hblob]
  rfl

end Blobs

/-! ### Hexadecimal texts -/

/-- `toHex`: two digits for each byte. -/
def hexText (bytes : List UInt8) : Text := bytes.flatMap hexByte

lemma hexValue_digitChar : ∀ n < 16, hexValue (Nat.digitChar n) = some n := by decide

lemma isHexDigit_digitChar : ∀ n < 16, isHexDigit (Nat.digitChar n) = true := by decide

lemma bytesFromHex_hexText (bytes : List UInt8) : bytesFromHex (hexText bytes) = bytes := by
  induction bytes with
  | nil => rfl
  | cons b bytes ih =>
    have hlt := b.toNat_lt
    have hhigh := hexValue_digitChar (b.toNat / 16) (by omega)
    have hlow := hexValue_digitChar (b.toNat % 16) (by omega)
    have hbyte : UInt8.ofNat (16 * (b.toNat / 16) + b.toNat % 16) = b := by
      rw [Nat.div_add_mod, UInt8.ofNat_toNat]
    show bytesFromHex (_ :: _ :: hexText bytes) = _
    unfold bytesFromHex
    rw [hhigh, hlow]
    dsimp only
    rw [hbyte, ih]

lemma length_hexText (bytes : List UInt8) : (hexText bytes).length = 2 * bytes.length := by
  induction bytes with
  | nil => rfl
  | cons b bytes ih =>
    show (hexText bytes).length + 1 + 1 = _
    rw [ih, List.length_cons]
    omega

lemma isHexDigit_of_mem_hexText {bytes : List UInt8} {c : Char} (h : c ∈ hexText bytes) :
    isHexDigit c = true := by
  obtain ⟨b, -, hc⟩ := List.mem_flatMap.1 h
  have hlt := b.toNat_lt
  simp only [hexByte, List.mem_cons, List.not_mem_nil, or_false] at hc
  rcases hc with rfl | rfl
  · exact isHexDigit_digitChar _ (by omega)
  · exact isHexDigit_digitChar _ (by omega)

/-- The text stands for these bytes: hexadecimal digits in either case, with or without `0x`. -/
def Spells (t : Text) (bytes : List UInt8) : Prop :=
  ∃ digits, (t = '0' :: 'x' :: digits ∨ t = digits) ∧ digits.length = 2 * bytes.length ∧
    (∀ c ∈ digits, isHexDigit c = true) ∧ bytesFromHex digits = bytes

lemma spells_withHex (bytes : List UInt8) : Spells ('0' :: 'x' :: hexText bytes) bytes :=
  ⟨hexText bytes, Or.inl rfl, length_hexText bytes, fun _ => isHexDigit_of_mem_hexText,
    bytesFromHex_hexText bytes⟩

/-- Digits without `0x` do not begin with it. -/
lemma not_prefix_digits {t : Text} (h : ∀ c ∈ t, isHexDigit c = true) :
    ¬ "0x".toList <+: t := by
  rintro ⟨rest, rfl⟩
  exact absurd (h 'x' (by simp)) (by decide)

lemma toNat_lt_of_isHexDigit {c : Char} (h : isHexDigit c = true) : c.toNat < 128 := by
  have hle : c ≤ 'f' := by
    simp only [isHexDigit, Bool.or_eq_true, Bool.and_eq_true, decide_eq_true_eq] at h
    rcases h with (⟨-, hc⟩ | ⟨-, hc⟩) | ⟨-, hc⟩
    · exact hc.trans (by decide)
    · exact hc
    · exact hc.trans (by decide)
  exact lt_of_le_of_lt (UInt32.le_iff_toNat_le.1 hle) (by decide)

lemma mem_alphabet_of_isHexDigit {c : Char} (h : isHexDigit c = true) : c ∈ Base64.alphabet := by
  have hall : ∀ n < 128, isHexDigit (Char.ofNat n) = true →
      Char.ofNat n ∈ Base64.alphabet := by decide +kernel
  have hc := hall c.toNat (toNat_lt_of_isHexDigit h)
  rw [Char.ofNat_toNat] at hc
  exact hc h

lemma length_bytesFromHex_le (t : Text) : 2 * (bytesFromHex t).length ≤ t.length := by
  induction t using bytesFromHex.induct with
  | case1 a b rest high low ha hb ih =>
    unfold bytesFromHex
    rw [ha, hb]
    simp only [List.length_cons]
    omega
  | case2 a b rest h =>
    unfold bytesFromHex
    split
    · rename_i ha hb
      exact absurd hb (h _ _ ha)
    · exact Nat.zero_le _
  | case3 t h =>
    rw [bytesFromHex.eq_2 t h]
    exact Nat.zero_le _

/-! ### A cipher to compute with -/

namespace Sample

/-- A character in three bytes. -/
def charBytes (c : Char) : List UInt8 :=
  [UInt8.ofNat c.toNat, UInt8.ofNat (c.toNat / 256), UInt8.ofNat (c.toNat / 65536)]

def textOfBytes : List UInt8 → Text
  | a :: b :: c :: rest =>
    Char.ofNat (a.toNat + 256 * b.toNat + 65536 * c.toNat) :: textOfBytes rest
  | _ => []

lemma length_le_flatMap (bytes : List UInt8) (t : Text) :
    t.length ≤ (bytes ++ t.flatMap charBytes).length := by
  induction t with
  | nil => exact Nat.zero_le _
  | cons c t ih =>
    simp only [List.length_append, List.flatMap_cons, List.length_cons, charBytes] at ih ⊢
    omega

/-- The key is written before the text and compared when it is read. -/
def toyAes : Aes where
  ciphertext key _ t := key.bytes ++ t.flatMap charBytes
  tag _ _ _ := List.replicate 16 1
  decipher key _ _ ciphertext :=
    if ciphertext.take 32 = key.bytes then some (textOfBytes (ciphertext.drop 32)) else none
  length_le key _ t := length_le_flatMap key.bytes t
  length_tag _ _ _ := rfl

lemma textOfBytes_flatMap (t : Text) : textOfBytes (t.flatMap charBytes) = t := by
  induction t with
  | nil => rfl
  | cons c t ih =>
    have hlt : c.toNat < 2 ^ 24 := by
      have hvalid := c.valid
      rcases hvalid with h | ⟨-, h⟩
      · exact h.trans (by decide)
      · exact h.trans (by decide)
    have hsum : (UInt8.ofNat c.toNat).toNat + 256 * (UInt8.ofNat (c.toNat / 256)).toNat +
        65536 * (UInt8.ofNat (c.toNat / 65536)).toNat = c.toNat := by
      simp only [UInt8.toNat_ofNat']
      omega
    show Char.ofNat _ :: textOfBytes (t.flatMap charBytes) = c :: t
    rw [ih, hsum, Char.ofNat_toNat]

lemma length_textOfBytes_le (bytes : List UInt8) : (textOfBytes bytes).length ≤ bytes.length := by
  fun_induction textOfBytes with
  | case1 a b c rest ih =>
    simp only [List.length_cons]
    omega
  | case2 => exact Nat.zero_le _

lemma decipher_toyAes (key key' : StorageKey) (nonce : Nonce) (iv tag : List UInt8) (t : Text) :
    toyAes.decipher key' iv tag (toyAes.ciphertext key nonce t) =
      if key.bytes = key'.bytes then some t else none := by
  show (if (key.bytes ++ t.flatMap charBytes).take 32 = key'.bytes then
    some (textOfBytes ((key.bytes ++ t.flatMap charBytes).drop 32)) else none) = _
  rw [List.take_left' key.length_eq, List.drop_left' key.length_eq, textOfBytes_flatMap]

lemma correct_toyAes : toyAes.Correct where
  decipher_encipher key nonce t := by
    rw [decipher_toyAes, if_pos rfl]
  length_decipher {key iv tag ciphertext t} h := by
    have h' : (if ciphertext.take 32 = key.bytes then some (textOfBytes (ciphertext.drop 32))
      else none) = some t := h
    split at h'
    · cases h'
      refine (length_textOfBytes_le _).trans ?_
      rw [List.length_drop]
      exact Nat.sub_le _ _
    · cases h'

lemma exclusive_toyAes (keys : List StorageKey) (key : StorageKey) (nonce : Nonce) (t : Text) :
    toyAes.Exclusive keys key nonce t := by
  intro key' _ hne
  rw [decipher_toyAes, if_neg]
  intro hbytes
  cases key
  cases key'
  exact hne (by simpa using hbytes.symm)

end Sample

end WaffleFinance.Coordinator

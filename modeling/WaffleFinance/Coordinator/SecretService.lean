import WaffleFinance.Lib.Base64
import WaffleFinance.Coordinator.ChainEvents

/-!
# Secrets

Preimages come in through `SecretService.reveal`, which checks them and encrypts them if there is a
storage key, and through the chains.  `SecretReconciler` is one of the ways from a chain: it looks
for claims on Ethereum that were missed.  Both end in `OrderService.recordSecret`, which stores what
it is given.

The cipher is a parameter.  What is around it is modelled: the layout of a blob, its text, and how a
stored text is told apart from a plain one.
-/

namespace WaffleFinance.Coordinator

open Lib

/-! ### The cipher -/

/-- The key that is derived from an entry of `SECRET_STORAGE_KEY`. -/
structure StorageKey where
  bytes : List UInt8
  length_eq : bytes.length = 32

/-- The random bytes of one encryption. -/
structure Nonce where
  bytes : List UInt8
  length_eq : bytes.length = 12

/-- AES-256-GCM on the UTF-8 bytes of a text. -/
structure Aes where
  ciphertext : StorageKey → Nonce → Text → List UInt8
  tag : StorageKey → Nonce → Text → List UInt8
  decipher : StorageKey → (iv tag ciphertext : List UInt8) → Option Text
  length_le : ∀ key nonce t, t.length ≤ (ciphertext key nonce t).length
  length_tag : ∀ key nonce t, (tag key nonce t).length = 16

def versionAes256Gcm : UInt8 := 1

section Cipher

variable (aes : Aes)

/-- Version, random bytes, tag and ciphertext, as one text. -/
def encryptSecret (plaintext : Text) (key : StorageKey) (nonce : Nonce) : Text :=
  Base64.encode (versionAes256Gcm ::
    (nonce.bytes ++ aes.tag key nonce plaintext ++ aes.ciphertext key nonce plaintext))

lemma encryptSecret_ne (plaintext : Text) (key : StorageKey) (nonce : Nonce) :
    encryptSecret aes plaintext key nonce ≠ plaintext := by
  intro heq
  have hne : versionAes256Gcm ::
      (nonce.bytes ++ aes.tag key nonce plaintext ++ aes.ciphertext key nonce plaintext) ≠ [] :=
    List.cons_ne_nil _ _
  have hlt := Base64.length_lt_length_encode hne
  have hlength := congrArg List.length heq
  have hle := aes.length_le key nonce plaintext
  unfold encryptSecret at hlength
  rw [hlength] at hlt
  simp only [List.length_cons, List.length_append] at hlt
  omega

/-- A byte in two hexadecimal digits. -/
def hexByte (b : UInt8) : Text :=
  [Nat.digitChar (b.toNat / 16), Nat.digitChar (b.toNat % 16)]

def decryptSecret (blob : Text) (key : StorageKey) : Except Text Text :=
  let buf := Base64.decode blob
  if buf.length < 30 then .error "Encrypted blob is too short to be valid".toList
  else if buf.head? ≠ some versionAes256Gcm then
    .error ("Unknown encryption version 0x".toList ++ (buf.head?.elim [] hexByte) ++
      ". Only AES-256-GCM (version 0x01) is supported.".toList)
  else
    match aes.decipher key ((buf.drop 1).take 12) ((buf.drop 13).take 16) (buf.drop 29) with
    | some plaintext => .ok plaintext
    | none =>
      .error ("Decryption failed: authentication tag mismatch. The key may be wrong, ".toList ++
        "or the stored blob has been tampered with.".toList)

end Cipher

/-- A text without `0x` that is made of the characters of a blob. -/
def isEncryptedBlob (value : Text) : Bool :=
  !("0x".toList.isPrefixOf value) && value ≠ [] && value.all fun c => c ∈ Base64.alphabet

/-! ### The service -/

inductive Network where
  | testnet
  | mainnet
  deriving DecidableEq

/-- The service does not start on the main network without a key.  The first key is the one that is
used for writing. -/
structure SecretService where
  network : Network
  encKeys : List StorageKey
  guarded : network = .mainnet → encKeys ≠ []

namespace SecretService

def unknownOrder (publicId : Text) : ServiceError :=
  ⟨.unknownOrder, "unknown order ".toList ++ publicId⟩

def invalidPreimage : ServiceError :=
  ⟨.invalidPreimage, "preimage does not match order hashlock".toList⟩

def otherError (message : Text) : ServiceError := ⟨.other, message⟩

/-- What the caller is told about an error of `recordSecret`. -/
def classifyStorageFailure (publicId : Text) (e : ServiceError) : ServiceError :=
  if e.kind = .validation then
    if includes (toLowerCase e.message) "unknown order".toList then unknownOrder publicId
    else
      ⟨.revealConflict, "order is no longer in a state that can accept a secret reveal".toList⟩
  else ⟨.secretStorage, "failed to persist revealed secret".toList⟩

variable (service : SecretService) (aes : Aes) (hashes : Hashes)

def writeKey : Option StorageKey := service.encKeys.head?

/-- The text to store and its version. -/
def stored (preimage : Text) (nonce : Nonce) : Text × Option ℕ :=
  match service.writeKey with
  | some key => (encryptSecret aes preimage key nonce, some 1)
  | none => (preimage, none)

def reveal (publicId preimage txHash : Text) (nonce : Nonce) : Serve Unit := do
  match ← call (.get publicId) with
  | none => throw (unknownOrder publicId)
  | some order =>
    if !validatePreimage hashes preimage order.hashlock then throw invalidPreimage
    else
      tryCatch
        (OrderService.recordSecret publicId (service.stored aes preimage nonce).1 txHash
          (service.stored aes preimage nonce).2)
        fun e => throw (classifyStorageFailure publicId e)

/-- Store the preimage again under the key for writing.  An error is ignored. -/
def reencryptStoredSecret (publicId plaintext : Text) (order : OrderRow) (nonce : Nonce) :
    Serve Unit :=
  match service.writeKey with
  | none => pure ()
  | some key =>
    tryCatch
      (OrderService.recordSecret publicId (encryptSecret aes plaintext key nonce)
        (order.secretRevealedTx.getD "0xrekey".toList) (some 1))
      fun _ => pure ()

/-- Try one key after the other.  `rotate` is false for the first. -/
def decryptWith (publicId blob : Text) (order : OrderRow) (nonce : Nonce) :
    List StorageKey → (rotate : Bool) → (lastError : Text) → Serve Text
  | [], _, lastError =>
    throw (otherError ("failed to decrypt preimage for order ".toList ++ publicId ++ ": ".toList ++
      lastError))
  | key :: keys, rotate, _ =>
    match decryptSecret aes blob key with
    | .error message => decryptWith publicId blob order nonce keys true message
    | .ok plaintext => do
      if rotate then service.reencryptStoredSecret aes publicId plaintext order nonce
      pure plaintext

def get (publicId : Text) (nonce : Nonce) : Serve (Option Text) := do
  match ← call (.get publicId) with
  | none => pure none
  | some order =>
    match truthy order.preimage with
    | none => pure none
    | some blob =>
      if !isEncryptedBlob blob then pure (some blob)
      else if service.encKeys.isEmpty then
        throw (otherError
          ("stored preimage is encrypted but no decryption key is configured; ".toList ++
            "set SECRET_STORAGE_KEY in the coordinator environment".toList))
      else do
        let plaintext ← service.decryptWith aes publicId blob order nonce service.encKeys false []
        pure (some plaintext)

end SecretService

/-! ### Missed claims -/

inductive RecoveryOutcome where
  | recovered
  | alreadyKnown
  | invalidPreimage
  | stateConflict
  | error
  deriving DecidableEq

namespace SecretReconciler

variable (hashes : Hashes)

def recoverOneOrder (orderId preimage txHash : Text) : Serve RecoveryOutcome := do
  match ← call (.findBySrcOrderId .ethereum orderId) with
  | none => pure .error
  | some (publicId, order) =>
    if (truthy order.preimage).isSome then pure .alreadyKnown
    else if !validatePreimage hashes preimage order.hashlock then pure .invalidPreimage
    else
      tryCatch (do
        OrderService.recordSecret publicId preimage txHash none
        pure .recovered) fun e =>
        if includes e.message "cannot record".toList then pure .stateConflict else pure .error

/-- The id, the preimage and the transaction of a claim. -/
def claimOf (log : EthClaimed) : Option (Text × Text × Text) := do
  let orderId ← nonzero log.orderId
  let preimage ← truthy log.preimage
  pure (decimal orderId, preimage, log.place.txHash)

def recoverEach : List (Text × Text × Text) → Serve (List RecoveryOutcome)
  | [] => pure []
  | (orderId, preimage, txHash) :: rest => do
    let outcome ← recoverOneOrder hashes orderId preimage txHash
    let outcomes ← recoverEach rest
    pure (outcome :: outcomes)

/-- The claims of a range of blocks, as the node reports them.  A node that does not answer is not
an error. -/
def recoverFromEthereumLogs (logs : List EthClaimed) : Serve (List RecoveryOutcome) := do
  let fetched ← tryCatch (do
    call .rpc
    pure true) fun _ => pure false
  if fetched then recoverEach hashes (logs.filterMap claimOf) else pure []

end SecretReconciler

end WaffleFinance.Coordinator

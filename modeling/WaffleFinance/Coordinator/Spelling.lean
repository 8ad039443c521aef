import WaffleFinance.Coordinator.Deliveries
import WaffleFinance.Coordinator.Encryption

/-!
# Spellings of a hashlock

A hashlock may be announced with digits in either case.  The public id of an order has small
letters, so that there is one order for 32 bytes.  The hashlock itself is kept and compared as it
was announced: events and preimages, which come with small letters, do not fit an order that was
announced with capital ones (`capital_hashlock_unmatched`), and an id with capital letters passes
the schema and finds nothing.
-/

namespace WaffleFinance.Coordinator

open Lib OrdersRepository

/-! ### Ids in paths -/

/-- What `trim` removes: white space and line ends. -/
def isSpace (c : Char) : Bool :=
  c.toNat ∈ [9, 10, 11, 12, 13, 32, 160, 5760, 8232, 8233, 8239, 8287, 12288, 65279] ||
    (8192 ≤ c.toNat && c.toNat ≤ 8202)

def trim (t : Text) : Text := ((t.dropWhile isSpace).reverse.dropWhile isSpace).reverse

/-- `wf_` and a hashlock, in either case. -/
def isOrderId : Text → Bool
  | 'w' :: 'f' :: '_' :: hashlock => isHashlock hashlock
  | _ => false

def orderIdSchema (id : Text) : Option Text :=
  if isOrderId (trim id) then some (trim id) else none

/-- The route for one order. -/
def getOrder (id : Text) : Serve (Option OrderRow) :=
  match orderIdSchema id with
  | none =>
    throw (orderValidationError "order ID must match format wf_0x\x7b64 hex chars\x7d".toList)
  | some id => call (.get id)

lemma isOrderId_of_orderIdSchema {id i : Text} (h : orderIdSchema id = some i) :
    isOrderId i = true := by
  unfold orderIdSchema at h
  split at h
  · rename_i hid
    cases h
    exact hid
  · cases h

/-! ### Digits -/

/-- Hash functions, by the bytes that they give. -/
def Hashes.ofDigests (sha256 keccak256 : List UInt8 → List UInt8) : Hashes where
  sha256 bytes := '0' :: 'x' :: hexText (sha256 bytes)
  keccak256 bytes := '0' :: 'x' :: hexText (keccak256 bytes)

section Digits

variable {c : Char} {h h' : Text}

lemma hexValue_of_isHexDigit (hc : isHexDigit c = true) :
    ∃ n < 16, hexValue c = some n ∧ Nat.digitChar n = c.toLower := by
  have hall : ∀ n < 128, isHexDigit (Char.ofNat n) = true →
      ∃ m < 16, hexValue (Char.ofNat n) = some m ∧
        Nat.digitChar m = (Char.ofNat n).toLower := by decide +kernel
  have h := hall c.toNat (toNat_lt_of_isHexDigit hc)
  rw [Char.ofNat_toNat] at h
  exact h hc

lemma hexByte_ofNat {high low : ℕ} (hhigh : high < 16) (hlow : low < 16) :
    hexByte (UInt8.ofNat (16 * high + low)) = [Nat.digitChar high, Nat.digitChar low] := by
  have hmod : (16 * high + low) % 2 ^ 8 = 16 * high + low := by omega
  unfold hexByte
  rw [UInt8.toNat_ofNat', hmod]
  congr 2
  · omega
  · congr 1
    omega

lemma hexText_bytesFromHex : ∀ {t : Text}, t.length % 2 = 0 → (∀ c ∈ t, isHexDigit c = true) →
    hexText (bytesFromHex t) = toLowerCase t
  | [], _, _ => rfl
  | [c], heven, _ => by cases heven
  | a :: b :: rest, heven, hhex => by
    obtain ⟨high, hhigh, ha, ha'⟩ := hexValue_of_isHexDigit (hhex a (by simp))
    obtain ⟨low, hlow, hb, hb'⟩ := hexValue_of_isHexDigit (hhex b (by simp))
    have hrest : rest.length % 2 = 0 := by
      simp only [List.length_cons] at heven
      omega
    have ih := hexText_bytesFromHex hrest fun c hc => hhex c (by simp [hc])
    unfold bytesFromHex
    rw [ha, hb]
    show hexByte _ ++ hexText (bytesFromHex rest) = a.toLower :: b.toLower :: toLowerCase rest
    rw [hexByte_ofNat hhigh hlow, ih, ha', hb']
    rfl

lemma exists_of_isHashlock (hh : isHashlock h = true) :
    ∃ digits, h = '0' :: 'x' :: digits ∧ digits.length = 64 ∧
      ∀ c ∈ digits, isHexDigit c = true := by
  unfold isHashlock at hh
  split at hh
  · rename_i digits
    simp only [Bool.and_eq_true, beq_iff_eq, List.all_eq_true] at hh
    exact ⟨digits, rfl, hh.1, hh.2⟩
  · cases hh

lemma toLowerCase_of_isHashlock (hh : isHashlock h = true) :
    toLowerCase h = '0' :: 'x' :: hexText (bufferFromHex h) := by
  obtain ⟨digits, rfl, hlength, hhex⟩ := exists_of_isHashlock hh
  have hdigits : hexText (bytesFromHex digits) = toLowerCase digits :=
    hexText_bytesFromHex (by omega) hhex
  show '0'.toLower :: 'x'.toLower :: toLowerCase digits =
    '0' :: 'x' :: hexText (bytesFromHex digits)
  rw [hdigits]
  rfl

lemma toLowerCase_eq_of_bytes (hh : isHashlock h = true) (hh' : isHashlock h' = true)
    (hbytes : bufferFromHex h' = bufferFromHex h) : toLowerCase h' = toLowerCase h := by
  rw [toLowerCase_of_isHashlock hh, toLowerCase_of_isHashlock hh', hbytes]

/-- Of the spellings of some bytes, one has `0x` and small letters. -/
lemma eq_iff_of_spells {t : Text} {bytes : List UInt8} (ht : Spells t bytes) :
    t = '0' :: 'x' :: hexText bytes ↔ "0x".toList <+: t ∧ toLowerCase t = t := by
  obtain ⟨digits, rfl | rfl, hlength, hhex, rfl⟩ := ht
  · have hdigits : hexText (bytesFromHex digits) = toLowerCase digits :=
      hexText_bytesFromHex (by omega) hhex
    have hlower : toLowerCase ('0' :: 'x' :: digits) = '0' :: 'x' :: toLowerCase digits := rfl
    rw [hdigits, hlower]
    constructor
    · intro h
      exact ⟨⟨digits, rfl⟩, h.symm⟩
    · intro h
      exact h.2.symm
  · constructor
    · intro h
      exact absurd ⟨_, h.symm⟩ (not_prefix_digits hhex)
    · intro h
      exact absurd h.1 (not_prefix_digits hhex)

end Digits

/-! ### Ids are made from hashlocks -/

/-- Every order is stored under the id that belongs to its hashlock. -/
def Db.Keyed (d : Db) : Prop :=
  ∀ p r, d.orders.get p = some r → orderIdFromHashlock r.hashlock = .ok p

namespace Db.Keyed

variable {d : Db} {p p' : Text} {r r' : OrderRow}

lemma isHashlock (hd : d.Keyed) (hget : d.orders.get p = some r) :
    isHashlock r.hashlock = true := by
  have hid := hd p r hget
  unfold orderIdFromHashlock at hid
  split at hid
  · assumption
  · cases hid

lemma publicId (hd : d.Keyed) (hget : d.orders.get p = some r) :
    p = "wf_".toList ++ toLowerCase r.hashlock := by
  have hid := hd p r hget
  unfold orderIdFromHashlock at hid
  split at hid
  · exact (Except.ok.inj hid).symm
  · cases hid

/-- There is one order for a hashlock. -/
lemma unique (hd : d.Keyed) (hget : d.orders.get p = some r) (hget' : d.orders.get p' = some r')
    (hbytes : bufferFromHex r'.hashlock = bufferFromHex r.hashlock) : p' = p := by
  rw [hd.publicId hget, hd.publicId hget',
    toLowerCase_eq_of_bytes (hd.isHashlock hget) (hd.isHashlock hget') hbytes]

/-- A call keeps the ids. -/
lemma run (hd : d.Keyed) (q : Call) (fate : Fate) : (repository.run q fate d).2.Keyed := by
  intro p r' hr'
  have hstep := secretStep hr'
  generalize hbefore : d.orders.get p = before at hstep
  cases hstep with
  | kept hsame =>
    rw [hsame.hashlock]
    exact hd p _ hbefore
  | stored _ hhashlock =>
    rw [hhashlock]
    exact hd p _ hbefore
  | @announced input call_eq =>
    subst call_eq
    have hr'' : ((announce input).exec fate d).2.orders.get p = some input.row := hr'
    rcases exec_announce_insert input fate d with hsame | ⟨p', hid, -, hinsert⟩
    · rw [hsame, hbefore] at hr''
      cases hr''
    rw [hinsert] at hr''
    rcases InsertionMap.eq_or_get_of_insert hr'' with ⟨rfl, -⟩ | hold
    · exact hid
    · rw [hbefore] at hold
      cases hold

end Db.Keyed

lemma keyed_secretPool (service : SecretService) (aes : Aes) (hashes : Hashes) {d : Db}
    (hd : d.Keyed) (es : SecretEventLog) (n : ℕ) :
    (secretPool service aes hashes d es n).state.Keyed := by
  have hadmits : Admits (fun (_ : CallCause SecretRequest) _ _ => True) fun _ _ => True :=
    ⟨fun _ _ => trivial, fun _ => trivial, fun _ _ => trivial, trivial⟩
  have hsecrets : AdmitsSecrets service aes hashes fun _ _ => True :=
    ⟨fun _ => trivial, fun _ _ => trivial, fun _ _ => trivial, fun _ _ _ => trivial⟩
  have hkeeps : repository.Keeps (fun (_ : CallCause SecretRequest) _ _ => True)
      (fun _ _ _ => True) fun s _ => s.Keyed :=
    ⟨fun h _ _ => h, fun h _ _ => h.run _ _, fun h _ => h⟩
  exact Store.invariant (fun r s => (SecretRequest.heeds_code hadmits hsecrets r
    fun _ _ _ _ _ => trivial).follows (fun _ _ => trivial) _ s) hkeeps hd
    (fun _ _ _ _ _ => trivial) n

/-! ### What fits an order -/

section Fits

variable {d : Db} {p : Text} {r : OrderRow}

/-- An event finds the order exactly if it has the hashlock as it was announced. -/
lemma firstOf_hashlock (hd : d.Keyed) (hget : d.orders.get p = some r) (hashlock : Text) :
    firstOf d [.byHashlock hashlock] = some (p, r) ↔ hashlock = r.hashlock := by
  rw [firstOf_singleton]
  constructor
  · intro hfirst
    have hnames := (InsertionMap.mem_of_first hfirst).2
    exact (of_decide_eq_true hnames).symm
  · rintro rfl
    cases hfirst : Lookup.first d (.byHashlock r.hashlock) with
    | none =>
      have hnone := List.find?_eq_none.1 hfirst (p, r) (InsertionMap.get_eq_some.1 hget)
      exact absurd (decide_eq_true rfl) hnone
    | some e =>
      obtain ⟨p', r'⟩ := e
      have hnames : r'.hashlock = r.hashlock :=
        of_decide_eq_true (InsertionMap.mem_of_first hfirst).2
      have hget' := get_of_first hfirst
      obtain rfl : p' = p := hd.unique hget hget' (congrArg bufferFromHex hnames)
      rw [hget] at hget'
      rw [Option.some.inj hget']

/-- A preimage that hashes to the bytes is accepted exactly if they are written in small letters. -/
lemma validatePreimage_iff {sha256 keccak256 : List UInt8 → List UInt8} {preimage h : Text}
    (hh : isHashlock h = true) (hcorrect : sha256 (bufferFromHex preimage) = bufferFromHex h ∨
      keccak256 (bufferFromHex preimage) = bufferFromHex h) :
    validatePreimage (Hashes.ofDigests sha256 keccak256) preimage h = true ↔
      toLowerCase h = h := by
  have hlower := toLowerCase_of_isHashlock hh
  have hdigits : ∀ bytes, '0' :: 'x' :: hexText bytes = h → toLowerCase h = h := by
    rintro bytes rfl
    have hbytes : bufferFromHex ('0' :: 'x' :: hexText bytes) = bytes := bytesFromHex_hexText bytes
    rw [hlower, hbytes]
  unfold validatePreimage
  rw [Bool.or_eq_true, decide_eq_true_eq, decide_eq_true_eq]
  constructor
  · rintro (h | h)
    · exact hdigits _ h
    · exact hdigits _ h
  · intro h
    rw [h] at hlower
    rcases hcorrect with hsha | hkeccak
    · refine Or.inl ?_
      show '0' :: 'x' :: hexText (sha256 (bufferFromHex preimage)) = _
      rw [hsha]
      exact hlower.symm
    refine Or.inr ?_
    show '0' :: 'x' :: hexText (keccak256 (bufferFromHex preimage)) = _
    rw [hkeccak]
    exact hlower.symm

lemma getOrder_iff (hd : d.Keyed) (hget : d.orders.get p = some r) {id i : Text}
    (hid : orderIdSchema id = some i)
    (hbytes : bufferFromHex (i.drop 3) = bufferFromHex r.hashlock) :
    (getOrder id).eval (fun _ => Fate.calm) d = (.ok (some r), d) ↔ toLowerCase i = i := by
  have hi := isOrderId_of_orderIdSchema hid
  unfold isOrderId at hi
  split at hi
  · rename_i hashlock
    have hp : p = toLowerCase ('w' :: 'f' :: '_' :: hashlock) := by
      rw [hd.publicId hget, ← toLowerCase_eq_of_bytes (hd.isHashlock hget) hi hbytes]
      rfl
    have heval : (getOrder id).eval (fun _ => Fate.calm) d =
        (.ok (d.orders.get ('w' :: 'f' :: '_' :: hashlock)), d) := by
      unfold getOrder
      rw [hid]
      rfl
    rw [heval, ← hp]
    constructor
    · intro h
      have hget' := Except.ok.inj (Prod.mk.inj h).1
      exact hd.unique hget' hget rfl
    · intro h
      rw [← h, hget]
  · cases hi

/-- A second order for the same bytes is refused. -/
lemma eval_announce_taken (hd : d.Keyed) (hget : d.orders.get p = some r)
    {input : AnnounceOrderInput} (hinput : isHashlock input.hashlock = true)
    (hbytes : bufferFromHex input.hashlock = bufferFromHex r.hashlock) (fates : Call → Fate) :
    ∃ e, (OrderService.announce input).eval fates d = (.error e, d) := by
  have hid : orderIdFromHashlock input.hashlock = .ok p := by
    unfold orderIdFromHashlock
    rw [if_pos hinput, hd.publicId hget,
      toLowerCase_eq_of_bytes (hd.isHashlock hget) hinput hbytes]
  have hmem : p ∈ d.orders.keys := by
    by_contra hnew
    rw [InsertionMap.get_eq_none.2 hnew] at hget
    cases hget
  have hinsert : ∃ e, (announce input).exec (fates (.announce input)) d = (.error e, d) := by
    unfold announce
    rw [hid]
    dsimp only
    unfold insertOrder
    rw [Sql.exec_statement_bind]
    cases fates (.announce input) 0 with
    | some e => exact ⟨e, rfl⟩
    | none =>
      simp only [hmem, if_true]
      exact ⟨_, rfl⟩
  obtain ⟨e, he⟩ := hinsert
  have hannounce : (call (.announce input)).eval fates d = (.error e.service, d) := by
    show (Except.mapError _ ((announce input).exec (fates (.announce input)) d).1,
      ((announce input).exec (fates (.announce input)) d).2) = _
    rw [he]
    rfl
  unfold OrderService.announce
  rw [Fallible.eval_bind]
  cases hfound : (call (.findByHashlock input.hashlock)).eval fates d with
  | mk a d' =>
    have hd' : d' = d := by
      have hsnd : ((findByHashlock input.hashlock).exec
        (fates (.findByHashlock input.hashlock)) d).2 = d' := congrArg Prod.snd hfound
      rw [← hsnd]
      exact exec_read_snd _ _ _
    subst hd'
    cases a with
    | error e => exact ⟨e, rfl⟩
    | ok found =>
      cases found with
      | some order => exact ⟨_, rfl⟩
      | none => exact ⟨_, hannounce⟩

end Fits

/-- In every state that any requests lead to, and for every spelling of the bytes of a hashlock by
a second announcement, a deposit, and an id: a second order is refused; and the deposit and the id
find the order and a preimage that hashes to the bytes is accepted, exactly if all of them are in
small letters and the deposit is looked up with `0x`. -/
theorem hashlock_spelling_iff (service : SecretService) (aes : Aes)
    (sha256 keccak256 : List UInt8 → List UInt8) (es : SecretEventLog) (n : ℕ) (d : Db)
    (hd : d = (secretPool service aes (.ofDigests sha256 keccak256) Db.empty es n).state)
    (p : Text) (r : OrderRow) (hget : d.orders.get p = some r) (input : AnnounceOrderInput)
    (hinput : isHashlock input.hashlock = true)
    (hsame : bufferFromHex input.hashlock = bufferFromHex r.hashlock) (x : Delivery) (c : Created)
    (ρ : Reaction) (hcreated : x.created = some c)
    (hspells : Spells c.hashlock (bufferFromHex r.hashlock))
    (hρ : x.reaction (.ofDigests sha256 keccak256) = some ρ) (preimage : Text)
    (hcorrect : sha256 (bufferFromHex preimage) = bufferFromHex r.hashlock ∨
      keccak256 (bufferFromHex preimage) = bufferFromHex r.hashlock) (id i : Text)
    (hid : orderIdSchema id = some i)
    (hi : bufferFromHex (i.drop 3) = bufferFromHex r.hashlock) :
    ((∀ fates, ∃ e, (OrderService.announce input).eval fates d = (.error e, d)) ∧
      ∀ p' r', d.orders.get p' = some r' →
        bufferFromHex r'.hashlock = bufferFromHex r.hashlock → p' = p) ∧
    ((firstOf d ρ.lookups = some (p, r) ∧
      validatePreimage (.ofDigests sha256 keccak256) preimage r.hashlock = true ∧
      (getOrder id).eval (fun _ => Fate.calm) d = (.ok (some r), d)) ↔
    toLowerCase r.hashlock = r.hashlock ∧
      ("0x".toList <+: c.hashlock ∧ toLowerCase c.hashlock = c.hashlock) ∧
      toLowerCase i = i) := by
  have hkeyed : d.Keyed := by
    rw [hd]
    exact keyed_secretPool service aes _ (fun _ _ h => by cases h) es n
  refine ⟨⟨eval_announce_taken hkeyed hget hinput hsame, fun p' r' hget' hbytes => ?_⟩, ?_⟩
  · exact hkeyed.unique hget hget' hbytes
  rw [(Delivery.reacts hρ).lookups hcreated, firstOf_hashlock hkeyed hget,
    validatePreimage_iff (hkeyed.isHashlock hget) hcorrect, getOrder_iff hkeyed hget hid hi,
    ← eq_iff_of_spells hspells, ← toLowerCase_of_isHashlock (hkeyed.isHashlock hget)]
  constructor
  · rintro ⟨hfound, haccepted, hfetched⟩
    exact ⟨haccepted, hfound.trans haccepted.symm, hfetched⟩
  · rintro ⟨haccepted, hfound, hfetched⟩
    exact ⟨hfound.trans haccepted, haccepted, hfetched⟩

namespace Sample

/-- Every preimage hashes to the bytes of the order. -/
def digest (_ : List UInt8) : List UInt8 := List.replicate 32 170

/-- The order with capital digits. -/
def capitalInput : AnnounceOrderInput :=
  { sampleInput with hashlock := '0' :: 'x' :: List.replicate 64 'A' }

def capitalId : Text := "wf_0x".toList ++ List.replicate 64 'A'

/-- The database after the announcement. -/
def capitalDb : Db :=
  ((OrderService.announce capitalInput).eval (fun _ => Fate.calm) Db.empty).2

end Sample

open Sample in
theorem hashlock_spelling_iff_sample :
    ∃ r, (secretPool service toyAes (.ofDigests digest digest) Db.empty
          lockedOrder 3).state.orders.get sampleId = some r ∧
      (getOrder sampleId).eval (fun _ => Fate.calm) (secretPool service toyAes
          (.ofDigests digest digest) Db.empty lockedOrder 3).state =
        (.ok (some r), (secretPool service toyAes
          (.ofDigests digest digest) Db.empty lockedOrder 3).state) := by
  have hsome : ((secretPool service toyAes (.ofDigests digest digest)
      Db.empty lockedOrder 3).state.orders.get sampleId).any
        (fun r => r.hashlock = sampleInput.hashlock) = true := by
    decide +kernel
  obtain ⟨r, hr, hhashlock⟩ := Option.any_eq_true _ _ |>.1 hsome
  have hhashlock' : r.hashlock = sampleInput.hashlock := of_decide_eq_true hhashlock
  have hbytes : bufferFromHex r.hashlock = List.replicate 32 170 := by
    rw [hhashlock']
    decide +kernel
  have hspells : Spells sampleInput.hashlock (List.replicate 32 170) :=
    ⟨List.replicate 64 'a', Or.inl rfl, rfl, by simp [isHexDigit], by decide +kernel⟩
  refine ⟨r, hr, ((hashlock_spelling_iff service toyAes digest digest
    lockedOrder 3 _ rfl sampleId r hr capitalInput (by decide +kernel) ?_
    (.ethCreated ownDeposit) ⟨.ethereum, sampleInput.hashlock, ownDeposit.deposit,
      decimal 7, "0xt7".toList, some 5, some 900⟩ _ rfl ?_ rfl [] ?_ sampleId sampleId
      (by decide +kernel) ?_).2.2 ⟨?_, ?_, ?_⟩).2.2⟩
  · rw [hbytes]
    decide +kernel
  · rw [hbytes]
    exact hspells
  · rw [hbytes]
    exact Or.inl rfl
  · rw [hbytes]
    decide +kernel
  · rw [hhashlock']
    decide +kernel
  · exact ⟨⟨List.replicate 64 'a', rfl⟩, by decide +kernel⟩
  · decide +kernel

open Sample in
/-- An order that was announced with capital digits: the deposit with its bytes does not find it, a
preimage that hashes to its bytes is not accepted, and its id as it was spelled finds nothing. -/
theorem capital_hashlock_unmatched :
    (capitalDb.orders.get sampleId).map OrderRow.hashlock =
        some ('0' :: 'x' :: List.replicate 64 'A') ∧
      ((Delivery.ethCreated ownDeposit).reaction
        (.ofDigests digest digest)).map (fun ρ =>
          (firstOf capitalDb ρ.lookups).isSome) = some false ∧
      validatePreimage (.ofDigests digest digest) [] capitalInput.hashlock =
        false ∧
      ((getOrder capitalId).eval (fun _ => Fate.calm) capitalDb).1 = .ok none := by
  decide +kernel

end WaffleFinance.Coordinator

import WaffleFinance.Evm.Escrow
import WaffleFinance.Soroban.HtlcSettlement

/-!
# What unlocks the two legs of a swap

A swap has an order on each chain, with one hashlock.  Both contracts compare it with the SHA-256
digest of the preimage that a claim reveals.  The Ethereum contract wants a preimage of 32 bytes,
and it also takes one whose Keccak-256 digest is the hashlock; Soroban does not have that digest.
-/

namespace WaffleFinance.CrossChain

open Lib

/-- The preimage passes the check of `claimOrder` on Ethereum. -/
def EvmUnlocks (P : Evm.Platform) (hashlock : Bytes32) (preimage : Bytes) : Prop :=
  Evm.preimageCheck P hashlock preimage = .ok ()

/-- The preimage passes the check of `claim_order` on Soroban. -/
def SorobanUnlocks (E : Soroban.Env) (hashlock : Bytes32) (preimage : Bytes) : Prop :=
  Soroban.Htlc.preimageCheck E hashlock preimage = .ok ()

/-- Orders with this hashlock pass the checks on both chains when they are created. -/
def Accepted (hashlock : Bytes32) : Prop :=
  (∃ minimum a, a.hashlock = hashlock ∧ Evm.createChecks minimum a = .ok ()) ∧
    ∃ self minimum a, a.hashlock = hashlock ∧ Soroban.Htlc.createChecks self minimum a = .ok ()

variable {P : Evm.Platform} {E : Soroban.Env}

lemma evmUnlocks_iff {hashlock : Bytes32} {preimage : Bytes} :
    EvmUnlocks P hashlock preimage ↔ preimage.length = 32 ∧
      (P.sha256 preimage = hashlock ∨ P.keccak256 preimage = hashlock) :=
  Evm.preimageCheck_eq_ok

lemma sorobanUnlocks_iff {hashlock : Bytes32} {preimage : Bytes} :
    SorobanUnlocks E hashlock preimage ↔ E.sha256 preimage = hashlock := by
  simp [SorobanUnlocks, Soroban.Htlc.preimageCheck]

/-- Only the zero hashlock is refused, by the Ethereum contract. -/
lemma accepted_of_ne_zero {hashlock : Bytes32} (h : hashlock ≠ 0) : Accepted hashlock := by
  refine ⟨⟨0, ⟨1, 1, 0, 1, 0, hashlock, Evm.minTimelock⟩, rfl, ?_⟩,
    ⟨.contract 0, 0, ⟨.account 1, .account 1, .account 1, .contract 1, 1, 0, hashlock,
      Soroban.Htlc.minTimelockSeconds⟩, rfl, ?_⟩⟩
  · simp only [Evm.createChecks, chain_eq_ok, failIf_eq_ok, exists_const]
    exact ⟨by decide, by decide, h, by decide, by decide⟩
  · simp only [Soroban.Htlc.createChecks, chain_eq_ok, failIf_eq_ok, exists_const]
    decide

namespace Sample

/-- A digest that reads a byte string as a number. -/
def numeral (bytes : Bytes) : Bytes32 := BitVec.ofNat 256 (Nat.ofDigits 256 (bytes.map UInt8.toNat))

/-- A platform on which no two strings of 32 bytes have the same digest of one kind. -/
def platform : Evm.Platform := { Evm.Platform.sample with
  sha256 := numeral
  keccak256 := fun bytes => ~~~numeral bytes }

/-- The same digests on the other chain. -/
def env : Soroban.Env := { Soroban.Sample.env 0 with sha256 := numeral }

def secret : Bytes := List.replicate 32 7

end Sample

/-- **One preimage for both legs.**  A preimage that unlocks the order on Ethereum unlocks the one
on Soroban, unless it was its Keccak-256 digest that was compared.  Of the preimages of 32 bytes
exactly those unlock the order on Ethereum that unlock the one on Soroban or have the hashlock as
their Keccak-256 digest. -/
theorem unlock_parity (hsha : E.sha256 = P.sha256) (hashlock : Bytes32) (preimage : Bytes) :
    (EvmUnlocks P hashlock preimage →
      SorobanUnlocks E hashlock preimage ∨ P.keccak256 preimage = hashlock) ∧
    (preimage.length = 32 →
      (EvmUnlocks P hashlock preimage ↔
        SorobanUnlocks E hashlock preimage ∨ P.keccak256 preimage = hashlock)) := by
  rw [evmUnlocks_iff, sorobanUnlocks_iff, hsha]
  refine ⟨And.right, fun hlength => ?_⟩
  constructor
  · rintro ⟨-, hdigest⟩
    exact hdigest
  · intro hdigest
    exact ⟨hlength, hdigest⟩

open Sample in
/-- The SHA-256 digest of the sample secret: the secret unlocks both legs. -/
theorem unlock_parity_sample :
    SorobanUnlocks env (env.sha256 secret) secret ∧
      EvmUnlocks platform (env.sha256 secret) secret := by
  have hsoroban := sorobanUnlocks_iff.2 (rfl : env.sha256 secret = _)
  exact ⟨hsoroban, ((unlock_parity rfl _ secret).2 (by decide)).2 (.inl hsoroban)⟩

/-! ### Where the legs differ -/

lemma numeral_injOn : Set.InjOn Sample.numeral {bytes | bytes.length = 32} := by
  intro a ha b hb hab
  have hdigits : ∀ (bytes : Bytes), ∀ d ∈ bytes.map UInt8.toNat, d < 256 := by
    intro bytes d hd
    obtain ⟨byte, -, rfl⟩ := List.mem_map.1 hd
    exact byte.toNat_lt
  have hlt : ∀ {bytes : Bytes}, bytes.length = 32 →
      Nat.ofDigits 256 (bytes.map UInt8.toNat) < 2 ^ 256 := by
    intro bytes hbytes
    have h := Nat.ofDigits_lt_base_pow_length (b := 256) (by decide) (hdigits bytes)
    rw [List.length_map, hbytes] at h
    exact h.trans_le (by decide)
  have hnat : Nat.ofDigits 256 (a.map UInt8.toNat) = Nat.ofDigits 256 (b.map UInt8.toNat) := by
    have h := congrArg BitVec.toNat hab
    simp only [Sample.numeral, BitVec.toNat_ofNat] at h
    rwa [Nat.mod_eq_of_lt (hlt ha), Nat.mod_eq_of_lt (hlt hb)] at h
  have hmap := Nat.ofDigits_inj_of_len_eq (by decide) (by simpa using ha.trans hb.symm) (hdigits a)
    (hdigits b) hnat
  exact List.map_injective_iff.2 (fun _ _ => UInt8.toNat_inj.1) hmap

open Sample in
/-- The Keccak-256 digest of a secret of 32 bytes is a hashlock that both contracts take.  The
secret unlocks the order on Ethereum and does not unlock the one on Soroban, although no two
strings of 32 bytes have the same digest. -/
theorem keccak_unlocks_evm_alone :
    env.sha256 = platform.sha256 ∧
      Set.InjOn platform.sha256 {bytes | bytes.length = 32} ∧
      Set.InjOn platform.keccak256 {bytes | bytes.length = 32} ∧
      secret.length = 32 ∧
      Accepted (platform.keccak256 secret) ∧
      EvmUnlocks platform (platform.keccak256 secret) secret ∧
      ¬ SorobanUnlocks env (platform.keccak256 secret) secret := by
  refine ⟨rfl, numeral_injOn, ?_, by decide, accepted_of_ne_zero (by decide +kernel), ?_, ?_⟩
  · intro a ha b hb hab
    exact numeral_injOn ha hb (BitVec.not_inj.1 hab)
  · exact evmUnlocks_iff.2 ⟨by decide, .inr rfl⟩
  · rw [sorobanUnlocks_iff]
    decide +kernel

end WaffleFinance.CrossChain

import WaffleFinance.CrossChain.Unlock
import WaffleFinance.Evm.EscrowAvailability
import WaffleFinance.Evm.EscrowSettlement
import WaffleFinance.Soroban.HtlcAvailability

/-!
# A swap does not stop half way

The claim of one leg makes the secret public.  With it the other leg can be claimed up to its
timelock, in every state that its contract can be in.
-/

namespace WaffleFinance.CrossChain

open Lib

/-- The chains of a swap have one SHA-256. -/
structure Chains where
  evm : Evm.Platform
  soroban : Soroban.Env
  sha256_eq : soroban.sha256 = evm.sha256

variable {P : Evm.Platform} {E : Soroban.Env}

/-- The preimage settles every funded order with this hashlock on Ethereum, whatever the code that
is called does.  Only the contract of a token can refuse its transfer. -/
def EvmClaimable (P : Evm.Platform) (hashlock : Bytes32) (preimage : Bytes) : Prop :=
  ∀ s : Evm.State P, Evm.Reachable s → ∀ id, (s.orders id).hashlock = hashlock →
    (s.orders id).status = .funded → ∀ now < (s.orders id).timelock,
    ∀ caller inner₁ ok₁ inner₂ ok₂, (s.orders id).token = 0 ∨ ok₁ = true →
    ∃ s', Evm.exec now (.claimOrder caller id preimage inner₁ ok₁ inner₂ ok₂) s = .ok s' ∧
      s'.orders id = (s.orders id).claim P now preimage

open Soroban.Htlc in
/-- The preimage settles every funded order with this hashlock on Soroban, while neither it nor the
instance is archived, the contract is live and the token makes its transfers. -/
def SorobanClaimable (E : Soroban.Env) (hashlock : Bytes32) (preimage : Bytes) : Prop :=
  ∀ s, Reachable E s → s.mode = .live → ∀ id entry, s.orders id = some entry →
    entry.order.hashlock = hashlock → entry.order.status = .funded →
    ∀ (inv : Soroban.Invocation E) (caller : Soroban.Address) (first second : Soroban.Reply E Unit),
      inv.auth caller = true → inv.sequence ≤ s.instanceLiveUntil →
      inv.sequence ≤ entry.liveUntil → inv.timestamp ≤ entry.order.timelock →
      first.result = some () → second.result = some () →
      ∃ s', exec inv (.claimOrder id preimage caller first second) s = .ok s'

lemma evmClaimable {hashlock : Bytes32} {preimage : Bytes}
    (h : EvmUnlocks P hashlock preimage) : EvmClaimable P hashlock preimage := by
  rintro s hreach id rfl hfunded now hnow caller inner₁ ok₁ inner₂ ok₂ htoken
  obtain ⟨k, hk, hd, hs, -⟩ := hreach.sound
  have hq₁ := Evm.quiet_execAll (P := P) now inner₁ ok₁
  obtain ⟨s', hs'⟩ := (Evm.claimOrder_ok_iff hs hd hk hq₁ now id caller preimage
    ⟨Evm.execAll now inner₂, ok₂⟩).2
    ⟨Evm.claimChecks_eq_ok.2 ⟨hfunded, hnow, evmUnlocks_iff.1 h⟩, htoken⟩
  obtain ⟨-, ps, -, hset⟩ :=
    Evm.claimOrder_settled hq₁ (Evm.quiet_execAll now inner₂ ok₂) hd.guard hs'
  exact ⟨s', by rw [Evm.exec]; exact hs', by rw [hset.orders, Function.update_self]⟩

lemma sorobanClaimable {hashlock : Bytes32} {preimage : Bytes}
    (h : SorobanUnlocks E hashlock preimage) : SorobanClaimable E hashlock preimage := by
  rintro s hreach hmode id entry hentry rfl hfunded inv caller first second hauth
    hinstance hlive htime hfirst hsecond
  rw [Soroban.Htlc.exec_of_live hinstance]
  exact (Soroban.Htlc.claimOrder_ok_iff hreach.sound hentry hlive hfirst hsecond preimage).2
    ⟨hauth, hmode, Soroban.Htlc.claimChecks_eq_ok.2 ⟨hfunded, htime, sorobanUnlocks_iff.1 h⟩⟩

/-- **A swap does not stop half way.**  An order on Soroban that was claimed with 32 bytes has
stored what settles the other leg on Ethereum.  For a claimed order on Ethereum the history has a
call with a preimage that settles the other leg on Soroban, or that is only a Keccak-256 preimage
of the hashlock. -/
theorem swap_completes (C : Chains) :
    (∀ (h : Soroban.Htlc.History C.soroban) (n id : ℕ) (o : Soroban.Htlc.Order),
      (h.stateAt n).settled? id = some o → o.status = .claimed → o.preimage.length = 32 →
      EvmClaimable C.evm o.hashlock o.preimage) ∧
    ∀ (h : Evm.History C.evm) (d : Evm.Deployment) (i id n : ℕ), h.Creates d i id → i < n →
      ((h.stateAt d n).orders id).status = .claimed →
      ∃ m < n, ∃ t caller preimage inner₁ ok₁ inner₂ ok₂,
        h.calls[m]? = some (t, .claimOrder caller id preimage inner₁ ok₁ inner₂ ok₂) ∧
        (C.evm.keccak256 preimage = ((h.stateAt d n).orders id).hashlock ∨
          SorobanClaimable C.soroban ((h.stateAt d n).orders id).hashlock preimage) := by
  constructor
  · intro h n id o ho hclaimed hlength
    obtain ⟨m, -, c, o₁, ps, pay, -, -, -, hby, -⟩ := (h.settledOnce id).settled ho
    cases hby with
    | @claim inv preimage caller first second _ _ hhash =>
      exact evmClaimable (evmUnlocks_iff.2 ⟨hlength, .inl (C.sha256_eq ▸ hhash)⟩)
    | refund _ _ => cases hclaimed
  · intro h d i id n hc hn hclaimed
    obtain ⟨m, c, e, him, hm, hcall, hexit, -, -, horder, -⟩ :=
      hc.ended hn (by rw [hclaimed]; decide)
    cases e with
    | refund t caller =>
      rw [horder] at hclaimed
      cases hclaimed
    | claim t caller preimage =>
      obtain ⟨sender, preimage, inner₁, inner₂, ok₁, ok₂, ha, -, -, -, hdigest⟩ :=
        Evm.exitOf_claim hexit
      -- the terms are those of the creation, before the claim and after it
      have hlock : ((h.stateAt d m).orders id).hashlock = ((h.stateAt d n).orders id).hashlock := by
        rw [hc.order_eq him, hc.order_eq hn]
        exact (Evm.Order.sameTerms_after _ _ _).2.2.2.2.2.2.1.trans
          (Evm.Order.sameTerms_after _ _ _).2.2.2.2.2.2.1.symm
      rw [hlock] at hdigest
      refine ⟨m, hm, c.1, sender, preimage, inner₁, ok₁, inner₂, ok₂, ha ▸ hcall, ?_⟩
      rcases hdigest with hdigest | hdigest
      · exact .inr (sorobanClaimable (sorobanUnlocks_iff.2 (C.sha256_eq ▸ hdigest)))
      · exact .inl hdigest

/-- The sample chains, with one SHA-256. -/
def Sample.chains : Chains where
  evm := .sample
  soroban := { Soroban.Sample.env 0 with sha256 := Evm.Platform.sample.sha256 }
  sha256_eq := rfl

/-- The claim of the sample order on Ethereum settles the other leg on Soroban. -/
theorem swap_completes_sample :
    SorobanClaimable Sample.chains.soroban
      ((Evm.Sample.history.stateAt Evm.Sample.deployment 3).orders 1).hashlock
      Evm.Sample.secret := by
  obtain ⟨m, hm, t, caller, preimage, inner₁, ok₁, inner₂, ok₂, hcall, hdigest⟩ :=
    (swap_completes Sample.chains).2 Evm.Sample.history Evm.Sample.deployment 0 1 3
      ⟨1000, _, _, _, _, _, _, rfl, rfl⟩ (by decide) (by decide +kernel)
  -- of the first three calls the last is the claim
  interval_cases m
  · cases hcall
  · cases hcall
  · cases hcall
    exact hdigest.resolve_left (by decide +kernel)

end WaffleFinance.CrossChain

import WaffleFinance.Soroban.OrderLifetime
import WaffleFinance.Soroban.RegistryCalls

/-!
# Who governs the Soroban contracts

Both contracts have an admin, a role that is handed over in two steps.  What belongs to the
admin are the settings of the contracts and, in the registry, the slashes.  For each contract we
say once what a call does to all this, and the rest is the general theory of such roles
(`WaffleFinance/Lib/Handover.lean`).
-/

namespace WaffleFinance.Soroban

open Lib

/-! ### The registry -/

namespace Registry

variable {E : Env}

variable (E) in
/-- The admin role of the registry. -/
def adminRole : Handover (registry E) Address Settings where
  holder := State.admin
  pending := State.pendingAdmin
  settings := State.settings
  part := fun c => c.2.part
  authorised := fun c x => c.1.auth x = true
  exec_ok := fun h => (exec_step h).2.1

end Registry

/-! ### The HTLC -/

namespace Htlc

variable {E : Env}

variable (E) in
/-- The admin role of the HTLC. -/
def adminRole : Handover (htlc E) Address Settings where
  holder := State.admin
  pending := State.pendingAdmin
  settings := State.settings
  part := fun c => c.2.part
  authorised := fun c x => c.1.auth x = true
  exec_ok := fun h => (exec_step h).1

end Htlc

/-! ### Both contracts -/

variable {E E' : Env}

lemma Registry.History.start_admin (h : Registry.History E) :
    h.start.admin ≠ none ∧ h.start.pendingAdmin = none := by
  have hstart := h.deployed
  simp only [Registry.constructor, chain_eq_ok, failIf_eq_ok, exists_const, pure_eq_ok_iff]
    at hstart
  obtain ⟨-, -, -, hstart⟩ := hstart
  rw [← hstart]
  exact ⟨by simp, rfl⟩

/-- **Both contracts are governed by their admins alone**, and governing the HTLC touches
neither orders nor tokens.  The runs of the HTLC start from any state with an admin and nobody
proposed. -/
theorem governance_safe (s : Htlc.State) (hadmin : s.admin ≠ none)
    (hpending : s.pendingAdmin = none) (calls : List (Invocation E × Htlc.Action E))
    (h : Registry.History E') :
    (Htlc.adminRole E).Safe s calls ∧
      (∀ n c, (Htlc.htlc E).Succeeds s calls n c → c.2.isGovernance = true →
        Htlc.FundsKept ((Htlc.htlc E).stateAt s calls n) ((Htlc.htlc E).stateAt s calls (n + 1))) ∧
      (Registry.adminRole E').Safe h.start h.calls := by
  refine ⟨Handover.safe hadmin hpending, ?_, Handover.safe h.start_admin.1 h.start_admin.2⟩
  intro n c hc hgov
  exact (Htlc.governance_step (Htlc.dispatch_of_exec hc.2) hgov).2.1

namespace Sample

/-- The first account, which is the admin of the HTLC, hands the role over to the second. -/
def handover : List (Invocation (env 0) × Htlc.Action (env 0)) :=
  [(signedBy 1 1000, .transferAdmin bob), (signedBy 2 1001, .acceptAdmin)]

end Sample

open Sample in
theorem governance_safe_sample :
    (Htlc.adminRole (env 0)).Safe Htlc.Sample.start handover ∧
      (∀ n c, (Htlc.htlc (env 0)).Succeeds Htlc.Sample.start handover n c →
        c.2.isGovernance = true →
        Htlc.FundsKept ((Htlc.htlc (env 0)).stateAt Htlc.Sample.start handover n)
          ((Htlc.htlc (env 0)).stateAt Htlc.Sample.start handover (n + 1))) ∧
      (Registry.adminRole (env 1)).Safe Registry.Sample.history.start
        Registry.Sample.history.calls :=
  governance_safe Htlc.Sample.start (by simp [Htlc.Sample.start]) rfl handover
    Registry.Sample.history

open Sample in
/-- The successor stops being proposed by accepting, without the admin. -/
theorem proposal_cleared_by_successor :
    (Htlc.adminRole (env 0)).Governs Htlc.Sample.start handover 1 ∧
      ¬ (Htlc.adminRole (env 0)).ByHolder Htlc.Sample.start handover 1 := by
  constructor
  · left
    decide
  · rintro ⟨c, h, ⟨hc, -⟩, hholder, hauth⟩
    cases hc
    cases hholder
    exact absurd hauth (by decide : ¬ (signedBy 2 1001 : Invocation (env 0)).auth alice = true)

end WaffleFinance.Soroban

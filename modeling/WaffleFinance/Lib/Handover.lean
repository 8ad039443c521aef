import WaffleFinance.Lib.Machine

/-!
# A role that is handed over in two steps

The holder of a role proposes a successor, and the role changes hands when the successor
accepts.  Until then the holder may propose somebody else or revoke the proposal.  The holder
alone may change certain settings.

A `Handover` says of a machine which calls do what in this.  From what a single call does
(`HandoverStep`) the file derives what holds over whole runs (`Handover.Safe`).
-/

namespace WaffleFinance.Lib

/-- The part that a call has in the handover of a role. -/
inductive HandoverPart (A : Type*) where
  | propose (successor : A)
  | accept
  | revoke
  | other

/-- What a call that succeeds does to a role and to the settings, where `authorised` are the
addresses that the call is authorised by. -/
inductive HandoverStep {S A T : Type*} (holder pending : S → Option A) (settings : S → T)
    (authorised : A → Prop) : HandoverPart A → S → S → Prop where
  | proposed {s s' : S} {h a : A} : holder s = some h → authorised h → holder s' = holder s →
      pending s' = some a → settings s' = settings s →
      HandoverStep holder pending settings authorised (.propose a) s s'
  | accepted {s s' : S} {a : A} : pending s = some a → authorised a → holder s' = some a →
      pending s' = none → settings s' = settings s →
      HandoverStep holder pending settings authorised .accept s s'
  | revoked {s s' : S} {h : A} : holder s = some h → authorised h → holder s' = holder s →
      pending s' = none → settings s' = settings s →
      HandoverStep holder pending settings authorised .revoke s s'
  | configured {s s' : S} {h : A} : holder s = some h → authorised h → holder s' = holder s →
      pending s' = pending s → HandoverStep holder pending settings authorised .other s s'
  | kept {s s' : S} : holder s' = holder s → pending s' = pending s → settings s' = settings s →
      HandoverStep holder pending settings authorised .other s s'

/-- A role of a machine that is handed over in two steps, with the settings that belong to it. -/
structure Handover {S C ε : Type*} (M : Machine S C ε) (A T : Type*) where
  holder : S → Option A
  pending : S → Option A
  settings : S → T
  part : C → HandoverPart A
  /-- The call is authorised by the address. -/
  authorised : C → A → Prop
  exec_ok : ∀ {c s s'}, M.exec c s = .ok s' →
    HandoverStep holder pending settings (authorised c) (part c) s s'

namespace Handover

variable {S C ε A T : Type*} {M : Machine S C ε} (H : Handover M A T) {s : S} {cs : List C}

/-- The call at `m` has proposed `a`, authorised by the holder of that time, and no call of the
handover has succeeded between `m` and `n`. -/
structure Proposal (s : S) (cs : List C) (m n : ℕ) (a : A) : Prop where
  lt : m < n
  call : ∃ c h, M.Succeeds s cs m c ∧ H.part c = .propose a ∧
    H.holder (M.stateAt s cs m) = some h ∧ H.authorised c h
  since : ∀ {k c}, m < k → k < n → M.Succeeds s cs k c → H.part c = .other

/-- The call at `n` is the one by which `a`, whose authorisation it has, takes the role over. -/
structure Accepted (s : S) (cs : List C) (n : ℕ) (a : A) : Prop where
  call : ∃ c, M.Succeeds s cs n c ∧ H.part c = .accept ∧ H.authorised c a
  pending : H.pending (M.stateAt s cs n) = some a
  cleared : H.pending (M.stateAt s cs (n + 1)) = none
  holder : H.holder (M.stateAt s cs (n + 1)) = some a
  settings : H.settings (M.stateAt s cs (n + 1)) = H.settings (M.stateAt s cs n)

/-- The call at `n` is authorised by the holder of the role. -/
def ByHolder (s : S) (cs : List C) (n : ℕ) : Prop :=
  ∃ c h, M.Succeeds s cs n c ∧ H.holder (M.stateAt s cs n) = some h ∧ H.authorised c h

/-- The call at `n` changes the proposed successor or the settings. -/
def Governs (s : S) (cs : List C) (n : ℕ) : Prop :=
  H.pending (M.stateAt s cs (n + 1)) ≠ H.pending (M.stateAt s cs n) ∨
    H.settings (M.stateAt s cs (n + 1)) ≠ H.settings (M.stateAt s cs n)

variable {H}

/-- What the `n`-th call of a run does, if it does anything. -/
lemma stateAt_succ_cases (H : Handover M A T) (s : S) (cs : List C) (n : ℕ) :
    (¬ (∃ c, M.Succeeds s cs n c) ∧ M.stateAt s cs (n + 1) = M.stateAt s cs n) ∨
      ∃ c, M.Succeeds s cs n c ∧ HandoverStep H.holder H.pending H.settings (H.authorised c)
        (H.part c) (M.stateAt s cs n) (M.stateAt s cs (n + 1)) := by
  by_cases hcall : ∃ c, M.Succeeds s cs n c
  · obtain ⟨c, hc⟩ := hcall
    exact .inr ⟨c, hc, H.exec_ok hc.2⟩
  · exact .inl ⟨hcall, Machine.stateAt_succ_of_not_succeeds hcall⟩

/-- One step later a proposal still stands if no call of the handover has succeeded. -/
lemma Proposal.succ {m n : ℕ} {a : A} (h : H.Proposal s cs m n a)
    (hn : ∀ c, M.Succeeds s cs n c → H.part c = .other) : H.Proposal s cs m (n + 1) a where
  lt := h.lt.trans (Nat.lt_succ_self n)
  call := h.call
  since := by
    intro k c hmk hkn hc
    rcases Nat.lt_succ_iff_lt_or_eq.1 hkn with hlt | rfl
    · exact h.since hmk hlt hc
    · exact hn c hc

/-- Who is pending has been proposed, by the address that is still the holder. -/
lemma pending_origin {i n : ℕ} {a : A} (hin : i ≤ n) (hi : H.pending (M.stateAt s cs i) = none)
    (hn : H.pending (M.stateAt s cs n) = some a) :
    ∃ m, i ≤ m ∧ H.Proposal s cs m n a ∧
      H.holder (M.stateAt s cs n) = H.holder (M.stateAt s cs m) := by
  induction n, hin using Nat.le_induction with
  | base =>
    rw [hi] at hn
    cases hn
  | succ n hin ih =>
    -- a step that keeps the proposal, by a call that has another purpose or by none
    have keep : H.holder (M.stateAt s cs (n + 1)) = H.holder (M.stateAt s cs n) →
        H.pending (M.stateAt s cs (n + 1)) = H.pending (M.stateAt s cs n) →
        (∀ c, M.Succeeds s cs n c → H.part c = .other) →
        ∃ m, i ≤ m ∧ H.Proposal s cs m (n + 1) a ∧
          H.holder (M.stateAt s cs (n + 1)) = H.holder (M.stateAt s cs m) := by
      intro hholder hpending hother
      obtain ⟨m, him, hprop, hsame⟩ := ih (hpending ▸ hn)
      exact ⟨m, him, hprop.succ hother, hholder.trans hsame⟩
    rcases H.stateAt_succ_cases s cs n with ⟨hcall, hstate⟩ | ⟨c, hc, hstep⟩
    · exact keep (by rw [hstate]) (by rw [hstate]) fun c hc => absurd ⟨c, hc⟩ hcall
    have hunique : ∀ c', M.Succeeds s cs n c' → c = c' := fun c' hc' =>
      Option.some.inj (hc.1.symm.trans hc'.1)
    generalize hpart : H.part c = part at hstep
    cases hstep with
    | @proposed _ _ h b hh hauth hholder hpending _ =>
      obtain rfl : b = a := Option.some.inj (hpending.symm.trans hn)
      refine ⟨n, hin, ⟨Nat.lt_succ_self n, ⟨c, h, hc, hpart, hh, hauth⟩, ?_⟩, hholder⟩
      intro k c' hnk hkn
      omega
    | accepted _ _ _ hpending _ =>
      rw [hpending] at hn
      cases hn
    | revoked _ _ _ hpending _ =>
      rw [hpending] at hn
      cases hn
    | configured _ _ hholder hpending =>
      exact keep hholder hpending fun c' hc' => hunique c' hc' ▸ hpart
    | kept hholder hpending _ =>
      exact keep hholder hpending fun c' hc' => hunique c' hc' ▸ hpart

/-- The holder changes only when somebody accepts. -/
lemma accepted_of_holder_ne {n : ℕ}
    (h : H.holder (M.stateAt s cs (n + 1)) ≠ H.holder (M.stateAt s cs n)) :
    ∃ a, H.Accepted s cs n a := by
  rcases H.stateAt_succ_cases s cs n with ⟨-, hstate⟩ | ⟨c, hc, hstep⟩
  · rw [hstate] at h
    exact absurd rfl h
  generalize hpart : H.part c = part at hstep
  cases hstep with
  | proposed _ _ hholder _ _ => exact absurd hholder h
  | @accepted _ _ a hpending hauth hholder hnone hsettings =>
    exact ⟨a, ⟨c, hc, hpart, hauth⟩, hpending, hnone, hholder, hsettings⟩
  | revoked _ _ hholder _ _ => exact absurd hholder h
  | configured _ _ hholder _ => exact absurd hholder h
  | kept hholder _ _ => exact absurd hholder h

/-- What is the holder's is changed by the holder, except that the successor stops being one by
taking the role over. -/
lemma byHolder_of_governs {n : ℕ} (h : H.Governs s cs n) :
    H.ByHolder s cs n ∨ ∃ a, H.Accepted s cs n a := by
  rcases H.stateAt_succ_cases s cs n with ⟨-, hstate⟩ | ⟨c, hc, hstep⟩
  · rw [Governs, hstate] at h
    simp at h
  generalize hpart : H.part c = part at hstep
  cases hstep with
  | proposed hh hauth _ _ _ => exact .inl ⟨c, _, hc, hh, hauth⟩
  | @accepted _ _ a hpending hauth hholder hnone hsettings =>
    exact .inr ⟨a, ⟨c, hc, hpart, hauth⟩, hpending, hnone, hholder, hsettings⟩
  | revoked hh hauth _ _ _ => exact .inl ⟨c, _, hc, hh, hauth⟩
  | configured hh hauth _ _ => exact .inl ⟨c, _, hc, hh, hauth⟩
  | kept _ hpending hsettings =>
    rcases h with h | h
    · exact absurd hpending h
    · exact absurd hsettings h

/-- A role that is held stays held. -/
lemma exists_holder (hs : H.holder s ≠ none) (n : ℕ) :
    ∃ h, H.holder (M.stateAt s cs n) = some h := by
  induction n with
  | zero =>
    rw [Machine.stateAt_zero]
    exact Option.ne_none_iff_exists'.1 hs
  | succ n ih =>
    by_cases hsame : H.holder (M.stateAt s cs (n + 1)) = H.holder (M.stateAt s cs n)
    · rw [hsame]
      exact ih
    · obtain ⟨a, hacc⟩ := accepted_of_holder_ne hsame
      exact ⟨a, hacc.holder⟩

/-- Who comes to hold the role has accepted it. -/
lemma accepted_of_holder {j n : ℕ} {a : A} (hjn : j ≤ n)
    (hj : H.holder (M.stateAt s cs j) ≠ some a) (hn : H.holder (M.stateAt s cs n) = some a) :
    ∃ k, j ≤ k ∧ k < n ∧ H.Accepted s cs k a := by
  induction n, hjn using Nat.le_induction with
  | base => exact absurd hn hj
  | succ n hjn ih =>
    by_cases hsame : H.holder (M.stateAt s cs (n + 1)) = H.holder (M.stateAt s cs n)
    · obtain ⟨k, hjk, hkn, hacc⟩ := ih (hsame ▸ hn)
      exact ⟨k, hjk, hkn.trans (Nat.lt_succ_self n), hacc⟩
    · obtain ⟨b, hacc⟩ := accepted_of_holder_ne hsame
      obtain rfl : b = a := Option.some.inj (hacc.holder.symm.trans hn)
      exact ⟨n, hjn, Nat.lt_succ_self n, hacc⟩

/-- Who has lost the role holds it again only after being proposed and accepting once more. -/
lemma regained {r n : ℕ} {a : A} (hr : H.holder (M.stateAt s cs r) = some a)
    (hr' : H.holder (M.stateAt s cs (r + 1)) ≠ some a) (hrn : r < n)
    (hn : H.holder (M.stateAt s cs n) = some a) :
    ∃ m k, r < m ∧ k < n ∧ H.Proposal s cs m k a ∧ H.Accepted s cs k a := by
  -- nobody is pending right after the role has changed hands
  obtain ⟨b, hlost⟩ := accepted_of_holder_ne (fun heq => hr' (heq.trans hr))
  obtain ⟨k, hrk, hkn, hacc⟩ := accepted_of_holder hrn hr' hn
  obtain ⟨m, hrm, hprop, -⟩ := pending_origin hrk hlost.cleared hacc.pending
  exact ⟨m, k, hrm, hkn, hprop, hacc⟩

variable (H)

/-- What a handover in two steps is for, over a whole run. -/
structure Safe (s : S) (cs : List C) : Prop where
  /-- The role is held at any time. -/
  held : ∀ n, ∃ h, H.holder (M.stateAt s cs n) = some h
  /-- It changes hands only when an address accepts that was the last one to be proposed, by the
  address that is still the holder, and whose proposal was neither revoked nor accepted since. -/
  takenOver : ∀ n, H.holder (M.stateAt s cs (n + 1)) ≠ H.holder (M.stateAt s cs n) →
    ∃ a m, H.Accepted s cs n a ∧ H.Proposal s cs m n a ∧
      H.holder (M.stateAt s cs n) = H.holder (M.stateAt s cs m)
  /-- The proposed successor and the settings are changed by the holder, except that a successor
  who takes over is not proposed any longer. -/
  governed : ∀ n, H.Governs s cs n → H.ByHolder s cs n ∨ ∃ a, H.Accepted s cs n a
  /-- Who is never proposed never takes over. -/
  unproposed : ∀ a, H.holder s ≠ some a → (∀ m c, M.Succeeds s cs m c → H.part c ≠ .propose a) →
    ∀ n, H.holder (M.stateAt s cs n) ≠ some a
  /-- Who has lost the role changes nothing by its own authorisation, unless it was proposed and
  has accepted once more. -/
  replaced : ∀ r a n, H.holder (M.stateAt s cs r) = some a →
    H.holder (M.stateAt s cs (r + 1)) ≠ some a → r < n →
    (∀ c b, cs[n]? = some c → H.authorised c b → b = a) → H.Governs s cs n →
    ∃ m k, r < m ∧ k ≤ n ∧ H.Proposal s cs m k a ∧ H.Accepted s cs k a

variable {H}

theorem safe (hs : H.holder s ≠ none) (hp : H.pending s = none) : H.Safe s cs where
  held := exists_holder hs
  takenOver := by
    intro n hne
    obtain ⟨a, hacc⟩ := accepted_of_holder_ne hne
    obtain ⟨m, -, hprop, hsame⟩ := pending_origin (Nat.zero_le n)
      (by rw [Machine.stateAt_zero]; exact hp) hacc.pending
    exact ⟨a, m, hacc, hprop, hsame⟩
  governed := fun n => byHolder_of_governs
  unproposed := by
    intro a ha hnever n hn
    obtain ⟨k, -, -, hacc⟩ := accepted_of_holder (Nat.zero_le n)
      (by rw [Machine.stateAt_zero]; exact ha) hn
    obtain ⟨m, -, hprop, -⟩ := pending_origin (Nat.zero_le k)
      (by rw [Machine.stateAt_zero]; exact hp) hacc.pending
    obtain ⟨c, -, hc, hpart, -⟩ := hprop.call
    exact hnever m c hc hpart
  replaced := by
    intro r a n hr hr' hrn honly hgov
    rcases byHolder_of_governs hgov with ⟨c, h, hc, hh, hauth⟩ | ⟨b, hacc⟩
    · -- the holder who has authorised the call is the replaced one, so it came back
      obtain rfl := honly c h hc.1 hauth
      obtain ⟨m, k, hrm, hkn, hprop, hacc⟩ := regained hr hr' hrn hh
      exact ⟨m, k, hrm, hkn.le, hprop, hacc⟩
    -- the call is the one by which it comes back
    obtain ⟨c, hc, -, hauth⟩ := hacc.call
    obtain rfl := honly c b hc.1 hauth
    obtain ⟨d, hlost⟩ := accepted_of_holder_ne (fun heq => hr' (heq.trans hr))
    obtain ⟨m, hrm, hprop, -⟩ := pending_origin hrn hlost.cleared hacc.pending
    exact ⟨m, n, hrm, le_rfl, hprop, hacc⟩

end Handover

end WaffleFinance.Lib

import WaffleFinance.Lib.Machine
import WaffleFinance.Relayer.Files
import WaffleFinance.Relayer.Ledgers

/-!
# The gate of the refunds

The ledger of refunds with its files, and the callers that use it.  A caller that has been granted a
claim holds the order until it commits the refund, releases the order or marks the refund as
ambiguous; anyone may resolve or release an ambiguous refund.  A restart reads the files, and who
held an order before is gone.
-/

namespace WaffleFinance.Relayer

open Lib

/-! ### The ledger on disk -/

/-- The entries in memory and the files. -/
structure RefundStore where
  entries : RefundLedger
  files : Directory Text Text RefundState

/-- A refund that is written to disk. -/
def RefundState.isPersisted : RefundState → Bool
  | inFlight => false
  | committed .. => true
  | ambiguous _ => true

namespace RefundStore

variable (s : RefundStore)

def initial : RefundStore := ⟨fun _ => none, .empty⟩

def persist (orderId : Text) (state : RefundState) : Directory Text Text RefundState :=
  s.files.write refundFile orderId state

/-- A claim is in memory only. -/
def claim (orderId : Text) : Bool × RefundStore :=
  ((s.entries.claim orderId).1, { s with entries := (s.entries.claim orderId).2 })

def commit (now : ℕ) (orderId txHash : Text) (amount : ℕ) (ledger : Option ℕ) : RefundStore :=
  match s.entries orderId with
  | some (.committed ..) => s
  | _ =>
    ⟨s.entries.commit now orderId txHash amount ledger,
      s.persist orderId (.committed txHash amount ledger now)⟩

def release (orderId : Text) : RefundStore := { s with entries := s.entries.release orderId }

def markAmbiguous (now : ℕ) (orderId : Text) : RefundStore :=
  ⟨s.entries.markAmbiguous now orderId, s.persist orderId (.ambiguous now)⟩

def resolveAmbiguous (now : ℕ) (orderId txHash : Text) (amount : ℕ) (ledger : Option ℕ) :
    RefundStore :=
  match s.entries orderId with
  | some (.ambiguous _) => s.commit now orderId txHash amount ledger
  | _ => s

def releaseAmbiguous (orderId : Text) : RefundStore :=
  match s.entries orderId with
  | some (.ambiguous _) =>
    ⟨s.entries.releaseAmbiguous orderId, s.files.unlink refundFile orderId⟩
  | _ => s

/-- A new process reads the files as they are listed. -/
def loadFromDisk (listing : List Text) : RefundStore :=
  { s with entries := (s.files.load (fun _ state => state.isPersisted) listing).get }

end RefundStore

inductive RefundCall where
  | claim (orderId : Text)
  | commit (now : ℕ) (orderId txHash : Text) (amount : ℕ) (ledger : Option ℕ)
  | release (orderId : Text)
  | markAmbiguous (now : ℕ) (orderId : Text)
  | resolveAmbiguous (now : ℕ) (orderId txHash : Text) (amount : ℕ) (ledger : Option ℕ)
  | releaseAmbiguous (orderId : Text)
  | restart (listing : List Text)
  deriving DecidableEq

/-- The order that a call is about. -/
def RefundCall.orderId : RefundCall → Option Text
  | claim orderId => orderId
  | commit _ orderId _ _ _ => orderId
  | release orderId => orderId
  | markAmbiguous _ orderId => orderId
  | resolveAmbiguous _ orderId _ _ _ => orderId
  | releaseAmbiguous orderId => orderId
  | restart _ => none

namespace RefundStore

/-- One call.  A list that does not list the files is none that a restart may come upon. -/
def step (s : RefundStore) : RefundCall → RefundStore
  | .claim orderId => (s.claim orderId).2
  | .commit now orderId txHash amount ledger => s.commit now orderId txHash amount ledger
  | .release orderId => s.release orderId
  | .markAmbiguous now orderId => s.markAmbiguous now orderId
  | .resolveAmbiguous now orderId txHash amount ledger =>
    s.resolveAmbiguous now orderId txHash amount ledger
  | .releaseAmbiguous orderId => s.releaseAmbiguous orderId
  | .restart listing => if listing.Perm s.files.keys then s.loadFromDisk listing else s

/-- The files are the refunds that are to survive. -/
abbrev OnDisk (orderIds : Set Text) (s : RefundStore) : Prop :=
  Directory.Mirrors refundFile orderIds (fun state => state.isPersisted = true) s.entries s.files

variable {orderIds : Set Text} {s : RefundStore} {orderId : Text}

variable (s orderId) in
/-- What a call about one order does: only what is committed or ambiguous goes to disk. -/
inductive Effect : RefundStore → Prop
  | same : Effect s
  | inMemory {x : Option RefundState} (hold : ∀ e ∈ s.entries orderId, ¬ e.isPersisted = true)
      (hnew : ∀ e ∈ x, ¬ e.isPersisted = true) :
      Effect { s with entries := Function.update s.entries orderId x }
  | written {state : RefundState} (h : state.isPersisted = true) :
      Effect ⟨Function.update s.entries orderId (some state), s.persist orderId state⟩
  | removed : Effect ⟨Function.update s.entries orderId none, s.files.unlink refundFile orderId⟩

lemma commit_effect (now : ℕ) (txHash : Text) (amount : ℕ) (ledger : Option ℕ) :
    Effect s orderId (s.commit now orderId txHash amount ledger) := by
  unfold RefundStore.commit
  split
  · exact .same
  · rename_i hopen
    have hentries : s.entries.commit now orderId txHash amount ledger =
        Function.update s.entries orderId (some (.committed txHash amount ledger now)) := by
      unfold RefundLedger.commit
      split
      · rename_i hcommitted
        exact absurd hcommitted (hopen _ _ _ _)
      · rfl
    rw [hentries]
    exact .written rfl

lemma step_effect {c : RefundCall} (hc : c.orderId = some orderId) :
    Effect s orderId (s.step c) := by
  cases c with
  | claim id =>
    obtain rfl := Option.some.inj hc
    cases hentry : s.entries id with
    | none =>
      simp only [RefundStore.step, RefundStore.claim, RefundLedger.claim_of_none hentry]
      exact .inMemory (by simp [hentry]) (by simp [RefundState.isPersisted])
    | some e =>
      simp only [RefundStore.step, RefundStore.claim, RefundLedger.claim_of_some hentry]
      exact .same
  | commit now id txHash amount ledger =>
    cases hc
    exact commit_effect ..
  | release id =>
    obtain rfl := Option.some.inj hc
    simp only [RefundStore.step, RefundStore.release, RefundLedger.release]
    split
    · rename_i hentry
      exact .inMemory (by simp [hentry, RefundState.isPersisted]) (by simp)
    · exact .same
  | markAmbiguous now id =>
    cases hc
    exact .written rfl
  | resolveAmbiguous now id txHash amount ledger =>
    cases hc
    simp only [RefundStore.step, RefundStore.resolveAmbiguous]
    split
    · exact commit_effect ..
    · exact .same
  | releaseAmbiguous id =>
    cases hc
    simp only [RefundStore.step, RefundStore.releaseAmbiguous]
    split
    · rename_i hentry
      simp only [RefundLedger.releaseAmbiguous, hentry]
      exact .removed
    · exact .same
  | restart listing => cases hc

/-- Every call keeps the files up to date, if the orders have different files. -/
lemma OnDisk.step (h : s.OnDisk orderIds) (hnames : Set.InjOn refundFile orderIds) (c : RefundCall)
    (hid : ∀ orderId ∈ c.orderId, orderId ∈ orderIds) : (s.step c).OnDisk orderIds := by
  cases hc : c.orderId with
  | some orderId =>
    have hmem := hid orderId hc
    have heffect := step_effect (s := s) hc
    generalize s.step c = s' at heffect ⊢
    cases heffect with
    | same => exact h
    | inMemory hold hnew => exact h.update hmem hold hnew
    | written hstate => exact h.write hnames hmem hstate
    | removed => exact h.unlink hnames hmem
  | none =>
    cases c with
    | restart listing =>
      simp only [RefundStore.step]
      split
      · rename_i hlisting
        exact h.load hlisting fun _ _ _ hkept => hkept
      · exact h
    | _ => cases hc

lemma entries_step_of_ne {c : RefundCall} {other : Text} (hc : c.orderId = some orderId)
    (hne : other ≠ orderId) : (s.step c).entries other = s.entries other := by
  have heffect := step_effect (s := s) hc
  generalize s.step c = s' at heffect ⊢
  cases heffect with
  | same => rfl
  | _ => exact Function.update_of_ne hne ..

end RefundStore

/-! ### The callers -/

/-- The ledger, and who holds which order. -/
structure RefundGate where
  store : RefundStore
  holders : List (ℕ × Text)

namespace RefundGate

def initial : RefundGate := ⟨.initial, []⟩

/-- The call of a caller that does what the ledger asks for; other calls are not made. -/
def exec (x : ℕ × RefundCall) (g : RefundGate) : Except Unit RefundGate :=
  match x.2 with
  | .claim orderId =>
    .ok ⟨g.store.step x.2,
      if (g.store.claim orderId).1 then (x.1, orderId) :: g.holders else g.holders⟩
  | .commit _ orderId _ _ _ | .release orderId | .markAmbiguous _ orderId =>
    if (x.1, orderId) ∈ g.holders then .ok ⟨g.store.step x.2, g.holders.erase (x.1, orderId)⟩
    else .error ()
  | .resolveAmbiguous .. | .releaseAmbiguous _ => .ok { g with store := g.store.step x.2 }
  | .restart listing =>
    if listing.Perm g.store.files.keys then .ok ⟨g.store.step x.2, []⟩ else .error ()

def machine : Machine RefundGate (ℕ × RefundCall) Unit := ⟨exec⟩

/-- The state after the first `n` calls. -/
def after (calls : List (ℕ × RefundCall)) (n : ℕ) : RefundGate := machine.stateAt initial calls n

/-- What holds at every point of a run. -/
structure Sound (orderIds : Set Text) (g : RefundGate) : Prop where
  onDisk : g.store.OnDisk orderIds
  inFlight : ∀ orderId,
    g.store.entries orderId = some .inFlight ↔ ∃ caller, (caller, orderId) ∈ g.holders
  single : (g.holders.map Prod.snd).Nodup

variable {orderIds : Set Text} {g g' : RefundGate} {x : ℕ × RefundCall}

variable {caller : ℕ} {orderId : Text}

lemma held_of_exec {store : RefundStore} (h : (if (caller, orderId) ∈ g.holders then
      Except.ok ⟨store, g.holders.erase (caller, orderId)⟩ else Except.error ()) = .ok g') :
    (caller, orderId) ∈ g.holders ∧ g' = ⟨store, g.holders.erase (caller, orderId)⟩ := by
  split at h
  · rename_i hholds
    exact ⟨hholds, (Except.ok.inj h).symm⟩
  · cases h

lemma sound_initial (orderIds : Set Text) : initial.Sound orderIds where
  onDisk := Directory.Mirrors.empty
  inFlight := by simp [initial, RefundStore.initial]
  single := List.nodup_nil

lemma Sound.holder_unique (h : g.Sound orderIds) {caller' : ℕ}
    (hmem : (caller, orderId) ∈ g.holders) (hmem' : (caller', orderId) ∈ g.holders) :
    caller = caller' :=
  (Prod.mk.inj (List.inj_on_of_nodup_map h.single hmem hmem' rfl)).1

/-- A call about one order, after which the other orders are held as before. -/
lemma Sound.of_step (h : g.Sound orderIds) (hnames : Set.InjOn refundFile orderIds) {c : RefundCall}
    (hc : c.orderId = some orderId) (hid : orderId ∈ orderIds) {holders : List (ℕ × Text)}
    (hothers : ∀ caller other, other ≠ orderId →
      ((caller, other) ∈ holders ↔ (caller, other) ∈ g.holders))
    (hself : (g.store.step c).entries orderId = some .inFlight ↔
      ∃ caller, (caller, orderId) ∈ holders) (hsingle : (holders.map Prod.snd).Nodup) :
    Sound orderIds ⟨g.store.step c, holders⟩ := by
  refine ⟨h.onDisk.step hnames c fun id hmem => ?_, fun other => ?_, hsingle⟩
  · rw [hc] at hmem
    rw [← Option.some.inj hmem]
    exact hid
  · by_cases hne : other = orderId
    · subst hne
      exact hself
    · show (g.store.step c).entries other = _ ↔ _
      rw [RefundStore.entries_step_of_ne hc hne, h.inFlight]
      exact exists_congr fun caller => (hothers caller other hne).symm

/-- Who holds an order gives it up, and the entry is not in flight any more. -/
lemma Sound.give_up (h : g.Sound orderIds) (hnames : Set.InjOn refundFile orderIds) {c : RefundCall}
    (hc : c.orderId = some orderId) (hid : orderId ∈ orderIds)
    (hholds : (caller, orderId) ∈ g.holders)
    (hover : (g.store.step c).entries orderId ≠ some .inFlight) :
    Sound orderIds ⟨g.store.step c, g.holders.erase (caller, orderId)⟩ := by
  have herase : (g.holders.erase (caller, orderId)).Sublist g.holders := List.erase_sublist
  refine h.of_step hnames hc hid (fun caller' other hne => ?_) (iff_of_false hover ?_)
    (h.single.sublist (herase.map _))
  · exact List.mem_erase_of_ne fun heq => hne (Prod.mk.inj heq).2
  · rintro ⟨caller', hmem⟩
    rw [h.holder_unique (herase.subset hmem) hholds] at hmem
    exact (List.Nodup.of_map _ h.single).not_mem_erase hmem

/-- Nobody holds an order of which nobody made a claim. -/
lemma Sound.keep (h : g.Sound orderIds) (hnames : Set.InjOn refundFile orderIds) {c : RefundCall}
    (hc : c.orderId = some orderId) (hid : orderId ∈ orderIds)
    (hsame : (g.store.step c).entries orderId = some .inFlight ↔
      g.store.entries orderId = some .inFlight) :
    Sound orderIds { g with store := g.store.step c } :=
  h.of_step hnames hc hid (fun _ _ _ => Iff.rfl) (hsame.trans (h.inFlight orderId)) h.single

lemma Sound.claim (h : g.Sound orderIds) (hnames : Set.InjOn refundFile orderIds) (caller : ℕ)
    (hid : orderId ∈ orderIds) :
    Sound orderIds ⟨g.store.step (.claim orderId),
      if (g.store.claim orderId).1 then (caller, orderId) :: g.holders else g.holders⟩ := by
  cases hentry : g.store.entries orderId with
  | some e =>
    have hstep : g.store.step (.claim orderId) = g.store := by
      simp [RefundStore.step, RefundStore.claim, RefundLedger.claim_of_some hentry]
    rw [hstep, RefundStore.claim, RefundLedger.claim_of_some hentry]
    exact h
  | none =>
    -- an order without an entry is held by nobody
    have hfree : ∀ caller', (caller', orderId) ∉ g.holders := by
      intro caller' hmem
      have hheld := (h.inFlight orderId).2 ⟨caller', hmem⟩
      rw [hentry] at hheld
      cases hheld
    have hself : (g.store.step (.claim orderId)).entries orderId = some .inFlight := by
      simp [RefundStore.step, RefundStore.claim, RefundLedger.claim_of_none hentry]
    rw [RefundStore.claim, RefundLedger.claim_of_none hentry]
    refine h.of_step hnames rfl hid (fun caller' other hne => ?_) ?_ ?_
    · simp [hne]
    · exact iff_of_true hself ⟨caller, List.mem_cons_self⟩
    · refine List.nodup_cons.2 ⟨?_, h.single⟩
      simpa using hfree

lemma Sound.entries_restart (h : g.Sound orderIds) {listing : List Text}
    (hlisting : listing.Perm g.store.files.keys) :
    (g.store.step (.restart listing)).entries =
      fun orderId => (g.store.entries orderId).filter (·.isPersisted) := by
  have hload : (g.store.files.load (fun _ state => state.isPersisted) listing).get = _ :=
    h.onDisk.get_load hlisting fun _ _ _ hkept => hkept
  simpa [RefundStore.step, RefundStore.loadFromDisk, hlisting] using hload

lemma Sound.exec (h : g.Sound orderIds) (hnames : Set.InjOn refundFile orderIds)
    (hid : ∀ orderId ∈ x.2.orderId, orderId ∈ orderIds) (hexec : exec x g = .ok g') :
    g'.Sound orderIds := by
  obtain ⟨caller, c⟩ := x
  cases c with
  | claim orderId =>
    cases hexec
    exact h.claim hnames caller (hid orderId rfl)
  | commit now orderId txHash amount ledger =>
    obtain ⟨hholds, rfl⟩ := held_of_exec hexec
    refine h.give_up hnames rfl (hid orderId rfl) hholds ?_
    have hentry := (h.inFlight orderId).2 ⟨caller, hholds⟩
    simp [RefundStore.step, RefundStore.commit, RefundLedger.commit, hentry]
  | release orderId =>
    obtain ⟨hholds, rfl⟩ := held_of_exec hexec
    refine h.give_up hnames rfl (hid orderId rfl) hholds ?_
    have hentry := (h.inFlight orderId).2 ⟨caller, hholds⟩
    simp [RefundStore.step, RefundStore.release, RefundLedger.release_of_inFlight hentry]
  | markAmbiguous now orderId =>
    obtain ⟨hholds, rfl⟩ := held_of_exec hexec
    refine h.give_up hnames rfl (hid orderId rfl) hholds ?_
    simp [RefundStore.step, RefundStore.markAmbiguous, RefundLedger.markAmbiguous]
  | resolveAmbiguous now orderId txHash amount ledger =>
    cases hexec
    refine h.keep hnames rfl (hid orderId rfl) ?_
    simp only [RefundStore.step, RefundStore.resolveAmbiguous]
    split
    · rename_i hentry
      simp [RefundStore.commit, RefundLedger.commit, hentry]
    · rfl
  | releaseAmbiguous orderId =>
    cases hexec
    refine h.keep hnames rfl (hid orderId rfl) ?_
    simp only [RefundStore.step, RefundStore.releaseAmbiguous]
    split
    · rename_i hentry
      simp [RefundLedger.releaseAmbiguous, hentry]
    · rfl
  | restart listing =>
    simp only [RefundGate.exec] at hexec
    split at hexec
    · rename_i hlisting
      cases hexec
      refine ⟨h.onDisk.step hnames _ (by simp [RefundCall.orderId]), fun orderId => ?_, by simp⟩
      show (g.store.step (.restart listing)).entries orderId = _ ↔ _
      rw [h.entries_restart hlisting]
      simp [Option.filter_eq_some_iff, RefundState.isPersisted]
    · cases hexec

/-- A committed refund stays as it is. -/
lemma Sound.exec_committed (h : g.Sound orderIds) (hexec : RefundGate.exec x g = .ok g')
    {txHash : Text} {amount : ℕ} {ledger : Option ℕ} {committedAt : ℕ}
    (hentry : g.store.entries orderId = some (.committed txHash amount ledger committedAt)) :
    g'.store.entries orderId = some (.committed txHash amount ledger committedAt) := by
  -- nobody holds the order
  have hfree : ∀ caller, (caller, orderId) ∉ g.holders := by
    intro caller hmem
    have hheld := (h.inFlight orderId).2 ⟨caller, hmem⟩
    rw [hentry] at hheld
    cases hheld
  obtain ⟨caller, c⟩ := x
  have hother : ∀ id, c.orderId = some id → orderId ≠ id →
      (g.store.step c).entries orderId = some (.committed txHash amount ledger committedAt) := by
    intro id hc hne
    rw [RefundStore.entries_step_of_ne hc hne]
    exact hentry
  have hheld : ∀ id, c.orderId = some id → (caller, id) ∈ g.holders →
      (g.store.step c).entries orderId = some (.committed txHash amount ledger committedAt) :=
    fun id hc hmem => hother id hc fun heq => hfree caller (heq ▸ hmem)
  cases c with
  | claim id =>
    cases hexec
    by_cases hne : orderId = id
    · subst hne
      simp [RefundStore.step, RefundStore.claim, RefundLedger.claim_of_some hentry, hentry]
    · exact hother id rfl hne
  | commit now id txHash amount ledger | release id | markAmbiguous now id =>
    obtain ⟨hholds, rfl⟩ := held_of_exec hexec
    exact hheld id rfl hholds
  | resolveAmbiguous now id txHash amount ledger =>
    cases hexec
    by_cases hne : orderId = id
    · subst hne
      simp [RefundStore.step, RefundStore.resolveAmbiguous, hentry]
    · exact hother id rfl hne
  | releaseAmbiguous id =>
    cases hexec
    by_cases hne : orderId = id
    · subst hne
      simp [RefundStore.step, RefundStore.releaseAmbiguous, hentry]
    · exact hother id rfl hne
  | restart listing =>
    simp only [RefundGate.exec] at hexec
    split at hexec
    · rename_i hlisting
      cases hexec
      rw [h.entries_restart hlisting]
      show (g.store.entries orderId).filter _ = _
      rw [hentry]
      rfl
    · cases hexec

/-! ### A whole run -/

section Run

variable {calls : List (ℕ × RefundCall)}

lemma sound_after (hnames : Set.InjOn refundFile orderIds)
    (hcalls : ∀ x ∈ calls, ∀ orderId ∈ x.2.orderId, orderId ∈ orderIds) (n : ℕ) :
    (after calls n).Sound orderIds :=
  Machine.stateAt_invariant (M := machine)
    (fun x hx _ _ h hexec => h.exec hnames (hcalls x hx) hexec) (sound_initial orderIds) n

lemma committed_after (hnames : Set.InjOn refundFile orderIds)
    (hcalls : ∀ x ∈ calls, ∀ orderId ∈ x.2.orderId, orderId ∈ orderIds) {i j : ℕ} (hij : i ≤ j)
    {orderId txHash : Text} {amount : ℕ} {ledger : Option ℕ} {committedAt : ℕ}
    (hentry : (after calls i).store.entries orderId =
      some (.committed txHash amount ledger committedAt)) :
    (after calls j).store.entries orderId =
      some (.committed txHash amount ledger committedAt) := by
  refine Machine.stateAt_from (M := machine) (I := fun g => g.store.entries orderId =
    some (.committed txHash amount ledger committedAt)) hij ?_ hentry
  rintro n x - - ⟨-, hexec⟩ ih
  exact (sound_after hnames hcalls n).exec_committed hexec ih

end Run

end RefundGate

open RefundGate

/-- Over every run of callers that do what the ledger asks for, and any restarts, with orders that
have different files. -/
theorem refund_ledger_gate (orderIds : Set Text) (hnames : Set.InjOn sanitise orderIds)
    (calls : List (ℕ × RefundCall))
    (hcalls : ∀ x ∈ calls, ∀ orderId ∈ x.2.orderId, orderId ∈ orderIds) :
    (∀ n orderId, (∀ caller caller', (caller, orderId) ∈ (after calls n).holders →
        (caller', orderId) ∈ (after calls n).holders → caller = caller') ∧
      ((after calls n).store.entries orderId = some .inFlight ↔
        ∃ caller, (caller, orderId) ∈ (after calls n).holders)) ∧
    ∀ i j, i ≤ j → ∀ orderId txHash amount ledger committedAt,
      (after calls i).store.entries orderId =
          some (.committed txHash amount ledger committedAt) →
        (after calls j).store.entries orderId =
            some (.committed txHash amount ledger committedAt) ∧
          ((after calls j).store.claim orderId).1 = false := by
  have hfiles : Set.InjOn refundFile orderIds :=
    withExtension_injective.comp_injOn hnames
  refine ⟨fun n orderId => ?_, fun i j hij orderId txHash amount ledger committedAt hentry => ?_⟩
  · have hsound := sound_after hfiles hcalls n
    exact ⟨fun _ _ hmem hmem' => hsound.holder_unique hmem hmem', hsound.inFlight orderId⟩
  · have hlater := committed_after hfiles hcalls hij hentry
    refine ⟨hlater, ?_⟩
    rw [RefundStore.claim, RefundLedger.claim_of_some hlater]

/-- Two callers want to refund an order, one of them does, and the process starts again. -/
theorem refund_ledger_gate_race :
    let order := "order-1".toList
    let calls : List (ℕ × RefundCall) :=
      [(0, .claim order), (1, .claim order), (0, .commit 5 order "ab".toList 70 none),
        (2, .restart [refundFile order]), (1, .claim order)]
    (after calls 4).store.entries order = some (.committed "ab".toList 70 none 5) ∧
      ((after calls 4).store.claim order).1 = false := by
  intro order calls
  have hcalls : ∀ x ∈ calls, ∀ orderId ∈ x.2.orderId, orderId ∈ ({order} : Set Text) := by
    simp [calls, RefundCall.orderId]
  have hcommitted : (after calls 3).store.entries order =
      some (.committed "ab".toList 70 none 5) := by
    decide +kernel
  exact (refund_ledger_gate {order} (Set.injOn_singleton ..) calls hcalls).2 3 4 (by decide) order
    _ _ _ _ hcommitted

end WaffleFinance.Relayer

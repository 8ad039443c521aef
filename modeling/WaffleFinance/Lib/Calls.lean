import WaffleFinance.Lib.Alone

/-!
# Services over a store

A service that touches the shared state only through calls of a store.  A call is one atomic
operation, and it is the only thing that the service waits for: others run before it, nobody runs
while it happens.  What goes wrong with a call comes from outside.

For a service that runs alone, `Fallible.Ensures` says what holds at its end, whatever goes wrong.
For a service with many requests at once, `Store.Issues` says which calls a request makes, each
seen from the call before it (`Store.Heeds` where that one does not matter); `Store.invariant` and
`Store.step_cases` are the rules for runs.
-/

namespace WaffleFinance.Lib

/-! ### Alone -/

namespace Fallible

variable {ε σ Q : Type} {R : Q → Type} {α β : Type}

/-- The process ends with `ok` or throws with `err`, whatever it is answered. -/
def Ensures (ok : α → σ → Prop) (err : ε → σ → Prop) (x : Fallible ε σ Q R α) (s : σ) : Prop :=
  Process.Always (fun r s => (∀ a, r = .ok a → ok a s) ∧ ∀ e, r = .error e → err e s) x.run s

variable {ok : α → σ → Prop} {err : ε → σ → Prop} {s : σ}

@[simp] lemma ensures_pure (a : α) :
    (pure a : Fallible ε σ Q R α).Ensures ok err s ↔ ok a s := by
  show (∀ b, Except.ok a = .ok b → ok b s) ∧ (∀ e, Except.ok a = .error e → err e s) ↔ _
  simp

@[simp] lemma ensures_throw (e : ε) :
    (throw e : Fallible ε σ Q R α).Ensures ok err s ↔ err e s := by
  show (∀ a, Except.error e = .ok a → ok a s) ∧ (∀ e', Except.error e = .error e' → err e' s) ↔ _
  simp

variable {x : Fallible ε σ Q R α}

lemma Ensures.mono {ok' : α → σ → Prop} {err' : ε → σ → Prop} (h : x.Ensures ok err s)
    (hok : ∀ {a s}, ok a s → ok' a s) (herr : ∀ {e s}, err e s → err' e s) : x.Ensures ok' err' s :=
  Process.Always.mono h fun {_ _} hr => ⟨fun a ha => hok (hr.1 a ha), fun e he => herr (hr.2 e he)⟩

/-- What is ensured in every case holds after each run. -/
lemma Ensures.play {post : σ → Prop} (h : x.Ensures (fun _ s => post s) (fun _ s => post s) s)
    (rs : Answers Q R) : post (Process.play x.run rs s).2.2 := by
  have hend := Process.Always.play h rs
  cases hr : (Process.play x.run rs s).1 with
  | ok a => exact hend.1 a hr
  | error e => exact hend.2 e hr

lemma ensures_bind {ok : β → σ → Prop} {f : α → Fallible ε σ Q R β}
    (h : x.Ensures (fun a s => (f a).Ensures ok err s) err s) : (x >>= f).Ensures ok err s := by
  show Process.Always _ (x >>= f).run s
  rw [ExceptT.run_bind, Process.always_bind]
  refine Process.Always.mono h fun {r s} hr => ?_
  cases r with
  | ok a => exact hr.1 a rfl
  | error e =>
    refine ⟨fun _ ha => absurd ha (by simp), fun e' he => ?_⟩
    obtain rfl := Except.error.inj he
    exact hr.2 e rfl

lemma ensures_tryCatch {h : ε → Fallible ε σ Q R α}
    (hx : x.Ensures ok (fun e s => (h e).Ensures ok err s) s) :
    (tryCatch x h).Ensures ok err s := by
  show Process.Always _ (x.run >>= fun r => match r with
    | .ok a => pure (.ok a)
    | .error e => (h e).run) s
  rw [Process.always_bind]
  refine Process.Always.mono hx fun {r s} hr => ?_
  cases r with
  | ok a =>
    refine ⟨fun b hb => ?_, fun _ he => absurd he (by simp)⟩
    exact hr.1 b hb
  | error e => exact hr.2 e rfl

end Fallible

/-- A store: what a call does, and its result or the error that it reports. -/
structure Store (ε σ Q F : Type) (Res : Q → Type) where
  run : (q : Q) → F → σ → Except ε (Res q) × σ

/-- A service that waits for calls `Q`; the answer to each is what goes wrong with it. -/
abbrev Service (ε σ Q F α : Type) := Fallible ε σ Q (fun _ => F) α

namespace Store

variable {ε σ Q F Req α β : Type} {Res : Q → Type} (S : Store ε σ Q F Res)

/-- Wait for a call. -/
def call (q : Q) : Service ε σ Q F (Res q) := ExceptT.mk do
  let f ← Process.query q
  let s ← Process.read
  Process.modify fun _ => (S.run q f s).2
  pure (S.run q f s).1

variable {S}

@[simp] lemma play_call (q : Q) (rs : Answers Q fun _ => F) (s : σ) :
    Process.play (S.call q).run rs s =
      ((S.run q (rs 0 q) s).1, (fun i => rs (i + 1)), (S.run q (rs 0 q) s).2) := rfl

@[simp] lemma eval_call (q : Q) (fates : Q → F) (s : σ) :
    (S.call q).eval fates s = S.run q (fates q) s := rfl

lemma ensures_call {q : Q} {ok : Res q → σ → Prop} {err : ε → σ → Prop} {s : σ}
    (hok : ∀ f a, (S.run q f s).1 = .ok a → ok a (S.run q f s).2)
    (herr : ∀ f e, (S.run q f s).1 = .error e → err e (S.run q f s).2) :
    (S.call q).Ensures ok err s :=
  fun f => ⟨hok f, herr f⟩

/-! ### Many at once -/

/-- The state after the call that has given a process its turn. -/
def outcome (S : Store ε σ Q F Res) : Cause Q (fun _ => F) Req → σ → σ
  | .start _, s => s
  | .answer q f, s => (S.run q f s).2

/-- The server that handles requests by `code`.  Its state is in the store, so that a crash only
loses the requests. -/
def server (code : Req → Service ε σ Q F α) : System σ Q (fun _ => F) Req (Except ε α) where
  code r := (code r).run
  effect _ _ s := s
  restart s := s

/-- Which call comes next (`none` at the end), depending on the call before it and on the state in
which that call was made. -/
abbrev Protocol (σ Q F Req : Type) := Cause Q (fun _ => F) Req → σ → Option Q → Prop

/-- The turns of a service that keeps to a protocol. -/
def contract (S : Store ε σ Q F Res) (P : Protocol σ Q F Req) :
    Contract σ Q (fun _ => F) Req where
  ready _ _ := True
  turn c s o s' := s' = S.outcome c s ∧ P c s o

section Issues

variable {code : Req → Service ε σ Q F Unit} {P : Protocol σ Q F Req}

/-- The service keeps to the protocol; `ok` and `err` hold where it ends, of its last call and of
the state in which that was made. -/
def Issues (S : Store ε σ Q F Res) (P : Protocol σ Q F Req)
    (ok : Cause Q (fun _ => F) Req → σ → α → Prop) (err : Cause Q (fun _ => F) Req → σ → ε → Prop)
    (x : Service ε σ Q F α) (c : Cause Q (fun _ => F) Req) (s₀ : σ) : Prop :=
  x.run.Meets (server (fun _ : Req => (pure () : Service ε σ Q F Unit))) (S.contract P)
    (fun c s₀ r s => s = S.outcome c s₀ ∧ (∀ a, r = .ok a → ok c s₀ a) ∧
      ∀ e, r = .error e → err c s₀ e) c s₀ (S.outcome c s₀)

variable {ok : Cause Q (fun _ => F) Req → σ → α → Prop}
  {err : Cause Q (fun _ => F) Req → σ → ε → Prop} {c : Cause Q (fun _ => F) Req} {s₀ : σ}

@[simp] lemma issues_pure (a : α) :
    S.Issues P ok err (pure a : Service ε σ Q F α) c s₀ ↔ ok c s₀ a := by
  show _ = _ ∧ (∀ b, Except.ok a = .ok b → ok c s₀ b) ∧
    (∀ e, Except.ok a = .error e → err c s₀ e) ↔ _
  simp

@[simp] lemma issues_throw (e : ε) :
    S.Issues P ok err (throw e : Service ε σ Q F α) c s₀ ↔ err c s₀ e := by
  show _ = _ ∧ (∀ b, Except.error e = .ok b → ok c s₀ b) ∧
    (∀ e', Except.error e = .error e' → err c s₀ e') ↔ _
  simp

variable {x : Service ε σ Q F α}

lemma Issues.mono {ok' : Cause Q (fun _ => F) Req → σ → α → Prop}
    {err' : Cause Q (fun _ => F) Req → σ → ε → Prop} (h : S.Issues P ok err x c s₀)
    (hok : ∀ {c s a}, ok c s a → ok' c s a) (herr : ∀ {c s e}, err c s e → err' c s e) :
    S.Issues P ok' err' x c s₀ :=
  Process.Meets.mono h fun {_ _ _ _} hr =>
    ⟨hr.1, fun a ha => hok (hr.2.1 a ha), fun e he => herr (hr.2.2 e he)⟩

lemma issues_bind {ok : Cause Q (fun _ => F) Req → σ → β → Prop} {f : α → Service ε σ Q F β}
    (h : S.Issues P (fun c s a => S.Issues P ok err (f a) c s) err x c s₀) :
    S.Issues P ok err (x >>= f) c s₀ := by
  show Process.Meets _ _ _ (x >>= f).run c s₀ _
  rw [ExceptT.run_bind, Process.meets_bind]
  refine Process.Meets.mono h fun {c s₀ r s} hr => ?_
  obtain ⟨rfl, hok, herr⟩ := hr
  cases r with
  | ok a => exact hok a rfl
  | error e =>
    refine ⟨rfl, fun _ ha => absurd ha (by simp), fun e' he => ?_⟩
    obtain rfl := Except.error.inj he
    exact herr e rfl

lemma issues_tryCatch {h : ε → Service ε σ Q F α}
    (hx : S.Issues P ok (fun c s e => S.Issues P ok err (h e) c s) x c s₀) :
    S.Issues P ok err (tryCatch x h) c s₀ := by
  show Process.Meets _ _ _ (x.run >>= fun r => match r with
    | .ok a => pure (.ok a)
    | .error e => (h e).run) c s₀ _
  rw [Process.meets_bind]
  refine Process.Meets.mono hx fun {c s₀ r s} hr => ?_
  obtain ⟨rfl, hok, herr⟩ := hr
  cases r with
  | ok a =>
    refine ⟨rfl, fun b hb => ?_, fun _ he => absurd he (by simp)⟩
    exact hok b hb
  | error e => exact herr e rfl

lemma issues_call {q : Q} {ok : Cause Q (fun _ => F) Req → σ → Res q → Prop}
    (hP : P c s₀ (some q))
    (hok : ∀ f s a, (S.run q f s).1 = .ok a → ok (.answer q f) s a)
    (herr : ∀ f s e, (S.run q f s).1 = .error e → err (.answer q f) s e) :
    S.Issues P ok err (S.call q) c s₀ := by
  refine ⟨⟨rfl, hP⟩, fun f s _ => ?_⟩
  exact ⟨rfl, hok f s, herr f s⟩

/-- A request that keeps to the protocol to its end. -/
def Follows (S : Store ε σ Q F Res) (P : Protocol σ Q F Req) (x : Service ε σ Q F α)
    (c : Cause Q (fun _ => F) Req) (s₀ : σ) : Prop :=
  S.Issues P (fun c s _ => P c s none) (fun c s _ => P c s none) x c s₀

lemma Follows.meets (h : S.Follows P x c s₀) (code : Req → Service ε σ Q F α) :
    x.run.Meets (server code) (S.contract P) (S.contract P).Ends c s₀ (S.outcome c s₀) := by
  refine (Process.Meets.mono h ?_).congr_system rfl
  rintro c s₀ r s ⟨rfl, hok, herr⟩
  cases r with
  | ok a => exact ⟨rfl, hok a rfl⟩
  | error e => exact ⟨rfl, herr e rfl⟩

/-- Who keeps to two protocols keeps to both at once. -/
lemma Issues.and {P' : Protocol σ Q F Req} {ok' : Cause Q (fun _ => F) Req → σ → α → Prop}
    {err' : Cause Q (fun _ => F) Req → σ → ε → Prop} (h : S.Issues P ok err x c s₀)
    (h' : S.Issues P' ok' err' x c s₀) :
    S.Issues (fun c s o => P c s o ∧ P' c s o) (fun c s a => ok c s a ∧ ok' c s a)
      (fun c s e => err c s e ∧ err' c s e) x c s₀ := by
  have hmeets : ∀ (y : Process σ Q (fun _ => F) (Except ε α)) {c s₀ s},
      y.Meets (server (fun _ : Req => (pure () : Service ε σ Q F Unit))) (S.contract P)
        (fun c s₀ r s => s = S.outcome c s₀ ∧ (∀ a, r = .ok a → ok c s₀ a) ∧
          ∀ e, r = .error e → err c s₀ e) c s₀ s →
      y.Meets (server (fun _ : Req => (pure () : Service ε σ Q F Unit))) (S.contract P')
        (fun c s₀ r s => s = S.outcome c s₀ ∧ (∀ a, r = .ok a → ok' c s₀ a) ∧
          ∀ e, r = .error e → err' c s₀ e) c s₀ s →
      y.Meets (server (fun _ : Req => (pure () : Service ε σ Q F Unit)))
        (S.contract fun c s o => P c s o ∧ P' c s o)
        (fun c s₀ r s => s = S.outcome c s₀ ∧ (∀ a, r = .ok a → ok c s₀ a ∧ ok' c s₀ a) ∧
          ∀ e, r = .error e → err c s₀ e ∧ err' c s₀ e) c s₀ s := by
    intro y
    induction y with
    | done r =>
      rintro c s₀ s ⟨hs, hok, herr⟩ ⟨-, hok', herr'⟩
      exact ⟨hs, fun a ha => ⟨hok a ha, hok' a ha⟩, fun e he => ⟨herr e he, herr' e he⟩⟩
    | look next ih => exact fun {c s₀ s} hy hy' => ih s hy hy'
    | change f next ih => exact fun {c s₀ s} hy hy' => ih hy hy'
    | ask q next ih =>
      rintro c s₀ s ⟨⟨hs, hP⟩, hnext⟩ ⟨⟨-, hP'⟩, hnext'⟩
      exact ⟨⟨hs, hP, hP'⟩, fun f s' _ => ih f (hnext f s' trivial) (hnext' f s' trivial)⟩
  exact hmeets x.run h h'

/-- The service keeps to the protocol whatever the call before it was. -/
def Heeds (S : Store ε σ Q F Res) (P : Protocol σ Q F Req) (x : Service ε σ Q F α) : Prop :=
  ∀ c s, S.Issues P (fun _ _ _ => True) (fun _ _ _ => True) x c s

lemma heeds_pure (a : α) : S.Heeds P (pure a : Service ε σ Q F α) :=
  fun _ _ => (issues_pure a).2 trivial

lemma heeds_throw (e : ε) : S.Heeds P (throw e : Service ε σ Q F α) :=
  fun _ _ => (issues_throw e).2 trivial

lemma heeds_bind {f : α → Service ε σ Q F β} (hx : S.Heeds P x) (hf : ∀ a, S.Heeds P (f a)) :
    S.Heeds P (x >>= f) :=
  fun c s => issues_bind ((hx c s).mono (fun {c s a} _ => hf a c s) fun h => h)

lemma heeds_tryCatch {h : ε → Service ε σ Q F α} (hx : S.Heeds P x) (hh : ∀ e, S.Heeds P (h e)) :
    S.Heeds P (tryCatch x h) :=
  fun c s => issues_tryCatch ((hx c s).mono (fun h => h) fun {c s e} _ => hh e c s)

lemma heeds_call {q : Q} (hP : ∀ c s, P c s (some q)) : S.Heeds P (S.call q) :=
  fun c s => issues_call (hP c s) (fun _ _ _ _ => trivial) fun _ _ _ _ => trivial

lemma Heeds.follows (h : S.Heeds P x) (hend : ∀ c s, P c s none) (c : Cause Q (fun _ => F) Req)
    (s : σ) : S.Follows P x c s :=
  (h c s).mono (fun {c s _} _ => hend c s) fun {c s _} _ => hend c s

end Issues

/-! ### Runs -/

section Runs

variable {code : Req → Service ε σ Q F α} {P : Protocol σ Q F Req}
  {allowed : Option (Cause Q (fun _ => F) Req) → σ → Multiset Q → Prop}
  {I : σ → Multiset Q → Prop}

/-- What every call of the protocol keeps, if it is `allowed`. -/
structure Keeps (S : Store ε σ Q F Res) (P : Protocol σ Q F Req)
    (allowed : Option (Cause Q (fun _ => F) Req) → σ → Multiset Q → Prop)
    (I : σ → Multiset Q → Prop) : Prop where
  start : ∀ {r s qs o}, I s qs → allowed (some (.start r)) s qs → P (.start r) s o →
    I s ((o.toList : Multiset Q) + qs)
  answer : ∀ {q f s qs o}, I s (q ::ₘ qs) → allowed (some (.answer q f)) s (q ::ₘ qs) →
    P (.answer q f) s o → I (S.run q f s).2 ((o.toList : Multiset Q) + qs)
  crash : ∀ {s qs}, I s qs → allowed none s qs → I s 0

lemma orphaned_eq {code : Req → Service ε σ Q F α} {qs : Multiset Q} {s s' : σ}
    (h : (server code).Orphaned qs s s') : s' = s := by
  induction h with
  | nil s => rfl
  | cons q r _ ih => exact ih

lemma Keeps.contract (hI : S.Keeps P allowed I) :
    Contract.Keeps (server code) (S.contract P) allowed I where
  ready _ := ⟨trivial, fun _ _ => trivial⟩
  start hs hallowed hturn := by
    obtain ⟨rfl, hP⟩ := hturn
    exact hI.start hs hallowed hP
  answer hs hallowed hturn := by
    obtain ⟨rfl, hP⟩ := hturn
    exact hI.answer hs hallowed hP
  crash hs hallowed horphaned := by
    obtain rfl := orphaned_eq horphaned
    exact hI.crash hs hallowed

variable {s : σ} {es : List (Event Q (fun _ => F) Req)}

/-- An event of a run is allowed. -/
def Permits (code : Req → Service ε σ Q F α)
    (allowed : Option (Cause Q (fun _ => F) Req) → σ → Multiset Q → Prop) (s : σ)
    (es : List (Event Q (fun _ => F) Req)) : Prop :=
  ∀ n e x, es[n]? = some e → ((server code).poolAt s es n).stimulus e = some x →
    allowed x ((server code).poolAt s es n).state ((server code).poolAt s es n).pending

/-- What every call keeps holds in every run of requests that keep to the protocol, whatever the
interleaving. -/
theorem invariant_of_starts (hcode : ∀ r, .start r ∈ es → ∀ s, S.Follows P (code r) (.start r) s)
    (hI : S.Keeps P allowed I) (hs : I s 0) (hes : Permits code allowed s es) (n : ℕ) :
    I ((server code).poolAt s es n).state ((server code).poolAt s es n).pending :=
  (System.bound_poolAt (fun r hr s _ => (hcode r hr s).meets code) hI.contract hs hes n).1

/-- The same where all requests do. -/
theorem invariant (hcode : ∀ r s, S.Follows P (code r) (.start r) s) (hI : S.Keeps P allowed I)
    (hs : I s 0) (hes : Permits code allowed s es) (n : ℕ) :
    I ((server code).poolAt s es n).state ((server code).poolAt s es n).pending :=
  invariant_of_starts (fun r _ => hcode r) hI hs hes n

/-- Whether every event of a run is allowed, by running it. -/
def permitted (code : Req → Service ε σ Q F α)
    (allowed : Option (Cause Q (fun _ => F) Req) → σ → Multiset Q → Prop)
    [∀ x s qs, Decidable (allowed x s qs)] :
    Pool σ Q (fun _ => F) (Except ε α) → List (Event Q (fun _ => F) Req) → Bool
  | _, [] => true
  | p, e :: es =>
    (p.stimulus e).all (fun x => decide (allowed x p.state p.pending)) &&
      permitted code allowed ((server code).machine.step p e) es

lemma permits_of_permitted [∀ x s qs, Decidable (allowed x s qs)]
    (h : permitted code allowed ⟨s, []⟩ es = true) : Permits code allowed s es := by
  have hall : ∀ (p : Pool σ Q (fun _ => F) (Except ε α)), permitted code allowed p es = true →
      ∀ n e x, es[n]? = some e → ((server code).machine.stateAt p es n).stimulus e = some x →
        allowed x ((server code).machine.stateAt p es n).state
          ((server code).machine.stateAt p es n).pending := by
    clear h
    induction es with
    | nil => simp
    | cons e es ih =>
      intro p hp n e' x he hx
      obtain ⟨hfirst, hrest⟩ := Bool.and_eq_true_iff.1 hp
      cases n with
      | zero =>
        obtain rfl := Option.some.inj he
        rw [Machine.stateAt_zero] at hx ⊢
        simpa [hx] using hfirst
      | succ n => exact ih _ hrest n e' x he hx
  exact hall ⟨s, []⟩ h

/-- An event that gives no process its turn leaves the state alone. -/
lemma step_state_of_no_turn {p : Pool σ Q (fun _ => F) (Except ε α)}
    {e : Event Q (fun _ => F) Req} (h : ∀ c, p.stimulus e ≠ some (some c)) :
    ((server code).machine.step p e).state = p.state := by
  cases e with
  | start r => exact absurd rfl (h (.start r))
  | answer i reply =>
    cases hw : p.waiting[i]? with
    | none => rw [Machine.step_of_error (e := ()) (by simp [System.machine, hw])]
    | some w => exact absurd (by simp [Pool.stimulus, hw]) (h (.answer w.query (reply w.query)))
  | crash replies => exact orphaned_eq (System.orphan_orphaned p.waiting replies p.state)

/-- An event that gives a process its turn is a step of the protocol. -/
theorem turn (hcode : ∀ r s, S.Follows P (code r) (.start r) s) (hI : S.Keeps P allowed I)
    (hs : I s 0) (hes : Permits code allowed s es) {n : ℕ} {e : Event Q (fun _ => F) Req}
    {c : Cause Q (fun _ => F) Req} (he : es[n]? = some e)
    (hc : ((server code).poolAt s es n).stimulus e = some (some c)) :
    ∃ (o : Option Q) (qs : Multiset Q), ((server code).poolAt s es n).pending = c.answered + qs ∧
      ((server code).poolAt s es (n + 1)).state =
        S.outcome c ((server code).poolAt s es n).state ∧
      ((server code).poolAt s es (n + 1)).pending = (o.toList : Multiset Q) + qs ∧
      P c ((server code).poolAt s es n).state o := by
  have hmeets : ∀ r s, (S.contract P).ready none s →
      ((server code).code r).Meets (server code) (S.contract P) (S.contract P).Ends
        (.start r) s s :=
    fun r s _ => (hcode r s).meets code
  have hbound := System.bound_poolAt (fun r _ => hmeets r) hI.contract hs hes n
  obtain ⟨o, qs, hpending, ⟨hstate, hP⟩, hpending'⟩ :=
    System.bound_turn hmeets (fun _ => ⟨trivial, fun _ _ => trivial⟩) hbound hc
  have hstep : (server code).poolAt s es (n + 1) =
      (server code).machine.step ((server code).poolAt s es n) e := Machine.stateAt_succ he
  rw [hstep]
  exact ⟨o, qs, hpending, hstate, hpending', hP⟩

/-- A step of a run leaves the state alone, or it is a call of the protocol. -/
theorem step_cases (hcode : ∀ r s, S.Follows P (code r) (.start r) s) (hI : S.Keeps P allowed I)
    (hs : I s 0) (hes : Permits code allowed s es) (n : ℕ) :
    ((server code).poolAt s es (n + 1)).state = ((server code).poolAt s es n).state ∨
      ∃ q f qs, ((server code).poolAt s es n).pending = q ::ₘ qs ∧
        ((server code).poolAt s es (n + 1)).state =
          (S.run q f ((server code).poolAt s es n).state).2 ∧
        allowed (some (.answer q f)) ((server code).poolAt s es n).state (q ::ₘ qs) := by
  cases he : es[n]? with
  | none =>
    have hstep : (server code).poolAt s es (n + 1) = (server code).poolAt s es n :=
      Machine.stateAt_succ_of_none he
    exact Or.inl (by rw [hstep])
  | some e =>
    by_cases hturn : ∃ c, ((server code).poolAt s es n).stimulus e = some (some c)
    · obtain ⟨c, hc⟩ := hturn
      obtain ⟨o, qs, hpending, hstate, -, -⟩ := turn hcode hI hs hes he hc
      cases c with
      | start r => exact Or.inl hstate
      | answer q f =>
        have hcons : ((server code).poolAt s es n).pending = q ::ₘ qs := by
          rw [hpending]
          exact Multiset.singleton_add q qs
        refine Or.inr ⟨q, f, qs, hcons, hstate, ?_⟩
        rw [← hcons]
        exact hes n e _ he hc
    · have hstep : (server code).poolAt s es (n + 1) =
          (server code).machine.step ((server code).poolAt s es n) e := Machine.stateAt_succ he
      rw [hstep]
      exact Or.inl (step_state_of_no_turn fun c hc => hturn ⟨c, hc⟩)

end Runs

end Store

end WaffleFinance.Lib

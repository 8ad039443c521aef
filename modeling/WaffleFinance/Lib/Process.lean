import WaffleFinance.Lib.Machine

/-!
# Processes that wait for answers

A server written with `async` functions runs many handlers on one state.  A handler has the state
to itself until it asks something of the outside world and waits; then others run, and the state
may be a different one when the answer comes.  The file has the handlers (`Process`), alone
(`Process.exec`) and many at once (`System`, `Pool`), and a logic for them: what a process does
between two waits is one of the turns of a contract (`Process.Meets`), and what every turn keeps
holds throughout, whatever the interleaving (`System.invariant`).
-/

namespace WaffleFinance.Lib

/-- A process on a shared state `σ` that asks queries `Q` with answers `R`. -/
inductive Process (σ Q : Type) (R : Q → Type) (α : Type) where
  | done (a : α)
  | look (next : σ → Process σ Q R α)
  | change (f : σ → σ) (next : Process σ Q R α)
  | ask (q : Q) (next : R q → Process σ Q R α)

namespace Process

variable {σ Q : Type} {R : Q → Type} {α β : Type}

/-- Continue with `f` where the process ends. -/
def bind : Process σ Q R α → (α → Process σ Q R β) → Process σ Q R β
  | done a, f => f a
  | look next, f => look (fun s => (next s).bind f)
  | change g next, f => change g (next.bind f)
  | ask q next, f => ask q (fun r => (next r).bind f)

instance instMonad : Monad (Process σ Q R) where
  pure := done
  bind := bind

/-- The state as it is. -/
def read : Process σ Q R σ := look done

/-- Change the state. -/
def modify (f : σ → σ) : Process σ Q R Unit := change f (done ())

/-- Ask, and wait for the answer. -/
def query (q : Q) : Process σ Q R (R q) := ask q done

/-! ### Alone -/

section Exec

variable (effect : (q : Q) → R q → σ → σ) (answer : (q : Q) → σ → R q)

/-- Run a process with nobody in between.  An answer depends on the state of the world and may
change it. -/
def exec : Process σ Q R α → σ → α × σ
  | done a, s => (a, s)
  | look next, s => (next s).exec s
  | change f next, s => next.exec (f s)
  | ask q next, s => (next (answer q s)).exec (effect q (answer q s) s)

@[simp] lemma exec_pure (a : α) (s : σ) :
    exec effect answer (pure a : Process σ Q R α) s = (a, s) := rfl

@[simp] lemma exec_read (s : σ) : exec effect answer (read : Process σ Q R σ) s = (s, s) := rfl

@[simp] lemma exec_modify (f : σ → σ) (s : σ) :
    exec effect answer (modify f : Process σ Q R Unit) s = ((), f s) := rfl

@[simp] lemma exec_query (q : Q) (s : σ) :
    exec effect answer (query q : Process σ Q R (R q)) s =
      (answer q s, effect q (answer q s) s) := rfl

@[simp] lemma exec_bind (x : Process σ Q R α) (f : α → Process σ Q R β) (s : σ) :
    exec effect answer (x >>= f) s =
      exec effect answer (f (exec effect answer x s).1) (exec effect answer x s).2 := by
  show exec effect answer (x.bind f) s = _
  induction x generalizing s with
  | done a => rfl
  | look next ih => exact ih s s
  | change g next ih => exact ih (g s)
  | ask q next ih => exact ih (answer q s) _

end Exec

end Process

/-! ### Together -/

/-- A process at a query. -/
structure Waiting (σ Q : Type) (R : Q → Type) (α : Type) where
  query : Q
  next : R query → Process σ Q R α

/-- Run a process up to its next query. -/
def Process.advance {σ Q : Type} {R : Q → Type} {α : Type} :
    Process σ Q R α → σ → σ × Option (Waiting σ Q R α)
  | .done _, s => (s, none)
  | .look next, s => (next s).advance s
  | .change f next, s => next.advance (f s)
  | .ask q next, s => (s, some ⟨q, next⟩)

/-- A state and the processes that wait. -/
structure Pool (σ Q : Type) (R : Q → Type) (α : Type) where
  state : σ
  waiting : List (Waiting σ Q R α)

/-- A server: the process that a request starts, what an answer says about the world, and what is
left of the state after a crash. -/
structure System (σ Q : Type) (R : Q → Type) (Req α : Type) where
  code : Req → Process σ Q R α
  effect : (q : Q) → R q → σ → σ
  restart : σ → σ

/-- What happens to a server.  A crash answers the pending queries too, with nobody to hear: what
was sent may have arrived. -/
inductive Event (Q : Type) (R : Q → Type) (Req : Type) where
  | start (r : Req)
  | answer (i : ℕ) (reply : (q : Q) → R q)
  | crash (replies : ℕ → (q : Q) → R q)

/-- Why a process has its turn. -/
inductive Cause (Q : Type) (R : Q → Type) (Req : Type) where
  | start (r : Req)
  | answer (q : Q) (r : R q)

/-- The query that a turn answers. -/
def Cause.answered {Q : Type} {R : Q → Type} {Req : Type} : Cause Q R Req → Multiset Q
  | .start _ => 0
  | .answer q _ => {q}

section

variable {σ Q : Type} {R : Q → Type} {Req α β : Type}

namespace Pool

/-- The queries without an answer so far, the latest first. -/
def asked (p : Pool σ Q R α) : List Q := p.waiting.map Waiting.query

def pending (p : Pool σ Q R α) : Multiset Q := p.asked

/-- Give a process its turn. -/
def proceed (x : Process σ Q R α) (ws : List (Waiting σ Q R α)) (s : σ) : Pool σ Q R α :=
  ⟨(x.advance s).1, (x.advance s).2.toList ++ ws⟩

end Pool

namespace System

variable (S : System σ Q R Req α)

/-- The effects of the answers that nobody hears. -/
def orphan : List (Waiting σ Q R α) → (ℕ → (q : Q) → R q) → σ → σ
  | [], _, s => s
  | w :: ws, replies, s =>
    orphan ws (fun i => replies (i + 1)) (S.effect w.query (replies 0 w.query) s)

/-- The server as a machine.  An answer to nobody does not happen. -/
def machine : Machine (Pool σ Q R α) (Event Q R Req) Unit where
  exec
    | .start r, p => .ok (Pool.proceed (S.code r) p.waiting p.state)
    | .answer i reply, p =>
      match p.waiting[i]? with
      | none => .error ()
      | some w => .ok (Pool.proceed (w.next (reply w.query)) (p.waiting.eraseIdx i)
          (S.effect w.query (reply w.query) p.state))
    | .crash replies, p => .ok ⟨S.restart (S.orphan p.waiting replies p.state), []⟩

/-- The pool after the first `n` events of a run that starts with nobody waiting. -/
def poolAt (s : σ) (es : List (Event Q R Req)) (n : ℕ) : Pool σ Q R α :=
  S.machine.stateAt ⟨s, []⟩ es n

end System

/-- The cause of the turn that an event gives to a process, `none` for a crash. -/
def Pool.stimulus (p : Pool σ Q R α) : Event Q R Req → Option (Option (Cause Q R Req))
  | .start r => some (some (.start r))
  | .answer i reply => p.waiting[i]?.map (fun w => some (.answer w.query (reply w.query)))
  | .crash _ => some none

lemma Pool.stimulus_answer {p : Pool σ Q R α} {i : ℕ} {q : Q} (h : p.asked[i]? = some q)
    (reply : (q : Q) → R q) :
    p.stimulus (.answer i reply : Event Q R Req) = some (some (.answer q (reply q))) := by
  rw [Pool.asked, List.getElem?_map] at h
  obtain ⟨w, hw, rfl⟩ := Option.map_eq_some_iff.1 h
  simp [Pool.stimulus, hw]

/-- What is answered was asked. -/
lemma Pool.mem_pending_of_stimulus {p : Pool σ Q R α} {e : Event Q R Req} {q : Q} {r : R q}
    (h : p.stimulus e = some (some (.answer q r))) : q ∈ p.pending := by
  cases e with
  | start => simp [Pool.stimulus] at h
  | crash => simp [Pool.stimulus] at h
  | answer i reply =>
    obtain ⟨w, hw, hcause⟩ := Option.map_eq_some_iff.1 h
    obtain ⟨rfl, -⟩ := Cause.answer.inj (Option.some.inj hcause)
    exact Multiset.mem_coe.2 (List.mem_map_of_mem (List.mem_of_getElem? hw))

/-! ### Contracts -/

/-- What the processes of a server do.  `turn` relates the cause and the state at the start of a
turn to the query and the state at its end.  A process is only bound where `ready` holds of the
state and of the query that is answered (`none` at the start). -/
structure Contract (σ Q : Type) (R : Q → Type) (Req : Type) where
  ready : Option Q → σ → Prop
  turn : Cause Q R Req → σ → Option Q → σ → Prop

variable (S : System σ Q R Req α) (K : Contract σ Q R Req)

/-- Every turn of the process is one of the contract.  The turn in progress has the cause `c` and
began in `s₀`; what holds where the process ends is `post`. -/
def Process.Meets (post : Cause Q R Req → σ → β → σ → Prop) :
    Process σ Q R β → Cause Q R Req → σ → σ → Prop
  | .done a, c, s₀, s => post c s₀ a s
  | .look next, c, s₀, s => (next s).Meets post c s₀ s
  | .change f next, c, s₀, s => next.Meets post c s₀ (f s)
  | .ask q next, c, s₀, s => K.turn c s₀ (some q) s ∧
      ∀ r s', K.ready (some q) s' →
        (next r).Meets post (.answer q r) s' (S.effect q r s')

/-- A whole process keeps the contract when its last turn does, too. -/
def Contract.Ends (K : Contract σ Q R Req) (c : Cause Q R Req) (s₀ : σ) (_ : α) (s : σ) : Prop :=
  K.turn c s₀ none s

namespace Process

variable {S K} {γ : Type} {post : Cause Q R Req → σ → β → σ → Prop} {c : Cause Q R Req} {s₀ s : σ}

@[simp] lemma meets_pure (b : β) :
    (pure b : Process σ Q R β).Meets S K post c s₀ s ↔ post c s₀ b s := Iff.rfl

@[simp] lemma meets_bind (x : Process σ Q R γ) (f : γ → Process σ Q R β) :
    (x >>= f).Meets S K post c s₀ s ↔
      x.Meets S K (fun c s₀ a s => (f a).Meets S K post c s₀ s) c s₀ s := by
  show (x.bind f).Meets S K post c s₀ s ↔ _
  induction x generalizing c s₀ s with
  | done a => exact Iff.rfl
  | look next ih => exact ih s
  | change g next ih => exact ih
  | ask q next ih =>
    exact and_congr_right fun _ => forall_congr' fun r => forall_congr' fun s' =>
      forall_congr' fun _ => ih r

@[simp] lemma meets_read {post : Cause Q R Req → σ → σ → σ → Prop} :
    (read : Process σ Q R σ).Meets S K post c s₀ s ↔ post c s₀ s s := Iff.rfl

@[simp] lemma meets_modify {post : Cause Q R Req → σ → Unit → σ → Prop} (f : σ → σ) :
    (modify f : Process σ Q R Unit).Meets S K post c s₀ s ↔ post c s₀ () (f s) := Iff.rfl

@[simp] lemma meets_query (q : Q) {post : Cause Q R Req → σ → R q → σ → Prop} :
    (query q : Process σ Q R (R q)).Meets S K post c s₀ s ↔
      K.turn c s₀ (some q) s ∧
        ∀ r s', K.ready (some q) s' → post (.answer q r) s' r (S.effect q r s') := Iff.rfl

lemma Meets.mono {post' : Cause Q R Req → σ → β → σ → Prop} {x : Process σ Q R β}
    (h : x.Meets S K post c s₀ s) (hpost : ∀ {c s₀ b s}, post c s₀ b s → post' c s₀ b s) :
    x.Meets S K post' c s₀ s := by
  induction x generalizing c s₀ s with
  | done b => exact hpost h
  | look next ih => exact ih s h
  | change f next ih => exact ih h
  | ask q next ih => exact ⟨h.1, fun r s' hready => ih r (h.2 r s' hready)⟩

/-- Of the system only the effects of the answers count. -/
lemma Meets.congr_system {α' : Type} {S' : System σ Q R Req α'} {x : Process σ Q R β}
    (h : x.Meets S K post c s₀ s) (heffect : S.effect = S'.effect) :
    x.Meets S' K post c s₀ s := by
  induction x generalizing c s₀ s with
  | done b => exact h
  | look next ih => exact ih s h
  | change f next ih => exact ih h
  | ask q next ih =>
    refine ⟨h.1, fun r s' hready => ih r ?_⟩
    rw [← heffect]
    exact h.2 r s' hready

/-- A process that meets a contract takes a turn of it, and what then waits meets it again. -/
lemma Meets.advance {x : Process σ Q R α} (h : x.Meets S K K.Ends c s₀ s) :
    K.turn c s₀ ((x.advance s).2.map Waiting.query) (x.advance s).1 ∧
      ∀ w ∈ (x.advance s).2, ∀ r s', K.ready (some w.query) s' →
        (w.next r).Meets S K K.Ends (.answer w.query r) s' (S.effect w.query r s') := by
  induction x generalizing s with
  | done a => exact ⟨h, by simp [Process.advance]⟩
  | look next ih => exact ih s h
  | change f next ih => exact ih h
  | ask q next =>
    refine ⟨h.1, ?_⟩
    rintro w ⟨rfl⟩
    exact h.2

end Process

/-- The queries are answered with nobody to hear. -/
inductive System.Orphaned : Multiset Q → σ → σ → Prop
  | nil (s : σ) : Orphaned 0 s s
  | cons (q : Q) (r : R q) {qs : Multiset Q} {s s' : σ} :
      Orphaned qs (S.effect q r s) s' → Orphaned (q ::ₘ qs) s s'

/-- What each answer keeps, with the query gone, holds when all are answered. -/
lemma System.Orphaned.preserves {S : System σ Q R Req α} {I : σ → Multiset Q → Prop}
    {qs : Multiset Q} {s s' : σ} (h : S.Orphaned qs s s')
    (hI : ∀ {q r s qs}, I s (q ::ₘ qs) → I (S.effect q r s) qs) (hs : I s qs) : I s' 0 := by
  induction h with
  | nil s => exact hs
  | cons q r _ ih => exact ih (hI hs)

/-- Every turn that is `allowed`, and every crash that is, keeps `I`. -/
structure Contract.Keeps (allowed : Option (Cause Q R Req) → σ → Multiset Q → Prop)
    (I : σ → Multiset Q → Prop) : Prop where
  ready : ∀ {s qs}, I s qs → K.ready none s ∧ ∀ q ∈ qs, K.ready (some q) s
  start : ∀ {r s s' qs} {o : Option Q}, I s qs → allowed (some (.start r)) s qs →
    K.turn (.start r) s o s' → I s' ((o.toList : Multiset Q) + qs)
  answer : ∀ {q r s s' qs} {o : Option Q}, I s (q ::ₘ qs) →
    allowed (some (.answer q r)) s (q ::ₘ qs) → K.turn (.answer q r) s o s' →
    I s' ((o.toList : Multiset Q) + qs)
  crash : ∀ {s s' qs}, I s qs → allowed none s qs → S.Orphaned qs s s' → I (S.restart s') 0

namespace System

variable {S K} {allowed : Option (Cause Q R Req) → σ → Multiset Q → Prop}
  {I : σ → Multiset Q → Prop}

lemma orphan_orphaned (ws : List (Waiting σ Q R α)) (replies : ℕ → (q : Q) → R q) (s : σ) :
    S.Orphaned (ws.map Waiting.query : List Q) s (S.orphan ws replies s) := by
  induction ws generalizing replies s with
  | nil => exact .nil s
  | cons w ws ih => exact .cons w.query (replies 0 w.query) (ih _ _)

/-- The invariant of a pool: that of the state and the queries, and everybody who waits is bound
to the contract. -/
def Bound (S : System σ Q R Req α) (K : Contract σ Q R Req) (I : σ → Multiset Q → Prop)
    (p : Pool σ Q R α) : Prop :=
  I p.state p.pending ∧ ∀ w ∈ p.waiting, ∀ r s, K.ready (some w.query) s →
    (w.next r).Meets S K K.Ends (.answer w.query r) s (S.effect w.query r s)

lemma pending_proceed (x : Process σ Q R α) (ws : List (Waiting σ Q R α)) (s : σ) :
    (Pool.proceed x ws s).pending =
      (((x.advance s).2.map Waiting.query).toList : Multiset Q) +
        ((ws.map Waiting.query : List Q) : Multiset Q) := by
  cases h : (x.advance s).2 <;> simp [Pool.proceed, Pool.pending, Pool.asked, h]

/-- After a turn of the contract a pool is bound if its invariant is kept. -/
lemma bound_proceed {x : Process σ Q R α} {c : Cause Q R Req} {s₀ s : σ}
    {ws : List (Waiting σ Q R α)} (hx : x.Meets S K K.Ends c s₀ s)
    (hws : ∀ w ∈ ws, ∀ r s, K.ready (some w.query) s →
      (w.next r).Meets S K K.Ends (.answer w.query r) s (S.effect w.query r s))
    (hI : ∀ (o : Option Q) s', K.turn c s₀ o s' →
      I s' ((o.toList : Multiset Q) + ((ws.map Waiting.query : List Q) : Multiset Q))) :
    Bound S K I (Pool.proceed x ws s) := by
  obtain ⟨hturn, hnext⟩ := hx.advance
  refine ⟨?_, ?_⟩
  · rw [pending_proceed]
    exact hI _ _ hturn
  · intro w hw
    rcases List.mem_append.1 hw with hw | hw
    · exact hnext w (Option.mem_toList.1 hw)
    · exact hws w hw

lemma pending_eraseIdx {ws : List (Waiting σ Q R α)} {i : ℕ} {w : Waiting σ Q R α}
    (h : ws[i]? = some w) :
    ((ws.map Waiting.query : List Q) : Multiset Q) =
      w.query ::ₘ (((ws.eraseIdx i).map Waiting.query : List Q) : Multiset Q) := by
  obtain ⟨hi, rfl⟩ := List.getElem?_eq_some_iff.1 h
  have hperm := (List.getElem_cons_eraseIdx_perm hi).map Waiting.query
  rw [Multiset.cons_coe, ← List.map_cons]
  exact Multiset.coe_eq_coe.2 hperm.symm

/-- One event keeps a pool bound. -/
lemma bound_step {p p' : Pool σ Q R α} {e : Event Q R Req}
    (hcode : ∀ r, e = .start r → ∀ s, K.ready none s →
      (S.code r).Meets S K K.Ends (.start r) s s)
    (hK : Contract.Keeps S K allowed I) (hp : Bound S K I p)
    (he : ∀ x, p.stimulus e = some x → allowed x p.state p.pending)
    (hstep : S.machine.exec e p = .ok p') : Bound S K I p' := by
  obtain ⟨hI, hws⟩ := hp
  cases e with
  | start r =>
    obtain rfl := Except.ok.inj hstep
    refine bound_proceed (hcode r rfl p.state (hK.ready hI).1) hws ?_
    intro o s' hturn
    exact hK.start hI (he _ rfl) hturn
  | answer i reply =>
    cases hw : p.waiting[i]? with
    | none => simp [machine, hw] at hstep
    | some w =>
      have hpending : p.pending = _ := pending_eraseIdx hw
      have hready : K.ready (some w.query) p.state := by
        refine (hK.ready hI).2 _ ?_
        rw [hpending]
        exact Multiset.mem_cons_self _ _
      have hallowed := he (some (.answer w.query (reply w.query))) (by simp [Pool.stimulus, hw])
      simp only [machine, hw, Except.ok.injEq] at hstep
      subst hstep
      refine bound_proceed (hws w (List.mem_of_getElem? hw) _ _ hready)
        (fun v hv => hws v (List.mem_of_mem_eraseIdx hv)) ?_
      intro o s' hturn
      rw [hpending] at hI hallowed
      exact hK.answer hI hallowed hturn
  | crash replies =>
    obtain rfl := Except.ok.inj hstep
    exact ⟨hK.crash hI (he _ rfl) (orphan_orphaned _ _ _), by simp⟩

/-- In a bound pool an event that gives a process its turn is a turn of the contract. -/
lemma bound_turn (hcode : ∀ r s, K.ready none s → (S.code r).Meets S K K.Ends (.start r) s s)
    (hready : ∀ {s qs}, I s qs → K.ready none s ∧ ∀ q ∈ qs, K.ready (some q) s)
    {p : Pool σ Q R α} {e : Event Q R Req} {c : Cause Q R Req} (hp : Bound S K I p)
    (he : p.stimulus e = some (some c)) :
    ∃ (o : Option Q) (qs : Multiset Q), p.pending = c.answered + qs ∧
      K.turn c p.state o (S.machine.step p e).state ∧
      (S.machine.step p e).pending = (o.toList : Multiset Q) + qs := by
  obtain ⟨hI, hws⟩ := hp
  cases e with
  | start r =>
    obtain rfl := Option.some.inj (Option.some.inj he)
    refine ⟨_, p.pending, (zero_add _).symm, ?_, pending_proceed _ _ _⟩
    exact (hcode r p.state (hready hI).1).advance.1
  | answer i reply =>
    cases hw : p.waiting[i]? with
    | none => simp [Pool.stimulus, hw] at he
    | some w =>
      have hpending : p.pending = _ := pending_eraseIdx hw
      have hquery : K.ready (some w.query) p.state := by
        refine (hready hI).2 _ ?_
        rw [hpending]
        exact Multiset.mem_cons_self _ _
      obtain rfl : Cause.answer w.query (reply w.query) = c := by
        simpa [Pool.stimulus, hw] using he
      have hstep : S.machine.step p (.answer i reply) =
          Pool.proceed (w.next (reply w.query)) (p.waiting.eraseIdx i)
            (S.effect w.query (reply w.query) p.state) :=
        Machine.step_of_ok (by simp [machine, hw])
      rw [hstep]
      refine ⟨_, _, hpending, ?_, pending_proceed _ _ _⟩
      exact (hws w (List.mem_of_getElem? hw) _ _ hquery).advance.1
  | crash replies => simp [Pool.stimulus] at he

/-- What every turn of the contract keeps holds in every run, whatever the interleaving, and
everybody who waits is bound. -/
theorem bound_poolAt {es : List (Event Q R Req)}
    (hcode : ∀ r, .start r ∈ es → ∀ s, K.ready none s →
      (S.code r).Meets S K K.Ends (.start r) s s)
    (hK : Contract.Keeps S K allowed I) {s : σ} (hs : I s 0)
    (hes : ∀ n e x, es[n]? = some e → (S.poolAt s es n).stimulus e = some x →
      allowed x (S.poolAt s es n).state (S.poolAt s es n).pending) (n : ℕ) :
    Bound S K I (S.poolAt s es n) := by
  refine Machine.stateAt_steps (I := Bound S K I) ?_ ⟨hs, by simp⟩ n
  intro n e p' he hp hstep
  refine bound_step (fun r hr => hcode r ?_) hK hp (fun x hx => hes n e x he hx) hstep
  rw [← hr]
  exact List.mem_of_getElem? he

/-- What every turn of the contract keeps holds in every run, whatever the interleaving. -/
theorem invariant (hcode : ∀ r s, K.ready none s → (S.code r).Meets S K K.Ends (.start r) s s)
    (hK : Contract.Keeps S K allowed I) {s : σ} (hs : I s 0) {es : List (Event Q R Req)}
    (hes : ∀ n e x, es[n]? = some e → (S.poolAt s es n).stimulus e = some x →
      allowed x (S.poolAt s es n).state (S.poolAt s es n).pending) (n : ℕ) :
    I (S.poolAt s es n).state (S.poolAt s es n).pending :=
  (bound_poolAt (fun r _ => hcode r) hK hs hes n).1

end System

end

end WaffleFinance.Lib

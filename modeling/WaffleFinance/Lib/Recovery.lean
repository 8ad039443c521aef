import WaffleFinance.Lib.Calls

/-!
# Interruptions and repetition

A job that is stopped half way is started again from the beginning.  `Tolerance` says where a
process may be stopped and which answers it may get, and `Process.Tolerates` is a logic for it.
`replay` is a list of items that are applied one after the other, each of which leaves a mark by
which it is skipped the next time.
-/

namespace WaffleFinance.Lib

/-! ### Interruptions -/

/-- What a process is to put up with: where it may be stopped, and which answers it may get. -/
structure Tolerance (σ Q : Type) (R : Q → Type) where
  stop : Q → σ → Prop
  answer : (q : Q) → R q → σ → Prop

namespace Process

variable {σ Q : Type} {R : Q → Type} {α β : Type}

/-- The query that has no answer yet when the process has had `n` answers. -/
def asking : Process σ Q R α → ℕ → Answers Q R → σ → Option Q
  | done _, _, _, _ => none
  | look next, n, rs, s => (next s).asking n rs s
  | change f next, n, rs, s => next.asking n rs (f s)
  | ask q _, 0, _, _ => some q
  | ask q next, n + 1, rs, s => (next (rs 0 q)).asking n (fun i => rs (i + 1)) s

/-- The process gets `n` answers that it has to put up with, and then is stopped where it may be, or
it has ended by then. -/
structure Spared (T : Tolerance σ Q R) (x : Process σ Q R α) (n : ℕ) (rs : Answers Q R) (s : σ) :
    Prop where
  answered : ∀ k < n, ∀ q ∈ x.asking k rs s, T.answer q (rs k q) (x.reached k rs s)
  stopped : ∀ q ∈ x.asking n rs s, T.stop q (x.reached n rs s)

/-- Wherever the process may be stopped `mid` holds, and at its end `post`. -/
def Tolerates (T : Tolerance σ Q R) (mid : σ → Prop) (post : α → σ → Prop) :
    Process σ Q R α → σ → Prop
  | done a, s => post a s
  | look next, s => (next s).Tolerates T mid post s
  | change f next, s => next.Tolerates T mid post (f s)
  | ask q next, s => (T.stop q s → mid s) ∧
      ∀ r, T.answer q r s → (next r).Tolerates T mid post s

variable {T : Tolerance σ Q R} {mid : σ → Prop} {post : α → σ → Prop} {s : σ}

lemma tolerates_bind {post : β → σ → Prop} (x : Process σ Q R α) (f : α → Process σ Q R β) :
    (x >>= f).Tolerates T mid post s ↔
      x.Tolerates T mid (fun a s => (f a).Tolerates T mid post s) s := by
  show (x.bind f).Tolerates T mid post s ↔ _
  induction x generalizing s with
  | done a => exact Iff.rfl
  | look next ih => exact ih s
  | change g next ih => exact ih
  | ask q next ih =>
    exact and_congr_right fun _ => forall_congr' fun r => forall_congr' fun _ => ih r

variable {x : Process σ Q R α}

lemma Tolerates.mono {mid' : σ → Prop} {post' : α → σ → Prop} (h : x.Tolerates T mid post s)
    (hmid : ∀ {s}, mid s → mid' s) (hpost : ∀ {a s}, post a s → post' a s) :
    x.Tolerates T mid' post' s := by
  induction x generalizing s with
  | done a => exact hpost h
  | look next ih => exact ih s h
  | change f next ih => exact ih h
  | ask q next ih => exact ⟨fun hq => hmid (h.1 hq), fun r hr => ih r (h.2 r hr)⟩

/-- A process that is spared is left in a state with `mid`. -/
theorem Tolerates.reached (h : x.Tolerates T mid (fun _ => mid) s) {n : ℕ} {rs : Answers Q R}
    (hspared : x.Spared T n rs s) : mid (x.reached n rs s) := by
  induction x generalizing s n rs with
  | done a => exact h
  | look next ih => exact ih s h ⟨hspared.answered, hspared.stopped⟩
  | change f next ih => exact ih h ⟨hspared.answered, hspared.stopped⟩
  | ask q next ih =>
    cases n with
    | zero => exact h.1 (hspared.stopped q rfl)
    | succ n =>
      refine ih _ (h.2 _ (hspared.answered 0 n.succ_pos q rfl)) ⟨?_, hspared.stopped⟩
      exact fun k hk => hspared.answered (k + 1) (Nat.succ_lt_succ hk)

/-- A process that gets the same answers throughout, each of which it has to put up with. -/
lemma Tolerates.play (h : x.Tolerates T mid post s) {r : (q : Q) → R q}
    (hr : ∀ q s, T.answer q (r q) s) :
    post (x.play (fun _ => r) s).1 (x.play (fun _ => r) s).2.2 := by
  induction x generalizing s with
  | done a => exact h
  | look next ih => exact ih s h
  | change f next ih => exact ih h
  | ask q next ih => exact ih (r q) (h.2 (r q) (hr q s))

end Process

namespace Fallible

variable {ε σ Q : Type} {R : Q → Type} {α β : Type}

/-- The same for a process that may throw. -/
def Withstands (T : Tolerance σ Q R) (mid : σ → Prop) (ok : α → σ → Prop) (err : ε → σ → Prop)
    (x : Fallible ε σ Q R α) (s : σ) : Prop :=
  Process.Tolerates T mid (fun r s => (∀ a, r = .ok a → ok a s) ∧ ∀ e, r = .error e → err e s)
    x.run s

variable {T : Tolerance σ Q R} {mid : σ → Prop} {ok : α → σ → Prop} {err : ε → σ → Prop} {s : σ}

lemma withstands_pure {a : α} (h : ok a s) :
    (pure a : Fallible ε σ Q R α).Withstands T mid ok err s := by
  refine ⟨fun b hb => ?_, nofun⟩
  obtain rfl := Except.ok.inj hb
  exact h

lemma withstands_throw {e : ε} (h : err e s) :
    (throw e : Fallible ε σ Q R α).Withstands T mid ok err s := by
  refine ⟨nofun, fun e' he => ?_⟩
  obtain rfl := Except.error.inj he
  exact h

variable {x : Fallible ε σ Q R α}

lemma withstands_bind {ok : β → σ → Prop} {f : α → Fallible ε σ Q R β}
    (h : x.Withstands T mid (fun a s => (f a).Withstands T mid ok err s) err s) :
    (x >>= f).Withstands T mid ok err s := by
  show Process.Tolerates T mid _ (x >>= f).run s
  rw [ExceptT.run_bind, Process.tolerates_bind]
  refine Process.Tolerates.mono h (fun h => h) fun {r s} hr => ?_
  cases r with
  | ok a => exact hr.1 a rfl
  | error e => exact withstands_throw (hr.2 e rfl)

lemma withstands_tryCatch {h : ε → Fallible ε σ Q R α}
    (hx : x.Withstands T mid ok (fun e s => (h e).Withstands T mid ok err s) s) :
    (tryCatch x h).Withstands T mid ok err s := by
  show Process.Tolerates T mid _ (x.run >>= fun r => match r with
    | .ok a => pure (.ok a)
    | .error e => (h e).run) s
  rw [Process.tolerates_bind]
  refine Process.Tolerates.mono hx (fun h => h) fun {r s} hr => ?_
  cases r with
  | ok a => exact withstands_pure (hr.1 a rfl)
  | error e => exact hr.2 e rfl

lemma Withstands.mono {mid' : σ → Prop} {ok' : α → σ → Prop} {err' : ε → σ → Prop}
    (h : x.Withstands T mid ok err s) (hmid : ∀ {s}, mid s → mid' s)
    (hok : ∀ {a s}, ok a s → ok' a s) (herr : ∀ {e s}, err e s → err' e s) :
    x.Withstands T mid' ok' err' s :=
  Process.Tolerates.mono h hmid fun {_ _} hr =>
    ⟨fun a ha => hok (hr.1 a ha), fun e he => herr (hr.2 e he)⟩

/-- A process that is spared is left in a state with `mid`, also if it has thrown. -/
lemma Withstands.reached (h : x.Withstands T mid (fun _ => mid) (fun _ => mid) s) {n : ℕ}
    {rs : Answers Q R} (hspared : Process.Spared T x.run n rs s) :
    mid (Process.reached x.run n rs s) := by
  refine Process.Tolerates.reached (Process.Tolerates.mono h (fun h => h) fun {r s} hr => ?_)
    hspared
  cases r with
  | ok a => exact hr.1 a rfl
  | error e => exact hr.2 e rfl

end Fallible

namespace Store

variable {ε σ Q F : Type} {Res : Q → Type} (S : Store ε σ Q F Res) (calm : F) (safe : Q → σ → Prop)

/-- A service may be stopped before a call that is `safe`, and only such a call may fail. -/
def tolerance : Tolerance σ Q fun _ => F where
  stop := safe
  answer q f s := S.run q f s = S.run q calm s ∨ safe q s

variable {S calm safe} {q : Q} {mid : σ → Prop} {ok : Res q → σ → Prop} {err : ε → σ → Prop} {s : σ}

lemma withstands_call (hmid : safe q s → mid s)
    (hcalm : (∀ a, (S.run q calm s).1 = .ok a → ok a (S.run q calm s).2) ∧
      ∀ e, (S.run q calm s).1 = .error e → err e (S.run q calm s).2)
    (hsafe : safe q s → ∀ f, (∀ a, (S.run q f s).1 = .ok a → ok a (S.run q f s).2) ∧
      ∀ e, (S.run q f s).1 = .error e → err e (S.run q f s).2) :
    (S.call q).Withstands (S.tolerance calm safe) mid ok err s := by
  refine ⟨hmid, fun f hf => ?_⟩
  rcases hf with hsame | hq
  · show (∀ a, (S.run q f s).1 = .ok a → ok a (S.run q f s).2) ∧
      ∀ e, (S.run q f s).1 = .error e → err e (S.run q f s).2
    rw [hsame]
    exact hcalm
  · exact hsafe hq f

/-- A call that does not fail. -/
lemma withstands_call_calm {a : Res q} {s' : σ} (hq : ¬ safe q s)
    (hcalm : S.run q calm s = (.ok a, s')) (h : ok a s') :
    (S.call q).Withstands (S.tolerance calm safe) mid ok err s := by
  refine withstands_call (fun hsafe => absurd hsafe hq) ?_ fun hsafe => absurd hsafe hq
  rw [hcalm]
  refine ⟨fun b hb => ?_, nofun⟩
  obtain rfl := Except.ok.inj hb
  exact h

/-- What is withstood holds in particular where nothing fails. -/
lemma Withstands.eval {α : Type} {ok : α → σ → Prop} {x : Service ε σ Q F α}
    (h : x.Withstands (S.tolerance calm safe) mid ok err s) :
    (∀ a, (x.eval (fun _ => calm) s).1 = .ok a → ok a (x.eval (fun _ => calm) s).2) ∧
      ∀ e, (x.eval (fun _ => calm) s).1 = .error e → err e (x.eval (fun _ => calm) s).2 :=
  Process.Tolerates.play h fun _ _ => Or.inl rfl

/-- A service that does not throw where nothing fails. -/
lemma Withstands.eval_ok {α : Type} {ok : α → σ → Prop} {x : Service ε σ Q F α}
    (h : x.Withstands (S.tolerance calm safe) mid ok (fun _ _ => False) s) :
    ∃ a s', x.eval (fun _ => calm) s = (.ok a, s') ∧ ok a s' := by
  obtain ⟨hok, herr⟩ := Withstands.eval h
  rcases heval : x.eval (fun _ => calm) s with ⟨e | a, s'⟩
  · rw [heval] at herr
    exact (herr e rfl).elim
  · rw [heval] at hok
    exact ⟨a, s', rfl, hok a rfl⟩

end Store

/-! ### Repetition -/

section Replay

variable {σ ι : Type*}

/-- Apply the items one after the other. -/
def replay (apply : ι → σ → σ) (items : List ι) (s : σ) : σ :=
  items.foldl (fun s i => apply i s) s

variable {apply : ι → σ → σ}

@[simp] lemma replay_nil (s : σ) : replay apply [] s = s := rfl

@[simp] lemma replay_cons (i : ι) (items : List ι) (s : σ) :
    replay apply (i :: items) s = replay apply items (apply i s) := rfl

lemma replay_append (first rest : List ι) (s : σ) :
    replay apply (first ++ rest) s = replay apply rest (replay apply first s) :=
  List.foldl_append

/-- Every item leaves a mark that stays, and what has a mark is skipped. -/
structure Marks (apply : ι → σ → σ) (marked : ι → σ → Prop) : Prop where
  left : ∀ i s, marked i (apply i s)
  stays : ∀ {i s}, marked i s → ∀ j, marked i (apply j s)
  skipped : ∀ {i s}, marked i s → apply i s = s

variable {marked : ι → σ → Prop}

lemma Marks.replay_stays (h : Marks apply marked) {i : ι} {s : σ} (hi : marked i s)
    (items : List ι) : marked i (replay apply items s) := by
  induction items generalizing s with
  | nil => exact hi
  | cons j items ih => exact ih (h.stays hi j)

lemma Marks.replay_marked (h : Marks apply marked) {items : List ι} {i : ι} (hi : i ∈ items)
    (s : σ) : marked i (replay apply items s) := by
  induction items generalizing s with
  | nil => cases hi
  | cons j items ih =>
    rcases List.mem_cons.1 hi with rfl | hi
    · exact h.replay_stays (h.left i s) items
    · exact ih hi _

lemma Marks.replay_skipped (h : Marks apply marked) {items : List ι} {s : σ}
    (hs : ∀ i ∈ items, marked i s) : replay apply items s = s := by
  induction items with
  | nil => rfl
  | cons j items ih =>
    rw [replay_cons, h.skipped (hs j List.mem_cons_self)]
    exact ih fun i hi => hs i (List.mem_cons_of_mem j hi)

/-- A list that is started again after a part of it. -/
theorem Marks.replay_replay (h : Marks apply marked) (first rest : List ι) (s : σ) :
    replay apply (first ++ rest) (replay apply first s) = replay apply (first ++ rest) s := by
  rw [replay_append, replay_append, h.replay_skipped fun i hi => h.replay_marked hi s]

end Replay

end WaffleFinance.Lib

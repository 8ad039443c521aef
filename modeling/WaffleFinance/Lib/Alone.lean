import WaffleFinance.Lib.Process

/-!
# Processes that run alone

`Process.exec` answers a query by the state of the world.  Here a process still runs with nobody in
between, but its answers come one after the other from a sequence, so that any of them can be the
one that reports a failure (`Process.play`).  `Process.Always` is what holds at the end whatever the
answers are.  The same is there for processes that may throw, `ExceptT` over `Process`.
-/

namespace WaffleFinance.Lib

/-- The answers that a process gets, in the order in which it asks. -/
abbrev Answers (Q : Type) (R : Q → Type) := ℕ → (q : Q) → R q

namespace Process

variable {σ Q : Type} {R : Q → Type} {α β : Type}

/-- Run a process with nobody in between.  The answers that it has not used are left over. -/
def play : Process σ Q R α → Answers Q R → σ → α × Answers Q R × σ
  | done a, rs, s => (a, rs, s)
  | look next, rs, s => (next s).play rs s
  | change f next, rs, s => next.play rs (f s)
  | ask q next, rs, s => (next (rs 0 q)).play (fun i => rs (i + 1)) s

/-- The state when the process has had `n` answers, or when it has ended before. -/
def reached : Process σ Q R α → ℕ → Answers Q R → σ → σ
  | done _, _, _, s => s
  | look next, n, rs, s => (next s).reached n rs s
  | change f next, n, rs, s => next.reached n rs (f s)
  | ask _ _, 0, _, s => s
  | ask q next, n + 1, rs, s => (next (rs 0 q)).reached n (fun i => rs (i + 1)) s

/-- What is asked, with the answers. -/
def exchanges : Process σ Q R α → Answers Q R → σ → List ((q : Q) × R q)
  | done _, _, _ => []
  | look next, rs, s => (next s).exchanges rs s
  | change f next, rs, s => next.exchanges rs (f s)
  | ask q next, rs, s => ⟨q, rs 0 q⟩ :: (next (rs 0 q)).exchanges (fun i => rs (i + 1)) s

@[simp] lemma play_pure (a : α) (rs : Answers Q R) (s : σ) :
    (pure a : Process σ Q R α).play rs s = (a, rs, s) := rfl

@[simp] lemma play_read (rs : Answers Q R) (s : σ) :
    (read : Process σ Q R σ).play rs s = (s, rs, s) := rfl

@[simp] lemma play_modify (f : σ → σ) (rs : Answers Q R) (s : σ) :
    (modify f : Process σ Q R Unit).play rs s = ((), rs, f s) := rfl

@[simp] lemma play_query (q : Q) (rs : Answers Q R) (s : σ) :
    (query q : Process σ Q R (R q)).play rs s = (rs 0 q, (fun i => rs (i + 1)), s) := rfl

@[simp] lemma play_bind (x : Process σ Q R α) (f : α → Process σ Q R β) (rs : Answers Q R)
    (s : σ) :
    (x >>= f).play rs s = (f (x.play rs s).1).play (x.play rs s).2.1 (x.play rs s).2.2 := by
  show (x.bind f).play rs s = _
  induction x generalizing rs s with
  | done a => rfl
  | look next ih => exact ih s rs s
  | change g next ih => exact ih rs (g s)
  | ask q next ih => exact ih (rs 0 q) _ s

lemma exchanges_bind (x : Process σ Q R α) (f : α → Process σ Q R β) (rs : Answers Q R) (s : σ) :
    (x >>= f).exchanges rs s = x.exchanges rs s ++
      (f (x.play rs s).1).exchanges (x.play rs s).2.1 (x.play rs s).2.2 := by
  show (x.bind f).exchanges rs s = _
  induction x generalizing rs s with
  | done a => rfl
  | look next ih => exact ih s rs s
  | change g next ih => exact ih rs (g s)
  | ask q next ih => exact congrArg _ (ih (rs 0 q) _ s)

/-- Where every answer is the same, so are the ones that are left over. -/
lemma play_const_rest (x : Process σ Q R α) (r : (q : Q) → R q) (s : σ) :
    (x.play (fun _ => r) s).2.1 = fun _ => r := by
  induction x generalizing s with
  | done a => rfl
  | look next ih => exact ih s s
  | change f next ih => exact ih (f s)
  | ask q next ih => exact ih (r q) s

/-- The process ends with `post`, whatever it is answered. -/
def Always (post : α → σ → Prop) : Process σ Q R α → σ → Prop
  | done a, s => post a s
  | look next, s => (next s).Always post s
  | change f next, s => next.Always post (f s)
  | ask q next, s => ∀ r : R q, (next r).Always post s

section Always

variable {post : α → σ → Prop} {s : σ}

@[simp] lemma always_bind {post : β → σ → Prop} (x : Process σ Q R α)
    (f : α → Process σ Q R β) :
    (x >>= f).Always post s ↔ x.Always (fun a s => (f a).Always post s) s := by
  show (x.bind f).Always post s ↔ _
  induction x generalizing s with
  | done a => exact Iff.rfl
  | look next ih => exact ih s
  | change g next ih => exact ih
  | ask q next ih => exact forall_congr' fun r => ih r

lemma Always.mono {post' : α → σ → Prop} {x : Process σ Q R α} (h : x.Always post s)
    (hpost : ∀ {a s}, post a s → post' a s) : x.Always post' s := by
  induction x generalizing s with
  | done a => exact hpost h
  | look next ih => exact ih s h
  | change f next ih => exact ih h
  | ask q next ih => exact fun r => ih r (h r)

/-- What always holds holds of each run. -/
lemma Always.play {x : Process σ Q R α} (h : x.Always post s) (rs : Answers Q R) :
    post (x.play rs s).1 (x.play rs s).2.2 := by
  induction x generalizing s rs with
  | done a => exact h
  | look next ih => exact ih s h rs
  | change f next ih => exact ih h rs
  | ask q next ih => exact ih _ (h _) _

end Always

end Process

/-! ### Processes that may throw -/

/-- A process that ends with a value or throws. -/
abbrev Fallible (ε σ Q : Type) (R : Q → Type) (α : Type) := ExceptT ε (Process σ Q R) α

namespace Fallible

variable {ε σ Q : Type} {R : Q → Type} {α β : Type}

@[simp] lemma play_pure (a : α) (rs : Answers Q R) (s : σ) :
    Process.play (pure a : Fallible ε σ Q R α).run rs s = (.ok a, rs, s) := rfl

/-- After a throw the rest is dropped. -/
lemma play_bind (x : Fallible ε σ Q R α) (f : α → Fallible ε σ Q R β) (rs : Answers Q R)
    (s : σ) :
    Process.play (x >>= f).run rs s =
      match Process.play x.run rs s with
      | (.ok a, rs', s') => Process.play (f a).run rs' s'
      | (.error e, rs', s') => (.error e, rs', s') := by
  rw [ExceptT.run_bind, Process.play_bind]
  rcases Process.play x.run rs s with ⟨_ | _, _, _⟩ <;> rfl

/-- A handler takes over after a throw. -/
lemma play_tryCatch (x : Fallible ε σ Q R α) (h : ε → Fallible ε σ Q R α) (rs : Answers Q R)
    (s : σ) :
    Process.play (tryCatch x h).run rs s =
      match Process.play x.run rs s with
      | (.ok a, rs', s') => (.ok a, rs', s')
      | (.error e, rs', s') => Process.play (h e).run rs' s' := by
  show Process.play (x.run >>= fun r => match r with
    | .ok a => pure (.ok a)
    | .error e => (h e).run) rs s = _
  rw [Process.play_bind]
  rcases Process.play x.run rs s with ⟨_ | _, _, _⟩ <;> rfl

/-- A run in which the answer depends on the query alone. -/
def eval (r : (q : Q) → R q) (x : Fallible ε σ Q R α) (s : σ) : Except ε α × σ :=
  ((Process.play x.run (fun _ => r) s).1, (Process.play x.run (fun _ => r) s).2.2)

section Eval

variable {r : (q : Q) → R q} {s : σ}

lemma eval_bind (x : Fallible ε σ Q R α) (f : α → Fallible ε σ Q R β) :
    (x >>= f).eval r s =
      match x.eval r s with
      | (.ok a, s') => (f a).eval r s'
      | (.error e, s') => (.error e, s') := by
  have hrest := Process.play_const_rest x.run r s
  unfold eval
  rw [play_bind]
  revert hrest
  rcases Process.play x.run (fun _ => r) s with ⟨_ | _, rs, s'⟩
  · rintro rfl
    rfl
  · rintro rfl
    rfl

lemma eval_tryCatch (x : Fallible ε σ Q R α) (h : ε → Fallible ε σ Q R α) :
    (tryCatch x h).eval r s =
      match x.eval r s with
      | (.ok a, s') => (.ok a, s')
      | (.error e, s') => (h e).eval r s' := by
  have hrest := Process.play_const_rest x.run r s
  unfold eval
  rw [play_tryCatch]
  revert hrest
  rcases Process.play x.run (fun _ => r) s with ⟨_ | _, rs, s'⟩
  · rintro rfl
    rfl
  · rintro rfl
    rfl

/-- A part of a run whose outcome is known. -/
lemma eval_bind_ok {x : Fallible ε σ Q R α} {a : α} {s' : σ} (h : x.eval r s = (.ok a, s'))
    (f : α → Fallible ε σ Q R β) : (x >>= f).eval r s = (f a).eval r s' := by
  rw [eval_bind, h]

lemma eval_bind_error {x : Fallible ε σ Q R α} {e : ε} {s' : σ} (h : x.eval r s = (.error e, s'))
    (f : α → Fallible ε σ Q R β) : (x >>= f).eval r s = (.error e, s') := by
  rw [eval_bind, h]

end Eval

end Fallible

end WaffleFinance.Lib

import WaffleFinance.Lib.Alone

/-!
# Transactions that may fail anywhere

Programs made of statements on a database, one connection at a time.  Every statement may be
reported as failed, and then throws; nothing of it has happened.  A transaction opens with `begin`,
ends with `commit`, and is rolled back when anything inside it throws.  A transaction that fails
for a passing reason is tried again as a whole.

Whatever fails, a transaction has happened or it has thrown and left the data as they were
(`Atomic.exec`).
-/

namespace WaffleFinance.Lib

/-- A connection: the data that its statements see, and inside a transaction the data that a
rollback restores. -/
structure Connection (σ : Type) where
  data : σ
  saved : Option σ

/-- A program of statements.  The answer to a statement is the error that the driver reports. -/
abbrev Sql (ε σ α : Type) := Fallible ε (Connection σ) Unit (fun _ => Option ε) α

namespace Sql

open Process

variable {ε σ α β : Type}

/-- A statement with a result; it may also break a constraint. -/
def statement (f : σ → Except ε (α × σ)) : Sql ε σ α := ExceptT.mk do
  match ← query () with
  | some e => pure (.error e)
  | none =>
    let c ← read
    match f c.data with
    | .error e => pure (.error e)
    | .ok (a, d) =>
      modify fun c => { c with data := d }
      pure (.ok a)

/-- A transaction does not start inside another one. -/
def begin (nested : ε) : Sql ε σ Unit := ExceptT.mk do
  match ← query () with
  | some e => pure (.error e)
  | none =>
    let c ← read
    if c.saved.isSome then pure (.error nested)
    else
      modify fun c => { c with saved := some c.data }
      pure (.ok ())

def commit : Sql ε σ Unit := ExceptT.mk do
  match ← query () with
  | some e => pure (.error e)
  | none =>
    modify fun c => { c with saved := none }
    pure (.ok ())

/-- A connection that is lost has lost its transaction, so that this cannot fail. -/
def rollback : Sql ε σ Unit := ExceptT.mk do
  modify fun c => ⟨c.saved.getD c.data, none⟩
  pure (.ok ())

/-- All of the program or nothing. -/
def transaction (nested : ε) (body : Sql ε σ α) : Sql ε σ α := do
  begin nested
  tryCatch
    (do
      let a ← body
      commit
      pure a)
    (fun e => do
      rollback
      throw e)

/-- Try again, `n` times at most, after a failure that may pass. -/
def retry (retryable : ε → Bool) (x : Sql ε σ α) : ℕ → Sql ε σ α
  | 0 => x
  | n + 1 => tryCatch x fun e => if retryable e then retry retryable x n else throw e

/-- What a program does to the data, outside of transactions and with the given failures. -/
def exec (x : Sql ε σ α) (failures : ℕ → Option ε) (d : σ) : Except ε α × σ :=
  let r := Process.play x.run (fun i _ => failures i) ⟨d, none⟩
  (r.1, r.2.2.data)

/-- The same where nothing fails, with the change dropped if the program throws. -/
def attempt (x : Sql ε σ α) (d : σ) : Except ε (α × σ) :=
  match x.exec (fun _ => none) d with
  | (.ok a, d') => .ok (a, d')
  | (.error e, _) => .error e

@[simp] lemma exec_pure (a : α) (failures : ℕ → Option ε) (d : σ) :
    (pure a : Sql ε σ α).exec failures d = (.ok a, d) := rfl

@[simp] lemma exec_throw (e : ε) (failures : ℕ → Option ε) (d : σ) :
    (throw e : Sql ε σ α).exec failures d = (.error e, d) := rfl

/-- One statement outside of transactions. -/
lemma exec_statement (f : σ → Except ε (α × σ)) (failures : ℕ → Option ε) (d : σ) :
    (statement f).exec failures d =
      match failures 0 with
      | some e => (.error e, d)
      | none =>
        match f d with
        | .error e => (.error e, d)
        | .ok (a, d') => (.ok a, d') := by
  unfold exec statement
  simp only [ExceptT.run_mk, play_bind, play_query]
  cases failures 0 with
  | some e => rfl
  | none => cases h : f d <;> simp [h]

/-- The same with what comes after it. -/
lemma exec_statement_bind (f : σ → Except ε (α × σ)) (g : α → Sql ε σ β)
    (failures : ℕ → Option ε) (d : σ) :
    (statement f >>= g).exec failures d =
      match failures 0 with
      | some e => (.error e, d)
      | none =>
        match f d with
        | .error e => (.error e, d)
        | .ok (a, d') => (g a).exec (fun i => failures (i + 1)) d' := by
  unfold exec statement
  simp only [Fallible.play_bind, ExceptT.run_mk, play_bind, play_query]
  cases failures 0 with
  | some e => rfl
  | none => cases h : f d <;> simp [h]

/-! ### Programs without handlers -/

/-- A program that only goes on where nothing has failed, and leaves transactions alone. -/
structure Steady (x : Sql ε σ α) : Prop where
  any : ∀ rs (c : Connection σ),
    (∃ e, (Process.play x.run rs c).1 = .error e) ∧
        (Process.play x.run rs c).2.2.saved = c.saved ∨
      ∃ a d, x.attempt c.data = .ok (a, d) ∧
        (Process.play x.run rs c).1 = .ok a ∧ (Process.play x.run rs c).2.2 = ⟨d, c.saved⟩
  calm : ∀ c : Connection σ,
    (Process.play x.run (fun _ _ => none) c).1 = (x.attempt c.data).map Prod.fst

@[simp] lemma attempt_pure (a : α) (d : σ) : (pure a : Sql ε σ α).attempt d = .ok (a, d) := rfl

@[simp] lemma attempt_throw (e : ε) (d : σ) : (throw e : Sql ε σ α).attempt d = .error e := rfl

@[simp] lemma attempt_statement (f : σ → Except ε (α × σ)) (d : σ) :
    (statement f).attempt d = f d := by
  unfold attempt exec statement
  simp only [ExceptT.run_mk, play_bind, play_query, play_read]
  cases h : f d <;> simp

lemma steady_pure (a : α) : (pure a : Sql ε σ α).Steady where
  any _ c := Or.inr ⟨a, c.data, rfl, rfl, rfl⟩
  calm _ := rfl

lemma steady_throw (e : ε) : (throw e : Sql ε σ α).Steady where
  any _ _ := Or.inl ⟨⟨e, rfl⟩, rfl⟩
  calm _ := rfl

lemma steady_statement (f : σ → Except ε (α × σ)) : (statement f).Steady where
  any rs c := by
    rw [attempt_statement]
    unfold statement
    simp only [ExceptT.run_mk, play_bind, play_query]
    cases rs 0 () with
    | some e => exact Or.inl ⟨⟨e, rfl⟩, rfl⟩
    | none =>
      cases h : f c.data with
      | error e => refine Or.inl ⟨⟨e, ?_⟩, ?_⟩ <;> simp [h]
      | ok r => refine Or.inr ⟨r.1, r.2, rfl, ?_, ?_⟩ <;> simp [h]
  calm c := by
    rw [attempt_statement]
    unfold statement
    simp only [ExceptT.run_mk, play_bind, play_query, play_read]
    cases h : f c.data <;> simp [Except.map]

namespace Steady

variable {x : Sql ε σ α} {f : α → Sql ε σ β}

/-- Where nothing fails, a program either throws or gives what `attempt` says. -/
lemma play_calm (hx : x.Steady) (c : Connection σ) :
    (∃ e, x.attempt c.data = .error e ∧
        (play x.run (fun _ _ => none) c).1 = .error e) ∨
      ∃ a d, x.attempt c.data = .ok (a, d) ∧
        play x.run (fun _ _ => none) c = (.ok a, fun _ _ => none, ⟨d, c.saved⟩) := by
  have hrest := play_const_rest x.run (fun _ => none) c
  have hcalm := hx.calm c
  rcases hx.any (fun _ _ => none) c with ⟨⟨e, he⟩, -⟩ | ⟨a, d, hattempt, hok, hc⟩
  · refine Or.inl ⟨e, ?_, he⟩
    rw [he] at hcalm
    cases h : x.attempt c.data with
    | error e' => simp_all [Except.map]
    | ok r => simp_all [Except.map]
  · exact Or.inr ⟨a, d, hattempt, Prod.ext hok (Prod.ext hrest hc)⟩

/-- Two programs one after the other, where nothing fails. -/
lemma attempt_bind (hx : x.Steady) (f : α → Sql ε σ β) (d : σ) :
    (x >>= f).attempt d =
      match x.attempt d with
      | .ok (a, d') => (f a).attempt d'
      | .error e => .error e := by
  rcases hx.play_calm ⟨d, none⟩ with ⟨e, hattempt, he⟩ | ⟨a, d', hattempt, hplay⟩
  · rw [hattempt]
    unfold attempt exec
    rw [Fallible.play_bind]
    revert he
    rcases play x.run (fun _ _ => none) (⟨d, none⟩ : Connection σ) with ⟨r, rs', s'⟩
    rintro rfl
    rfl
  · rw [hattempt]
    unfold attempt exec
    rw [Fallible.play_bind, hplay]

lemma bind (hx : x.Steady) (hf : ∀ a, (f a).Steady) : (x >>= f).Steady where
  any rs c := by
    rw [hx.attempt_bind, Fallible.play_bind]
    rcases hx.any rs c with ⟨⟨e, he⟩, hsaved⟩ | ⟨a, d, hattempt, hok, hc⟩
    · revert he hsaved
      rcases play x.run rs c with ⟨r, rs', c'⟩
      rintro hsaved rfl
      exact Or.inl ⟨⟨e, rfl⟩, hsaved⟩
    rw [hattempt]
    revert hok hc
    rcases play x.run rs c with ⟨r, rs', c'⟩
    rintro rfl rfl
    exact (hf a).any rs' ⟨d, c.saved⟩
  calm c := by
    rw [hx.attempt_bind, Fallible.play_bind]
    rcases hx.play_calm c with ⟨e, hattempt, he⟩ | ⟨a, d, hattempt, hplay⟩
    · rw [hattempt]
      revert he
      rcases play x.run (fun _ _ => none) c with ⟨r, rs', c'⟩
      rintro rfl
      rfl
    · rw [hattempt, hplay]
      exact (hf a).calm ⟨d, c.saved⟩

end Steady

@[simp] lemma attempt_statement_bind (f : σ → Except ε (α × σ)) (g : α → Sql ε σ β) (d : σ) :
    (statement f >>= g).attempt d =
      match f d with
      | .ok (a, d') => (g a).attempt d'
      | .error e => .error e := by
  rw [(steady_statement f).attempt_bind, attempt_statement]

/-- A program that goes on after a statement. -/
lemma steady_statement_bind (f : σ → Except ε (α × σ)) {g : α → Sql ε σ β}
    (hg : ∀ a, (g a).Steady) : (statement f >>= g).Steady :=
  (steady_statement f).bind hg

/-! ### All or nothing -/

/-- A program that, whatever fails, does what `spec` says or throws and leaves the data as they
were.  Where nothing fails, it throws only if `spec` does. -/
structure Atomic (x : Sql ε σ α) (spec : σ → Except ε (α × σ)) : Prop where
  any : ∀ rs d,
    (∃ e, (Process.play x.run rs ⟨d, none⟩).1 = .error e ∧
        (Process.play x.run rs ⟨d, none⟩).2.2 = ⟨d, none⟩) ∨
      ∃ a d', spec d = .ok (a, d') ∧ (Process.play x.run rs ⟨d, none⟩).1 = .ok a ∧
        (Process.play x.run rs ⟨d, none⟩).2.2 = ⟨d', none⟩
  calm : ∀ d, (Process.play x.run (fun _ _ => none) ⟨d, none⟩).1 = (spec d).map Prod.fst

lemma play_commit (a : α) (rs : Answers Unit fun _ => Option ε) (c : Connection σ) :
    play (do commit; pure a : Sql ε σ α).run rs c =
      match rs 0 () with
      | some e => (.error e, fun i => rs (i + 1), c)
      | none => (.ok a, fun i => rs (i + 1), { c with saved := none }) := by
  rw [Fallible.play_bind]
  unfold commit
  simp only [ExceptT.run_mk, play_bind, play_query]
  cases rs 0 () <;> rfl

/-- A transaction from its beginning. -/
lemma play_transaction (nested : ε) (body : Sql ε σ α) (rs : Answers Unit fun _ => Option ε)
    (d : σ) :
    play (transaction nested body).run rs ⟨d, none⟩ =
      match rs 0 () with
      | some e => (.error e, fun i => rs (i + 1), ⟨d, none⟩)
      | none =>
        match play body.run (fun i => rs (i + 1)) ⟨d, some d⟩ with
        | (.error e, rs', c) => (.error e, rs', ⟨c.saved.getD c.data, none⟩)
        | (.ok a, rs', c) =>
          match rs' 0 () with
          | some e => (.error e, fun i => rs' (i + 1), ⟨c.saved.getD c.data, none⟩)
          | none => (.ok a, fun i => rs' (i + 1), ⟨c.data, none⟩) := by
  unfold transaction
  rw [Fallible.play_bind]
  unfold begin
  simp only [ExceptT.run_mk, play_bind, play_query]
  cases rs 0 () with
  | some e => rfl
  | none =>
    show play (tryCatch (do let a ← body; commit; pure a)
      (fun e => do rollback; throw e) : Sql ε σ α).run (fun i => rs (i + 1)) ⟨d, some d⟩ = _
    rw [Fallible.play_tryCatch, Fallible.play_bind]
    rcases play body.run (fun i => rs (i + 1)) ⟨d, some d⟩ with ⟨e | a, rs', c⟩
    · rfl
    · simp only [play_commit]
      cases rs' 0 () <;> rfl

lemma atomic_transaction {body : Sql ε σ α} (h : body.Steady) (nested : ε) :
    Atomic (transaction nested body) body.attempt where
  any rs d := by
    rw [play_transaction]
    cases rs 0 () with
    | some e => exact Or.inl ⟨e, rfl, rfl⟩
    | none =>
      rcases h.any (fun i => rs (i + 1)) ⟨d, some d⟩ with ⟨⟨e, he⟩, hc⟩ | ⟨a, d', hattempt, hok, hc⟩
      · revert he hc
        rcases play body.run (fun i => rs (i + 1)) ⟨d, some d⟩ with ⟨r, rs', c⟩
        rintro hc rfl
        have hsaved : c.saved = some d := hc
        refine Or.inl ⟨e, rfl, ?_⟩
        simp [hsaved]
      revert hok hc
      rcases play body.run (fun i => rs (i + 1)) ⟨d, some d⟩ with ⟨r, rs', c⟩
      rintro rfl rfl
      cases hrs : rs' 0 () with
      | some e => exact Or.inl ⟨e, by simp [hrs], by simp [hrs]⟩
      | none => exact Or.inr ⟨a, d', hattempt, by simp [hrs], by simp [hrs]⟩
  calm d := by
    rw [play_transaction]
    rcases h.play_calm ⟨d, some d⟩ with ⟨e, hattempt, he⟩ | ⟨a, d', hattempt, hplay⟩
    · rw [hattempt]
      revert he
      rcases play body.run (fun _ _ => none) ⟨d, some d⟩ with ⟨r, rs', c⟩
      rintro rfl
      rfl
    · rw [hattempt, hplay]
      rfl

namespace Atomic

variable {x : Sql ε σ α} {spec : σ → Except ε (α × σ)}

/-- Where nothing fails, `spec` is what happens. -/
lemma play_calm (h : Atomic x spec) (d : σ) :
    (∃ e, spec d = .error e ∧
        play x.run (fun _ _ => none) ⟨d, none⟩ =
          (.error e, fun _ _ => none, ⟨d, none⟩)) ∨
      ∃ a d', spec d = .ok (a, d') ∧
        play x.run (fun _ _ => none) ⟨d, none⟩ =
          (.ok a, fun _ _ => none, ⟨d', none⟩) := by
  have hrest := play_const_rest x.run (fun _ => none) (⟨d, none⟩ : Connection σ)
  have hcalm := h.calm d
  rcases h.any (fun _ _ => none) d with ⟨e, he, hc⟩ | ⟨a, d', hspec, hok, hc⟩
  · refine Or.inl ⟨e, ?_, Prod.ext he (Prod.ext hrest hc)⟩
    rw [he] at hcalm
    cases hd : spec d with
    | error e' => simp_all [Except.map]
    | ok r => simp_all [Except.map]
  · exact Or.inr ⟨a, d', hspec, Prod.ext hok (Prod.ext hrest hc)⟩

/-- A failure leaves nothing behind, so that trying again is as good as the first time. -/
lemma retry (h : Atomic x spec) (retryable : ε → Bool) (n : ℕ) :
    Atomic (retry retryable x n) spec := by
  induction n with
  | zero => exact h
  | succ n ih =>
    have hplay := Fallible.play_tryCatch x
      (fun e => if retryable e then Sql.retry retryable x n else throw e)
    refine ⟨fun rs d => ?_, fun d => ?_⟩
    · unfold Sql.retry
      rw [hplay]
      rcases h.any rs d with ⟨e, he, hc⟩ | ⟨a, d', hspec, hok, hc⟩
      · revert he hc
        rcases play x.run rs ⟨d, none⟩ with ⟨r, rs', c⟩
        rintro rfl rfl
        cases hr : retryable e with
        | false => exact Or.inl ⟨e, by simp [hr], by simp [hr]⟩
        | true => simpa [hr] using ih.any rs' d
      revert hok hc
      rcases play x.run rs ⟨d, none⟩ with ⟨r, rs', c⟩
      rintro rfl rfl
      exact Or.inr ⟨a, d', hspec, rfl, rfl⟩
    · unfold Sql.retry
      rw [hplay]
      rcases h.play_calm d with ⟨e, hspec, he⟩ | ⟨a, d', hspec, hok⟩
      · rw [he, hspec]
        cases hr : retryable e with
        | false => simp [hr, Except.map]
        | true => simpa [hr, hspec] using ih.calm d
      · rw [hok, hspec]
        rfl

/-- All or nothing. -/
theorem exec (h : Atomic x spec) (failures : ℕ → Option ε) (d : σ) :
    (∃ e, x.exec failures d = (.error e, d)) ∨
      ∃ a d', spec d = .ok (a, d') ∧ x.exec failures d = (.ok a, d') := by
  unfold Sql.exec
  rcases h.any (fun i _ => failures i) d with ⟨e, he, hc⟩ | ⟨a, d', hspec, hok, hc⟩
  · exact Or.inl ⟨e, by simp [he, hc]⟩
  · exact Or.inr ⟨a, d', hspec, by simp [hok, hc]⟩

/-- Where nothing fails, all of it. -/
lemma exec_calm (h : Atomic x spec) {d d' : σ} {a : α} (hspec : spec d = .ok (a, d')) :
    x.exec (fun _ => none) d = (.ok a, d') := by
  unfold Sql.exec
  rcases h.play_calm d with ⟨e, herror, -⟩ | ⟨b, d'', hok, hplay⟩
  · rw [hspec] at herror
    exact absurd herror (by simp)
  · rw [hspec] at hok
    obtain ⟨rfl, rfl⟩ := Prod.mk.inj (Except.ok.inj hok)
    rw [hplay]

end Atomic

end Sql

end WaffleFinance.Lib

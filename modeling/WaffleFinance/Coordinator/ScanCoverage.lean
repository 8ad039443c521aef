import WaffleFinance.Coordinator.EventSpec

/-!
# The blocks that the Ethereum reconciler scans

A run of `reconcileEthereum` scans from a block, computed from the cursor of the chain and those
of the active orders, up to the latest block, and then sets the cursor of the chain to it.  A run
may fail at any point.  Between the runs anybody may change the database, except for the cursor of
the chain.

Successful runs leave no block out while each latest block is in the lookback window of the last
successful run.  The cursor of an order that has fallen out of it does not hold the scan back.
-/

namespace WaffleFinance.Coordinator

open Lib OrdersRepository Reconciler

/-! ### The cursor of the chain is only set at the end -/

/-- The service leaves the cursors of the chains as they are. -/
def Spares {α : Type} (x : Serve α) : Prop :=
  ∀ d, x.Ensures (fun _ s => s.chainCursors = d.chainCursors)
    (fun _ s => s.chainCursors = d.chainCursors) d

section Spares

variable {α β : Type}

lemma spares_pure (a : α) : Spares (pure a : Serve α) := fun _ => (Fallible.ensures_pure a).2 rfl

lemma spares_throw (e : ServiceError) : Spares (throw e : Serve α) :=
  fun _ => (Fallible.ensures_throw e).2 rfl

lemma spares_bind {x : Serve α} {f : α → Serve β} (hx : Spares x) (hf : ∀ a, Spares (f a)) :
    Spares (x >>= f) :=
  fun d => Fallible.ensures_bind ((hx d).mono
    (fun {a s} hs => (hf a s).mono (fun h => h.trans hs) fun h => h.trans hs) fun h => h)

lemma spares_tryCatch {x : Serve α} {h : ServiceError → Serve α} (hx : Spares x)
    (hh : ∀ e, Spares (h e)) : Spares (tryCatch x h) :=
  fun d => Fallible.ensures_tryCatch ((hx d).mono (fun h => h)
    fun {e s} hs => (hh e s).mono (fun h => h.trans hs) fun h => h.trans hs)

lemma spares_call {q : Call}
    (h : ∀ fate d, (repository.run q fate d).2.chainCursors = d.chainCursors) : Spares (call q) :=
  fun d => Store.ensures_call (fun fate _ _ => h fate d) fun fate _ _ => h fate d

lemma spares_read {q : Call} {f : Db → q.Result}
    (hq : q.program = .statement fun d => .ok (f d, d)) : Spares (call q) :=
  spares_call fun fate d => by rw [run_snd, hq, exec_read_snd]

lemma spares_mutation {q : Call} {m : Mutation} (h : q.mutation = some m) : Spares (call q) := by
  refine spares_call fun fate d => ?_
  rw [run_mutation h]
  rcases m.exec_snd fate d with hsame | ⟨r, e, -, -, -, -, hput⟩
  · rw [hsame]
  · rw [hput]
    rfl

lemma exec_updateOrderCursor_chainCursors (p : Text) (chain : Chain) (position : ℕ) (fate : Fate)
    (d : Db) :
    ((updateOrderCursor p chain position).exec fate d).2.chainCursors = d.chainCursors := by
  rw [updateOrderCursor, Sql.exec_statement]
  cases fate 0 <;> rfl

lemma spares_claimEvent (key : EventKey) : Spares (call (.claimEvent key)) := by
  refine spares_call fun fate d => ?_
  show ((claimEvent key).exec fate d).2.chainCursors = d.chainCursors
  rw [claimEvent, Sql.exec_statement]
  by_cases hkey : key ∈ d.processedEvents
  · cases fate 0 <;> simp [hkey]
  · cases fate 0 <;> simp [hkey]

lemma spares_advanceOrderCursor (p : Text) (chain : Chain) (position : ℕ) :
    Spares (advanceOrderCursor p chain position) := by
  unfold advanceOrderCursor
  split_ifs with hzero
  · exact spares_pure ()
  · refine spares_call fun fate d => ?_
    show ((advanceOrderLedgerCursor p chain position).exec fate d).2.chainCursors = _
    rw [advanceOrderLedgerCursor, if_neg hzero, exec_updateOrderCursor_chainCursors]

lemma spares_run (job : Job) : Spares (OrderService.run job) := by
  refine spares_bind
    (spares_read (q := .check job) (f := fun d => d.orders.get job.publicId) rfl) fun found => ?_
  cases found with
  | none => exact spares_throw _
  | some order =>
    simp only
    cases job.verdict order with
    | ignore => exact spares_pure ()
    | refuse message => exact spares_throw _
    | proceed =>
      refine spares_bind (spares_mutation (q := .commit job order) rfl) fun _ => ?_
      cases job.cursor order with
      | none => exact spares_pure ()
      | some cursor =>
        exact spares_call fun fate d => exec_updateOrderCursor_chainCursors _ _ _ fate d

namespace Handling

variable (h : Handling)

lemma spares_find (l : Lookup) : Spares l.find := by
  cases l with
  | byHashlock hashlock =>
    exact spares_read (q := .findByHashlock hashlock)
      (f := fun d => d.orders.first fun _ r => r.hashlock = hashlock) rfl
  | bySrcOrderId chain orderId =>
    exact spares_read (q := .findBySrcOrderId chain orderId)
      (f := fun d => d.orders.first fun _ r =>
        r.srcChain = chain ∧ r.srcOrderId = some orderId) rfl

lemma spares_claim : Spares h.claim := by
  unfold claim
  split
  · exact spares_pure ()
  · exact spares_bind (spares_claimEvent _) fun _ => spares_pure ()

lemma spares_finish (p : Text) (position : ℕ) : Spares (h.finish p position) :=
  spares_bind (spares_advanceOrderCursor p h.chain position) fun _ =>
    spares_bind h.spares_claim fun _ => spares_pure false

lemma spares_dispatch (p : Text) (order : OrderRow) (position : ℕ) :
    Spares (h.dispatch p order position) := by
  unfold dispatch
  split
  · exact spares_bind h.spares_claim fun _ => spares_pure false
  split
  · cases h.plan p order position with
    | drop => exact spares_pure false
    | pass => exact h.spares_finish p position
    | apply job =>
      exact spares_bind (spares_run job) fun _ =>
        spares_bind (spares_advanceOrderCursor p h.chain position) fun _ =>
          spares_bind h.spares_claim fun _ => spares_pure true
  · exact h.spares_finish p position

lemma spares_replay : Spares h.replay := by
  refine spares_tryCatch (spares_bind (spares_find h.lookup) fun found => ?_) fun e => ?_
  · cases found with
    | none => exact spares_pure false
    | some order =>
      cases hposition : h.position with
      | none => exact spares_pure false
      | some position => exact h.spares_dispatch _ _ _
  · unfold excuse
    split
    · cases h.position with
      | none => exact spares_pure false
      | some position =>
        refine spares_bind (spares_find h.lookup) fun found => ?_
        cases found with
        | none => exact spares_pure false
        | some order => exact h.spares_finish _ _
    · exact spares_pure false

end Handling

lemma spares_replayEach (entries : List Entry) (seen : EventSeenSet) (n : ℕ) :
    Spares (replayEach entries seen n) := by
  induction entries generalizing seen n with
  | nil => exact spares_pure _
  | cons e rest ih =>
    unfold replayEach
    rcases seen.checkAndMark e.key e.semKey with ⟨_ | kind, seen'⟩
    · refine spares_bind (spares_bind (spares_claimEvent e.key) fun claimed => ?_) fun _ => ih _ _
      cases claimed with
      | false => exact spares_pure false
      | true => exact e.handling.spares_replay
    · exact ih _ _

end Spares

/-! ### One run -/

/-- The block from which a run scans, with this database and this latest block. -/
def scanStart (d : Db) (tip : ℕ) : ℕ :=
  computeIncrementalScanStart
    (startCursor (d.chainCursors .ethereum) (activeCursors d .ethereum).min?) tip ethLookbackBlocks

/-- The first part of `reconcileEthereum`: where to begin. -/
def scanFrom (node : EthNode) : Serve ℕ := do
  call .rpc
  computeFrom .ethereum node.latest ethLookbackBlocks

/-- The rest: the three requests for the logs in the range, their replay, and the cursor. -/
def scanRange (hashes : Hashes) (node : EthNode) (fromBlock : ℕ) : Serve ℕ := do
  call .rpc
  call .rpc
  call .rpc
  let n ← replayEth hashes (node.created fromBlock node.latest)
    (node.claimed fromBlock node.latest) (node.refunded fromBlock node.latest)
  call (.setChainCursor .ethereum node.latest)
  pure n

lemma reconcileEthereum_eq (hashes : Hashes) (node : EthNode) :
    reconcileEthereum hashes node = call .rpc >>= fun _ =>
      computeFrom .ethereum node.latest ethLookbackBlocks >>= scanRange hashes node := rfl

lemma ensures_rpc (d : Db) : (call .rpc).Ensures (fun _ s => s = d) (fun _ s => s = d) d :=
  ensures_read (q := .rpc) (f := fun _ => ()) rfl rfl fun _ => rfl

lemma ensures_computeFrom (tip : ℕ) (d : Db) :
    (computeFrom .ethereum tip ethLookbackBlocks).Ensures (fun a s => a = scanStart d tip ∧ s = d)
      (fun _ s => s = d) d := by
  refine Fallible.ensures_bind (ensures_read (q := .getChainCursor .ethereum)
    (f := fun d => d.chainCursors .ethereum) rfl ?_ fun _ => rfl)
  refine Fallible.ensures_bind (ensures_read (q := .getMinActiveOrderCursor .ethereum)
    (f := fun d => (activeCursors d .ethereum).min?) rfl ?_ fun _ => rfl)
  exact (Fallible.ensures_pure _).2 ⟨rfl, rfl⟩

lemma ensures_scanFrom (node : EthNode) (d : Db) :
    (scanFrom node).Ensures (fun a s => a = scanStart d node.latest ∧ s = d) (fun _ s => s = d)
      d := by
  refine Fallible.ensures_bind ((ensures_rpc d).mono ?_ fun h => h)
  rintro - s rfl
  exact ensures_computeFrom node.latest s

lemma ensures_setChainCursor (position : ℕ) (d : Db) :
    (call (.setChainCursor .ethereum position)).Ensures
      (fun _ s => s.chainCursors .ethereum = max (d.chainCursors .ethereum) position)
      (fun _ s => s.chainCursors = d.chainCursors) d := by
  have hrun : ∀ fate, repository.run (.setChainCursor .ethereum position) fate d =
      (((setChainCursor .ethereum position).exec fate d).1.mapError DbError.service,
        ((setChainCursor .ethereum position).exec fate d).2) := fun _ => rfl
  refine Store.ensures_call (fun fate a ha => ?_) fun fate e he => ?_
  · rw [hrun, setChainCursor, Sql.exec_statement] at ha ⊢
    cases hfate : fate 0 with
    | some e => simp [hfate, Except.mapError] at ha
    | none => simp
  · rw [hrun, setChainCursor, Sql.exec_statement] at he ⊢
    cases hfate : fate 0 with
    | some e => rfl
    | none => simp [hfate, Except.mapError] at he

lemma Spares.ensures_bind {α β : Type} {x : Serve α} {f : α → Serve β} {d : Db} {m : ℕ}
    (hx : Spares x) (hf : ∀ a s, s.chainCursors = d.chainCursors →
      (f a).Ensures (fun _ s => s.chainCursors .ethereum = max (d.chainCursors .ethereum) m)
        (fun _ s => s.chainCursors .ethereum = d.chainCursors .ethereum) s) :
    (x >>= f).Ensures (fun _ s => s.chainCursors .ethereum = max (d.chainCursors .ethereum) m)
      (fun _ s => s.chainCursors .ethereum = d.chainCursors .ethereum) d :=
  Fallible.ensures_bind ((hx d).mono (fun {a s} hs => hf a s hs) fun hs => by rw [hs])

lemma spares_replayEth (hashes : Hashes) (created : List EthCreated) (claimed : List EthClaimed)
    (refunded : List EthRefunded) : Spares (replayEth hashes created claimed refunded) :=
  spares_bind (spares_replayEach _ _ _) fun _ => spares_bind (spares_replayEach _ _ _) fun _ =>
    spares_bind (spares_replayEach _ _ _) fun _ => spares_pure _

lemma ensures_scanRange (hashes : Hashes) (node : EthNode) (fromBlock : ℕ) (d : Db) :
    (scanRange hashes node fromBlock).Ensures
      (fun _ s => s.chainCursors .ethereum = max (d.chainCursors .ethereum) node.latest)
      (fun _ s => s.chainCursors .ethereum = d.chainCursors .ethereum) d := by
  have hrpc : Spares (call .rpc) := spares_read (q := .rpc) (f := fun _ => ()) rfl
  refine hrpc.ensures_bind fun _ s₁ h₁ => ?_
  rw [← h₁]
  refine hrpc.ensures_bind fun _ s₂ h₂ => ?_
  rw [← h₂]
  refine hrpc.ensures_bind fun _ s₃ h₃ => ?_
  rw [← h₃]
  refine (spares_replayEth _ _ _ _).ensures_bind fun n s₄ h₄ => ?_
  rw [← h₄]
  refine Fallible.ensures_bind ((ensures_setChainCursor node.latest s₄).mono (fun hset => ?_)
    fun hset => by rw [hset])
  exact (Fallible.ensures_pure n).2 hset

/-- A run: what the node answers, and what goes wrong. -/
structure EthRun where
  node : EthNode
  answers : Answers Call fun _ => Fate

namespace EthRun

variable (hashes : Hashes) (r : EthRun) (d : Db)

def result : Except ServiceError ℕ :=
  (Process.play (reconcileEthereum hashes r.node).run r.answers d).1

/-- The database after the run. -/
def db : Db := (Process.play (reconcileEthereum hashes r.node).run r.answers d).2.2

/-- The block at which the run begins to scan, if it gets that far. -/
def start : Option ℕ :=
  match (Process.play (scanFrom r.node).run r.answers d).1 with
  | .ok fromBlock => some fromBlock
  | .error _ => none

lemma start_eq {fromBlock : ℕ} (h : r.start d = some fromBlock) :
    fromBlock = scanStart d r.node.latest := by
  have hplay := Process.Always.play (ensures_scanFrom r.node d) r.answers
  unfold start at h
  split at h
  · rename_i a ha
    obtain rfl := Option.some.inj h
    exact (hplay.1 a ha).1
  · cases h

/-- A run ends with the cursor at its latest block, or fails and leaves the cursor. -/
lemma db_chainCursors :
    (∃ n, r.result hashes d = .ok n ∧ r.start d = some (scanStart d r.node.latest) ∧
      (r.db hashes d).chainCursors .ethereum = max (d.chainCursors .ethereum) r.node.latest) ∨
    ∃ e, r.result hashes d = .error e ∧
      (r.db hashes d).chainCursors .ethereum = d.chainCursors .ethereum := by
  unfold result db start scanFrom
  rw [reconcileEthereum_eq, Fallible.play_bind, Fallible.play_bind]
  have hfirst := Process.Always.play (ensures_rpc d) r.answers
  rcases hrpc : Process.play (call .rpc).run r.answers d with ⟨_ | _, rs₁, s₁⟩
  · rw [hrpc] at hfirst
    exact .inr ⟨_, rfl, by rw [hfirst.2 _ rfl]⟩
  rw [hrpc] at hfirst
  obtain rfl := hfirst.1 _ rfl
  simp only
  rw [Fallible.play_bind]
  have hsecond := Process.Always.play (ensures_computeFrom r.node.latest s₁) rs₁
  rcases hfrom : Process.play (computeFrom .ethereum r.node.latest ethLookbackBlocks).run rs₁ s₁
    with ⟨_ | fromBlock, rs₂, s₂⟩
  · rw [hfrom] at hsecond
    exact .inr ⟨_, rfl, by rw [hsecond.2 _ rfl]⟩
  rw [hfrom] at hsecond
  obtain ⟨hstart, rfl⟩ := hsecond.1 _ rfl
  have hlast := Process.Always.play (ensures_scanRange hashes r.node fromBlock s₂) rs₂
  rcases hrange : Process.play (scanRange hashes r.node fromBlock).run rs₂ s₂ with ⟨e | n, rs₃, s₃⟩
  · rw [hrange] at hlast
    exact .inr ⟨e, by simp only [hrange], by simp only [hrange]; exact hlast.2 e rfl⟩
  · rw [hrange] at hlast
    refine .inl ⟨n, by simp only [hrange], ?_, by simp only [hrange]; exact hlast.1 n rfl⟩
    rw [hstart]

end EthRun

/-! ### Many runs -/

/-- A run, or what others do to the database meanwhile. -/
inductive ScanStep where
  | run (r : EthRun)
  | others (change : Db → Db)
      (spares : ∀ d, (change d).chainCursors .ethereum = d.chainCursors .ethereum)

/-- The database, the ranges that successful runs have scanned, and the latest block of the last
run; before any, the cursor. -/
structure ScanState where
  db : Db
  scanned : List (ℕ × ℕ)
  lastTip : ℕ

namespace ScanState

variable (hashes : Hashes)

def step (s : ScanState) : ScanStep → ScanState
  | .run r =>
    { db := r.db hashes s.db
      scanned :=
        match r.result hashes s.db, r.start s.db with
        | .ok _, some fromBlock => s.scanned ++ [(fromBlock, r.node.latest)]
        | _, _ => s.scanned
      lastTip := r.node.latest }
  | .others change _ => { s with db := change s.db }

/-- The latest block is not the first one of the chain, it is not before that of the run before,
and it is in the lookback window of the last successful run. -/
def Paced (s : ScanState) : ScanStep → Prop
  | .run r => 0 < r.node.latest ∧ s.lastTip ≤ r.node.latest ∧
    ∀ range ∈ s.scanned.getLast?, r.node.latest ≤ range.2 + ethLookbackBlocks
  | .others _ _ => True

def after (d : Db) (steps : List ScanStep) : ScanState := 
  steps.foldl (step hashes) ⟨d, [], d.chainCursors .ethereum⟩

/-- The persisted cursor of the chain. -/
def cursor (s : ScanState) : ℕ := s.db.chainCursors .ethereum

end ScanState

/-- Runs from any database. -/
structure ScanHistory (hashes : Hashes) where
  db : Db
  steps : List ScanStep
  paced : ∀ n x, steps[n]? = some x → (ScanState.after hashes db (steps.take n)).Paced x

def ScanHistory.stateAt {hashes : Hashes} (h : ScanHistory hashes) (n : ℕ) : ScanState :=
  .after hashes h.db (h.steps.take n)

/-- The cursor is where the last successful run has ended, at first `c`, and each successful run has
begun at or before the end of the one before. -/
structure Seamless (c : ℕ) (s : ScanState) : Prop where
  cursor : s.cursor = (s.scanned.getLast?.map Prod.snd).getD c
  cursor_le : s.cursor ≤ s.lastTip
  last : ∀ range ∈ s.scanned.getLast?, 0 < range.2
  chain : s.scanned.IsChain fun a b => b.1 ≤ a.2

lemma computeIncrementalScanStart_le {cursor : ℕ} (tip lookback : ℕ) (h : 0 < cursor) :
    computeIncrementalScanStart cursor tip lookback ≤ cursor ∨
      cursor + lookback < tip ∧
        computeIncrementalScanStart cursor tip lookback = tip - lookback := by
  unfold computeIncrementalScanStart
  split_ifs <;> omega

lemma scanStart_le_cursor {d : Db} {tip : ℕ} (hpos : 0 < d.chainCursors .ethereum)
    (hwindow : tip ≤ d.chainCursors .ethereum + ethLookbackBlocks) :
    scanStart d tip ≤ d.chainCursors .ethereum := by
  have hle : ∀ c, c ≤ d.chainCursors .ethereum → 0 < c →
      computeIncrementalScanStart c tip ethLookbackBlocks ≤ d.chainCursors .ethereum := by
    intro c hc hc0
    rcases computeIncrementalScanStart_le tip ethLookbackBlocks hc0 with h | ⟨-, h⟩ <;> omega
  unfold scanStart startCursor
  split
  · exact hle _ le_rfl hpos
  split_ifs
  · exact hle _ le_rfl hpos
  · omega
  · exact hle _ (min_le_left _ _) (by omega)

/-- The start is at or before the cursor of an active order, unless that is out of the window. -/
lemma scanStart_le_orderCursor {d : Db} {tip p : ℕ} (hp : p ∈ activeCursors d .ethereum) :
    scanStart d tip ≤ p ∨ p + ethLookbackBlocks < tip ∧
      scanStart d tip = tip - ethLookbackBlocks := by
  have hpos : ∀ m ∈ activeCursors d .ethereum, 0 < m := by
    intro m hm
    obtain ⟨e, -, he⟩ := List.mem_filterMap.1 hm
    split_ifs at he
    simpa using (Option.filter_eq_some_iff.1 he).2
  obtain ⟨m, hm⟩ : ∃ m, (activeCursors d .ethereum).min? = some m :=
    Option.isSome_iff_exists.1 (List.isSome_min?_of_mem hp)
  have hmin : m ≤ p := (List.min?_eq_some_iff.1 hm).2 p hp
  have hm0 := hpos m (List.min?_eq_some_iff.1 hm).1
  unfold scanStart startCursor
  rw [hm]
  simp only
  rw [if_neg (by omega)]
  split_ifs with hzero
  · rcases computeIncrementalScanStart_le tip ethLookbackBlocks hm0 with h | h <;> omega
  · have hpos' : 0 < min (d.chainCursors .ethereum) m := by omega
    rcases computeIncrementalScanStart_le tip ethLookbackBlocks hpos' with h | h <;> omega

/-- What every step keeps. -/
lemma Seamless.step {hashes : Hashes} {c : ℕ} {s : ScanState} {x : ScanStep} (h : Seamless c s)
    (hpaced : s.Paced x) : Seamless c (s.step hashes x) ∧ s.cursor ≤ (s.step hashes x).cursor := by
  cases x with
  | others change spares =>
    have hcursor : (s.step hashes (.others change spares)).cursor = s.cursor := spares s.db
    exact ⟨⟨hcursor.trans h.cursor, hcursor.le.trans h.cursor_le, h.last, h.chain⟩, hcursor.ge⟩
  | run r =>
    obtain ⟨hpos, hlater, hwindow⟩ := hpaced
    rcases r.db_chainCursors hashes s.db with ⟨n, hok, hstart, hdb⟩ | ⟨e, herror, hdb⟩
    · have hscanned : (s.step hashes (.run r)).scanned =
          s.scanned ++ [(scanStart s.db r.node.latest, r.node.latest)] := by
        simp [ScanState.step, hok, hstart]
      have hcursor : (s.step hashes (.run r)).cursor = max s.cursor r.node.latest := hdb
      have hle : s.cursor ≤ r.node.latest := h.cursor_le.trans hlater
      refine ⟨⟨?_, ?_, ?_, ?_⟩, by rw [hcursor]; exact le_max_left _ _⟩
      · rw [hcursor, hscanned]
        simpa using hle
      · rw [hcursor]
        exact max_le hle le_rfl
      · rw [hscanned]
        simpa using hpos
      · rw [hscanned, List.isChain_append]
        refine ⟨h.chain, List.isChain_singleton _, fun range hrange next hnext => ?_⟩
        simp only [List.head?_cons, Option.mem_some_iff] at hnext
        subst hnext
        have hc : s.cursor = range.2 := by
          rw [h.cursor, Option.mem_def.1 hrange]
          rfl
        have hrange0 := h.last range hrange
        have hw := hwindow range hrange
        have hcur : s.db.chainCursors .ethereum = range.2 := hc
        have hbegin : scanStart s.db r.node.latest ≤ s.db.chainCursors .ethereum :=
          scanStart_le_cursor (by omega) (by omega)
        omega
    · have hscanned : (s.step hashes (.run r)).scanned = s.scanned := by
        simp [ScanState.step, herror]
      have hcursor : (s.step hashes (.run r)).cursor = s.cursor := hdb
      refine ⟨⟨by rw [hcursor, hscanned, h.cursor], ?_, ?_, ?_⟩, hcursor.ge⟩
      · exact hcursor.le.trans (h.cursor_le.trans hlater)
      · rw [hscanned]
        exact h.last
      · rw [hscanned]
        exact h.chain

lemma covered_of_chain {l : List (ℕ × ℕ)} (h : l.IsChain fun a b => b.1 ≤ a.2)
    {first last : ℕ × ℕ} (hfirst : l.head? = some first) (hlast : l.getLast? = some last)
    {block : ℕ} (hge : first.1 ≤ block) (hle : block ≤ last.2) :
    ∃ range ∈ l, range.1 ≤ block ∧ block ≤ range.2 := by
  induction l generalizing first with
  | nil => cases hfirst
  | cons a rest ih =>
    cases hfirst
    by_cases hin : block ≤ a.2
    · exact ⟨a, List.mem_cons_self, hge, hin⟩
    cases rest with
    | nil =>
      cases hlast
      exact absurd hle hin
    | cons b rest =>
      obtain ⟨hab, hrest⟩ := List.isChain_cons_cons.1 h
      rw [List.getLast?_cons_cons] at hlast
      obtain ⟨range, hrange, hcovers⟩ := ih hrest rfl hlast (by omega)
      exact ⟨range, List.mem_cons_of_mem a hrange, hcovers⟩

namespace ScanHistory

variable {hashes : Hashes} (h : ScanHistory hashes)

lemma stateAt_succ {n : ℕ} {x : ScanStep} (hx : h.steps[n]? = some x) :
    h.stateAt (n + 1) = (h.stateAt n).step hashes x := by
  simp [stateAt, ScanState.after, List.take_add_one, hx]

lemma stateAt_succ_of_none {n : ℕ} (hx : h.steps[n]? = none) : h.stateAt (n + 1) = h.stateAt n := by
  simp [stateAt, ScanState.after, List.take_add_one, hx]

lemma seamless (n : ℕ) : Seamless (h.db.chainCursors .ethereum) (h.stateAt n) := by
  induction n with
  | zero =>
    refine ⟨rfl, le_rfl, ?_, List.isChain_nil⟩
    rintro range hrange
    cases hrange
  | succ n ih =>
    cases hx : h.steps[n]? with
    | none =>
      rw [h.stateAt_succ_of_none hx]
      exact ih
    | some x =>
      rw [h.stateAt_succ hx]
      exact (ih.step (h.paced n x hx)).1

lemma cursor_le (n : ℕ) : (h.stateAt n).cursor ≤ (h.stateAt (n + 1)).cursor := by
  cases hx : h.steps[n]? with
  | none => rw [h.stateAt_succ_of_none hx]
  | some x =>
    rw [h.stateAt_succ hx]
    exact ((h.seamless n).step (h.paced n x hx)).2

end ScanHistory

/-- **Coverage of the Ethereum scans.**  At every point of a history the ranges of the successful
runs have no gap between the first and the last; the cursor of the chain is the latest block of the
last successful run, and it never decreases; and a run begins at or before the cursor of every
active order, except for one that lies below the lookback window, where it begins with the
window. -/
theorem ethereum_scan_coverage {hashes : Hashes} (h : ScanHistory hashes) (n : ℕ) :
    (∀ first last block, (h.stateAt n).scanned.head? = some first →
      (h.stateAt n).scanned.getLast? = some last → first.1 ≤ block → block ≤ last.2 →
        ∃ range ∈ (h.stateAt n).scanned, range.1 ≤ block ∧ block ≤ range.2) ∧
    (h.stateAt n).cursor =
      (((h.stateAt n).scanned.getLast?).map Prod.snd).getD (h.db.chainCursors .ethereum) ∧
    (h.stateAt n).cursor ≤ (h.stateAt (n + 1)).cursor ∧
    ∀ r fromBlock, h.steps[n]? = some (.run r) → r.start (h.stateAt n).db = some fromBlock →
      ∀ p ∈ activeCursors (h.stateAt n).db .ethereum, fromBlock ≤ p ∨
        p + ethLookbackBlocks < r.node.latest ∧
          fromBlock = r.node.latest - ethLookbackBlocks := by
  have hs := h.seamless n
  refine ⟨fun first last block hfirst hlast => covered_of_chain hs.chain hfirst hlast, hs.cursor,
    h.cursor_le n, ?_⟩
  intro r fromBlock hr hstart p hp
  rw [r.start_eq _ hstart]
  exact scanStart_le_orderCursor hp

namespace Sample

/-- An order whose deposit was seen in block 10, and has been active since. -/
def oldDepositDb : Db :=
  { Db.empty with
    orders := InsertionMap.empty.insert sampleId
      { sampleInput.row with status := .srcLocked, lastEthBlock := some 10 } }

/-- A run in which nothing fails and nothing has happened. -/
def quietRun (tip : ℕ) : EthRun :=
  ⟨⟨tip, fun _ _ => [], fun _ _ => [], fun _ _ => []⟩, fun _ _ => Fate.calm⟩

lemma scanned_quietRun :
    (ScanState.after noHashes oldDepositDb [.run (quietRun 10000)]).scanned = [(10, 10000)] := by
  decide +kernel

def twoRuns : List ScanStep := [.run (quietRun 10000), .run (quietRun 20000)]

lemma paced_twoRuns (n : ℕ) (x : ScanStep) (hx : twoRuns[n]? = some x) :
    (ScanState.after noHashes oldDepositDb (twoRuns.take n)).Paced x := by
  rcases n with _ | _ | n
  · cases hx
    exact ⟨by decide, by decide, fun range hrange => by cases hrange⟩
  · cases hx
    refine ⟨by decide, by decide, fun range hrange => ?_⟩
    have hlast : [(10, 10000)].getLast? = some range :=
      (congrArg List.getLast? scanned_quietRun).symm.trans hrange
    cases hlast
    decide
  · cases hx

/-- Two runs, the second in the lookback window of the first. -/
def oldDeposit : ScanHistory noHashes where
  db := oldDepositDb
  steps := twoRuns
  paced := paced_twoRuns

end Sample

/-- The second run begins long after the cursor of the active order. -/
theorem ethereum_scan_passes_order_cursor :
    (Sample.oldDeposit.stateAt 1).scanned = [(10, 10000)] ∧
      10 ∈ activeCursors (Sample.oldDeposit.stateAt 1).db .ethereum ∧
      Sample.oldDeposit.steps[1]? = some (.run (Sample.quietRun 20000)) ∧
      (Sample.quietRun 20000).start (Sample.oldDeposit.stateAt 1).db = some 5600 :=
  ⟨Sample.scanned_quietRun, by decide +kernel, rfl, by decide +kernel⟩

end WaffleFinance.Coordinator

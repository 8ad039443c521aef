import WaffleFinance.Coordinator.ChainEvents

/-!
# The validator of the audit log

`validateOrderSequences` has a set of terminal statuses of its own: `expired` is in it, which an
order still leaves, and `cancelled` and `abandoned` are not.
-/

namespace WaffleFinance.Coordinator

/-- A field of a payload; `null` counts as absent. -/
inductive PayloadField where
  | absent
  | text (s : Text)
  | other

/-- The payload is `fromStatus` and `toStatus`, both absent if it is no object. -/
structure AuditEntry where
  id : ℕ
  eventType : Text
  payload : Option (PayloadField × PayloadField)

def AuditEntry.isOrderEvent (e : AuditEntry) : Bool := "order.".toList.isPrefixOf e.eventType

structure AuditWalk where
  lastStatus : Option Text := none
  seenTerminal : Bool := false

/-- The set `TERMINAL`. -/
def auditTerminal (status : Text) : Bool :=
  (["completed", "refunded", "failed", "expired"].map String.toList).contains status

def AuditWalk.firstIssue (w : AuditWalk) (status : Text) : List Text :=
  if w.lastStatus = none ∧ status ≠ "announced".toList then
    ["First audit entry has toStatus=\"".toList ++ status ++
      "\" but expected \"announced\"".toList]
  else []

/-- The issues of one entry, and the walk after it. -/
def AuditWalk.examine (w : AuditWalk) (e : AuditEntry) : List Text × AuditWalk :=
  let name := "Entry id=".toList ++ decimal e.id
  let typed := name ++ " (".toList ++ e.eventType ++ ")".toList
  let last := w.lastStatus.getD "null".toList
  match e.payload with
  | none => ([name ++ " has unparseable payloadJson".toList], w)
  | some (.other, .text _) => ([name ++ " is malformed: invalid fromStatus type".toList], w)
  | some (source, .text status) =>
    let link := match w.lastStatus, source with
      | some _, .text given => if given ≠ last then
          [typed ++ ": fromStatus=\"".toList ++ given ++
            "\" but last observed toStatus=\"".toList ++ last ++ "\"".toList] else []
      | _, _ => []
    let late := if w.seenTerminal then
      [typed ++ " appears after the order reached terminal status \"".toList ++ last ++
        "\"".toList] else []
    (w.firstIssue status ++ link ++ late, ⟨some status, w.seenTerminal || auditTerminal status⟩)
  | some _ => ([name ++ " is malformed: missing or invalid toStatus".toList], w)

def AuditWalk.issues (w : AuditWalk) : List AuditEntry → List Text
  | [] => []
  | e :: rest => (w.examine e).1 ++ (w.examine e).2.issues rest

def orderIssues (entries : List AuditEntry) : List Text :=
  match entries.filter AuditEntry.isOrderEvent with
  | [] => ["No audit entries found for this order".toList]
  | e :: rest => AuditWalk.issues {} (e :: rest)

def validateOrderSequences (forOrder : Text → List AuditEntry) (orderIds : List Text) :
    List (Text × Text) :=
  orderIds.flatMap fun o => (orderIssues (forOrder o)).map fun issue => (o, issue)

/-- What a well-formed entry records. -/
structure StatusChange where
  id : ℕ
  eventType : Text
  fromStatus : Option OrderStatus
  toStatus : OrderStatus

def StatusChange.entry (c : StatusChange) : AuditEntry :=
  ⟨c.id, c.eventType,
    some (c.fromStatus.elim .absent fun s => .text s.text, .text c.toStatus.text)⟩

/-- The entries of an order, those of its lifecycle well formed. -/
structure OrderLog where
  entries : List AuditEntry
  changes : List StatusChange
  wellFormed : entries.filter AuditEntry.isOrderEvent = changes.map StatusChange.entry

def NoIssue (logs : Text → OrderLog) (orderIds : List Text) (o : Text) : Prop :=
  ∀ issue, (o, issue) ∉ validateOrderSequences (fun o => (logs o).entries) orderIds

/-- An entry follows such a status. -/
def GoesOn (p : OrderStatus → Prop) (l : List StatusChange) : Prop :=
  ∃ c ∈ l.dropLast, p c.toStatus

variable (l : List StatusChange)

def StartsAnnounced : Prop := ∃ c ∈ l.head?, c.toStatus = .announced

/-- Every `fromStatus` is the status before, and nothing follows a terminal status. -/
def Sequential : Prop :=
  StartsAnnounced l ∧ l.IsChain (fun a b => b.fromStatus = some a.toStatus) ∧
    ¬ GoesOn (isTerminal ·) l

/-- It follows the table, in which nothing leads out of a terminal status. -/
def FollowsTable : Prop :=
  Sequential l ∧ l.IsChain fun a b => canTransition a.toStatus b.toStatus = true

/-- No `fromStatus` that is given differs from the status before. -/
def Agrees : Prop :=
  StartsAnnounced l ∧ l.IsChain fun a b => ∀ s ∈ b.fromStatus, s = a.toStatus

def MissesSource : Prop := ∃ c ∈ l.tail, c.fromStatus = none

lemma goesOn_cons (p : OrderStatus → Prop) (a b : StatusChange) :
    GoesOn p (a :: b :: l) ↔ p a.toStatus ∨ GoesOn p (b :: l) := by
  simp [GoesOn]

lemma goesOn_or {p q r : OrderStatus → Prop} (h : ∀ s, p s ↔ q s ∨ r s) :
    GoesOn p l ↔ GoesOn q l ∨ GoesOn r l := by
  simp [GoesOn, h, and_or_left, exists_or]

lemma examine_entry (w : AuditWalk) (c : StatusChange) :
    (w.examine c.entry).2 =
      ⟨some c.toStatus.text, w.seenTerminal || auditTerminal c.toStatus.text⟩ := by
  rcases c with ⟨_, _, _ | _, _⟩ <;> rfl

lemma examine_first (c : StatusChange) :
    (AuditWalk.examine {} c.entry).1 = [] ↔ c.toStatus = .announced := by
  have hfirst (s : OrderStatus) : AuditWalk.firstIssue {} s.text = [] ↔ s = .announced := by
    cases s <;> decide
  rcases c with ⟨_, _, _ | f, s⟩ <;> simp [AuditWalk.examine, StatusChange.entry, hfirst]

lemma examine_later (s : OrderStatus) (t : Bool) (c : StatusChange) :
    (AuditWalk.examine ⟨some s.text, t⟩ c.entry).1 = [] ↔
      (∀ f ∈ c.fromStatus, f = s) ∧ t = false := by
  have htext (f : OrderStatus) : f.text = s.text ↔ f = s := by
    cases f <;> cases s <;> decide
  rcases c with ⟨_, _, _ | f, _⟩ <;>
    simp [AuditWalk.examine, AuditWalk.firstIssue, StatusChange.entry, htext]

lemma issues_eq_nil_iff (a : StatusChange) :
    AuditWalk.issues ⟨some a.toStatus.text, auditTerminal a.toStatus.text⟩
        (l.map StatusChange.entry) = [] ↔
      (a :: l).IsChain (fun a b => ∀ s ∈ b.fromStatus, s = a.toStatus) ∧
        ¬ GoesOn (auditTerminal ·.text) (a :: l) := by
  induction l generalizing a with
  | nil => simp [AuditWalk.issues, GoesOn]
  | cons b l ih =>
    rw [goesOn_cons, List.isChain_cons_cons, List.map_cons, AuditWalk.issues,
      List.append_eq_nil_iff, examine_later, examine_entry]
    cases auditTerminal a.toStatus.text with
    | true => simp
    | false => simp [ih, and_assoc]

lemma noIssue_iff (logs : Text → OrderLog) (before after : List Text) (o : Text) :
    NoIssue logs (before ++ o :: after) o ↔
      Agrees (logs o).changes ∧ ¬ GoesOn (auditTerminal ·.text) (logs o).changes := by
  have hmem (ids : List Text) (issue : Text) :
      (o, issue) ∈ validateOrderSequences (fun o => (logs o).entries) ids ↔
        o ∈ ids ∧ issue ∈ orderIssues (logs o).entries := by
    simp [validateOrderSequences]
  have hsilent : NoIssue logs (before ++ o :: after) o ↔ orderIssues (logs o).entries = [] := by
    simp [NoIssue, hmem, List.eq_nil_iff_forall_not_mem]
  rw [hsilent, orderIssues, (logs o).wellFormed]
  cases (logs o).changes with
  | nil => simp [Agrees, StartsAnnounced]
  | cons a l =>
    simp only [List.map_cons, AuditWalk.issues, List.append_eq_nil_iff, examine_first,
      examine_entry, Bool.false_or, issues_eq_nil_iff, Agrees, StartsAnnounced, List.head?_cons,
      Option.mem_some_iff, exists_eq_left', and_assoc]

lemma linked_iff (a : StatusChange) :
    (a :: l).IsChain (fun a b => b.fromStatus = some a.toStatus) ↔
      (a :: l).IsChain (fun a b => ∀ s ∈ b.fromStatus, s = a.toStatus) ∧
        ¬ MissesSource (a :: l) := by
  rw [MissesSource, List.tail_cons]
  induction l generalizing a with
  | nil => simp
  | cons b l ih =>
    have hlink : b.fromStatus = some a.toStatus ↔
        (∀ s ∈ b.fromStatus, s = a.toStatus) ∧ b.fromStatus ≠ none := by
      cases b.fromStatus <;> simp
    simp only [List.isChain_cons_cons, hlink, ih, List.mem_cons, exists_eq_or_imp, not_or]
    tauto

lemma sequential_iff :
    Sequential l ↔ Agrees l ∧ ¬ MissesSource l ∧ ¬ GoesOn (isTerminal ·) l := by
  cases l with
  | nil => simp [Sequential, Agrees, StartsAnnounced]
  | cons a l => simp only [Sequential, Agrees, linked_iff, and_assoc]

/-- The validator is exact for a sequence, and silent if it follows the table, unless `expired`,
`cancelled`, `abandoned` or an entry without `fromStatus` make a difference. -/
theorem validator_exact_iff (logs : Text → OrderLog) (before after : List Text) (o : Text) :
    ((NoIssue logs (before ++ o :: after) o ↔ Sequential (logs o).changes) ∧
        (FollowsTable (logs o).changes → NoIssue logs (before ++ o :: after) o)) ↔
      ¬ Agrees (logs o).changes ∨
        GoesOn (· ∈ [.completed, .refunded, .failed]) (logs o).changes ∨
        (GoesOn (· = .expired) (logs o).changes ↔
          GoesOn (· ∈ [.cancelled, .abandoned]) (logs o).changes ∨
            MissesSource (logs o).changes) := by
  have htable : FollowsTable (logs o).changes → Sequential (logs o).changes := And.left
  rw [noIssue_iff, sequential_iff] at *
  rw [goesOn_or _ (p := (isTerminal ·)) (q := (· ∈ [.completed, .refunded, .failed]))
      (r := (· ∈ [.cancelled, .abandoned])) (fun s => by cases s <;> decide)] at *
  rw [goesOn_or _ (p := (auditTerminal ·.text)) (q := (· ∈ [.completed, .refunded, .failed]))
    (r := (· = .expired)) (fun s => by cases s <;> decide)]
  tauto

/-- An order that expires and is refunded. -/
def refundedLate : List StatusChange :=
  [⟨1, "order.announced".toList, none, .announced⟩,
    ⟨2, "order.expired".toList, some .announced, .expired⟩,
    ⟨3, "order.refunded".toList, some .expired, .refunded⟩]

/-- Its beginning is judged as it should be. -/
theorem validator_exact_iff_announced :
    let log : OrderLog := ⟨(refundedLate.take 2).map StatusChange.entry, refundedLate.take 2, rfl⟩
    (NoIssue (fun _ => log) ["o".toList] "o".toList ↔ Sequential (refundedLate.take 2)) ∧
      (FollowsTable (refundedLate.take 2) → NoIssue (fun _ => log) ["o".toList] "o".toList) := by
  refine (validator_exact_iff (fun _ => ⟨_, _, rfl⟩) [] [] "o".toList).2 (.inr (.inr ?_))
  simp [GoesOn, MissesSource, refundedLate]

theorem validator_reports_refund : FollowsTable refundedLate ∧
    validateOrderSequences (fun _ => refundedLate.map StatusChange.entry) ["o".toList] =
      [("o".toList, ("Entry id=3 (order.refunded) appears after the order reached " ++
        "terminal status \"expired\"").toList)] := by
  refine ⟨⟨⟨⟨_, rfl, rfl⟩, by decide, ?_⟩, by decide⟩, by decide +kernel⟩
  simp [GoesOn, refundedLate, isTerminal, orderStatusTransitions]

end WaffleFinance.Coordinator

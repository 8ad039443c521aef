import WaffleFinance.Coordinator.OrderMachine

/-!
# The schema history

At startup the coordinator compares the migrations recorded in its database with the list that it
expects, `validateSchemaVersion`.  There is a list for each backend, and one constant for the
latest version.

The check accepts a history when it is a rearrangement of the list that ends with that constant.
It sorts both lists before it compares them, so it does not see the order; and the constant is the
SQLite name of the last migration, which is not in the list for Postgres.
-/

namespace WaffleFinance.Coordinator

inductive Backend where
  | sqlite
  | postgres
  deriving DecidableEq

structure MigrationRecord where
  migration : Text
  /-- In seconds. -/
  appliedAt : ℕ
  durationMs : ℕ
  deriving DecidableEq

/-- `CURRENT_SCHEMA_VERSION`. -/
def currentSchemaVersion : Text := "013_replay_safety.sql".toList

/-- `SQLITE_MIGRATIONS`. -/
def sqliteMigrations : List Text :=
  ["001_initial.sql", "002_solana_support.sql", "003_secret_encryption.sql",
    "004_query_optimizations.sql", "005_cursor_pagination.sql", "005_schema_migrations.sql",
    "006_stale_cleanup.sql", "007_audit_log.sql", "008_query_optimizations_advanced.sql",
    "009_chain_cursors.sql", "010_soroban_checkpoints.sql", "011_order_ledger_cursors.sql",
    "012_order_cancellation.sql", "013_replay_safety.sql"].map String.toList

/-- `POSTGRES_MIGRATION_FILES`. -/
def postgresMigrationFiles : List Text :=
  ["001_initial.sql", "002_solana_support_postgres.sql", "003_secret_encryption.sql",
    "004_query_optimizations.sql", "005_cursor_pagination.sql", "005_schema_migrations.sql",
    "006_stale_cleanup_postgres.sql", "007_audit_log_postgres.sql",
    "008_query_optimizations_advanced_postgres.sql", "009_chain_cursors_postgres.sql",
    "010_soroban_checkpoints_postgres.sql", "011_order_ledger_cursors_postgres.sql",
    "012_order_cancellation_postgres.sql", "013_replay_safety_postgres.sql"].map String.toList

def getExpectedMigrations : Backend → List Text
  | .sqlite => sqliteMigrations
  | .postgres => postgresMigrationFiles

/-- The codes of a `MigrationValidationError`, with the names that it carries. -/
inductive MigrationError where
  | unreadableHistory
  | missingMigrations (missing : List Text)
  | extraMigrations (extra : List Text)
  | outOfOrder
  | versionMismatch (latest : Option Text)
  deriving DecidableEq

/-- `ORDER BY applied_at, migration`. -/
def MigrationRecord.le (r r' : MigrationRecord) : Bool :=
  decide (r.appliedAt < r'.appliedAt) ||
    (decide (r.appliedAt = r'.appliedAt) && decide (r.migration ≤ r'.migration))

/-- The rows of `schema_migrations` in the order in which they were applied. -/
def queryMigrations (rows : List MigrationRecord) : List MigrationRecord :=
  rows.insertionSort fun r r' => r.le r' = true

/-- The comparison of the fourth check, of sorted copies. -/
def orderMismatch (expected appliedNames : List Text) : Bool :=
  let sortedExpected := expected.insertionSort (· ≤ ·)
  let sortedApplied := appliedNames.insertionSort (· ≤ ·)
  decide (expected.length ≠ appliedNames.length) ||
    sortedExpected.zipIdx.any fun m => decide (m.1 ≠ sortedApplied[m.2]?.getD [])

/-- The check at startup.  `none` is a table that cannot be read. -/
def validateSchemaVersion (backend : Backend) (rows : Option (List MigrationRecord)) :
    Except MigrationError Unit :=
  let expected := getExpectedMigrations backend
  match rows with
  | none => .error .unreadableHistory
  | some rows =>
    let appliedNames := (queryMigrations rows).map MigrationRecord.migration
    let missing := expected.filter fun m => !appliedNames.contains m
    let extra := appliedNames.filter fun m => !expected.contains m
    if 0 < missing.length then .error (.missingMigrations missing)
    else if 0 < extra.length then .error (.extraMigrations extra)
    else if orderMismatch expected appliedNames then .error .outOfOrder
    else if appliedNames.getLast? ≠ some currentSchemaVersion then
      .error (.versionMismatch appliedNames.getLast?)
    else .ok ()

/-! ### What the check accepts -/

/-- The names of the migrations in the order in which they were applied. -/
def appliedOrder (rows : List MigrationRecord) : List Text :=
  (queryMigrations rows).map MigrationRecord.migration

lemma any_zipIdx_eq_false {α : Type} [DecidableEq α] {l l' : List α} (d : α)
    (h : l.length = l'.length) :
    (l.zipIdx.any fun m => decide (m.1 ≠ l'[m.2]?.getD d)) = false ↔ l = l' := by
  rw [List.any_eq_false]
  constructor
  · intro hall
    refine List.ext_getElem h fun i hi hi' => ?_
    have hi0 := hall (l[i], i) (by simp [List.mk_mem_zipIdx_iff_getElem?, hi])
    simpa [List.getElem?_eq_getElem hi'] using hi0
  · rintro rfl ⟨a, i⟩ hm
    rw [List.mk_mem_zipIdx_iff_getElem?] at hm
    simp [hm]

/-- Comparing sorted copies is asking for a rearrangement. -/
lemma orderMismatch_eq_false {expected applied : List Text} :
    orderMismatch expected applied = false ↔ applied.Perm expected := by
  simp only [orderMismatch, Bool.or_eq_false_iff, decide_eq_false_iff_not, not_not]
  constructor
  · rintro ⟨hlen, hany⟩
    rw [any_zipIdx_eq_false [] (by simp [hlen])] at hany
    have happlied := List.perm_insertionSort (· ≤ ·) applied
    rw [← hany] at happlied
    exact happlied.symm.trans (List.perm_insertionSort (· ≤ ·) expected)
  · intro hperm
    refine ⟨hperm.length_eq.symm, ?_⟩
    rw [any_zipIdx_eq_false [] (by simp [hperm.length_eq])]
    have hsorted := (List.perm_insertionSort (· ≤ ·) expected).trans
      (hperm.symm.trans (List.perm_insertionSort (· ≤ ·) applied).symm)
    exact hsorted.eq_of_pairwise' (List.pairwise_insertionSort _ _)
      (List.pairwise_insertionSort _ _)

/-- The check accepts a rearrangement of the list that ends with the constant. -/
lemma validateSchemaVersion_eq_ok {backend : Backend} {rows : List MigrationRecord} :
    validateSchemaVersion backend (some rows) = .ok () ↔
      (appliedOrder rows).Perm (getExpectedMigrations backend) ∧
        (appliedOrder rows).getLast? = some currentSchemaVersion := by
  have hnames : (queryMigrations rows).map MigrationRecord.migration = appliedOrder rows := rfl
  simp only [validateSchemaVersion, hnames]
  constructor
  · intro h
    split_ifs at h with hmissing hextra horder hlast
    rw [Bool.not_eq_true, orderMismatch_eq_false] at horder
    exact ⟨horder, not_not.1 hlast⟩
  · rintro ⟨hperm, hlast⟩
    -- a rearrangement has no name too few and none too many
    rw [if_neg, if_neg, if_neg, if_neg (not_not.2 hlast)]
    · rw [Bool.not_eq_true, orderMismatch_eq_false]
      exact hperm
    · simp only [List.length_pos_iff, not_not, List.filter_eq_nil_iff, List.contains_iff_mem,
        Bool.not_eq_true', Bool.not_eq_false]
      exact fun m hm => hperm.mem_iff.1 hm
    · simp only [List.length_pos_iff, not_not, List.filter_eq_nil_iff, List.contains_iff_mem,
        Bool.not_eq_true', Bool.not_eq_false]
      exact fun m hm => hperm.mem_iff.2 hm

lemma getLast?_sqliteMigrations : sqliteMigrations.getLast? = some currentSchemaVersion := rfl

lemma currentSchemaVersion_notMem : currentSchemaVersion ∉ postgresMigrationFiles := by
  decide +kernel

lemma validateSchemaVersion_postgres (rows : List MigrationRecord) :
    validateSchemaVersion .postgres (some rows) ≠ .ok () := by
  rw [Ne, validateSchemaVersion_eq_ok]
  rintro ⟨hperm, hlast⟩
  exact currentSchemaVersion_notMem (hperm.mem_iff.1 (List.mem_of_getLast? hlast))

/-! ### Where the check is right -/

/-- The histories, in applied order, on which the check errs.  For SQLite the list in another
order, if it still ends with the latest version; for Postgres the complete list. -/
def Misjudged : Backend → List Text → Prop
  | .sqlite, applied =>
    applied.Perm sqliteMigrations ∧ applied ≠ sqliteMigrations ∧
      applied.getLast? = some currentSchemaVersion
  | .postgres, applied => applied = postgresMigrationFiles

/-- **The schema history check.**  A history is accepted exactly if it is the expected list in the
expected order, except for the histories that are misjudged. -/
theorem schema_history_check_iff (backend : Backend) (rows : List MigrationRecord) :
    (validateSchemaVersion backend (some rows) = .ok () ↔
        appliedOrder rows = getExpectedMigrations backend) ↔
      ¬ Misjudged backend (appliedOrder rows) := by
  cases backend with
  | sqlite =>
    rw [validateSchemaVersion_eq_ok, getExpectedMigrations, Misjudged]
    constructor
    · rintro h ⟨hperm, hne, hlast⟩
      exact hne (h.1 ⟨hperm, hlast⟩)
    · intro h
      constructor
      · rintro ⟨hperm, hlast⟩
        by_contra hne
        exact h ⟨hperm, hne, hlast⟩
      · intro heq
        rw [heq]
        exact ⟨.refl _, getLast?_sqliteMigrations⟩
  | postgres =>
    have hno := validateSchemaVersion_postgres rows
    rw [getExpectedMigrations, Misjudged]
    tauto

/-- The rows of a database on which a list of migrations was applied, one each second. -/
def appliedInTurn (names : List Text) : List MigrationRecord :=
  names.zipIdx.map fun m => ⟨m.1, m.2, 0⟩

lemma appliedOrder_appliedInTurn (names : List Text) :
    appliedOrder (appliedInTurn names) = names := by
  have hsorted : (appliedInTurn names).Pairwise fun r r' => r.le r' = true := by
    rw [appliedInTurn, List.pairwise_map, List.pairwise_iff_getElem]
    intro i j hi hj hij
    simp [MigrationRecord.le, hij]
  rw [appliedOrder, queryMigrations, List.Pairwise.insertionSort_eq hsorted, appliedInTurn,
    List.map_map]
  exact List.zipIdx_map_fst 0 names

/-- The list for SQLite with its first two migrations swapped. -/
def sqliteSwapped : List Text :=
  ["002_solana_support.sql".toList, "001_initial.sql".toList] ++ sqliteMigrations.drop 2

/-- A Postgres database with every migration just applied is refused, and a SQLite database where
the first two were applied in the other order is accepted. -/
theorem schema_history_misjudged :
    validateSchemaVersion .postgres (some (appliedInTurn postgresMigrationFiles)) ≠ .ok () ∧
      appliedOrder (appliedInTurn postgresMigrationFiles) = getExpectedMigrations .postgres ∧
      validateSchemaVersion .sqlite (some (appliedInTurn sqliteSwapped)) = .ok () ∧
      appliedOrder (appliedInTurn sqliteSwapped) ≠ getExpectedMigrations .sqlite := by
  simp only [appliedOrder_appliedInTurn, validateSchemaVersion_eq_ok]
  exact ⟨validateSchemaVersion_postgres _, rfl, ⟨by decide +kernel, by decide +kernel⟩,
    by decide +kernel⟩

end WaffleFinance.Coordinator

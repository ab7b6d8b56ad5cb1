import KongRust.Postgres.Scripts

/-!
# The migration commands

`schema_state`, `bootstrap`, `up` and `reset` on one database. Several commands run at once; every
statement outside a transaction is one step, and so is a whole transaction. A command is interrupted
when no step of it follows.
-/

namespace KongRust.Migrations

/-! ## Commands -/

structure MigrationState where
  needsBootstrap : Bool
  executed : List String
  pending : List String
  newMigrations : List String

/-- What `schema_state` gives from the answers to its three queries. -/
def MigrationState.of (executed pending : List String) : MigrationState where
  needsBootstrap := false
  executed := executed
  pending := pending
  newMigrations := migrationNames.filter fun name => name ∉ executed

def MigrationState.uninitialized : MigrationState := ⟨true, [], [], migrationNames⟩

/-- `schema_state` with nothing in between its queries. -/
def schemaState (db : Database) : MigrationState :=
  if db.hasTable "schema_meta" then .of db.executed db.pending else .uninitialized

/-- The upsert of `execute_migration`. -/
def recordMigration (db : Database) (name : String) : Option Database :=
  match db.schemaMeta with
  | none => none
  | some none => some { db with schemaMeta := some (some ⟨name, [name], []⟩) }
  | some (some row) => some { db with
    schemaMeta := some (some { row with lastExecuted := name, executed := row.executed ++ [name] }) }

/-- The transaction of `execute_migration`; `none` leaves the database as it is. -/
def executeMigration (db : Database) (migration : Migration) : Option Database :=
  (migration.sql.foldlM Ddl.run db).bind fun db => recordMigration db migration.name

/-- `ensure_schema_meta`. -/
def ensureSchemaMeta (db : Database) : Database :=
  if db.hasTable "schema_meta" then db else db.create "schema_meta" []

inductive CommandKind where
  | bootstrap
  | up
  | reset

/-- Where a command stands. `migrating` has the list that `schema_state` read, what the command has
recorded itself and what is left to run. -/
inductive Stage where
  | checkingTable
  | readingExecuted
  | readingPending (executed : List String)
  | ensuringMeta
  | migrating (seen recorded : List String) (left : List Migration)
  | dropping (left : List String)
  | refused (message : String)
  | failed
  | finished

structure Command where
  kind : CommandKind
  stage : Stage

/-- What a command does after `schema_state`. -/
def CommandKind.begin (state : MigrationState) : CommandKind → Stage
  | .bootstrap =>
    if !state.needsBootstrap then .refused "数据库已初始化，使用 'db up' 执行新 migration"
    else .ensuringMeta
  | .up =>
    if state.needsBootstrap then .refused "数据库未初始化，请先运行 'db bootstrap'"
    else if state.newMigrations.isEmpty then .finished
    else .migrating state.executed []
      (CORE_MIGRATIONS.filter fun migration => migration.name ∉ state.executed)
  | .reset =>
    if state.needsBootstrap then .refused "数据库尚未初始化，无需 reset"
    else .dropping KNOWN_TABLES

/-- The next statement or transaction of a command. -/
def Command.advance (db : Database) (command : Command) : Database × Stage :=
  match command.stage with
  | .checkingTable =>
    if db.hasTable "schema_meta" then (db, .readingExecuted)
    else (db, command.kind.begin .uninitialized)
  | .readingExecuted =>
    if db.hasTable "schema_meta" then (db, .readingPending db.executed) else (db, .failed)
  | .readingPending executed =>
    if db.hasTable "schema_meta" then (db, command.kind.begin (.of executed db.pending))
    else (db, .failed)
  | .ensuringMeta => (ensureSchemaMeta db, .migrating [] [] CORE_MIGRATIONS)
  | .migrating _ _ [] | .dropping [] => (db, .finished)
  | .migrating seen recorded (migration :: left) =>
    match executeMigration db migration with
    | some db => (db, .migrating seen (recorded ++ [migration.name]) left)
    | none => (db, .failed)
  | .dropping (table :: left) => (db.drop table, .dropping left)
  | stage => (db, stage)

structure Cluster where
  db : Database
  commands : List Command

inductive Event where
  | start (kind : CommandKind)
  /-- The next statement of a command. -/
  | proceed (index : Nat)
  /-- The next statement of a command fails, and the command with it. -/
  | fails (index : Nat)

namespace Cluster

def step (cluster : Cluster) : Event → Cluster
  | .start kind => { cluster with commands := cluster.commands ++ [⟨kind, .checkingTable⟩] }
  | .proceed index =>
    match cluster.commands[index]? with
    | none => cluster
    | some command =>
      let (db, stage) := command.advance cluster.db
      ⟨db, cluster.commands.set index { command with stage := stage }⟩
  | .fails index =>
    match cluster.commands[index]? with
    | none => cluster
    | some command => { cluster with
      commands := cluster.commands.set index { command with stage := .failed } }

def run (cluster : Cluster) (events : List Event) : Cluster := events.foldl step cluster

end Cluster

/-! ## What should hold -/

def Database.Intact (db : Database) : Prop :=
  ∀ migration ∈ CORE_MIGRATIONS, migration.name ∈ db.executed →
    ∀ table ∈ migration.creates, db.hasTable table = true

structure Database.Sound (db : Database) : Prop where
  isPrefix : db.executed <+: migrationNames
  nodup : db.executed.Nodup
  intact : (schemaState db).newMigrations = [] → db.Intact

/-- The step of a command is safe: a migration is committed on the list as this command knows it,
the last one with the tables of the others in place, and a table is dropped only when
`schema_state` has something left to run. -/
def Stage.Safe (db : Database) : Stage → Prop
  | .migrating seen recorded (_ :: left) =>
    db.executed = seen ++ recorded ∧ (left = [] → db.Intact)
  | .dropping (table :: _) => table = "schema_meta" ∨ (schemaState db).newMigrations ≠ []
  | _ => True

def Cluster.Safe (cluster : Cluster) : Event → Prop
  | .proceed index => ∀ command ∈ cluster.commands[index]?, command.stage.Safe cluster.db
  | _ => True

/-- Every step of the run, with the state that it starts from, is safe. -/
def Cluster.SafeRun (cluster : Cluster) : List Event → Prop
  | [] => True
  | event :: events => cluster.Safe event ∧ (cluster.step event).SafeRun events

/-- The plan of a command: the migrations after those it knows of. -/
def Stage.Planned : Stage → Prop
  | .readingPending executed => executed <+: migrationNames
  | .migrating seen recorded left =>
    seen ++ recorded ++ left.map Migration.name = migrationNames ∧ left <:+ CORE_MIGRATIONS
  | _ => True

/-! ## One step -/

theorem recordMigration_executed {db after : Database} {name : String}
    (h : recordMigration db name = some after) :
    after.executed = db.executed ++ [name] ∧
      (∀ table, db.hasTable table = true → after.hasTable table = true) := by
  obtain ⟨schemaMeta, tables⟩ := db
  cases schemaMeta with
  | none => cases h
  | some row =>
    have hTables {changed : Option MetaRow} (table : String)
        (hTable : (Database.mk (some row) tables).hasTable table = true) :
        (Database.mk (some changed) tables).hasTable table = true := by
      unfold Database.hasTable at hTable ⊢
      split
      · rfl
      · rename_i hOther
        rw [if_neg hOther] at hTable
        exact hTable
    cases row with
    | none | some row =>
      cases h
      exact ⟨rfl, hTables⟩

variable {db after : Database} {migration : Migration}

theorem executeMigration_spec (h : executeMigration db migration = some after) :
    after.executed = db.executed ++ [migration.name] ∧
      (∀ table, db.hasTable table = true → after.hasTable table = true) ∧
      ∀ table ∈ migration.creates, after.hasTable table = true := by
  obtain ⟨changed, hScript, hRecord⟩ := Option.bind_eq_some_iff.mp h
  obtain ⟨hTables, hExecuted, hCreates⟩ := script_kept hScript
  obtain ⟨hRecorded, hKept⟩ := recordMigration_executed hRecord
  refine ⟨by rw [hRecorded, hExecuted], fun table hTable => hKept table (hTables table hTable),
    fun table hTable => hKept table (hCreates table hTable)⟩

theorem newMigrations_eq_nil_iff :
    (schemaState db).newMigrations = [] ↔ ∀ name ∈ migrationNames, name ∈ db.executed := by
  unfold schemaState
  split
  · rw [MigrationState.of, List.filter_eq_nil_iff]
    simp only [decide_eq_true_eq, not_not]
  · rename_i hMissing
    have hNone : db.executed = [] := by
      unfold Database.hasTable at hMissing
      rw [if_pos rfl, Bool.not_eq_true, Option.isSome_eq_false_iff, Option.isNone_iff_eq_none]
        at hMissing
      unfold Database.executed
      rw [hMissing]
    rw [hNone]
    constructor
    · intro h
      cases h
    · intro h
      exact absurd (h "000_base" List.mem_cons_self) List.not_mem_nil

theorem eq_take_of_isPrefix {α : Type*} {known names : List α} (h : known <+: names) :
    known = names.take known.length := by
  obtain ⟨rest, rfl⟩ := h
  exact List.take_left.symm

theorem filter_not_mem_prefix {α β : Type*} [DecidableEq β] {f : α → β} {items : List α}
    (hNodup : (items.map f).Nodup) {known : List β} (h : known <+: items.map f) :
    items.filter (fun a => f a ∉ known) = items.drop known.length := by
  have hTake : known = (items.take known.length).map f := by
    rw [List.map_take]
    exact eq_take_of_isPrefix h
  rw [← List.take_append_drop known.length items, List.map_append, ← hTake] at hNodup
  have hDisjoint := (List.nodup_append.mp hNodup).2.2
  have hFirst : (items.take known.length).filter (fun a => f a ∉ known) = [] := by
    rw [List.filter_eq_nil_iff]
    intro a hMem hNot
    have hName := List.mem_map_of_mem (f := f) hMem
    rw [← hTake] at hName
    exact of_decide_eq_true hNot hName
  have hLast : (items.drop known.length).filter (fun a => f a ∉ known) =
      items.drop known.length := by
    rw [List.filter_eq_self]
    intro a hMem
    refine decide_eq_true fun hKnown => ?_
    exact hDisjoint (f a) hKnown (f a) (List.mem_map_of_mem hMem) rfl
  conv_lhs => rw [← List.take_append_drop known.length items]
  rw [List.filter_append, hFirst, hLast, List.nil_append]

theorem CommandKind.begin_planned (kind : CommandKind) {executed pending : List String}
    (h : executed <+: migrationNames) : (kind.begin (.of executed pending)).Planned := by
  cases kind with
  | bootstrap | reset => trivial
  | up =>
    have hLeft := filter_not_mem_prefix migrationNames_nodup h
    unfold CommandKind.begin
    dsimp only
    split
    · trivial
    · split
      · trivial
      · have hPlan : executed ++ [] ++ (CORE_MIGRATIONS.filter
            fun migration => migration.name ∉ executed).map Migration.name = migrationNames := by
          rw [hLeft, List.append_nil, List.map_drop]
          conv_lhs => rw [eq_take_of_isPrefix h]
          rw [List.length_take, Nat.min_eq_left h.length_le]
          exact List.take_append_drop _ _
        have hSuffix : (CORE_MIGRATIONS.filter fun migration => migration.name ∉ executed) <:+
            CORE_MIGRATIONS := by
          rw [hLeft]
          exact List.drop_suffix _ _
        exact ⟨hPlan, hSuffix⟩

/-- The state of a cluster whose database is sound. -/
structure Cluster.Good (cluster : Cluster) : Prop where
  db : cluster.db.Sound
  commands : ∀ command ∈ cluster.commands, command.stage.Planned

theorem Database.Sound.of_executed_nil (h : db.executed = []) : db.Sound := by
  refine ⟨?_, ?_, fun hNew => ?_⟩
  · rw [h]
    exact List.nil_prefix
  · rw [h]
    exact List.nodup_nil
  · have hBase := newMigrations_eq_nil_iff.mp hNew "000_base" List.mem_cons_self
    rw [h] at hBase
    cases hBase

/-- The commit of the next migration. -/
theorem sound_of_commit {seen recorded : List String} {left : List Migration}
    (hPlan : (Stage.migrating seen recorded (migration :: left)).Planned)
    (hSafe : (Stage.migrating seen recorded (migration :: left)).Safe db)
    (h : executeMigration db migration = some after) : after.Sound := by
  obtain ⟨hNames, hLeft⟩ := hPlan
  obtain ⟨hKnown, hOthers⟩ := hSafe
  obtain ⟨hExecuted, hTables, hCreates⟩ := executeMigration_spec h
  have hList : after.executed ++ left.map Migration.name = migrationNames := by
    rw [hExecuted, hKnown, ← hNames, List.map_cons]
    simp only [List.append_assoc, List.singleton_append]
  have hPrefix : after.executed <+: migrationNames := ⟨_, hList⟩
  refine ⟨hPrefix, hPrefix.sublist.nodup migrationNames_nodup, fun hNew => ?_⟩
  have hAll := newMigrations_eq_nil_iff.mp hNew
  have hNil : left = [] := by
    cases left with
    | nil => rfl
    | cons next left =>
      have hNext : next.name ∈ migrationNames := by
        rw [← hList]
        exact List.mem_append_right _ List.mem_cons_self
      have hNodup := migrationNames_nodup
      rw [← hList] at hNodup
      exact absurd rfl ((List.nodup_append.mp hNodup).2.2 next.name (hAll next.name hNext)
        next.name List.mem_cons_self)
  intro other hOther hRecorded table hTable
  rw [hExecuted, List.mem_append, List.mem_singleton] at hRecorded
  obtain hBefore | hSame := hRecorded
  · exact hTables table (hOthers hNil other hOther hBefore table hTable)
  · have hMem : migration ∈ CORE_MIGRATIONS := hLeft.mem List.mem_cons_self
    have hEq : other = migration := List.inj_on_of_nodup_map migrationNames_nodup hOther hMem hSame
    rw [hEq] at hTable
    exact hCreates table hTable

theorem sound_of_drop {table : String} {left : List String} (hDb : db.Sound)
    (hSafe : (Stage.dropping (table :: left)).Safe db) : (db.drop table).Sound := by
  by_cases hMeta : table = "schema_meta"
  · refine .of_executed_nil ?_
    unfold Database.drop
    rw [if_pos hMeta]
    rfl
  · have hExecuted := db.executed_drop_ne hMeta
    have hLeft : (schemaState db).newMigrations ≠ [] := hSafe.resolve_left hMeta
    refine ⟨by rw [hExecuted]; exact hDb.isPrefix, by rw [hExecuted]; exact hDb.nodup,
      fun hNew => ?_⟩
    rw [newMigrations_eq_nil_iff, hExecuted] at hNew
    exact absurd (newMigrations_eq_nil_iff.mpr hNew) hLeft

theorem executed_ensureSchemaMeta (db : Database) :
    (ensureSchemaMeta db).executed = db.executed := by
  unfold ensureSchemaMeta
  by_cases h : db.hasTable "schema_meta" = true
  · rw [if_pos h]
  · rw [if_neg h]
    exact db.executed_create _ _ (Bool.eq_false_iff.mpr h)

theorem sound_ensureSchemaMeta (hDb : db.Sound) : (ensureSchemaMeta db).Sound := by
  have hExecuted := executed_ensureSchemaMeta db
  refine ⟨by rw [hExecuted]; exact hDb.isPrefix, by rw [hExecuted]; exact hDb.nodup, fun hNew => ?_⟩
  rw [newMigrations_eq_nil_iff, hExecuted] at hNew
  have hIntact := hDb.intact (newMigrations_eq_nil_iff.mpr hNew)
  intro migration hMem hRecorded table hTable
  rw [hExecuted] at hRecorded
  have hHas := hIntact migration hMem hRecorded table hTable
  unfold ensureSchemaMeta
  split
  · exact hHas
  · rw [Database.hasTable_create, hHas, Bool.or_true]

/-- What the step of one command preserves. -/
theorem Command.advance_sound {db : Database} {command : Command} (hDb : db.Sound)
    (hPlan : command.stage.Planned) (hSafe : command.stage.Safe db) :
    (command.advance db).1.Sound ∧ (command.advance db).2.Planned := by
  obtain ⟨kind, stage⟩ := command
  cases stage with
  | checkingTable =>
    unfold Command.advance
    dsimp only
    split
    · exact ⟨hDb, trivial⟩
    · refine ⟨hDb, ?_⟩
      cases kind with
      | bootstrap | up | reset => trivial
  | readingExecuted =>
    unfold Command.advance
    dsimp only
    split
    · exact ⟨hDb, hDb.isPrefix⟩
    · exact ⟨hDb, trivial⟩
  | readingPending executed =>
    unfold Command.advance
    dsimp only
    split
    · exact ⟨hDb, kind.begin_planned hPlan⟩
    · exact ⟨hDb, trivial⟩
  | ensuringMeta => exact ⟨sound_ensureSchemaMeta hDb, rfl, List.suffix_refl _⟩
  | migrating seen recorded left =>
    cases left with
    | nil => exact ⟨hDb, trivial⟩
    | cons migration left =>
      unfold Command.advance
      dsimp only
      cases hCommit : executeMigration db migration with
      | none => exact ⟨hDb, trivial⟩
      | some after =>
        refine ⟨sound_of_commit hPlan hSafe hCommit, ?_, ?_⟩
        · have hNames := hPlan.1
          rw [List.map_cons] at hNames
          simp only [List.append_assoc, List.singleton_append] at hNames ⊢
          exact hNames
        · exact (List.suffix_cons migration left).trans hPlan.2
  | dropping left =>
    cases left with
    | nil => exact ⟨hDb, trivial⟩
    | cons table left => exact ⟨sound_of_drop hDb hSafe, trivial⟩
  | refused message | failed | finished => exact ⟨hDb, trivial⟩

theorem Cluster.Good.step {cluster : Cluster} (hGood : cluster.Good) {event : Event}
    (hSafe : cluster.Safe event) : (cluster.step event).Good := by
  have hSet {index : Nat} {stage : Stage} (command : Command) (hStage : stage.Planned) :
      ∀ other ∈ cluster.commands.set index { command with stage := stage },
        other.stage.Planned := by
    intro other hOther
    obtain hOld | rfl := List.mem_or_eq_of_mem_set hOther
    · exact hGood.commands other hOld
    · exact hStage
  cases event with
  | start kind =>
    refine ⟨hGood.db, fun command hCommand => ?_⟩
    obtain hOld | hNew := List.mem_append.mp hCommand
    · exact hGood.commands command hOld
    · rw [List.mem_singleton.mp hNew]
      trivial
  | proceed index =>
    unfold Cluster.step
    dsimp only
    cases hCommand : cluster.commands[index]? with
    | none => exact hGood
    | some command =>
      obtain ⟨hDb, hStage⟩ := Command.advance_sound hGood.db
        (hGood.commands command (List.mem_of_getElem? hCommand)) (hSafe command hCommand)
      exact ⟨hDb, hSet command hStage⟩
  | fails index =>
    unfold Cluster.step
    dsimp only
    cases cluster.commands[index]? with
    | none => exact hGood
    | some command => exact ⟨hGood.db, hSet command trivial⟩

theorem Cluster.Good.run {cluster : Cluster} (hGood : cluster.Good) {events : List Event}
    (hSafe : cluster.SafeRun events) : (cluster.run events).Good := by
  induction events generalizing cluster with
  | nil => exact hGood
  | cons event events ih => exact ih (hGood.step hSafe.1) hSafe.2

/-- From a sound database, a run whose steps are safe comes to a sound database. -/
theorem schema_stays_sound (db : Database) (events : List Event) (hDb : db.Sound)
    (hSafe : (Cluster.mk db []).SafeRun events) : ((Cluster.mk db []).run events).db.Sound := by
  have hGood : (Cluster.mk db []).Good := ⟨hDb, fun _ hCommand => absurd hCommand List.not_mem_nil⟩
  exact (hGood.run hSafe).db

/-! ### Two nodes, and an interrupted reset -/

/-- `schema_meta` is made and the first migration runs. -/
def sampleEvents : List Event :=
  [.start .bootstrap, .proceed 0, .proceed 0, .proceed 0]

theorem schema_stays_sound_sample :
    ((Cluster.mk .empty []).run sampleEvents).db.Sound := by
  refine schema_stays_sound .empty sampleEvents (.of_executed_nil rfl) ⟨trivial, ?_, ?_, ?_, trivial⟩
  · intro command hCommand
    cases hCommand
    trivial
  · intro command hCommand
    cases hCommand
    trivial
  · intro command hCommand
    cases hCommand
    exact ⟨rfl, fun hLeft => absurd hLeft (List.cons_ne_nil _ _)⟩

/-- Both nodes find no `schema_meta` and run the first migration. -/
def twoBootstraps : List Event :=
  [.start .bootstrap, .start .bootstrap, .proceed 0, .proceed 1, .proceed 0, .proceed 0,
    .proceed 1, .proceed 1]

/-- A complete bootstrap, and a reset that ends after it dropped its first table. -/
def interruptedReset : List Event :=
  .start .bootstrap :: List.replicate 12 (.proceed 0) ++ .start .reset ::
    List.replicate 4 (.proceed 1)

theorem schema_unsound : (¬ ∀ events, ((Cluster.mk .empty []).run events).db.executed.Nodup) ∧
    ¬ ∀ events, (schemaState ((Cluster.mk .empty []).run events).db).newMigrations = [] →
      ((Cluster.mk .empty []).run events).db.Intact := by
  constructor
  · intro h
    have hTwice : ((Cluster.mk .empty []).run twoBootstraps).db.executed =
        ["000_base", "000_base"] := by decide +kernel
    have hNodup := h twoBootstraps
    rw [hTwice] at hNodup
    exact absurd hNodup (by decide)
  · intro h
    have hState : (schemaState ((Cluster.mk .empty []).run interruptedReset).db).newMigrations =
        [] ∧ ((Cluster.mk .empty []).run interruptedReset).db.hasTable "plugins" = false ∧
          "000_base" ∈ ((Cluster.mk .empty []).run interruptedReset).db.executed := by
      decide +kernel
    obtain ⟨hNew, hPlugins, hRecorded⟩ := hState
    have hTable := h interruptedReset hNew ⟨"000_base", base⟩ List.mem_cons_self hRecorded
      "plugins" (by decide)
    rw [hPlugins] at hTable
    cases hTable

end KongRust.Migrations

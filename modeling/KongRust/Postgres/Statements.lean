import KongRust.Foundation.Dialogue
import KongRust.Postgres.Schema
import Mathlib.Logic.Function.Basic

/-!
# Statements

The statements of the generic DAO and what PostgreSQL does for one. A statement may be refused, for
a constraint, a broken connection or anything else, and then has no effect. One that is carried out
leaves the keys and the types of its table as they are declared. The rows that match a condition
come in any order.
-/

namespace KongRust.Postgres

open Storage (KongError)

/-- `read_pool()`, which may be that of a replica, and `pool()`. -/
inductive Pool where
  | read
  | primary

inductive Statement where
  /-- `SELECT … WHERE column = value LIMIT 1`. -/
  | select (pool : Pool) (table column : String) (value : SqlParam)
  /-- `SELECT … WHERE column = value ORDER BY id LIMIT limit`. -/
  | page (table column : String) (value : SqlParam) (limit : Nat)
  | insert (table : String) (values : Params)
  /-- `UPDATE … SET … WHERE column = value`; `touch` sets `updated_at` to the server's time. -/
  | update (table : String) (set : Params) (touch : Bool) (column : String) (value : SqlParam)
  /-- `INSERT … ON CONFLICT (id) DO UPDATE` of the other columns. -/
  | upsert (table : String) (values : Params)
  | delete (table column : String) (value : SqlParam)

def Statement.isWrite : Statement → Bool
  | .select .. => false
  | .page .. => false
  | _ => true

abbrev Database := String → List Row

/-- `=` is true of two values; identifiers and texts are the only ones that are compared. -/
def SqlParam.eq : SqlParam → SqlParam → Bool
  | .uuid a, .uuid b => a == b
  | .text a, .text b => a == b
  | _, _ => false

variable {a b : SqlParam} {id : Uuid} {row : Row} {values : Params}

theorem SqlParam.eq_iff : a.eq b = true ↔
    (∃ id, a = .uuid id ∧ b = .uuid id) ∨ ∃ s, a = .text s ∧ b = .text s := by
  constructor
  · intro h
    cases a with
    | uuid id =>
      cases b with
      | uuid other =>
        cases beq_iff_eq.mp h
        exact .inl ⟨id, rfl, rfl⟩
      | _ => cases h
    | text s =>
      cases b with
      | text other =>
        cases beq_iff_eq.mp h
        exact .inr ⟨s, rfl, rfl⟩
      | _ => cases h
    | _ => cases h
  · rintro (⟨id, rfl, rfl⟩ | ⟨s, rfl, rfl⟩)
    · exact beq_self_eq_true id
    · exact beq_self_eq_true s

theorem SqlParam.eq_of_eq (h : a.eq b) : a = b := by
  rcases SqlParam.eq_iff.mp h with ⟨_, rfl, rfl⟩ | ⟨_, rfl, rfl⟩ <;> rfl

theorem SqlParam.eq_comm (a b : SqlParam) : a.eq b = b.eq a := by
  have h : a.eq b = true ↔ b.eq a = true := by
    rw [SqlParam.eq_iff, SqlParam.eq_iff]
    constructor <;>
    · rintro (⟨x, rfl, rfl⟩ | ⟨x, rfl, rfl⟩)
      · exact .inl ⟨x, rfl, rfl⟩
      · exact .inr ⟨x, rfl, rfl⟩
  exact Bool.eq_iff_iff.mpr h

def Row.matches (row : Row) (column : String) (value : SqlParam) : Bool := (row column).eq value

def matching (db : Database) (table column : String) (value : SqlParam) : List Row :=
  (db table).filter fun row => row.matches column value

def Row.set (row : Row) (values : Params) : Row := fun column =>
  (values.lookup column).getD (row column)

def Row.ofParams (values : Params) : Row := Row.set (fun _ => .null) values

/-! ## Constraints -/

/-- The columns of the tables that are unique, or unique together, besides their keys. -/
def uniqueKeys : String → List (List String)
  | "services" => [["name"]]
  | "routes" => [["name"]]
  | "consumers" => [["username"], ["custom_id"]]
  | "upstreams" => [["name"]]
  | "targets" => [["cache_key"]]
  | "plugins" => [["cache_key"]]
  | "snis" => [["name"]]
  | "sm_vaults" => [["prefix"]]
  | "key_sets" => [["name"]]
  | "keys" => [["name"], ["cache_key"], ["kid", "set_id"]]
  | "ai_providers" => [["name"]]
  | "ai_models" => [["name", "provider_id", "ws_id"]]
  | _ => []

def notNull : String → List String
  | "services" => ["protocol", "host", "port"]
  | "routes" => ["strip_path", "preserve_host"]
  | "upstreams" => ["name"]
  | "targets" => ["target", "upstream_id"]
  | "plugins" => ["name", "config"]
  | "certificates" => ["cert", "key"]
  | "snis" => ["name", "certificate_id"]
  | "ca_certificates" => ["cert"]
  | "sm_vaults" => ["prefix", "name", "config"]
  | "ai_providers" => ["name", "provider_type", "auth_config", "config", "enabled"]
  | "ai_models" =>
    ["name", "provider_id", "model_name", "priority", "weight", "config", "enabled"]
  | _ => []

/-- The integers that a column can hold. -/
def SqlType.Fits (type : SqlType) : SqlParam → Prop
  | .integer n =>
    match type with
    | .smallint => -(2 ^ 15) ≤ n ∧ n < 2 ^ 15
    | .integer => -(2 ^ 31) ≤ n ∧ n < 2 ^ 31
    | _ => -(2 ^ 63) ≤ n ∧ n < 2 ^ 63
  | _ => True

/-- Two rows that a unique key tells apart; one with a `null` is apart from every other. -/
def Apart (key : List String) (a b : Row) : Prop := ∃ column ∈ key, (a column).eq (b column) = false

instance (key : List String) : Std.Symm (Apart key) where
  symm := by
    rintro a b ⟨column, hColumn, hEq⟩
    exact ⟨column, hColumn, (SqlParam.eq_comm _ _).trans hEq⟩

structure Admits (table : String) (rows : List Row) : Prop where
  identified : ∀ row ∈ rows, ∃ id, row "id" = .uuid id
  notNull : ∀ row ∈ rows, ∀ column ∈ notNull table, row column ≠ .null
  fits : ∀ row ∈ rows, ∀ column, (sqlType table column).Fits (row column)
  primaryKey : rows.Pairwise (Apart ["id"])
  uniqueKeys : ∀ key ∈ uniqueKeys table, rows.Pairwise (Apart key)

/-! ## Answers -/

def updated (rows : List Row) (set : Params) (column : String) (value : SqlParam) : List Row :=
  rows.map fun row => if row.matches column value then row.set set else row

def touched (set : Params) (touch : Bool) (now : Int) : Params :=
  if touch then set ++ [("updated_at", .timestampEpoch now)] else set

def idOf (values : Params) : SqlParam := (values.lookup "id").getD .null

def withoutId (values : Params) : Params := values.filter fun value => value.1 != "id"

def upserted (rows : List Row) (values : Params) : List Row :=
  if rows.any fun row => row.matches "id" (idOf values) then
    updated rows (withoutId values) "id" (idOf values)
  else rows ++ [Row.ofParams values]

/-- `ORDER BY id`. -/
def IdLe (a b : Row) : Prop :=
  match a "id", b "id" with
  | .uuid x, .uuid y => x ≤ y
  | _, _ => True

/-- The errors that `map_sqlx_error` makes of a refusal. -/
inductive Refusal : KongError → Prop where
  | uniqueViolation (message : String) : Refusal (.uniqueViolation message)
  | foreignKeyViolation (message : String) : Refusal (.foreignKeyViolation message)
  | validationError (message : String) : Refusal (.validationError message)
  | databaseError (message : String) : Refusal (.databaseError message)

/-- The answers of the database to a statement, with the rows that it returns. -/
inductive Responds : Dialogue.Answers Statement (Except KongError (List Row)) Database where
  | refused {db : Database} {statement : Statement} {e : KongError} (h : Refusal e) :
    Responds db statement (.error e) db
  | found {db : Database} {pool : Pool} {table column : String} {value : SqlParam} {row : Row}
      (h : row ∈ matching db table column value) :
    Responds db (.select pool table column value) (.ok [row]) db
  | missing {db : Database} {pool : Pool} {table column : String} {value : SqlParam}
      (h : matching db table column value = []) :
    Responds db (.select pool table column value) (.ok []) db
  | page {db : Database} {table column : String} {value : SqlParam} {limit : Nat}
      {rows : List Row} (h : rows.Perm (matching db table column value))
      (hSorted : rows.Pairwise IdLe) :
    Responds db (.page table column value limit) (.ok (rows.take limit)) db
  | insert {db : Database} {table : String} {values : Params}
      (h : Admits table (db table ++ [Row.ofParams values])) :
    Responds db (.insert table values) (.ok [Row.ofParams values])
      (Function.update db table (db table ++ [Row.ofParams values]))
  | update {db : Database} {table column : String} {set : Params} {touch : Bool}
      {value : SqlParam} {now : Int} {returned : List Row}
      (h : Admits table (updated (db table) (touched set touch now) column value))
      (hReturned : returned.Perm
        ((matching db table column value).map fun row => row.set (touched set touch now))) :
    Responds db (.update table set touch column value) (.ok returned)
      (Function.update db table (updated (db table) (touched set touch now) column value))
  | upsert {db : Database} {table : String} {values : Params} {row : Row}
      (h : Admits table (upserted (db table) values)) (hRow : row ∈ upserted (db table) values)
      (hId : row.matches "id" (idOf values)) :
    Responds db (.upsert table values) (.ok [row])
      (Function.update db table (upserted (db table) values))
  | delete {db : Database} {table column : String} {value : SqlParam} :
    Responds db (.delete table column value) (.ok (matching db table column value))
      (Function.update db table
        ((db table).filter fun row => !row.matches column value))

variable {touch : Bool} {column : String}

@[simp] theorem touched_lookup {set : Params} {now : Int} (h : column ≠ "updated_at") :
    (touched set touch now).lookup column = set.lookup column := by
  unfold touched
  by_cases hTouch : touch
  · have hOther : (column == "updated_at") = false := beq_eq_false_iff_ne.mpr h
    rw [if_pos hTouch, List.lookup_append, List.lookup_cons, hOther]
    exact Option.or_none
  · rw [if_neg hTouch]

variable {db db' : Database} {statement : Statement} {answer : Except KongError (List Row)}

theorem Responds.reads (h : Responds db statement answer db') (hRead : statement.isWrite = false) :
    db' = db := by
  cases h with
  | insert | update | upsert | delete => cases hRead
  | _ => rfl

variable {rows : List Row}

theorem Admits.unique {table : String} (h : Admits table rows) {a b : Row} (hA : a ∈ rows)
    (hB : b ∈ rows) (hIdA : a "id" = .uuid id) (hIdB : b "id" = .uuid id) : a = b := by
  by_contra hNe
  obtain ⟨column, hColumn, hEq⟩ := h.primaryKey.forall hA hB hNe
  cases List.mem_singleton.mp hColumn
  rw [hIdA, hIdB] at hEq
  have hTrue : (SqlParam.uuid id).eq (.uuid id) = true := beq_self_eq_true id
  rw [hTrue] at hEq
  cases hEq

theorem Row.set_cases (row : Row) (values : Params) (column : String) :
    (column, row.set values column) ∈ values ∨ row.set values column = row column := by
  unfold Row.set
  cases hLookup : values.lookup column with
  | none => exact .inr rfl
  | some value =>
    obtain ⟨before, after, rfl, -⟩ := List.lookup_eq_some_iff.mp hLookup
    exact .inl (List.mem_append_right _ List.mem_cons_self)

theorem SqlType.fits_set {table : String}
    (hRow : ∀ column, (sqlType table column).Fits (row column))
    (hValues : ∀ entry ∈ values, ∀ n, entry.2 ≠ .integer n) (column : String) :
    (sqlType table column).Fits (row.set values column) := by
  rcases row.set_cases values column with hMem | hSame
  · have hNot := hValues _ hMem
    cases hValue : row.set values column with
    | integer n => exact absurd hValue (hNot n)
    | _ => trivial
  · rw [hSame]
    exact hRow column

theorem SqlType.fits_ofParams {table : String} (h : ∀ entry ∈ values, ∀ n, entry.2 ≠ .integer n)
    (column : String) : (sqlType table column).Fits (Row.ofParams values column) := by
  have hNull : ∀ column, (sqlType table column).Fits ((fun _ => .null : Row) column) :=
    fun _ => trivial
  exact SqlType.fits_set hNull h column

theorem admits_nil (table : String) : Admits table [] where
  identified := by simp
  notNull := by simp
  fits := by simp
  primaryKey := .nil
  uniqueKeys _ _ := .nil

theorem admits_singleton {table : String} (hId : row "id" = .uuid id)
    (hNotNull : ∀ column ∈ notNull table, row column ≠ .null)
    (hFits : ∀ column, (sqlType table column).Fits (row column)) : Admits table [row] where
  identified := by
    intro other hMem
    cases List.mem_singleton.mp hMem
    exact ⟨id, hId⟩
  notNull := by
    intro other hMem
    cases List.mem_singleton.mp hMem
    exact hNotNull
  fits := by
    intro other hMem
    cases List.mem_singleton.mp hMem
    exact hFits
  primaryKey := List.pairwise_singleton _ _
  uniqueKeys := by
    intro key _
    exact List.pairwise_singleton _ _

def single (table : String) (row : Row) : Database := Function.update (fun _ => []) table [row]

@[simp] theorem single_table (table : String) (row : Row) : single table row table = [row] :=
  Function.update_self ..

theorem Row.matches_id (h : row "id" = .uuid id) : row.matches "id" (.uuid id) = true := by
  unfold Row.matches
  rw [h]
  exact beq_self_eq_true id

theorem Row.matches_id_iff : row.matches "id" (.uuid id) = true ↔ row "id" = .uuid id :=
  ⟨fun h => SqlParam.eq_of_eq h, Row.matches_id⟩

theorem Responds.update_single {table : String} {set : Params} (hId : row "id" = .uuid id)
    (hKeeps : set.lookup "id" = none)
    (hNotNull : ∀ column ∈ Postgres.notNull table, row.set set column ≠ .null)
    (hFits : ∀ column, (sqlType table column).Fits (row.set set column)) :
    Responds (single table row) (.update table set false "id" (.uuid id)) (.ok [row.set set])
      (single table (row.set set)) := by
  have hNew : row.set set "id" = .uuid id := by
    unfold Row.set
    rw [hKeeps]
    exact hId
  have hRows : updated (single table row table) (touched set false 0) "id" (.uuid id) =
      [row.set set] := by
    unfold updated
    rw [single_table, List.map_singleton, if_pos (Row.matches_id hId)]
    rfl
  have hTable : single table (row.set set) = Function.update (single table row) table
      (updated (single table row table) (touched set false 0) "id" (.uuid id)) := by
    rw [hRows]
    unfold single
    rw [Function.update_idem]
  have hReturned : matching (single table row) table "id" (.uuid id) = [row] := by
    unfold matching
    simp [Row.matches_id hId]
  rw [hTable]
  refine @Responds.update _ _ _ _ _ _ 0 _ ?_ ?_
  · rw [hRows]
    exact admits_singleton hNew hNotNull hFits
  · rw [hReturned]
    exact List.Perm.refl _

theorem Responds.found_single {table : String} (pool : Pool) (hId : row "id" = .uuid id) :
    Responds (single table row) (.select pool table "id" (.uuid id)) (.ok [row])
      (single table row) := by
  refine .found ?_
  unfold matching
  rw [single_table]
  exact List.mem_filter.mpr ⟨List.mem_singleton_self _, Row.matches_id hId⟩

/-! ## The rows that a statement hits -/

def Statement.Hits : Statement → Row → Prop
  | .update _ _ _ column value, row => row.matches column value
  | .upsert _ values, row => row.matches "id" (idOf values)
  | .delete _ column value, row => row.matches column value
  | _, _ => False

def Statement.table : Statement → String
  | .select _ table _ _ => table
  | .page table _ _ _ => table
  | .insert table _ => table
  | .update table _ _ _ _ => table
  | .upsert table _ => table
  | .delete table _ _ => table

def Statement.KeepsId : Statement → Prop
  | .update _ set _ _ _ => set.lookup "id" = none
  | _ => True

theorem Statement.Hits.isWrite {row : Row} (h : statement.Hits row) : statement.isWrite := by
  cases statement with
  | select | page => cases h
  | _ => rfl

variable {value : SqlParam}

theorem Responds.selected {pool : Pool} {table : String} {row : Row}
    (h : Responds db (.select pool table column value) (.ok (row :: rows)) db') :
    row ∈ matching db table column value := by
  cases h with
  | found h => exact h

/-- The rows that a write returns are those that it hits, or new. -/
theorem Responds.returned {row : Row} (h : Responds db statement (.ok (row :: rows)) db')
    (hWrite : statement.isWrite) (hKeeps : statement.KeepsId)
    (hAdmits : Admits statement.table (db statement.table)) {old : Row}
    (hOld : old ∈ db statement.table) {id : Uuid} (hOldId : old "id" = .uuid id)
    (hId : row "id" = .uuid id) : statement.Hits old := by
  generalize hAnswer : Except.ok (row :: rows) = answer at h
  cases h with
  | refused => cases hAnswer
  | found | missing | page => cases hWrite
  | @insert _ table values h =>
    cases hAnswer
    have hApart := (List.pairwise_append.mp h.primaryKey).2.2 old hOld _ (List.mem_singleton_self _)
    obtain ⟨column, hColumn, hEq⟩ := hApart
    cases List.mem_singleton.mp hColumn
    rw [hOldId, hId] at hEq
    exact absurd (hEq.symm.trans (beq_self_eq_true id :)) (by decide)
  | @update _ table column set touch value now _ h hReturned =>
    cases hAnswer
    obtain ⟨other, hOther, rfl⟩ := List.mem_map.mp (hReturned.mem_iff.mp List.mem_cons_self)
    obtain ⟨hMem, hMatches⟩ := List.mem_filter.mp hOther
    have hKeepsId : (touched set touch now).lookup "id" = none :=
      (touched_lookup (by decide)).trans hKeeps
    have hOtherId : other "id" = .uuid id := by
      unfold Row.set at hId
      rw [hKeepsId] at hId
      exact hId
    rw [hAdmits.unique hOld hMem hOldId hOtherId]
    exact hMatches
  | upsert h hRow hMatches =>
    cases hAnswer
    have hIdOf := SqlParam.eq_of_eq hMatches
    rw [hId] at hIdOf
    change old.matches "id" (idOf _)
    rw [← hIdOf]
    exact Row.matches_id hOldId
  | @delete _ table column value =>
    have hReturned : row ∈ matching db table column value := by
      rw [← Except.ok.inj hAnswer]
      exact List.mem_cons_self
    obtain ⟨hMem, hMatches⟩ := List.mem_filter.mp hReturned
    rw [hAdmits.unique hOld hMem hOldId hId]
    exact hMatches

/-! ## Replicas -/

/-- The database and the states that it had, one of which a replica may still have. -/
structure Replicated where
  current : Database
  past : List Database

/-- The primary answers every statement; what is read may come from a replica. -/
inductive Serves : Dialogue.Answers Statement (Except KongError (List Row)) Replicated where
  | primary {w : Replicated} {statement : Statement} {answer : Except KongError (List Row)}
      {db : Database} (h : Responds w.current statement answer db) :
    Serves w statement answer ⟨db, w.current :: w.past⟩
  | replica {w : Replicated} {table column : String} {value : SqlParam}
      {answer : Except KongError (List Row)} {db db' : Database} (hPast : db ∈ w.past)
      (h : Responds db (.select .read table column value) answer db') :
    Serves w (.select .read table column value) answer w

variable {w w' : Replicated}

theorem Serves.reads (h : Serves w statement answer w') (hRead : statement.isWrite = false) :
    w'.current = w.current := by
  cases h with
  | primary h => exact h.reads hRead
  | replica => rfl

theorem Serves.updated {table : String} {set : Params} {row : Row} {rest : List Row}
    (h : Serves w (.update table set touch column value) (.ok (row :: rest)) w') :
    ∃ now, (∃ old ∈ w.current table, row = old.set (touched set touch now)) ∧
      row ∈ w'.current table ∧ Admits table (w'.current table) := by
  cases h with
  | primary h =>
    cases h with
    | @update _ _ _ _ _ _ now _ h hReturned =>
      have hRow := hReturned.mem_iff.mp List.mem_cons_self
      obtain ⟨old, hOld, rfl⟩ := List.mem_map.mp hRow
      obtain ⟨hMem, hMatches⟩ := List.mem_filter.mp hOld
      refine ⟨now, ⟨old, hMem, rfl⟩, ?_, ?_⟩
      · simp only [Function.update_self]
        refine List.mem_map.mpr ⟨old, hMem, ?_⟩
        rw [if_pos hMatches]
      · simp only [Function.update_self]
        exact h

end KongRust.Postgres

import KongRust.Crud.Plugins
import KongRust.Crud.Runs

/-!
# Plugins of another scope

A nested plugin endpoint compares the plugin with the parent of its path before it changes it. The
comparison reads one plugin; the statement after it hits every plugin that the path names.
-/

namespace KongRust.Crud

open Fallible Postgres.PgDao Dialogue
open Dialogue (Follows Runs)
open Postgres (Entity Library Db Row Statement SqlParam Params Database Responds single
  fromStrOrUuid)
open Storage (KongError)

/-! ## Requests -/

inductive Method where
  | get
  | patch (moment : Moment) (body : Json)
  | put (moment : Moment) (body : Json)
  | delete

/-- A request to `/{scope}/{parent}/plugins/{plugin}`. -/
structure NestedRequest where
  scope : Scope
  parentIdOrName : String
  pluginIdOrName : String
  method : Method

abbrev Asked := List (Statement × Except KongError (List Row))

section Requests

variable (lib : Library) (checks : Checks) (request : NestedRequest)

def NestedRequest.run (request : NestedRequest) : Db Response :=
  match request.method with
  | .get => getNestedPlugin lib request.scope request.parentIdOrName request.pluginIdOrName
  | .patch moment body =>
    updateNestedPlugin lib checks request.scope moment request.parentIdOrName request.pluginIdOrName body
  | .put moment body =>
    upsertNestedPlugin lib checks request.scope moment request.parentIdOrName request.pluginIdOrName body
  | .delete => deleteNestedPlugin lib request.scope request.parentIdOrName request.pluginIdOrName

def NestedRequest.Belongs (request : NestedRequest) (db : Database) (row : Row) : Prop :=
  ∃ column value parent id,
    Postgres.PgDao.writeWhere lib (request.scope.entity lib) (fromStrOrUuid lib request.parentIdOrName) =
      .ok (column, value) ∧
    parent ∈ Postgres.matching db (request.scope.entity lib).tableName column value ∧
    parent "id" = .uuid id ∧ row request.scope.column = .uuid id

/-- What a request returns, changes or deletes belonged to its parent before. -/
structure NestedRequest.Isolated (request : NestedRequest) (db : Database) (said : Asked)
    (response : Response) : Prop where
  written : ∀ statement rows, (statement, .ok rows) ∈ said → ∀ row ∈ db "plugins",
    statement.Hits row → request.Belongs lib db row
  returned : response.isSuccess → ∀ row ∈ db "plugins", ∀ id, row "id" = .uuid id →
    response.body.get "id" = some (.string id.text) → request.Belongs lib db row

def ParentIs (said : Asked) (id : Uuid) : Prop :=
  ∃ statement parent rows, said.head? = some (statement, .ok (parent :: rows)) ∧
    parent "id" = .uuid id

/-- The comparison with the parent is not answered with 404: it has read a plugin of the parent, or
has failed. -/
def CheckPasses (scope : Scope) (id : Uuid) (answer : Except KongError (List Row)) : Prop :=
  match Postgres.PgDao.fetchOptional lib (plugin lib) answer with
  | .ok none => False
  | .ok (some found) => pluginScopeMatches lib found scope.field id = true
  | .error _ => True

/-- Nothing keeps the request from writing: a PUT compares nothing. -/
def NestedRequest.Unguarded (request : NestedRequest) (said : Asked) : Prop :=
  match request.method with
  | .get => False
  | .put .. => True
  | _ => ∃ id statement answer, ParentIs said id ∧ said[1]? = some (statement, answer) ∧
    CheckPasses lib request.scope id answer

def Carried (said : Asked) : Prop := ∃ statement rows, (statement, .ok rows) ∈ said ∧ statement.isWrite

def NestedRequest.putEntity (request : NestedRequest) (moment : Moment) (body : Json) (id : Uuid) :
    Option Json :=
  (upsertBody checks (plugin lib) moment lib request.pluginIdOrName
    (injectScope request.scope.field id body)).toOption.bind fun given =>
      (plugin lib).fromValue (moment.drawn 0) given

def NestedRequest.Finds (request : NestedRequest) (said : Asked) (found : Row) : Prop :=
  ∃ rows, (.select .primary "plugins" "instance_name" (.text request.pluginIdOrName), .ok (found :: rows)) ∈
    said

/-- The plugins that a request would write: all that the path names, and for a PUT the one with the
identifier of the plugin that was found, or else of the body. -/
def NestedRequest.Names (request : NestedRequest) (said : Asked) (row : Row) : Prop :=
  match request.method with
  | .get => False
  | .put moment body =>
    (∃ found, request.Finds said found ∧ row.matches "id" (found "id")) ∨
    ((∀ found, ¬ request.Finds said found) ∧ ∃ id entity, ParentIs said id ∧
      request.putEntity lib checks moment body id = some entity ∧
      row "id" = .uuid (entityId lib entity))
  | _ => ∃ column value, Postgres.PgDao.writeWhere lib (plugin lib)
      (fromStrOrUuid lib request.pluginIdOrName) = .ok (column, value) ∧ row.matches column value

end Requests

/-! ## What a nested request asks -/

section Cases

variable {lib : Library} {checks : Checks} {said : Asked} {response : Response}

theorem scope_entity_mem (scope : Scope) (lib : Library) : scope.entity lib ∈ entities lib := by
  cases scope <;> simp [Scope.entity, entities]

theorem plugin_mem (lib : Library) : plugin lib ∈ entities lib := by simp [entities]

theorem plugin_where (lib : Library) (s : String) :
    ∃ column value, writeWhere lib (plugin lib) (fromStrOrUuid lib s) =
      .ok (column, value) := by
  unfold fromStrOrUuid
  cases hParse : lib.parseStr s with
  | ok id => exact ⟨"id", .uuid id, rfl⟩
  | error e =>
    refine ⟨"instance_name", .text s, ?_⟩
    unfold writeWhere
    dsimp only
    rw [hParse]
    rfl

theorem plainFailure_isSuccess (e : KongError) : (plainFailure e).isSuccess = false :=
  isSuccess_of_ge (statusCode_ge e)

variable {scope : Scope}

/-- An endpoint reads its parent first. -/
theorem withParent_cases {parent : String} {next : Uuid → Db Response}
    (h : Follows (withParent lib scope parent next) said (.done response)) :
    (said = [] ∧ response.isSuccess = false) ∨
    ∃ column value answer rest, writeWhere lib (scope.entity lib) (fromStrOrUuid lib parent) =
        .ok (column, value) ∧
      said = (.select .read (scope.entity lib).tableName column value, answer) :: rest ∧
      ((rest = [] ∧ response.isSuccess = false) ∨
      ∃ row rows entity, answer = .ok (row :: rows) ∧
        rowToEntity lib (scope.entity lib) row = .ok entity ∧
        Follows (next (entityId lib entity)) rest (.done response)) := by
  obtain ⟨first, rest, found, rfl, hSelect, hNext⟩ := follows_bind.mp h
  rcases select_cases hSelect with ⟨e, -, rfl, rfl⟩ | ⟨column, value, answer, hWhere, rfl, rfl⟩
  · obtain ⟨rfl, hEq⟩ := follows_done.mp hNext
    cases hEq
    exact .inl ⟨rfl, plainFailure_isSuccess e⟩
  · rw [selectWhere_path] at hWhere
    refine .inr ⟨column, value, answer, rest, hWhere, rfl, ?_⟩
    cases hFound : fetchOptional lib (scope.entity lib) answer with
    | error e =>
      rw [hFound] at hNext
      obtain ⟨rfl, hEq⟩ := follows_done.mp hNext
      cases hEq
      exact .inl ⟨rfl, plainFailure_isSuccess e⟩
    | ok found =>
      rw [hFound] at hNext
      cases found with
      | none =>
        obtain ⟨rfl, hEq⟩ := follows_done.mp hNext
        cases hEq
        exact .inl ⟨rfl, rfl⟩
      | some entity =>
        obtain ⟨row, rows, hAnswer, hRow⟩ := fetchOptional_eq_some hFound
        exact .inr ⟨row, rows, entity, hAnswer, hRow, hNext⟩

variable {path : String} {id : Uuid}

/-- The comparison reads one plugin. -/
theorem getScopedPlugin_cases
    (h : Follows (getScopedPlugin lib path scope.field id) said (.done response)) :
    ∃ column value answer,
      writeWhere lib (plugin lib) (fromStrOrUuid lib path) = .ok (column, value) ∧
      said = [(.select .read "plugins" column value, answer)] ∧
      (response.status ≠ 404 → CheckPasses lib scope id answer) ∧
      (response.isSuccess → ∃ row rows entity, answer = .ok (row :: rows) ∧
        rowToEntity lib (plugin lib) row = .ok entity ∧
        pluginScopeMatches lib entity scope.field id = true ∧ response = ⟨200, entity⟩) := by
  obtain ⟨first, rest, found, rfl, hSelect, hNext⟩ := follows_bind.mp h
  obtain ⟨column, value, hWhere⟩ := plugin_where lib path
  rcases select_cases hSelect with ⟨e, hOther, rfl, rfl⟩ |
    ⟨column', value', answer, hOther, rfl, rfl⟩
  · rw [selectWhere_path, hWhere] at hOther
    cases hOther
  rw [selectWhere_path, hWhere] at hOther
  cases hOther
  cases hFound : fetchOptional lib (plugin lib) answer with
  | error e =>
    have hPasses : CheckPasses lib scope id answer := by
      unfold CheckPasses
      rw [hFound]
      trivial
    rw [hFound] at hNext
    obtain ⟨rfl, hEq⟩ := follows_done.mp hNext
    cases hEq
    refine ⟨column, value, answer, hWhere, rfl, fun _ => hPasses, fun hSuccess => ?_⟩
    rw [plainFailure_isSuccess] at hSuccess
    cases hSuccess
  | ok found =>
    rw [hFound] at hNext
    cases found with
    | none =>
      obtain ⟨rfl, hEq⟩ := follows_done.mp hNext
      cases hEq
      exact ⟨column, value, answer, hWhere, rfl, fun hStatus => absurd rfl hStatus,
        fun hSuccess => nomatch hSuccess⟩
    | some entity =>
      obtain ⟨rfl, hEq⟩ := follows_done.mp hNext
      cases hEq
      by_cases hMatches : pluginScopeMatches lib entity scope.field id
      · obtain ⟨row, rows, hAnswer, hRow⟩ := fetchOptional_eq_some hFound
        have hPasses : CheckPasses lib scope id answer := by
          unfold CheckPasses
          rw [hFound]
          exact hMatches
        rw [if_pos hMatches]
        exact ⟨column, value, answer, hWhere, rfl, fun _ => hPasses,
          fun _ => ⟨row, rows, entity, hAnswer, hRow, hMatches, rfl⟩⟩
      · rw [if_neg hMatches]
        exact ⟨column, value, answer, hWhere, rfl, fun hStatus => absurd rfl hStatus,
          fun hSuccess => nomatch hSuccess⟩

theorem checked_cases {act : Db Response} {refuse : Response → Response}
    (hRefuse : ∀ r, r.status = 404 → (refuse r).status = 404)
    (h : Follows (getScopedPlugin lib path scope.field id >>= fun existing =>
      if existing.status = 404 then pure (refuse existing) else act) said (.done response)) :
    ∃ column value answer rest,
      writeWhere lib (plugin lib) (fromStrOrUuid lib path) = .ok (column, value) ∧
      said = (.select .read "plugins" column value, answer) :: rest ∧
      ((rest = [] ∧ response.isSuccess = false) ∨
      CheckPasses lib scope id answer ∧ Follows act rest (.done response)) := by
  obtain ⟨first, rest, existing, rfl, hCheck, hNext⟩ := follows_bind.mp h
  obtain ⟨column, value, answer, hWhere, rfl, hPasses, -⟩ := getScopedPlugin_cases hCheck
  refine ⟨column, value, answer, rest, hWhere, rfl, ?_⟩
  by_cases hStatus : existing.status = 404
  · rw [if_pos hStatus] at hNext
    obtain ⟨rfl, hEq⟩ := follows_done.mp hNext
    cases hEq
    refine .inl ⟨rfl, isSuccess_of_ge ?_⟩
    rw [hRefuse existing hStatus]
    omega
  · rw [if_neg hStatus] at hNext
    exact .inr ⟨hPasses hStatus, hNext⟩

end Cases

/-! ## What a nested request writes -/

/-- What a request does once its parent is found. -/
def NestedRequest.next (lib : Library) (checks : Checks) (request : NestedRequest) (id : Uuid) :
    Db Response :=
  let path := request.pluginIdOrName
  match request.method with
  | .get => getScopedPlugin lib path request.scope.field id
  | .patch moment body =>
    updateScopedPlugin lib checks moment path body request.scope.field id false
  | .put moment body => updateScopedPlugin lib checks moment path body request.scope.field id true
  | .delete => deleteScopedPlugin lib path request.scope.field id

theorem NestedRequest.run_eq (lib : Library) (checks : Checks) (request : NestedRequest) :
    request.run lib checks =
      withParent lib request.scope request.parentIdOrName (request.next lib checks) := by
  obtain ⟨scope, parent, path, method⟩ := request
  cases method <;> rfl

/-- The write of a request, which is the last that it asks. -/
structure NestedRequest.Writes (lib : Library) (checks : Checks) (request : NestedRequest)
    (said : Asked) (response : Response) (statement : Statement)
    (answer : Except KongError (List Row)) : Prop where
  last : ∃ before, said = before ++ [(statement, answer)] ∧
    ∀ entry ∈ before, entry.1.isWrite = false
  isWrite : statement.isWrite
  table : statement.table = "plugins"
  keepsId : statement.KeepsId
  unguarded : request.Unguarded lib said
  hits : ∀ row, statement.Hits row ↔ request.Names lib checks said row
  returned : response.isSuccess → ∀ id : Uuid, response.body.get "id" = some (.string id.text) →
    ∃ row rows, answer = .ok (row :: rows) ∧
      Postgres.PgDao.rowToEntity lib (plugin lib) row = .ok response.body

section Writes

variable {lib : Library} {checks : Checks} {scope : Scope} {parentPath path : String}
  {entry : Statement × Except KongError (List Row)} {rest : Asked} {response : Response} {id : Uuid}

variable {moment : Moment} {body : Json}

theorem named_iff {column : String} {value : SqlParam} {row : Row}
    (hWhere : writeWhere lib (plugin lib) (fromStrOrUuid lib path) = .ok (column, value)) :
    row.matches column value ↔ ∃ column' value', writeWhere lib (plugin lib)
      (fromStrOrUuid lib path) = .ok (column', value') ∧ row.matches column' value' := by
  constructor
  · intro hMatches
    exact ⟨column, value, hWhere, hMatches⟩
  · rintro ⟨column', value', hOther, hMatches⟩
    cases hWhere.symm.trans hOther
    exact hMatches

theorem patch_writes (hParent : ParentIs (entry :: rest) id) (hEntry : entry.1.isWrite = false)
    (h : Follows (updateScopedPlugin lib checks moment path body scope.field id false) rest
      (.done response)) :
    ((∀ entry ∈ rest, entry.1.isWrite = false) ∧ response.isSuccess = false) ∨
    ∃ statement answer, NestedRequest.Writes lib checks
      ⟨scope, parentPath, path, .patch moment body⟩ (entry :: rest) response statement answer := by
  obtain ⟨column, value, checked, rest, hWhere, rfl, hRest⟩ := checked_cases (fun _ h => h) h
  rcases hRest with ⟨rfl, hFailed⟩ | ⟨hPasses, hNext⟩
  · exact .inl ⟨List.forall_mem_singleton.mpr rfl, hFailed⟩
  rcases doUpdate_cases hNext with ⟨rfl, hFailed⟩ |
    ⟨given, column', value', found, rest, -, hOther, rfl, hRest⟩
  · exact .inl ⟨List.forall_mem_singleton.mpr rfl, hFailed⟩
  cases hWhere.symm.trans hOther
  rcases hRest with ⟨rfl, hFailed⟩ | ⟨fields, set, touch, answer, -, hSet, rfl, hResponse⟩
  · exact .inl ⟨List.forall_mem_cons.mpr ⟨rfl, List.forall_mem_singleton.mpr rfl⟩, hFailed⟩
  refine .inr ⟨_, answer, ⟨[entry, _, _], rfl, ?_⟩, rfl, rfl,
    setParts_id (schema_named lib (plugin_mem lib)) hSet, ⟨id, _, checked, hParent, rfl, hPasses⟩,
    fun row => named_iff hWhere, fun hSuccess _ _ => ?_⟩
  · exact List.forall_mem_cons.mpr ⟨hEntry, List.forall_mem_cons.mpr
      ⟨rfl, List.forall_mem_singleton.mpr rfl⟩⟩
  · rw [hResponse] at hSuccess ⊢
    obtain ⟨entity, hUpdated, hEq⟩ := (answerWrite_isSuccess lib (.inl rfl)).mp hSuccess
    rw [hEq]
    exact fetchUpdated_eq_ok hUpdated

theorem delete_writes (hParent : ParentIs (entry :: rest) id) (hEntry : entry.1.isWrite = false)
    (h : Follows (deleteScopedPlugin lib path scope.field id) rest (.done response)) :
    ((∀ entry ∈ rest, entry.1.isWrite = false) ∧ response.isSuccess = false) ∨
    ∃ statement answer, NestedRequest.Writes lib checks
      ⟨scope, parentPath, path, .delete⟩ (entry :: rest) response statement answer := by
  obtain ⟨column, value, checked, rest, hWhere, rfl, hRest⟩ := checked_cases (fun _ _ => rfl) h
  rcases hRest with ⟨rfl, hFailed⟩ | ⟨hPasses, hNext⟩
  · exact .inl ⟨List.forall_mem_singleton.mpr rfl, hFailed⟩
  have hBody := doDelete_body hNext
  rcases doDelete_cases hNext with ⟨e, hOther, -⟩ | ⟨column', value', answer, hOther, rfl⟩
  · rw [hWhere] at hOther
    cases hOther
  cases hWhere.symm.trans hOther
  refine .inr ⟨_, answer, ⟨[entry, _], rfl, ?_⟩, rfl, rfl, trivial,
    ⟨id, _, checked, hParent, rfl, hPasses⟩, fun row => named_iff hWhere, fun hSuccess _ hId => ?_⟩
  · exact List.forall_mem_cons.mpr ⟨hEntry, List.forall_mem_singleton.mpr rfl⟩
  · rw [hBody hSuccess] at hId
    cases hId

theorem ParentIs.unique {said : Asked} {a b : Uuid} (hA : ParentIs said a) (hB : ParentIs said b) :
    a = b := by
  obtain ⟨_, _, _, hHeadA, hIdA⟩ := hA
  obtain ⟨_, _, _, hHeadB, hIdB⟩ := hB
  cases hHeadA.symm.trans hHeadB
  cases hIdA.symm.trans hIdB
  rfl

theorem lookupWhere_plugin {column : String} {value : SqlParam}
    (h : lookupWhere (plugin lib) (fromStrOrUuid lib path) = some (column, value)) :
    column = "instance_name" ∧ value = .text path := by
  unfold fromStrOrUuid at h
  split at h
  · cases h
  · cases h
    exact ⟨rfl, rfl⟩

/-- A PUT hits the plugin with the identifier of the one that was found, or else of its entity. -/
theorem put_hits (hLib : lib.ReadsIds) (request : NestedRequest)
    (answer : Except KongError (List Row)) {given entity : Json} {params params' : Params}
    {looked : Asked} (hEntry : ∃ table column value, entry.1 = .select .read table column value)
    (hEntity : (plugin lib).fromValue (moment.drawn 0) given = some entity)
    (hParams : Postgres.entityToParams lib entity (plugin lib).schema = .ok params)
    (hLooked : Follows (lookup (plugin lib) (fromStrOrUuid lib path) params) looked
      (.done params')) (hPath : request.pluginIdOrName = path) (row : Row) :
    row.matches "id" (Postgres.idOf params') ↔
      let said := entry :: (looked ++ [(Statement.upsert "plugins" params', answer)])
      (∃ found, request.Finds said found ∧ row.matches "id" (found "id")) ∨
      ((∀ found, ¬ request.Finds said found) ∧ row "id" = .uuid (entityId lib entity)) := by
  obtain ⟨table, column, value, hEntry⟩ := hEntry
  have hId := params_id hLib (plugin_mem lib) hEntity hParams
  -- Only the lookup finds a plugin.
  have hFinds : ∀ found, request.Finds
      (entry :: (looked ++ [(Statement.upsert "plugins" params', answer)])) found ↔
      ∃ rows, (Statement.select .primary "plugins" "instance_name" (.text path),
        .ok (found :: rows)) ∈ looked := by
    intro found
    unfold NestedRequest.Finds
    rw [hPath]
    constructor
    · rintro ⟨rows, hMem⟩
      rcases List.mem_cons.mp hMem with rfl | hMem
      · cases hEntry
      · rcases List.mem_append.mp hMem with hMem | hMem
        · exact ⟨rows, hMem⟩
        · cases List.mem_singleton.mp hMem
    · rintro ⟨rows, hMem⟩
      exact ⟨rows, List.mem_cons_of_mem _ (List.mem_append_left _ hMem)⟩
  have hOwn : row.matches "id" (Postgres.idOf params) ↔ row "id" = .uuid (entityId lib entity) := by
    unfold Postgres.idOf
    rw [hId]
    exact Row.matches_id_iff
  dsimp only
  simp only [hFinds]
  rcases lookup_cases hLooked with ⟨-, rfl, rfl⟩ | ⟨column', value', found, hWhere, rfl, rfl⟩
  · rw [hOwn]
    simp
  · obtain ⟨rfl, rfl⟩ := lookupWhere_plugin hWhere
    by_cases hFound : ∃ plugin rows, found = .ok (plugin :: rows)
    · obtain ⟨plugin, rows, rfl⟩ := hFound
      have hSome : (params.lookup "id").isSome := by
        rw [hId]
        rfl
      unfold Postgres.idOf
      rw [withFound_id hSome]
      constructor
      · intro hMatches
        exact .inl ⟨plugin, ⟨rows, List.mem_singleton_self _⟩, hMatches⟩
      · rintro (⟨other, ⟨others, hMem⟩, hMatches⟩ | ⟨hNone, -⟩)
        · cases List.mem_singleton.mp hMem
          exact hMatches
        · exact absurd ⟨rows, List.mem_singleton_self _⟩ (hNone plugin)
    · have hMissing : ∀ plugin rows, found ≠ .ok (plugin :: rows) :=
        fun plugin rows hEq => hFound ⟨plugin, rows, hEq⟩
      rw [withFound_missing hMissing, hOwn]
      constructor
      · intro hSame
        refine .inr ⟨?_, hSame⟩
        rintro plugin ⟨rows, hMem⟩
        exact hMissing plugin rows (congrArg Prod.snd (List.mem_singleton.mp hMem)).symm
      · rintro (⟨other, ⟨others, hMem⟩, -⟩ | ⟨-, hSame⟩)
        · exact absurd (congrArg Prod.snd (List.mem_singleton.mp hMem)).symm (hMissing other others)
        · exact hSame

theorem put_writes (hLib : lib.ReadsIds) (hParent : ParentIs (entry :: rest) id)
    (hEntry : ∃ table column value, entry.1 = .select .read table column value)
    (h : Follows (updateScopedPlugin lib checks moment path body scope.field id true) rest
      (.done response)) :
    ((∀ entry ∈ rest, entry.1.isWrite = false) ∧ response.isSuccess = false) ∨
    ∃ statement answer, NestedRequest.Writes lib checks
      ⟨scope, parentPath, path, .put moment body⟩ (entry :: rest) response statement answer := by
  rcases doUpsert_cases h with ⟨rfl, hFailed⟩ |
    ⟨given, entity, params, looked, params', answer, hGiven, hEntity, hParams, hLooked, rfl, hResponse⟩
  · exact .inl ⟨fun other hMem => (nomatch hMem), hFailed⟩
  obtain ⟨table, column, value, hEntry⟩ := hEntry
  have hHits := put_hits hLib ⟨scope, parentPath, path, .put moment body⟩ answer
    ⟨table, column, value, hEntry⟩ hEntity hParams hLooked rfl
  refine .inr ⟨.upsert "plugins" params', answer, ⟨entry :: looked, rfl, fun other hMem => ?_⟩, rfl, rfl,
    trivial, trivial, fun row => ?_, fun hSuccess _ _ => ?_⟩
  · rcases List.mem_cons.mp hMem with rfl | hMem
    · rw [hEntry]
      rfl
    · rcases lookup_cases hLooked with ⟨-, rfl, -⟩ | ⟨_, _, _, -, rfl, -⟩
      · cases hMem
      · cases List.mem_singleton.mp hMem
        rfl
  · refine (hHits row).trans (or_congr Iff.rfl (and_congr Iff.rfl ?_))
    constructor
    · intro hSame
      refine ⟨id, entity, hParent, ?_, hSame⟩
      unfold NestedRequest.putEntity
      dsimp only
      rw [hGiven]
      exact hEntity
    · rintro ⟨id', entity', hParent', hPut, hSame⟩
      cases hParent.unique hParent'
      unfold NestedRequest.putEntity at hPut
      dsimp only at hPut
      rw [hGiven] at hPut
      cases hEntity.symm.trans hPut
      exact hSame
  · rw [hResponse] at hSuccess ⊢
    obtain ⟨entity, hUpserted, hEq⟩ := (answerWrite_isSuccess lib (.inl rfl)).mp hSuccess
    rw [hEq]
    exact fetchOne_eq_ok hUpserted

end Writes

/-! ## Isolation -/

section Isolation

variable {lib : Library} {checks : Checks} {request : NestedRequest} {db db' : Database}
  {said : Asked} {response : Response}

/-- A request writes nothing and returns at most a plugin of its parent, or it writes in the end. -/
theorem run_cases (hLib : lib.ReadsIds) (hDb : ∀ table, Postgres.Admits table (db table))
    (hRun : Runs Responds (request.run lib checks) db said response db') :
    ((∀ entry ∈ said, entry.1.isWrite = false) ∧ (response.isSuccess →
      ∃ row ∈ db "plugins", rowToEntity lib (plugin lib) row = .ok response.body ∧
        request.Belongs lib db row)) ∨
    ∃ statement answer, request.Writes lib checks said response statement answer := by
  have hFailed : response.isSuccess = false → response.isSuccess → ∃ row ∈ db "plugins",
      rowToEntity lib (plugin lib) row = .ok response.body ∧
        request.Belongs lib db row := by
    intro hFailed hSuccess
    rw [hFailed] at hSuccess
    cases hSuccess
  have hFollows := hRun.follows
  rw [NestedRequest.run_eq] at hFollows
  rcases withParent_cases hFollows with ⟨rfl, hNot⟩ |
    ⟨column, value, answer, rest, hWhere, rfl, ⟨rfl, hNot⟩ | ⟨parent, rows, entity, rfl, hEntity, hNext⟩⟩
  · exact .inl ⟨fun entry hMem => (nomatch hMem), hFailed hNot⟩
  · exact .inl ⟨List.forall_mem_singleton.mpr rfl, hFailed hNot⟩
  obtain ⟨db₁, hParent, hRest⟩ := answered_cons.mp hRun.answered
  cases hParent.reads rfl
  obtain ⟨id, hId⟩ := (hDb _).identified parent (List.mem_filter.mp hParent.selected).1
  rw [entityId_row hLib (scope_entity_mem _ lib) hEntity hId] at hNext
  have hParentIs : ParentIs ((Statement.select .read (request.scope.entity lib).tableName column value,
      .ok (parent :: rows)) :: rest) id := ⟨_, parent, rows, rfl, hId⟩
  have hNone : (∀ entry ∈ rest, entry.1.isWrite = false) → ∀ entry ∈ (Statement.select .read
      (request.scope.entity lib).tableName column value, .ok (parent :: rows)) :: rest,
        entry.1.isWrite = false := fun hReads => List.forall_mem_cons.mpr ⟨rfl, hReads⟩
  obtain ⟨scope, parentPath, path, method⟩ := request
  cases method with
  | get =>
    obtain ⟨column', value', found, -, rfl, -, hFound⟩ := getScopedPlugin_cases hNext
    refine .inl ⟨hNone (List.forall_mem_singleton.mpr rfl), fun hSuccess => ?_⟩
    obtain ⟨row, rows', plugin, rfl, hPlugin, hMatches, rfl⟩ := hFound hSuccess
    obtain ⟨db₂, hRead, -⟩ := answered_cons.mp hRest
    exact ⟨row, (List.mem_filter.mp hRead.selected).1, hPlugin, column, value, parent, id, hWhere,
      hParent.selected, hId, (pluginScopeMatches_row hLib hPlugin scope id).mp hMatches⟩
  | patch moment body =>
    rcases patch_writes hParentIs rfl hNext with ⟨hReads, hNot⟩ | hWrites
    · exact .inl ⟨hNone hReads, hFailed hNot⟩
    · exact .inr hWrites
  | put moment body =>
    rcases put_writes hLib hParentIs ⟨_, _, _, rfl⟩ hNext with ⟨hReads, hNot⟩ | hWrites
    · exact .inl ⟨hNone hReads, hFailed hNot⟩
    · exact .inr hWrites
  | delete =>
    rcases delete_writes hParentIs rfl hNext with ⟨hReads, hNot⟩ | hWrites
    · exact .inl ⟨hNone hReads, hFailed hNot⟩
    · exact .inr hWrites

theorem answered_reads {db db' : Database} {said : Asked} (h : Answered Responds db said db')
    (hReads : ∀ entry ∈ said, entry.1.isWrite = false) : db' = db := by
  induction h with
  | nil => rfl
  | cons h _ ih =>
    rw [ih fun entry hMem => hReads entry (List.mem_cons_of_mem _ hMem)]
    exact h.reads (hReads _ List.mem_cons_self)

/-- A nested request touches plugins of its parent only, if and only if its comparison is not let
through, or nothing is written, or all plugins that the path names are the parent's. -/
theorem isolated_iff (hLib : lib.ReadsIds) (hDb : ∀ table, Postgres.Admits table (db table))
    (hRun : Runs Responds (request.run lib checks) db said response db') :
    request.Isolated lib db said response ↔
      (request.Unguarded lib said → Carried said → ∀ row ∈ db "plugins",
        request.Names lib checks said row → request.Belongs lib db row) := by
  rcases run_cases hLib hDb hRun with ⟨hReads, hRead⟩ | ⟨statement, answer, hWrites⟩
  · have hNoWrite : ∀ statement rows, (statement, .ok rows) ∈ said → ¬ statement.isWrite := by
      intro statement rows hMem hWrite
      rw [hReads _ hMem] at hWrite
      cases hWrite
    constructor
    · rintro - - ⟨statement, rows, hMem, hWrite⟩
      exact absurd hWrite (hNoWrite statement rows hMem)
    · intro _
      constructor
      · intro statement rows hMem row _ hHits
        exact absurd hHits.isWrite (hNoWrite statement rows hMem)
      · intro hSuccess row hRow id hId hBody
        obtain ⟨found, hFound, hEntity, hBelongs⟩ := hRead hSuccess
        obtain ⟨foundId, hFoundId⟩ := (hDb _).identified found hFound
        have hText := id_of_row hLib (plugin_mem lib) hEntity hFoundId
        rw [hBody] at hText
        injection hText with hText
        injection hText with hText
        cases hLib.text_inj hText
        rw [(hDb _).unique hRow hFound hId hFoundId]
        exact hBelongs
  · obtain ⟨before, rfl, hReads⟩ := hWrites.last
    have hLast : ∀ other rows, (other, .ok rows) ∈ before ++ [(statement, answer)] →
        other.isWrite → other = statement ∧ answer = .ok rows := by
      intro other rows hMem hWrite
      rcases List.mem_append.mp hMem with hMem | hMem
      · rw [hReads _ hMem] at hWrite
        cases hWrite
      · cases List.mem_singleton.mp hMem
        exact ⟨rfl, rfl⟩
    constructor
    · rintro hIsolated - ⟨other, rows, hMem, hWrite⟩ row hRow hNames
      obtain ⟨rfl, -⟩ := hLast other rows hMem hWrite
      exact hIsolated.written other rows hMem row hRow ((hWrites.hits row).mpr hNames)
    · intro hNamed
      constructor
      · intro other rows hMem row hRow hHits
        obtain ⟨rfl, -⟩ := hLast other rows hMem hHits.isWrite
        exact hNamed hWrites.unguarded ⟨other, rows, hMem, hHits.isWrite⟩ row hRow
          ((hWrites.hits row).mp hHits)
      · intro hSuccess row hRow id hId hBody
        obtain ⟨returned, rows, rfl, hEntity⟩ := hWrites.returned hSuccess id hBody
        obtain ⟨db₁, hBefore, hWritten⟩ := answered_append.mp hRun.answered
        cases answered_reads hBefore hReads
        obtain ⟨db₂, hWritten, -⟩ := answered_cons.mp hWritten
        obtain ⟨returnedId, hReturned⟩ := row_id (plugin_mem lib) hEntity
        have hText := id_of_row hLib (plugin_mem lib) hEntity hReturned
        rw [hBody] at hText
        injection hText with hText
        injection hText with hText
        cases hLib.text_inj hText
        have hHits : statement.Hits row := by
          apply hWritten.returned hWrites.isWrite hWrites.keepsId (hDb _) ?_ hId hReturned
          rw [hWrites.table]
          exact hRow
        exact hNamed hWrites.unguarded ⟨statement, _, List.mem_append_right _
          (List.mem_singleton_self _), hWrites.isWrite⟩ row hRow ((hWrites.hits row).mp hHits)

end Isolation

/-! ## A plugin of nobody -/

namespace GlobalPlugin

def request : NestedRequest := ⟨.consumer, (1 : Uuid).text, (9 : Uuid).text, .delete⟩

def parent : Row :=
  .ofParams [("id", .uuid 1), ("created_at", .timestampEpoch 1),
    ("updated_at", .timestampEpoch 1), ("username", .text "u")]

def keyAuth : Row :=
  .ofParams [("id", .uuid 9), ("created_at", .timestampEpoch 1),
    ("updated_at", .timestampEpoch 1), ("name", .text "key-auth"), ("config", .jsonb (.object [])),
    ("enabled", .boolean true), ("cache_key", .text "key-auth::::")]

def db : Database := Function.update (single "consumers" parent) "plugins" [keyAuth]

def said : Asked :=
  [(.select .read "consumers" "id" (.uuid 1), .ok [parent]),
    (.select .read "plugins" "id" (.uuid 9), .error (.databaseError "connection closed")),
    (.delete "plugins" "id" (.uuid 9), .ok [keyAuth])]

def lib : Library := canonicalIds

theorem run : Runs Responds (request.run lib anyPlugin) db said ⟨204, .null⟩
    (Function.update db "plugins" []) where
  follows := .ask (.ask (.ask (.refl _)))
  answered := by
    refine .cons (.found ?_) (.cons (.refused (.databaseError _)) (.cons .delete (.nil _)))
    exact List.mem_filter.mpr ⟨List.mem_singleton_self _, rfl⟩

theorem admits (table : String) : Postgres.Admits table (db table) := by
  by_cases hPlugins : table = "plugins"
  · subst hPlugins
    refine Postgres.admits_singleton (show keyAuth "id" = .uuid 9 from rfl) ?_ ?_
    · simp [Postgres.notNull, keyAuth, Row.ofParams, Row.set, List.lookup]
    · exact Postgres.SqlType.fits_ofParams (by simp)
  · unfold db
    rw [Function.update_of_ne hPlugins]
    by_cases hConsumers : table = "consumers"
    · subst hConsumers
      refine Postgres.admits_singleton (show parent "id" = .uuid 1 from rfl) ?_ ?_
      · simp [Postgres.notNull]
      · exact Postgres.SqlType.fits_ofParams (by simp)
    · unfold single
      rw [Function.update_of_ne hConsumers]
      exact Postgres.admits_nil table

/-- A plugin that belongs to no consumer is deleted as a consumer's. -/
theorem removed : Runs Responds (request.run lib anyPlugin) db said ⟨204, .null⟩
      (Function.update db "plugins" []) ∧
    ¬ request.Isolated lib db said ⟨204, .null⟩ := by
  refine ⟨run, fun hIsolated => ?_⟩
  obtain ⟨_, _, _, _, -, -, -, hParent⟩ := hIsolated.written _ [keyAuth] (List.mem_of_getElem? (i := 2) rfl)
    keyAuth (List.mem_singleton_self _) rfl
  cases hParent

theorem isolated_iff_sample : request.Isolated lib db said ⟨204, .null⟩ ↔
    (request.Unguarded lib said → Carried said → ∀ row ∈ db "plugins",
      request.Names lib anyPlugin said row → request.Belongs lib db row) :=
  isolated_iff canonicalIds_readsIds admits run

end GlobalPlugin

end KongRust.Crud

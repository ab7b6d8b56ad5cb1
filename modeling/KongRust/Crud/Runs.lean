import KongRust.Crud.Handlers

/-!
# What the handlers ask

The statements of the generic handlers, and the answers they are the ground of. Whatever is refused
before a statement is answered with an error.
-/

namespace KongRust.Crud

open Fallible Postgres.PgDao Dialogue
open Dialogue (Follows)
open Postgres (Entity Library Db Row Statement SqlParam Params PrimaryKey fromStrOrUuid)
open Storage (KongError)

variable {lib : Library} {checks : Checks} {T : Entity} {moment : Moment} {path : String}
  {body : Json} {said : List (Statement × Except KongError (List Row))} {response : Response}

/-! ## Identifiers -/

section Identifiers

variable (hLib : lib.ReadsIds) (hT : T ∈ entities lib)

include hLib

variable {entity : Json} {id : Uuid}

theorem entityId_text (h : entity.get "id" = some (.string id.text)) :
    entityId lib entity = id := by
  unfold entityId textOf
  rw [h]
  change ((lib.parseStr id.text).toOption).getD 0 = id
  rw [hLib id]
  rfl

include hT

theorem entityId_row {row : Row} (h : rowToEntity lib T row = .ok entity)
    (hId : row "id" = .uuid id) : entityId lib entity = id :=
  entityId_text hLib (id_of_row hLib hT h hId)

theorem params_id {drawn : Uuid} {given : Json} {params : Params}
    (hEntity : T.fromValue drawn given = some entity)
    (hParams : Postgres.entityToParams lib entity T.schema = .ok params) :
    params.lookup "id" = some (.uuid (entityId lib entity)) := by
  have hNamed := schema_named lib hT
  obtain ⟨id, hGet⟩ := id_of_fromValue lib hT hEntity
  have hColumn : Postgres.idColumn ∈ T.schema.columns := List.mem_of_mem_head? hNamed.key
  obtain ⟨param, hParam, hLookup⟩ := entityToParams_lookup hNamed hParams hColumn rfl
  have hField : entity.field "id" = .string id.text := by
    unfold Json.field
    rw [hGet]
    rfl
  change Postgres.jsonToSqlParam lib (entity.field "id") .uuid = .ok param at hParam
  rw [hField] at hParam
  change ((Postgres.parseUuid lib _ id.text >>= fun parsed => .ok (.uuid parsed)) :
    Except KongError SqlParam) = .ok param at hParam
  unfold Postgres.parseUuid at hParam
  rw [hLib id] at hParam
  cases hParam
  rw [entityId_text hLib hGet]
  exact hLookup

end Identifiers

theorem violation_isSuccess (violation : Violation) : violation.response.isSuccess = false := rfl

theorem answerWrite_error (status : Nat) (body : Json) (e : KongError) :
    (answerWrite lib status body (.error e)).isSuccess = false :=
  failure_isSuccess lib e body

theorem writePatched_cases {merged : Json}
    (h : Follows (writePatched lib T path merged) said (.done response)) :
    (said = [] ∧ response.isSuccess = false) ∨
    ∃ fields set touch column value answer, merged = .object fields ∧
      setParts lib T fields = .ok set ∧
      writeWhere lib T (fromStrOrUuid lib path) = .ok (column, value) ∧
      said = [(.update T.tableName set touch column value, answer)] ∧
      response = answerWrite lib 200 merged
        (fetchUpdated lib T (fromStrOrUuid lib path) answer) := by
  obtain ⟨first, rest, updated, rfl, hUpdate, hDone⟩ := follows_bind.mp h
  obtain ⟨rfl, hEq⟩ := follows_done.mp hDone
  cases hEq
  rcases update_cases hUpdate with ⟨e, rfl, rfl⟩ | ⟨statement, answer, hStatement, rfl, rfl⟩
  · exact .inl ⟨rfl, answerWrite_error 200 merged e⟩
  · obtain ⟨fields, set, touch, column, value, rfl, hSet, hWhere, rfl⟩ :=
      updateStatement_eq_ok hStatement
    exact .inr ⟨fields, set, touch, column, value, answer, rfl, hSet, hWhere, rfl, rfl⟩

theorem patched_error {given : Json} {found : Except KongError (Option Json)}
    (h : patched checks T moment given found = .error response) : response.isSuccess = false := by
  have hViolation : ∀ {x : Except Violation Json}, x.mapError Violation.response = .error response →
      response.isSuccess = false := by
    intro x hx
    cases x with
    | error violation =>
      cases hx
      exact violation_isSuccess violation
    | ok => cases hx
  unfold patched at h
  split at h
  · exact hViolation h
  · cases h
    rfl
  · exact hViolation h

/-- A PATCH reads, and then it may write. -/
theorem doUpdate_cases
    (h : Follows (doUpdate lib checks T moment path body) said (.done response)) :
    (said = [] ∧ response.isSuccess = false) ∨
    ∃ given column value found rest, updateBody checks T body = .ok given ∧
      writeWhere lib T (fromStrOrUuid lib path) = .ok (column, value) ∧
      said = (.select .read T.tableName column value, found) :: rest ∧
      ((rest = [] ∧ response.isSuccess = false) ∨
      ∃ fields set touch answer, patched checks T moment given (fetchOptional lib T found) =
          .ok (.object fields) ∧
        setParts lib T fields = .ok set ∧
        rest = [(.update T.tableName set touch column value, answer)] ∧
        response = answerWrite lib 200 (.object fields)
          (fetchUpdated lib T (fromStrOrUuid lib path) answer)) := by
  unfold doUpdate at h
  cases hBody : updateBody checks T body with
  | error violation =>
    rw [hBody] at h
    obtain ⟨rfl, hEq⟩ := follows_done.mp h
    cases hEq
    exact .inl ⟨rfl, violation_isSuccess violation⟩
  | ok given =>
    rw [hBody] at h
    obtain ⟨first, rest, found, rfl, hSelect, hNext⟩ := follows_bind.mp h
    have hWritten : (rest = [] ∧ response.isSuccess = false) ∨
        ∃ fields set touch column value answer,
          patched checks T moment given found = .ok (.object fields) ∧
          setParts lib T fields = .ok set ∧
          writeWhere lib T (fromStrOrUuid lib path) = .ok (column, value) ∧
          rest = [(.update T.tableName set touch column value, answer)] ∧
          response = answerWrite lib 200 (.object fields)
            (fetchUpdated lib T (fromStrOrUuid lib path) answer) := by
      cases hMerged : patched checks T moment given found with
      | error refusal =>
        rw [hMerged] at hNext
        obtain ⟨rfl, hEq⟩ := follows_done.mp hNext
        cases hEq
        exact .inl ⟨rfl, patched_error hMerged⟩
      | ok merged =>
        rw [hMerged] at hNext
        rcases writePatched_cases hNext with hNone | ⟨fields, set, touch, column, value, answer, rfl,
          hSet, hWhere, hRest, hResponse⟩
        · exact .inl hNone
        · exact .inr ⟨fields, set, touch, column, value, answer, rfl, hSet, hWhere, hRest,
            hResponse⟩
    rcases select_cases hSelect with ⟨e, hWhere, rfl, rfl⟩ |
      ⟨column, value, answer, hWhere, rfl, rfl⟩
    · rw [selectWhere_path] at hWhere
      rcases hWritten with ⟨rfl, hFailed⟩ | ⟨_, _, _, _, _, _, -, -, hOther, -, -⟩
      · exact .inl ⟨rfl, hFailed⟩
      · cases hWhere.symm.trans hOther
    · rw [selectWhere_path] at hWhere
      refine .inr ⟨given, column, value, answer, rest, rfl, hWhere, rfl, ?_⟩
      rcases hWritten with hNone | ⟨fields, set, touch, column', value', answer', hMerged, hSet,
        hOther, hRest, hResponse⟩
      · exact .inl hNone
      · cases hWhere.symm.trans hOther
        exact .inr ⟨fields, set, touch, answer', hMerged, hSet, hRest, hResponse⟩

theorem doUpsert_cases
    (h : Follows (doUpsert lib checks T moment path body) said (.done response)) :
    (said = [] ∧ response.isSuccess = false) ∨
    ∃ given entity params looked params' answer,
      upsertBody checks T moment lib path body = .ok given ∧
      T.fromValue (moment.drawn 0) given = some entity ∧
      Postgres.entityToParams lib entity T.schema = .ok params ∧
      Follows (lookup T (fromStrOrUuid lib path) params) looked (.done params') ∧
      said = looked ++ [(.upsert T.tableName params', answer)] ∧
      response = answerWrite lib 200 given (fetchOne lib T answer) := by
  unfold doUpsert at h
  cases hBody : upsertBody checks T moment lib path body with
  | error violation =>
    rw [hBody] at h
    obtain ⟨rfl, hEq⟩ := follows_done.mp h
    cases hEq
    exact .inl ⟨rfl, violation_isSuccess violation⟩
  | ok given =>
    rw [hBody] at h
    dsimp only at h
    cases hEntity : T.fromValue (moment.drawn 0) given with
    | none =>
      rw [hEntity] at h
      obtain ⟨rfl, hEq⟩ := follows_done.mp h
      cases hEq
      exact .inl ⟨rfl, rfl⟩
    | some entity =>
      rw [hEntity] at h
      obtain ⟨first, rest, result, rfl, hUpsert, hDone⟩ := follows_bind.mp h
      obtain ⟨rfl, hEq⟩ := follows_done.mp hDone
      cases hEq
      rcases upsert_cases hUpsert with ⟨e, rfl, rfl⟩ |
        ⟨params, looked, params', answer, hParams, hLooked, rfl, rfl⟩
      · exact .inl ⟨rfl, answerWrite_error 200 given e⟩
      · refine .inr ⟨given, entity, params, looked, params', answer, rfl, hEntity, hParams, hLooked,
          ?_, rfl⟩
        rw [List.append_nil]

theorem doDelete_cases (h : Follows (doDelete lib T path) said (.done response)) :
    (∃ e, writeWhere lib T (fromStrOrUuid lib path) = .error e ∧ said = []) ∨
    ∃ column value answer, writeWhere lib T (fromStrOrUuid lib path) = .ok (column, value) ∧
      said = [(.delete T.tableName column value, answer)] := by
  obtain ⟨first, rest, result, rfl, hDelete, hDone⟩ := follows_bind.mp h
  have hRest : rest = [] := by
    split at hDone
    all_goals exact (follows_done.mp hDone).1
  rw [hRest, List.append_nil]
  rcases delete_cases hDelete with ⟨e, hWhere, hNone, -⟩ | hAsked
  · exact .inl ⟨e, hWhere, hNone⟩
  · exact .inr hAsked

theorem doDelete_body (h : Follows (doDelete lib T path) said (.done response))
    (hSuccess : response.isSuccess) : response.body = .null := by
  obtain ⟨first, rest, result, rfl, -, hDone⟩ := follows_bind.mp h
  split at hDone
  · obtain ⟨-, hEq⟩ := follows_done.mp hDone
    cases hEq
    rfl
  · rename_i e
    obtain ⟨-, hEq⟩ := follows_done.mp hDone
    cases hEq
    by_cases hMissing : statusCode e = 404
    · rw [if_pos hMissing]
    · rw [if_neg hMissing] at hSuccess
      rw [isSuccess_of_ge (statusCode_ge e)] at hSuccess
      cases hSuccess

end KongRust.Crud

import KongRust.Crud.Runs

/-!
# Plugins of a service, a route or a consumer

The handlers under `/services/{parent}/plugins`, `/routes/{parent}/plugins` and
`/consumers/{parent}/plugins`. The plugin is looked up and compared with the parent before it is
changed or deleted.
-/

namespace KongRust.Crud

open Postgres (Entity Library Db fromStrOrUuid)
open Storage (KongError)

section Scoped

variable (lib : Library) (checks : Checks)

/-- `ForeignKey::new`. -/
def foreignKeyTo (id : Uuid) : Json := .object [("id", .string id.text)]

def scopeOf (plugin : Json) (scopeField : String) : Option Uuid :=
  (textOf (plugin.field scopeField) "id").bind fun s => (lib.parseStr s).toOption

def pluginScopeMatches (plugin : Json) (scopeField : String) (scopeId : Uuid) : Bool :=
  if scopeField = "service" ∨ scopeField = "route" ∨ scopeField = "consumer" then
    scopeOf lib plugin scopeField == some scopeId
  else false

variable (pluginIdOrName scopeField : String)

def getScopedPlugin (pluginIdOrName scopeField : String) (scopeId : Uuid) : Db Response := do
  match ← Postgres.PgDao.select lib (plugin lib) (fromStrOrUuid lib pluginIdOrName) with
  | .ok (some found) =>
    return if pluginScopeMatches lib found scopeField scopeId then ⟨200, found⟩
      else notFoundIn "plugins"
  | .ok none => return notFoundIn "plugins"
  | .error e => return plainFailure e

/-- The parent in a body, unless the body gives `null` for it. -/
def injectScope (scopeField : String) (scopeId : Uuid) (body : Json) : Json :=
  if ((body.get scopeField).map Json.isNull).getD false then body
  else body.setField scopeField (foreignKeyTo scopeId)

def updateScopedPlugin (moment : Moment) (pluginIdOrName : String) (body : Json)
    (scopeField : String) (scopeId : Uuid) (upsert : Bool) : Db Response :=
  if upsert then
    doUpsert lib checks (plugin lib) moment pluginIdOrName (injectScope scopeField scopeId body)
  else do
    let existing ← getScopedPlugin lib pluginIdOrName scopeField scopeId
    if existing.status = 404 then pure existing
    else
      doUpdate lib checks (plugin lib) moment pluginIdOrName (injectScope scopeField scopeId body)

def deleteScopedPlugin (pluginIdOrName scopeField : String) (scopeId : Uuid) : Db Response := do
  let existing ← getScopedPlugin lib pluginIdOrName scopeField scopeId
  if existing.status = 404 then pure (notFoundIn "plugins")
  else doDelete lib (plugin lib) pluginIdOrName

end Scoped

/-! ## The endpoints -/

/-- The entity types that plugins belong to. -/
inductive Scope where
  | service
  | route
  | consumer
  deriving DecidableEq

def Scope.field : Scope → String
  | .service => "service"
  | .route => "route"
  | .consumer => "consumer"

def Scope.entity (lib : Library) : Scope → Entity
  | .service => Crud.service lib
  | .route => Crud.route lib
  | .consumer => Crud.consumer lib

def Scope.column : Scope → String
  | .service => "service_id"
  | .route => "route_id"
  | .consumer => "consumer_id"

theorem Scope.column_mem (scope : Scope) :
    ⟨scope.field, scope.column, .foreignKey, true, true⟩ ∈ Postgres.pluginSchema.columns := by
  cases scope <;> decide

theorem Scope.field_mem (scope : Scope) (lib : Library) :
    Serde.Field.opt scope.field (foreignKey lib) ∈ (plugin lib).struct 0 := by
  cases scope <;> simp [plugin, Scope.field]

section Read

variable {lib : Library} (hLib : lib.ReadsIds)

include hLib

section

variable {row : Postgres.Row} {entity : Json}
  (h : Postgres.PgDao.rowToEntity lib (plugin lib) row = .ok entity) (scope : Scope) (id : Uuid)
include h

/-- A plugin that is read has the parents of its row. -/
theorem scopeOf_row : scopeOf lib entity scope.field = some id ↔ row scope.column = .uuid id := by
  have hPlugin : plugin lib ∈ entities lib := by simp [entities]
  obtain ⟨value, hValue, hField⟩ := Postgres.PgDao.rowToEntity_field (schema_named lib hPlugin)
    (struct_nodup lib hPlugin 0) h scope.column_mem (scope.field_mem lib) rfl
  unfold Postgres.extractColumnValue at hValue
  dsimp only at hValue hField
  unfold scopeOf
  cases hRow : row scope.column with
  | null =>
    rw [hRow] at hValue
    cases hValue
    have hNull : some Json.null = some (entity.field scope.field) := hField
    rw [← Option.some.inj hNull]
    constructor
    · intro hEq
      cases hEq
    · intro hEq
      cases hEq
  | uuid parent =>
    rw [hRow] at hValue
    cases hValue
    have hKey : foreignKey lib (.object [("id", .string parent.text)]) =
      some (entity.field scope.field) := hField
    rw [foreignKey_text hLib] at hKey
    rw [← Option.some.inj hKey]
    change ((lib.parseStr parent.text).toOption = some id) ↔ _
    rw [hLib parent]
    constructor
    · intro hEq
      cases hEq
      rfl
    · intro hEq
      cases hEq
      rfl
  | _ =>
    rw [hRow] at hValue
    cases hValue

theorem pluginScopeMatches_row :
    pluginScopeMatches lib entity scope.field id = true ↔ row scope.column = .uuid id := by
  have hScope : scope.field = "service" ∨ scope.field = "route" ∨ scope.field = "consumer" := by
    cases scope <;> decide
  unfold pluginScopeMatches
  rw [if_pos hScope, beq_iff_eq]
  exact scopeOf_row hLib h scope id

end

end Read

section Endpoints

variable (lib : Library) (checks : Checks) (scope : Scope)

def withParent (scope : Scope) (parentIdOrName : String) (next : Uuid → Db Response) :
    Db Response := do
  match ← Postgres.PgDao.select lib (scope.entity lib) (fromStrOrUuid lib parentIdOrName) with
  | .ok (some parent) => next (entityId lib parent)
  | .ok none => return ⟨404, .ofFields [("message", .string (scope.field ++ " not found"))]⟩
  | .error e => return plainFailure e

variable (moment : Moment)

variable (parentIdOrName pluginIdOrName : String)

def getNestedPlugin (scope : Scope) (parentIdOrName pluginIdOrName : String) : Db Response :=
  withParent lib scope parentIdOrName fun id => getScopedPlugin lib pluginIdOrName scope.field id

def updateNestedPlugin (scope : Scope) (moment : Moment) (parentIdOrName pluginIdOrName : String)
    (body : Json) : Db Response :=
  withParent lib scope parentIdOrName fun id =>
    updateScopedPlugin lib checks moment pluginIdOrName body scope.field id false

def upsertNestedPlugin (scope : Scope) (moment : Moment) (parentIdOrName pluginIdOrName : String)
    (body : Json) : Db Response :=
  withParent lib scope parentIdOrName fun id =>
    updateScopedPlugin lib checks moment pluginIdOrName body scope.field id true

def deleteNestedPlugin (scope : Scope) (parentIdOrName pluginIdOrName : String) : Db Response :=
  withParent lib scope parentIdOrName fun id =>
    deleteScopedPlugin lib pluginIdOrName scope.field id

def getServicePlugin := getNestedPlugin lib .service
def getRoutePlugin := getNestedPlugin lib .route
def getConsumerPlugin := getNestedPlugin lib .consumer
def updateServicePlugin := updateNestedPlugin lib checks .service
def updateRoutePlugin := updateNestedPlugin lib checks .route
def updateConsumerPlugin := updateNestedPlugin lib checks .consumer
def upsertServicePlugin := upsertNestedPlugin lib checks .service
def upsertRoutePlugin := upsertNestedPlugin lib checks .route
def upsertConsumerPlugin := upsertNestedPlugin lib checks .consumer
def deleteServicePlugin := deleteNestedPlugin lib .service
def deleteRoutePlugin := deleteNestedPlugin lib .route
def deleteConsumerPlugin := deleteNestedPlugin lib .consumer

end Endpoints

end KongRust.Crud

import KongRust.Foundation.Json
import KongRust.Foundation.Machine
import KongRust.Foundation.Table

/-!
# The DB-less store

`DblessStore::load_from_json`. A load clears the store before it reads the entities, so one that
fails half-way leaves a part of the new configuration behind. Locks are never poisoned.
-/

namespace KongRust.Storage

inductive KongError where
  | databaseError (message : String)
  | notFound (entityType : String) (id : String)
  | validationError (message : String)
  | uniqueViolation (message : String)
  | foreignKeyViolation (message : String)
  | configError (message : String)
  | serializationError (message : String)
  | internalError (message : String)
  deriving DecidableEq

/-- `HashMap`s, by key. -/
abbrev Map (κ V : Type) := AList fun _ : κ => V

/-- Tables by their names; the endpoint keys and the foreign keys point to identifiers. -/
structure DblessStore where
  data : Map String (Map Uuid Json)
  endpointKeys : Map String (Map String Uuid)
  foreignKeys : Map String (Map String (Map Uuid (List Uuid)))

def DblessStore.new : DblessStore := ⟨∅, ∅, ∅⟩

/-- `Uuid::parse_str` and the identifiers that `Uuid::new_v4` draws. -/
structure UuidLibrary where
  parse : String → Option Uuid
  draw : Nat → Uuid

section Loading

variable (uuids : UuidLibrary)

/-- `extract_uuid`, without its message. -/
def extractUuid (value : Json) (field : String) : Option Uuid :=
  ((value.get field).bind Json.asStr).bind uuids.parse

def fkFields : String → List String
  | "routes" => ["service"]
  | "targets" => ["upstream"]
  | "plugins" => ["route", "service", "consumer"]
  | "snis" => ["certificate"]
  | "keys" => ["set"]
  | "ai_models" => ["provider_id"]
  | "ai_virtual_keys" => ["consumer_id"]
  | _ => []

/-- The identifier that a foreign key names, as an object with an `id` or as a string. -/
def fkId (fk : Json) : Option Uuid :=
  match fk with
  | .object _ => ((fk.get "id").bind Json.asStr).bind uuids.parse
  | _ => fk.asStr.bind uuids.parse

def pushFk (tableFks : Map String (Map Uuid (List Uuid))) (field : String) (fk entityId : Uuid) :
    Map String (Map Uuid (List Uuid)) :=
  let ids := (tableFks.lookup field).getD ∅
  tableFks.insert field (ids.insert fk ((ids.lookup fk).getD [] ++ [entityId]))

def buildFkIndex (foreignKeys : Map String (Map String (Map Uuid (List Uuid))))
    (tableName : String) (entity : Json) : Map String (Map String (Map Uuid (List Uuid))) :=
  match extractUuid uuids entity "id" with
  | none => foreignKeys
  | some entityId =>
    let tableFks := (fkFields tableName).foldl (fun tableFks field =>
      match (entity.get field).bind (fkId uuids) with
      | some fk => pushFk tableFks field fk entityId
      | none => tableFks) ((foreignKeys.lookup tableName).getD ∅)
    foreignKeys.insert tableName tableFks

/-- A store that is being loaded, and how many identifiers were drawn. -/
structure Loading where
  store : DblessStore
  drawn : Nat

/-- The entity with its identifier, which is drawn where it has none. -/
def identify (drawn : Nat) (entity : Json) : Uuid × Json × Nat :=
  match extractUuid uuids entity "id" with
  | some id => (id, entity, drawn)
  | none =>
    (uuids.draw drawn, entity.setField "id" (.string (uuids.draw drawn).text), drawn + 1)

def endpointKeyOf (endpointKey : String) (entity : Json) : Option String :=
  if endpointKey = "" then none else (entity.get endpointKey).bind Json.asStr

def loadEntity (tableName endpointKey : String) (loading : Loading) (entityJson : Json) :
    Loading :=
  let (id, entity, drawn) := identify uuids loading.drawn entityJson
  let store := loading.store
  let keys := (store.endpointKeys.lookup tableName).getD ∅
  let table := (store.data.lookup tableName).getD ∅
  let endpointKeys :=
    match endpointKeyOf endpointKey entity with
    | some key => store.endpointKeys.insert tableName (keys.insert key id)
    | none => store.endpointKeys
  ⟨⟨store.data.insert tableName (table.insert id entity), endpointKeys,
    buildFkIndex uuids store.foreignKeys tableName entity⟩, drawn⟩

/-- The tables of an entity type exist once the configuration has a list of them. -/
def openTable (tableName : String) (store : DblessStore) : DblessStore where
  data := store.data.insert tableName ((store.data.lookup tableName).getD ∅)
  endpointKeys := store.endpointKeys.insert tableName ((store.endpointKeys.lookup tableName).getD ∅)
  foreignKeys := store.foreignKeys

/-- The entity types with their endpoint keys, in the order they are loaded. -/
def entityTypes : List (String × String) :=
  [("services", "name"), ("routes", "name"), ("consumers", "username"), ("upstreams", "name"),
    ("targets", ""), ("plugins", ""), ("certificates", ""), ("snis", "name"),
    ("ca_certificates", ""), ("vaults", "prefix"), ("key_sets", "name"), ("keys", "name"),
    ("ai_providers", "name"), ("ai_models", ""), ("ai_virtual_keys", "name")]

def loadTables (config : Json) :
    List (String × String) → Loading → Except KongError Unit × Loading
  | [], loading => (.ok (), loading)
  | (tableName, endpointKey) :: types, loading =>
    match config.get tableName with
    | none => loadTables config types loading
    | some entities =>
      match entities.asArray with
      | none => (.error (.configError (tableName ++ " 必须是数组")), loading)
      | some items =>
        loadTables config types (items.foldl (loadEntity uuids tableName endpointKey)
          ⟨openTable tableName loading.store, loading.drawn⟩)

def SUPPORTED_FORMAT_VERSIONS : List String := ["1.1", "2.1", "3.0"]

/-- The check of `_format_version`. -/
def checkFormatVersion (config : Json) : Except KongError Unit :=
  match config.get "_format_version" with
  | none => .ok ()
  | some version =>
    match version.asStr with
    | none => .error (.configError "_format_version 必须是字符串")
    | some text =>
      if text ∈ SUPPORTED_FORMAT_VERSIONS then .ok ()
      else .error (.configError ("不支持的 format_version: " ++ text ++ "，支持: " ++
        "[\x221.1\x22, \x222.1\x22, \x223.0\x22]"))

/-- `load_from_json`. -/
def loadFromJson (config : Json) (loading : Loading) : Except KongError Unit × Loading :=
  match config with
  | .object _ =>
    match checkFormatVersion config with
    | .error e => (.error e, loading)
    | .ok () => loadTables uuids config entityTypes ⟨.new, loading.drawn⟩
  | _ => (.error (.configError "声明式配置必须是 JSON 对象"), loading)

end Loading

/-! ## Which configurations are accepted -/

/-- An object of a supported version whose entity types hold lists. -/
structure Acceptable (config : Json) : Prop where
  isObject : ∃ fields, config = .object fields
  version : ∀ value, config.get "_format_version" = some value →
    ∃ text ∈ SUPPORTED_FORMAT_VERSIONS, value = .string text
  lists : ∀ type ∈ entityTypes, ∀ value, config.get type.1 = some value →
    ∃ items, value = .array items

variable {config : Json} {loading : Loading}

theorem loadTables_ok {uuids : UuidLibrary} {types : List (String × String)} :
    (loadTables uuids config types loading).1 = .ok () ↔
      ∀ type ∈ types, ∀ value, config.get type.1 = some value → ∃ items, value = .array items := by
  induction types generalizing loading with
  | nil => simp [loadTables]
  | cons type types ih =>
    rw [List.forall_mem_cons]
    obtain ⟨tableName, endpointKey⟩ := type
    unfold loadTables
    cases hGet : config.get tableName with
    | none => simpa using ih
    | some entities =>
      cases entities with
      | array items => simpa [Json.asArray] using ih
      | _ => simp [Json.asArray]

theorem checkFormatVersion_ok : checkFormatVersion config = .ok () ↔
    ∀ value, config.get "_format_version" = some value →
      ∃ text ∈ SUPPORTED_FORMAT_VERSIONS, value = .string text := by
  unfold checkFormatVersion
  cases hGet : config.get "_format_version" with
  | none => simp
  | some version =>
    cases version with
    | string text => by_cases hMem : text ∈ SUPPORTED_FORMAT_VERSIONS <;> simp [Json.asStr, hMem]
    | _ => simp [Json.asStr]

theorem loadFromJson_ok {uuids : UuidLibrary} :
    (loadFromJson uuids config loading).1 = .ok () ↔ Acceptable config := by
  cases config with
  | object fields =>
    simp only [loadFromJson]
    cases hVersion : checkFormatVersion (.object fields) with
    | error e =>
      simp only [reduceCtorEq, false_iff]
      intro h
      rw [checkFormatVersion_ok.mpr h.version] at hVersion
      cases hVersion
    | ok _ =>
      constructor
      · intro h
        exact ⟨⟨fields, rfl⟩, checkFormatVersion_ok.mp hVersion, loadTables_ok.mp h⟩
      · intro h
        exact loadTables_ok.mpr h.lists
  | _ =>
    simp only [loadFromJson, reduceCtorEq, false_iff]
    rintro ⟨⟨fields, hFields⟩, -, -⟩
    cases hFields

end KongRust.Storage

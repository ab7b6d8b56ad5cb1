import KongRust.Storage.Dbless
import Mathlib.Data.List.Sort

/-!
# The tables behind the Admin API

The tables that the handlers write, with the rows that a deletion takes along. What the database
refuses, and what its constraints forbid, is left to the environment of a call; the answers here
are those of the DAO itself. In DB-less mode the tables are the entities of the declarative
configuration.
-/

namespace KongRust.Admin

open Storage (KongError UuidLibrary DblessStore checkFormatVersion loadFromJson)

inductive EntityType where
  | services
  | routes
  | consumers
  | plugins
  | upstreams
  | targets
  | certificates
  | snis
  | caCertificates
  | vaults
  | keySets
  | keys
  | aiProviders
  | aiModels
  | aiVirtualKeys
  deriving DecidableEq

def EntityType.tableName : EntityType → String
  | .services => "services"
  | .routes => "routes"
  | .consumers => "consumers"
  | .plugins => "plugins"
  | .upstreams => "upstreams"
  | .targets => "targets"
  | .certificates => "certificates"
  | .snis => "snis"
  | .caCertificates => "ca_certificates"
  | .vaults => "sm_vaults"
  | .keySets => "key_sets"
  | .keys => "keys"
  | .aiProviders => "ai_providers"
  | .aiModels => "ai_models"
  | .aiVirtualKeys => "ai_virtual_keys"

/-- The tables whose rows go with a row of this one: `ON DELETE CASCADE`. -/
def EntityType.cascades : EntityType → List EntityType
  | .services => [.plugins]
  | .routes => [.plugins]
  | .consumers => [.plugins]
  | .upstreams => [.targets]
  | .certificates => [.snis]
  | .keySets => [.keys]
  | .aiProviders => [.aiModels]
  | _ => []

/-- The tables whose rows lose their reference to a row of this one: `ON DELETE SET NULL`. -/
def EntityType.clears : EntityType → List EntityType
  | .consumers => [.aiVirtualKeys]
  | _ => []

structure Row where
  id : Uuid
  /-- The column that `T::endpoint_key()` names. -/
  endpointKey : Option String
  /-- The rows of other tables that this one names. -/
  refs : List (EntityType × Uuid)
  /-- The other columns. -/
  fields : Json

def Row.references (row : Row) (type : EntityType) (id : Uuid) : Bool := (type, id) ∈ row.refs

def Row.refer (row : Row) (type : EntityType) (id : Uuid) : Row :=
  { row with refs := row.refs ++ [(type, id)] }

abbrev Store := EntityType → List Row

inductive PrimaryKey where
  | id (uuid : Uuid)
  | endpointKey (key : String)

def PrimaryKey.matches (pk : PrimaryKey) (row : Row) : Bool :=
  match pk with
  | .id uuid => row.id == uuid
  | .endpointKey key => row.endpointKey == some key

/-- `Debug` of a key. -/
def PrimaryKey.debug : PrimaryKey → String
  | .id uuid => "Id(" ++ Uuid.text uuid ++ ")"
  | .endpointKey key => "EndpointKey(\x22" ++ key ++ "\x22)"

variable (store : Store)

def select (store : Store) (type : EntityType) (pk : PrimaryKey) : Option Row :=
  (store type).find? pk.matches

/-- `select_by_foreign_key`. -/
def selectByForeignKey (store : Store) (type owner : EntityType) (id : Uuid) : List Row :=
  (store type).filter fun row => row.references owner id

inductive Call where
  | insert (type : EntityType) (row : Row)
  | update (type : EntityType) (pk : PrimaryKey) (set : Row → Row)
  | upsert (type : EntityType) (pk : PrimaryKey) (row : Row)
  | delete (type : EntityType) (pk : PrimaryKey)
  /-- `DblessStore::load_from_json`, and how many identifiers were drawn before. -/
  | loadFromJson (config : Json) (drawn : Nat)

variable (rows : List Row)

def insertRow (rows : List Row) (row : Row) : List Row :=
  rows.orderedInsert (fun a b => a.id ≤ b.id) row

def updateRows (rows : List Row) (pk : PrimaryKey) (set : Row → Row) : List Row :=
  rows.map fun row => if pk.matches row then { set row with id := row.id } else row

/-- An upsert by endpoint key takes the identifier of the row that has the key. -/
def upsertRow (rows : List Row) (pk : PrimaryKey) (row : Row) : List Row :=
  let id :=
    match pk with
    | .id _ => row.id
    | .endpointKey _ => ((rows.find? pk.matches).map Row.id).getD row.id
  if rows.any fun other => other.id == id then updateRows rows (.id id) fun _ => row
  else insertRow rows { row with id := id }

/-- Without the rows of a table, those that go with them and the references to them. -/
def remove (store : Store) (type : EntityType) (gone : List Uuid) : Store := fun other =>
  if other = type then (store type).filter fun row => row.id ∉ gone
  else if other ∈ type.cascades then
    (store other).filter fun row => gone.all fun id => !row.references type id
  else if other ∈ type.clears then
    (store other).map fun row =>
      { row with refs := row.refs.filter fun ref => ref.1 ≠ type ∨ ref.2 ∉ gone }
  else store other

def matching (store : Store) (type : EntityType) (pk : PrimaryKey) : List Uuid :=
  ((store type).filter pk.matches).map Row.id

def notFound (type : EntityType) (pk : PrimaryKey) : KongError :=
  .notFound type.tableName pk.debug

/-- The calls of `PgDao`. -/
def runPostgres (call : Call) (store : Store) : Except KongError Unit × Store :=
  match call with
  | .insert type row => (.ok (), Function.update store type (insertRow (store type) row))
  | .update type pk set =>
    if (matching store type pk).isEmpty then (.error (notFound type pk), store)
    else (.ok (), Function.update store type (updateRows (store type) pk set))
  | .upsert type pk row => (.ok (), Function.update store type (upsertRow (store type) pk row))
  | .delete type pk =>
    if (matching store type pk).isEmpty then (.error (notFound type pk), store)
    else (.ok (), remove store type (matching store type pk))
  | .loadFromJson _ _ => (.ok (), store)

/-- The tables of a declarative configuration, whose entities `decode` reads. -/
def tablesOf (decode : EntityType → Json → Row) (loaded : DblessStore) : Store := fun type =>
  (((loaded.data.lookup type.tableName).getD ∅).entries.map fun entry =>
    decode type entry.2).insertionSort fun a b => a.id ≤ b.id

/-- A configuration that is no object, or of another version, leaves the store as it is; any other
one clears it before its entities are read. -/
def clearsStore (config : Json) : Bool :=
  match config with
  | .object _ => (checkFormatVersion config).isOk
  | _ => false

/-- The calls of `DblessDao`, which writes nothing, and the load of a configuration. -/
def runDbless (uuids : UuidLibrary) (decode : EntityType → Json → Row) (call : Call)
    (store : Store) : Except KongError Unit × Store :=
  match call with
  | .loadFromJson config drawn =>
    match loadFromJson uuids config ⟨.new, drawn⟩ with
    | (.ok (), loading) => (.ok (), tablesOf decode loading.store)
    | (.error e, loading) =>
      (.error e, if clearsStore config then tablesOf decode loading.store else store)
  | _ => (.error (.databaseError "db-less 模式不支持写操作，请使用 /config 端点更新配置"), store)

/-- PostgreSQL, or a declarative configuration in memory. -/
inductive Mode where
  | postgres
  | dbless (uuids : UuidLibrary) (decode : EntityType → Json → Row)

def Mode.run : Mode → Call → Store → Except KongError Unit × Store
  | .postgres => runPostgres
  | .dbless uuids decode => runDbless uuids decode

/-- Whether a call of a DAO has failed. That nothing is there to update or to delete is no
failure, and the load of a configuration is no call of a DAO. -/
def Call.fails (call : Call) (answer : Except KongError Unit) : Bool :=
  match call, answer with
  | .loadFromJson _ _, _ => false
  | _, .ok () => false
  | _, .error (.notFound _ _) => false
  | _, .error _ => true

end KongRust.Admin

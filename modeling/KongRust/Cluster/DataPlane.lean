import KongRust.Cluster.ControlPlane
import KongRust.Storage.Dbless

/-!
# The data plane

`DpBgService::start` as the steps of its one task: it loads the disk cache, connects, takes the
payloads of the control plane and reports its hash in pings. A process may be stopped at any
point; the disk cache is what the next one finds. The hash, the readiness and the disk cache are
written before the store loads the configuration.
-/

namespace KongRust.Cluster

open Storage

/-- A configuration that is being applied, from the disk cache or from a payload. -/
structure Update where
  config : Json
  hash : String
  hashes : ConfigHashes
  cached : Bool

/-- What the task of a data plane does or waits for next. -/
inductive DpStage where
  | starting
  | currentHash (update : Update)
  | currentHashes (update : Update)
  | configReady (update : Update)
  | diskCache (update : Update)
  | loading (update : Update)
  | connecting
  | basicInfo
  | looping
  | pinging
  | disconnected

/-- A ping that was sent, with the hash of the configuration that the store had accepted last. -/
structure Ping where
  hash : String
  served : String
  deriving DecidableEq

/-- One data plane. `accepted` is the hash of the configuration that the store of this process
accepted last and `pings` lists what was sent; no step reads them. -/
structure DataPlane where
  currentHash : String
  currentHashes : ConfigHashes
  configReady : Bool
  connected : Bool
  diskCache : Option String
  dblessStore : Option DblessStore
  drawn : Nat
  refreshes : List String
  stage : DpStage
  accepted : Option String
  pings : List Ping

/-- What lets the task go on. -/
inductive DpAct where
  /-- `try_load_from_cache`; the file may fail to be read. -/
  | loadCache (readable : Bool)
  /-- The next write or load of an update. -/
  | proceed
  /-- `DiskCache::save`; the file system may fail. -/
  | save (written : Bool) (cachedAt : String)
  | connect (ok : Bool)
  /-- A send of a basic info or of a ping returns. -/
  | flushed (ok : Bool)
  | receive (data : Bytes)
  /-- Any other message that leaves the loop running. -/
  | ignore
  | tick
  | close
  | reconnect
  /-- The process is started again, with the store its configuration gives it. -/
  | restart (store : Option DblessStore)

section DataPlane

variable (codec : Codec) (uuids : UuidLibrary) (diskCache : Option String)

/-- A process that starts, with the disk cache that it finds. -/
def DataPlane.start (diskCache : Option String) (store : Option DblessStore) : DataPlane where
  currentHash := EMPTY_CONFIG_HASH
  currentHashes := .default
  configReady := false
  connected := false
  diskCache := diskCache
  dblessStore := store
  drawn := 0
  refreshes := []
  stage := .starting
  accepted := none
  pings := []

/-- `DiskCache::load`, with the file it leaves. A file that is no JSON is removed. -/
def loadCache (diskCache : Option String) (readable : Bool) :
    Option (Json × String) × Option String :=
  match diskCache with
  | none => (none, none)
  | some content =>
    if readable then
      match codec.valueFromStr content with
      | .error _ => (none, none)
      | .ok wrapper =>
        ((wrapper.get "config_table").bind fun config =>
          ((wrapper.get "config_hash").bind Json.asStr).map fun hash => (config, hash), diskCache)
    else (none, diskCache)

/-- `DiskCache::save`. A failure leaves the old file. -/
def saveCache (diskCache : Option String) (config : Json) (hash : String) (written : Bool)
    (cachedAt : String) : Option String :=
  match codec.valueToPretty (.object [("cached_at", .string cachedAt),
      ("config_hash", .string hash), ("config_table", config)]) with
  | .ok content => if written then some content else diskCache
  | .error _ => diskCache

def appliedSignals : List String := ["routes", "services", "plugins", "upstreams", "certificates"]

variable (dp : DataPlane)

/-- The store loads the configuration; without a store nothing happens. A failure is logged. -/
def DataPlane.load (dp : DataPlane) (update : Update) : DataPlane :=
  match dp.dblessStore with
  | none => dp
  | some store =>
    match loadFromJson uuids update.config ⟨store, dp.drawn⟩ with
    | (.ok (), loading) =>
      { dp with
        dblessStore := some loading.store
        drawn := loading.drawn
        refreshes := dp.refreshes ++ appliedSignals
        accepted := some update.hash }
    | (.error _, loading) =>
      { dp with
        dblessStore := some loading.store
        drawn := loading.drawn }

/-- A payload in the message loop: what does not parse or has the current hash is skipped. -/
def DataPlane.receive (dp : DataPlane) (data : Bytes) : DpStage :=
  match parseV1Payload codec data with
  | .error _ => .looping
  | .ok payload =>
    if dp.currentHash = payload.configHash then .looping
    else .currentHash ⟨payload.configTable, payload.configHash,
      payload.hashes.getD (calculateConfigHash codec payload.configTable), false⟩

def startStage : Option (Json × String) → DpStage
  | none => .connecting
  | some (config, hash) => .currentHash ⟨config, hash, calculateConfigHash codec config, true⟩

def Update.next (update : Update) : DpStage := if update.cached then .connecting else .pinging

/-- One step of the task; none where the act is not what it waits for. -/
def DataPlane.step (dp : DataPlane) (act : DpAct) : Option DataPlane :=
  match dp.stage, act with
  | _, .restart store =>
    some { DataPlane.start dp.diskCache store with pings := dp.pings }
  | .starting, .loadCache readable =>
    some { dp with
      diskCache := (loadCache codec dp.diskCache readable).2
      stage := startStage codec (loadCache codec dp.diskCache readable).1 }
  | .currentHash update, .proceed =>
    some { dp with currentHash := update.hash, stage := .currentHashes update }
  | .currentHashes update, .proceed =>
    some { dp with currentHashes := update.hashes, stage := .configReady update }
  | .configReady update, .proceed =>
    some { dp with configReady := true, stage := .diskCache update }
  | .diskCache update, .save written cachedAt =>
    some { dp with
      diskCache := saveCache codec dp.diskCache update.config update.hash written cachedAt
      stage := .loading update }
  | .loading update, .proceed => some { dp.load uuids update with stage := update.next }
  | .connecting, .connect true => some { dp with connected := true, stage := .basicInfo }
  | .connecting, .connect false => some dp
  | .basicInfo, .flushed ok =>
    some { dp with stage := if ok then .looping else .disconnected }
  | .looping, .receive data => some { dp with stage := dp.receive codec data }
  | .looping, .ignore => some dp
  | .looping, .tick => some { dp with stage := .pinging }
  | .looping, .close => some { dp with stage := .disconnected }
  | .pinging, .flushed true =>
    some { dp with
      stage := .looping
      pings := dp.pings ++ [⟨dp.currentHash, dp.accepted.getD EMPTY_CONFIG_HASH⟩] }
  | .pinging, .flushed false => some { dp with stage := .disconnected }
  | .disconnected, .reconnect => some { dp with connected := false, stage := .connecting }
  | _, _ => none

def DataPlane.run (dp : DataPlane) : List DpAct → Option DataPlane
  | [] => some dp
  | act :: acts => (dp.step codec uuids act).bind fun next => next.run acts

end DataPlane

end KongRust.Cluster

import KongRust.Cluster.Protocol
import KongRust.Foundation.Broadcast

/-!
# The control plane

The state that all connections share. Each operation below holds one lock or is one atomic
update; `push_config` takes several of them, one after the other, and other tasks may run between
any two.
-/

namespace KongRust.Cluster

open Broadcast

inductive SyncStatus where
  | unknown
  | normal
  | kongVersionIncompatible
  | pluginSetIncompatible
  | pluginVersionIncompatible
  | filterSetIncompatible
  deriving DecidableEq

/-- Times count nanoseconds. -/
structure DataPlaneInfo where
  id : Uuid
  ip : String
  hostname : String
  version : String
  syncStatus : SyncStatus
  configHash : String
  lastSeen : Int
  labels : List (String × String)
  deriving DecidableEq

/-- The receivers of `configTx` go by the number of their connection. -/
structure ControlPlane where
  dataPlanes : AList fun _ : Uuid => DataPlaneInfo
  configTx : Channel Nat Bytes
  currentHash : String
  currentHashes : ConfigHashes
  currentPayload : Option Bytes
  configVersion : UInt64

namespace ControlPlane

def new : ControlPlane where
  dataPlanes := ∅
  configTx := Channel.new 16
  currentHash := EMPTY_CONFIG_HASH
  currentHashes := .default
  currentPayload := none
  configVersion := 0

variable (cp : ControlPlane)

/-- The first lock of `register_dp`. -/
def insertDataPlane (cp : ControlPlane) (info : DataPlaneInfo) : ControlPlane :=
  { cp with dataPlanes := cp.dataPlanes.insert info.id info }

/-- The end of `register_dp`. -/
def subscribeConfig (cp : ControlPlane) (connection : Nat) : ControlPlane :=
  { cp with configTx := cp.configTx.subscribe connection }

def unregisterDp (cp : ControlPlane) (id : Uuid) : ControlPlane :=
  { cp with dataPlanes := cp.dataPlanes.erase id }

/-- `update_dp_status`. The hash is read while the data planes are locked. -/
def updateDpStatus (cp : ControlPlane) (id : Uuid) (configHash : String) (now : Int) :
    ControlPlane :=
  match cp.dataPlanes.lookup id with
  | none => cp
  | some dp =>
    let seen := { dp with
      configHash := configHash
      lastSeen := now
      syncStatus := if configHash = cp.currentHash then .normal else .unknown }
    { cp with dataPlanes := cp.dataPlanes.insert id seen }

def purgeStaleDps (cp : ControlPlane) (timeoutSecs : Nat) (now : Int) : ControlPlane :=
  { cp with dataPlanes :=
      Table.retain (fun dp => decide (now - timeoutSecs * 10 ^ 9 < dp.lastSeen)) cp.dataPlanes }

def queue (cp : ControlPlane) (connection : Nat) : List Bytes :=
  (cp.configTx.receivers.lookup connection).elim [] Receiver.pending

end ControlPlane

/-! ## Pushing a configuration -/

/-- Where a call of `push_config` stands: what it writes next. -/
inductive Push where
  | idle
  | currentHash (payload : Bytes) (hashes : ConfigHashes)
  | currentHashes (payload : Bytes) (hashes : ConfigHashes)
  | currentPayload (payload : Bytes)
  | configVersion (payload : Bytes)
  | broadcast (payload : Bytes)
  | countDataPlanes

/-- `push_config` up to its first lock. A payload that cannot be built ends the call. -/
def pushConfig (codec : Codec) (configTable : Json) (now : Int) : Except ClusterError Push := do
  let hashes := calculateConfigHash codec configTable
  let payload ← buildV1Payload codec configTable hashes.config hashes now
  return .currentHash payload hashes

/-- The next step of `push_config`. -/
def Push.step (cp : ControlPlane) : Push → ControlPlane × Push
  | .idle => (cp, .idle)
  | .currentHash payload hashes =>
    ({ cp with currentHash := hashes.config }, .currentHashes payload hashes)
  | .currentHashes payload hashes => ({ cp with currentHashes := hashes }, .currentPayload payload)
  | .currentPayload payload => ({ cp with currentPayload := some payload }, .configVersion payload)
  | .configVersion payload =>
    ({ cp with configVersion := cp.configVersion + 1 }, .broadcast payload)
  | .broadcast payload => ({ cp with configTx := cp.configTx.send payload }, .countDataPlanes)
  | .countDataPlanes => (cp, .idle)

def Push.stored : Push → List Bytes
  | .configVersion payload | .broadcast payload => [payload]
  | _ => []

end KongRust.Cluster

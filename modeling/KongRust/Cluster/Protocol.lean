import KongRust.Foundation.Json
import KongRust.Foundation.Machine

/-!
# Cluster messages

The messages between a control plane and its data planes: the reconfigure message of the first
protocol, a gzip of its JSON, and the JSON-RPC messages of the second. A message of the second
protocol stays the value that is written as JSON.
-/

namespace KongRust.Cluster

abbrev Bytes := List UInt8

inductive ClusterError where
  | protocol (message : String)
  | serialization (message : String)
  deriving DecidableEq

structure ConfigHashes where
  config : String
  routes : String
  services : String
  plugins : String
  upstreams : String
  targets : String
  deriving DecidableEq

/-- `ConfigHashes::default`. -/
def ConfigHashes.default : ConfigHashes := ⟨"", "", "", "", "", ""⟩

def EMPTY_CONFIG_HASH : String := "00000000000000000000000000000000"

/-- The timestamp counts milliseconds. -/
structure ReconfigurePayload where
  msgType : String
  timestamp : Int
  configTable : Json
  configHash : String
  hashes : Option ConfigHashes

structure JsonRpcRequest where
  jsonrpc : String
  method : String
  params : Option Json
  id : UInt64

structure JsonRpcError where
  code : Int
  message : String
  data : Option Json

structure JsonRpcResponse where
  jsonrpc : String
  result : Option Json
  error : Option JsonRpcError
  id : UInt64

structure JsonRpcNotification where
  jsonrpc : String
  method : String
  params : Option Json

/-- What the cluster takes from its libraries. -/
structure Codec where
  /-- `md5::compute`, as 32 hexadecimal digits. -/
  md5Hex : String → String
  /-- `Number::to_string` of an `f64`. -/
  floatText : UInt64 → String
  /-- `serde_json::to_vec` of a reconfigure message. -/
  payloadToVec : ReconfigurePayload → Except String Bytes
  /-- `serde_json::from_slice` of a reconfigure message. -/
  payloadFromSlice : Bytes → Except String ReconfigurePayload
  gzipWrite : Bytes → Except String Bytes
  gzipFinish : Bytes → Except String Bytes
  gzipReadToEnd : Bytes → Except String Bytes
  /-- `serde_json::from_str` of a JSON-RPC request. -/
  requestFromStr : String → Except String JsonRpcRequest
  /-- `serde_json::to_vec_pretty` of a value, as text. -/
  valueToPretty : Json → Except String String
  /-- `serde_json::from_str` of a value. -/
  valueFromStr : String → Except String Json
  /-- `Uuid::parse_str`. -/
  parseUuid : String → Option Uuid

section Hashes

variable (codec : Codec)

def numberToString : Number → String
  | .posInt n => toString n.toNat
  | .negInt n => toString n.toInt
  | .float bits => codec.floatText bits

mutual

def toSortedString : Json → String
  | .null => "/null/"
  | .string s => s
  | .number n => numberToString codec n
  | .bool b => if b then "true" else "false"
  | .array items => if items.isEmpty then "\x7b\x7d" else sortedItems items
  | .object fields => if fields.isEmpty then "\x7b\x7d" else sortedFields fields

def sortedItems : List Json → String
  | [] => ""
  | item :: items => toSortedString item ++ ";" ++ sortedItems items

def sortedFields : List (String × Json) → String
  | [] => ""
  | (key, value) :: fields => key ++ ":" ++ toSortedString value ++ ";" ++ sortedFields fields

end

def hashEntity (value : Option Json) : String :=
  codec.md5Hex (toSortedString codec (value.getD .null))

def calculateConfigHash (configTable : Json) : ConfigHashes :=
  let routesHash := hashEntity codec (configTable.get "routes")
  let servicesHash := hashEntity codec (configTable.get "services")
  let pluginsHash := hashEntity codec (configTable.get "plugins")
  let upstreamsHash := hashEntity codec (configTable.get "upstreams")
  let targetsHash := hashEntity codec (configTable.get "targets")
  let rest := ["routes", "services", "plugins", "upstreams", "targets"].foldl
    Json.removeField configTable
  let restHash := hashEntity codec (some rest)
  ⟨codec.md5Hex (routesHash ++ servicesHash ++ pluginsHash ++ upstreamsHash ++ targetsHash ++
    restHash), routesHash, servicesHash, pluginsHash, upstreamsHash, targetsHash⟩

end Hashes

section Reconfigure

variable (codec : Codec) (data : Bytes)

def gzipCompress (data : Bytes) : Except ClusterError Bytes := do
  let written ← (codec.gzipWrite data).mapError fun e => .protocol ("gzip compress: " ++ e)
  (codec.gzipFinish written).mapError fun e => .protocol ("gzip finish: " ++ e)

def gzipDecompress (data : Bytes) : Except ClusterError Bytes :=
  (codec.gzipReadToEnd data).mapError fun e => .protocol ("gzip decompress: " ++ e)

def buildV1Payload (configTable : Json) (configHash : String) (hashes : ConfigHashes) (now : Int) :
    Except ClusterError Bytes := do
  let payload : ReconfigurePayload := ⟨"reconfigure", now, configTable, configHash, some hashes⟩
  let json ← (codec.payloadToVec payload).mapError .serialization
  gzipCompress codec json

def parseV1Payload (data : Bytes) : Except ClusterError ReconfigurePayload := do
  let json ← gzipDecompress codec data
  (codec.payloadFromSlice json).mapError fun e => .protocol ("json decode: " ++ e)

end Reconfigure

def V2_METHOD_INIT : String := "kong.sync.v1.init"
def V2_METHOD_GET_DELTA : String := "kong.sync.v1.get_delta"
def V2_METHOD_NOTIFY_NEW_VERSION : String := "kong.sync.v1.notify_new_version"

def buildV2InitResponse (requestId : UInt64) : JsonRpcResponse :=
  ⟨"2.0", some (.object [("ok", .bool true)]), none, requestId⟩

def buildV2DeltaResponse (requestId : UInt64) (config : Json) (version : UInt64) :
    JsonRpcResponse :=
  ⟨"2.0", some (.object [("config", config), ("version", .number (.posInt version))]), none,
    requestId⟩

def buildV2NotifyNewVersion (version : UInt64) : JsonRpcNotification :=
  ⟨"2.0", V2_METHOD_NOTIFY_NEW_VERSION, some (.object [("version", .number (.posInt version))])⟩

def errorResponse (code : Int) (message : String) (id : UInt64) : JsonRpcResponse :=
  ⟨"2.0", none, some ⟨code, message, none⟩, id⟩

/-- `Display` of a `ClusterError`. -/
def ClusterError.display : ClusterError → String
  | .protocol message => "Protocol error: " ++ message
  | .serialization message => "Serialization error: " ++ message

end KongRust.Cluster

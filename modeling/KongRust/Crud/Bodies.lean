import KongRust.Crud.Entities
import KongRust.Foundation.Net
import KongRust.Foundation.Text

/-!
# Bodies

What the generic handlers check of a body before they ask the database, and what they add to it.
The checks and the defaults of the configurations of the single plugins are parameters.
-/

namespace KongRust.Crud

open Postgres (Entity Library)

structure Response where
  status : Nat
  body : Json

/-- `StatusCode::is_success`. -/
def Response.isSuccess (response : Response) : Bool := 200 ≤ response.status && response.status < 300

/-- The body of an answer to a request that is not valid, whose status is 400. -/
structure Violation where
  body : Json

def Violation.response (violation : Violation) : Response := ⟨400, violation.body⟩

/-- `url::Url`. -/
structure Url where
  scheme : String
  hostStr : Option String
  portOrKnownDefault : Option Nat
  path : String

/-- `Url::parse`, and what is checked and filled in for the plugins. -/
structure Checks where
  parseUrl : String → Option Url
  isValidPluginName : String → Bool
  applyPluginConfigDefaults : String → List (String × Json) → List (String × Json)
  validatePluginConfigForAdmin : String → Json → Option Violation

/-- The clock, and the identifiers that a request draws. -/
structure Moment where
  now : Int
  drawn : Nat → Uuid

def schemaViolation (message : String) (fields : Json) : Violation where
  body := .ofFields [("message", .string message), ("name", .string "schema violation"),
    ("code", .ofInt 2), ("fields", fields)]

def violation (field text : String) : Violation :=
  schemaViolation ("schema violation (" ++ field ++ ": " ++ text ++ ")")
    (.ofFields [(field, .string text)])

def violations : List (String × String) → Option Violation
  | [] => none
  | [(field, text)] => some (violation field text)
  | entries => some (schemaViolation (toString entries.length ++ " schema violations (" ++
      Text.join "; " (entries.map fun entry => entry.1 ++ ": " ++ entry.2) ++ ")")
    (.ofFields (entries.map fun entry => (entry.1, .string entry.2))))

def orRefuse (refusal : Option Violation) : Except Violation Unit :=
  match refusal with
  | some violation => .error violation
  | none => .ok ()

variable (body : Json) (key : String)

def textOf (body : Json) (key : String) : Option String := (body.get key).bind Json.asStr

def entityId (lib : Library) (entity : Json) : Uuid :=
  ((textOf entity "id").bind fun s => (lib.parseStr s).toOption).getD 0

/-- A required text that is missing, `null` or empty. -/
def textMissing (body : Json) (key : String) : Bool :=
  match body.get key with
  | none => true
  | some .null => true
  | some (.string s) => s.isEmpty
  | some _ => false

/-! ## Checks of every write -/

def intFields : String → List String
  | "routes" => ["regex_priority", "https_redirect_status_code", "priority"]
  | "services" => ["port", "retries", "connect_timeout", "write_timeout", "read_timeout",
      "tls_verify_depth"]
  | "upstreams" => ["slots"]
  | "targets" => ["weight"]
  | "ai_models" => ["priority", "weight", "max_tokens", "max_input_tokens"]
  | _ => []

def intViolation (table field : String) (given : Json) : Option (String × String) :=
  if table = "ai_models" ∧ field = "weight" then
    match given.asI64 with
    | some weight =>
      if 0 ≤ weight ∧ weight ≤ 10000 then none
      else some (field, "value should be between 0 and 10000")
    | none => some (field, "expected an integer")
  else if given.isString then some (field, "expected an integer")
  else none

variable (table : String)

def validateIntegerFieldsExt (table : String) (body : Json) (checkRequired : Bool) :
    Option Violation :=
  let found := (intFields table).filterMap fun field => (body.get field).bind (intViolation table field)
  let missing :=
    if table = "services" ∧ checkRequired ∧ textMissing body "host" ∧ found ≠ [] then
      [("host", "required field missing")]
    else []
  violations (found ++ missing)

def validateIntegerFields (table : String) (body : Json) : Option Violation :=
  validateIntegerFieldsExt table body false

def validateIntegerFieldsCreate (table : String) (body : Json) : Option Violation :=
  validateIntegerFieldsExt table body true

def knownArrayFields : List String :=
  ["protocols", "methods", "hosts", "paths", "snis", "sources", "destinations", "ca_certificates",
    "tags"]

def normalizeEmptyObjectsToArrays (body : Json) : Json :=
  knownArrayFields.foldl (fun body field =>
    match body.get field with
    | some (.object []) => body.setField field (.array [])
    | _ => body) body

/-! ## The `url` of a service -/

def validProtocols : List String :=
  ["grpc", "grpcs", "http", "https", "tcp", "tls", "tls_passthrough", "udp"]

def protocolMessage : String :=
  "expected one of: grpc, grpcs, http, https, tcp, tls, tls_passthrough, udp"

def hasExplicitPath (url : String) : Bool :=
  match Text.find "://".toList url.toList with
  | some (_, rest) => rest.contains '/'
  | none => url.toList.contains '/'

def unlessGiven (body : Json) (key : String) (value : Option Json) : Json :=
  match value with
  | some value => if body.contains key then body else body.setField key value
  | none => body

/-- A body without its `url`, which gives the fields that it does not have itself. -/
def takeUrl (parsed : Url) (url : String) (body : Json) : Json :=
  let body := unlessGiven body "protocol" (some (.string parsed.scheme))
  let body := unlessGiven body "host" (parsed.hostStr.map .string)
  let body := unlessGiven body "port" (parsed.portOrKnownDefault.map fun port => .ofInt port)
  if hasExplicitPath url then unlessGiven body "path" (some (.string parsed.path))
  else body.setField "path" .null

/-- What is wrong with the parts of a `url`; a PATCH and a PUT look at its path as well. -/
def urlViolations (checkPath : Bool) (parsed : Url) (url : String) : Option Violation :=
  if (parsed.hostStr.getD "").isEmpty then some (violation "host" "required field missing")
  else if parsed.scheme ∈ validProtocols then none
  else violations ([("protocol", protocolMessage)] ++
    if checkPath && hasExplicitPath url && !Text.startsWith parsed.path "/" then
      [("path", "should start with: /")]
    else [])

section Urls

variable (checks : Checks)

def expandUrl (checkPath : Bool) (body : Json) : Except Violation Json :=
  match textOf body "url" with
  | none => .ok (body.removeField "url")
  | some url =>
    if url.isEmpty then .error (violation "url" "missing host in url")
    else
      match checks.parseUrl url with
      | none => .error ((violations [("host", "required field missing"),
          ("path", "should start with: /")]).getD (violation "host" "required field missing"))
      | some parsed =>
        match urlViolations checkPath parsed url with
        | some violation => .error violation
        | none => .ok (takeUrl parsed url (body.removeField "url"))

def expandUrlShorthand (body : Json) : Except Violation Json := expandUrl checks true body

end Urls

/-! ## Checks of the entity types -/

def nameless (fields : Json) (message : String) : Violation :=
  schemaViolation ("schema violation (" ++ message ++ ")") fields

def entityMessage (message : String) : Json := .ofFields [("@entity", .array [.string message])]

def validateConsumer (body : Json) : Option Violation :=
  let given := fun field => ((textOf body field).map fun s => !s.isEmpty).getD false
  if given "username" || given "custom_id" then none
  else
    let message := "at least one of these fields must be non-empty: 'custom_id', 'username'"
    some (nameless (entityMessage message) message)

def isLabel (label : List Char) : Bool :=
  !label.isEmpty && (label.map Char.utf8Size).sum ≤ 63 &&
    label.all fun c => c.isAlphanum || c == '-' || c == '_'

def validateUpstreamName (name : String) : Option Violation :=
  if Net.isIpAddr name then
    let message := "Invalid name ('" ++ name ++ "'); no ip addresses allowed"
    some (schemaViolation message (.ofFields [("name", .string message)]))
  else if !name.isEmpty && !name.toList.contains ' ' && (Text.split '.' name.toList).all isLabel then
    none
  else
    some (violation "name" ("Invalid name ('" ++ name ++ "'); must be a valid hostname"))

def isValidCookieName (name : String) : Bool :=
  !name.isEmpty && name.toList.all fun c =>
    31 < c.toNat && c.toNat != 127 &&
      !(['(', ')', '<', '>', '@', ',', ';', ':', '\\', '\x22', '/', '?', '=', '\x7b', '\x7d', '[', ']',
        ' ', '\t'].contains c)

def isHeaderChar (c : Char) : Bool := c.isAlphanum || c == '_' || c == '-'

/-- The answer to a violation of several fields, which quotes what is no string. -/
def hashViolation (fields : List (String × Json)) (quoted : List (String × String)) : Violation :=
  schemaViolation ("schema violation (" ++
    Text.join ", " (quoted.map fun entry => entry.1 ++ ": " ++ entry.2) ++ ")") (.ofFields fields)

def conditional (field : String) : Json :=
  .array [.string ("failed conditional validation given value of field '" ++ field ++ "'")]

variable (field : String)

def conditionalText (field : String) : String :=
  "[\x22failed conditional validation given value of field '" ++ field ++ "'\x22]"

def conditionalViolation (given field text : String) : Violation :=
  hashViolation [("@entity", conditional given), (field, .string text)]
    [("@entity", conditionalText given), (field, text)]

def fieldViolation (field text : String) : Violation :=
  hashViolation [(field, .string text)] [(field, text)]

/-- The name of a header, which is required. -/
def validateHashHeader (body : Json) (given field : String) : Option Violation :=
  match textOf body field with
  | none => some (conditionalViolation given field "required field missing")
  | some header =>
    if header.isEmpty then some (conditionalViolation given field "required field missing")
    else if header.toList.all isHeaderChar then none
    else some (fieldViolation field ("bad header name '" ++ header ++
      "', allowed characters are A-Z, a-z, 0-9, '_', and '-'"))

def cookieMessage : String :=
  "contains one or more invalid characters. ASCII control characters (0-31;127), space, tab and " ++
    "the characters ()<>@,;:\\\x22/?=\x7b\x7d[] are not allowed."

def validateHashCookie (body : Json) : Option Violation :=
  if (textOf body "hash_on_cookie").any fun cookie => !isValidCookieName cookie then
    some (fieldViolation "hash_on_cookie" cookieMessage)
  else if (textOf body "hash_on_cookie_path").any fun path => !Text.startsWith path "/" then
    some (fieldViolation "hash_on_cookie_path" "should start with: /")
  else none

def hashNames : List String :=
  ["none", "consumer", "ip", "header", "cookie", "path", "query_arg", "uri_capture"]

def fallbackMessage : String :=
  "expected one of: none, ip, header, cookie, path, query_arg, uri_capture"

def validateHashOn (body : Json) (hashOn : String) : Option Violation :=
  if hashOn ∉ hashNames then
    some (fieldViolation "hash_on"
      "expected one of: none, consumer, ip, header, cookie, path, query_arg, uri_capture")
  else if hashOn = "header" then validateHashHeader body "hash_on" "hash_on_header"
  else if hashOn = "cookie" then validateHashCookie body
  else none

def sameHeaders (body : Json) : Bool :=
  match textOf body "hash_on_header", textOf body "hash_fallback_header" with
  | some a, some b => a == b
  | _, _ => false

def validateHashFallback (body : Json) (hashOn hashFallback : String) : Option Violation :=
  if hashOn = "cookie" ∧ hashFallback ≠ "none" then
    some (conditionalViolation "hash_on" "hash_fallback" "expected one of: none")
  else if hashFallback ∉ hashNames then
    some (conditionalViolation "hash_on" "hash_fallback" fallbackMessage)
  else if hashOn = "consumer" ∧ hashFallback = "consumer" then
    some (conditionalViolation "hash_on" "hash_fallback" fallbackMessage)
  else if hashFallback = "header" then
    match validateHashHeader body "hash_fallback" "hash_fallback_header" with
    | some violation => some violation
    | none =>
      if hashOn = "header" ∧ sameHeaders body then
        some (hashViolation [("@entity", .array [.string ("values of these fields must be " ++
            "distinct: 'hash_on_header', 'hash_fallback_header'")])]
          [("@entity", "[\x22values of these fields must be distinct: 'hash_on_header', " ++
            "'hash_fallback_header'\x22]")])
      else none
  else if hashFallback = "cookie" then validateHashCookie body
  else none

def validateUpstreamHashFields (body : Json) : Option Violation :=
  match textOf body "hash_on" with
  | none => none
  | some hashOn =>
    match validateHashOn body hashOn with
    | some violation => some violation
    | none => (textOf body "hash_fallback").bind fun hashFallback =>
      validateHashFallback body hashOn hashFallback

/-- `as_i64`, or the integer of an `as_f64`. -/
def truncated (given : Json) : Option Int :=
  match given.asI64, given with
  | some n, _ => some n
  | none, .number (.posInt n) => some n.toFloat.toInt64.toInt
  | none, .number (.float bits) => some (Float.ofBits bits).toInt64.toInt
  | none, _ => none

def validateUpstream (body : Json) : Option Violation :=
  if textMissing body "name" then some (violation "name" "required field missing")
  else
    match (textOf body "name").bind validateUpstreamName with
    | some violation => some violation
    | none =>
      if ((body.get "slots").bind truncated).any fun n => n < 10 || 65536 < n then
        some (violation "slots" "value should be between 10 and 65536")
      else validateUpstreamHashFields body

/-! ### Routes -/

/-- A field of a route that has something to match. -/
def hasField (body : Json) (field : String) : Bool :=
  match body.get field with
  | some (.array items) => !items.isEmpty
  | some (.object fields) => !fields.isEmpty
  | some .null => false
  | none => false
  | some _ => true

def hasRouting (body : Json) : Bool :=
  ["methods", "hosts", "headers", "paths", "snis", "sources", "destinations"].any (hasField body)

/-- The texts of `protocols`, where it is an array. -/
def protocolsOf (body : Json) : Option (List String) :=
  ((body.get "protocols").bind Json.asArray).map fun items => items.filterMap Json.asStr

def isGrpc (body : Json) : Bool :=
  ((protocolsOf body).map fun protocols => protocols.any fun p => p == "grpc" || p == "grpcs").getD
    false

/-- The first element of `protocols` that is no protocol, counted from one. -/
def badProtocol (body : Json) : Option Nat :=
  ((body.get "protocols").bind Json.asArray).bind fun items =>
    (items.findIdx? fun item => item.asStr.any fun p => p ∉ validProtocols).map (· + 1)

def protocolViolation (i : Nat) : String := "protocols." ++ toString i ++ ": " ++ protocolMessage

def validateProtocols (body : Json) : Option Violation :=
  (badProtocol body).map fun i =>
    schemaViolation ("schema violation (" ++ protocolViolation i ++ ")")
      (.ofFields [("protocols", .array [.string protocolMessage])])

def protoDisplay (body : Json) : String :=
  match protocolsOf body with
  | none => "https"
  | some protocols =>
    if "grpcs" ∈ protocols then "grpcs"
    else if "https" ∈ protocols then "https"
    else if "tls" ∈ protocols then "tls"
    else Text.join "', '" protocols

def validateRouting (body : Json) : Option Violation :=
  if hasRouting body then none
  else
    let fields :=
      if isGrpc body then "'hosts', 'headers', 'paths', 'snis'"
      else "'methods', 'hosts', 'headers', 'paths', 'snis'"
    let message := "must set one of " ++ fields ++ " when 'protocols' is '" ++ protoDisplay body ++ "'"
    some (nameless (entityMessage message) message)

def keepGrpcPath (body : Json) : Json :=
  if isGrpc body then body.setField "strip_path" (.bool false) else body

/-! ### Plugins -/

def pluginFields : List String :=
  ["id", "name", "enabled", "config", "service", "route", "consumer", "protocols", "tags",
    "instance_name", "ordering", "created_at", "updated_at", "cache_key", "ws_id"]

def validateKnownFields (body : Json) : Option Violation :=
  ((body.asObject.getD []).find? fun field => field.1 ∉ pluginFields).map fun field =>
    violation field.1 "unknown field"

section Plugins

variable (checks : Checks)

def pluginName (name : String) : Option Violation :=
  if checks.isValidPluginName name then none
  else
    let message := "plugin '" ++ name ++
      "' not enabled; add it to the 'plugins' configuration property"
    some (schemaViolation ("schema violation (" ++ message ++ ")") (.ofFields [("name", .string message)]))

def validateConfigType (body : Json) : Option Violation :=
  match body.get "config" with
  | none => none
  | some config =>
    if config.isObject || config.isNull then none
    else some (violation "config" "expected a record")

/-- The configuration of a plugin with its defaults, which a body without one has as well. -/
def fillConfig (name : String) (body : Json) : Json :=
  let body := if (body.field "config").isNull then body.setField "config" (.object []) else body
  match body.get "config" with
  | some (.object config) =>
    body.setField "config" (.object (checks.applyPluginConfigDefaults name config))
  | _ => body

/-- The plugin of a new or a replacing body. -/
def checkPlugin (body : Json) : Except Violation Json :=
  match textOf body "name" with
  | none => .ok body
  | some name => do
    orRefuse (pluginName checks name)
    let body := fillConfig checks name body
    orRefuse ((body.get "config").bind (checks.validatePluginConfigForAdmin name))
    return body

/-- The plugin that a PATCH makes. -/
def checkMergedPlugin (body : Json) : Except Violation Json :=
  match textOf body "name" with
  | none => .ok body
  | some name => do
    let body :=
      if name = "ai-rate-limit" ∨ name = "ai-context-compression" then
        let config :=
          match body.get "config" with
          | some (.object config) => config
          | _ => []
        body.setField "config" (.object (checks.applyPluginConfigDefaults name config))
      else body
    orRefuse ((body.get "config").bind (checks.validatePluginConfigForAdmin name))
    return body

end Plugins

/-! ## Bodies that are written -/

section Written

variable (checks : Checks) (T : Entity) (moment : Moment)

/-- The body of `do_update` before it is merged. -/
def updateBody (body : Json) : Except Violation Json := do
  let body ← expandUrlShorthand checks body
  let body := normalizeEmptyObjectsToArrays body
  orRefuse (validateIntegerFields T.tableName body)
  if T.tableName = "plugins" then
    orRefuse (validateKnownFields body)
    orRefuse ((textOf body "name").bind (pluginName checks))
    orRefuse (validateConfigType body)
  return body

/-- One field of a PATCH, laid over the entity. -/
def mergeField (existing : Json) (field : String × Json) : Json :=
  let (key, value) := field
  match (if key = "config" ∨ key = "headers" then existing.get key else none), value with
  | some (.object below), .object above =>
    existing.setField key (.object (above.foldl (fun merged sub =>
      Json.insertField merged sub.1 sub.2) below))
  | _, _ => existing.setField key value

def merge (now : Int) (existing body : Json) : Json :=
  match body with
  | .object fields => (fields.foldl mergeField existing).setField "updated_at" (.ofInt now)
  | other => other

/-- The checks of `do_update` on what it writes. -/
def checkMerged (body : Json) : Except Violation Json :=
  if T.tableName = "plugins" ∧ body.isObject then checkMergedPlugin checks body else .ok body

/-- The entity that the path of a PUT names. -/
def stampUpserted (lib : Library) (idOrName : String) (body : Json) : Json :=
  let body :=
    match lib.parseStr idOrName with
    | .ok id => body.setField "id" (.string id.text)
    | .error _ =>
      match T.endpointKey with
      | some key => body.setField key (.string idOrName)
      | none => body
  (unlessGiven body "created_at" (some (.ofInt moment.now))).setField "updated_at"
    (.ofInt moment.now)

/-- The checks of `do_upsert` on an object. -/
def checkUpserted (body : Json) : Except Violation Json :=
  if !body.isObject then .ok body
  else if T.tableName = "consumers" then do
    orRefuse (validateConsumer body)
    return body
  else if T.tableName = "plugins" then do
    let body ← checkPlugin checks body
    orRefuse (validateConfigType body)
    return body
  else if T.tableName = "upstreams" then do
    orRefuse (validateUpstream body)
    return body
  else if T.tableName = "routes" then do
    orRefuse (validateProtocols body)
    orRefuse (validateRouting body)
    return keepGrpcPath body
  else return body

/-- The body of `do_upsert` as it is read. -/
def upsertBody (lib : Library) (idOrName : String) (body : Json) : Except Violation Json := do
  let body ← expandUrlShorthand checks body
  orRefuse (validateIntegerFieldsCreate T.tableName body)
  checkUpserted checks T (stampUpserted T moment lib idOrName body)

end Written

end KongRust.Crud

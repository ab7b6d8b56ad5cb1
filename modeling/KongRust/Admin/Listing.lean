import KongRust.Admin.Paging

/-!
# The list endpoints

The handlers that answer with a page and the link of the next one, and the routes under which the
server finds them. The DAO writes a link from the name of its table; the response builders add the
tags to it, or write a link of their own. The bodies of the entities in an answer are left out.
-/

namespace KongRust.Admin

open Storage (KongError)

/-! ## Parameters -/

structure ListParams where
  size : Option String
  offset : Option String
  tags : Option String
  customId : Option String
  username : Option String

/-- An answer that is no page. -/
inductive Refusal where
  | options (code : Nat) (name message : String)
  | notFound (message : String)
  | dao (e : KongError)
  | badRequest
  | noRoute

/-- `str::parse::<usize>`. -/
def parseUsize (s : String) : Option Nat :=
  let digits := if s.toList.head? = some '+' then s.toList.tail else s.toList
  if digits ≠ [] ∧ (∀ c ∈ digits, c.isDigit) ∧ Nat.ofDigitChars 10 digits 0 < 2 ^ 64 then
    some (Nat.ofDigitChars 10 digits 0)
  else none

/-- The `tags` parameter, split at its operator. -/
def splitTags (tags : String) : List (List Char) :=
  if Text.contains '/' tags then Text.split '/' tags.toList else Text.split ',' tags.toList

/-- `char::is_control`. -/
def isControl (c : Char) : Bool := c.toNat < 0x20 || (0x7F ≤ c.toNat && c.toNat < 0xA0)

def invalidTags : Refusal :=
  .options 2 "invalid option" "invalid option (tags: invalid filter syntax)"

def ListParams.validateTags (params : ListParams) : Except Refusal Unit :=
  match params.tags with
  | none => .ok ()
  | some tags =>
    if tags.isEmpty then
      .error (.options 2 "invalid option" "invalid option (tags: cannot be null)")
    else if Text.contains '/' tags && Text.contains ',' tags then .error invalidTags
    else if tags.toList.any isControl then .error invalidTags
    else if (splitTags tags).any fun tag => (Text.trim tag).isEmpty ||
        (Text.trim tag).any fun c => c.toNat < 0x20 && c != '\t' then .error invalidTags
    else .ok ()

def ListParams.toPageParams (params : ListParams) : PageParams where
  size := min ((params.size.bind parseUsize).getD 100) 1000
  offset := params.offset
  tags := params.tags.map fun tags => (splitTags tags).map fun tag => String.ofList (Text.trim tag)
  tagsMode := if params.tags.any (Text.contains '/') then .or else .and
  filters := []

/-- The parameters of a query; a repeated one is refused. -/
def ListParams.ofQuery (query : List (String × String)) : Option ListParams :=
  let one := fun name =>
    match query.filter fun entry => entry.1 = name with
    | [] => some none
    | [entry] => some (some entry.2)
    | _ => none
  match one "size", one "offset", one "tags", one "custom_id", one "username" with
  | some size, some offset, some tags, some customId, some username =>
    some ⟨size, offset, tags, customId, username⟩
  | _, _, _, _, _ => none

/-! ## Responses -/

structure Response where
  data : List Row
  next : Option String
  offset : Option String

/-- `{:X}` of half a byte. -/
def hexDigit (v : Nat) : Char := (Nat.digitChar v).toUpper

def encodeTagsParam (tags : String) : String :=
  String.ofList (tags.toList.flatMap fun c =>
    if c ∈ ['/', ',', '-', '_', '.', '~'] ∨ c.isAlphanum then [c]
    else (String.utf8EncodeChar c).flatMap fun b =>
      ['%', hexDigit (b.toNat / 16), hexDigit (b.toNat % 16)])

def buildPageResponseWithTags (page : Page) (tags : Option String) : Response where
  data := page.data
  next := page.next.map fun next =>
    match tags with
    | some tags => if tags.isEmpty then next else next ++ "&tags=" ++ encodeTagsParam tags
    | none => next
  offset := page.offset

def buildPageResponse (page : Page) : Response := buildPageResponseWithTags page none

def buildNestedPageResponse (page : Page) (nextPrefix : String) : Response where
  data := page.data
  next := page.offset.map fun offset => nextPrefix ++ "?offset=" ++ offset
  offset := page.offset

/-! ## Handlers -/

section Handlers

variable (library : OffsetLibrary) (store : Store)

def liftDao (answer : Except KongError Page) : Except Refusal Page := answer.mapError .dao

variable (params : ListParams)

def validateSize (params : ListParams) : Except Refusal Unit :=
  match params.size with
  | some size =>
    if (parseUsize size).isNone then .error (.options 9 "invalid size" "size must be a number")
    else .ok ()
  | none => .ok ()

def validateOffset (params : ListParams) : Except Refusal Unit :=
  match params.offset with
  | some offset =>
    if 4 ≤ Text.len offset ∧
        (∀ c ∈ offset.toList, c.isAlphanum ∨ c = '+' ∨ c = '/' ∨ c = '=') ∧
        2 ≤ Text.len (Text.trimEndMatches '=' offset) then .ok ()
    else .error (.options 7 "invalid offset"
      ("'" ++ offset ++ "' is not a valid offset: bad base64 encoding"))
  | none => .ok ()

def doList (type : EntityType) (params : ListParams) : Except Refusal Response := do
  validateSize params
  validateOffset params
  params.validateTags
  let page ← liftDao (page library store type params.toPageParams)
  return buildPageResponseWithTags page params.tags

def invalidFilter : Refusal := .options 2 "invalid filter syntax" "invalid filter syntax"

/-- The filters that `list_consumers` hands to the DAO. -/
def consumerFilters (params : ListParams) : List (String × String) :=
  (params.customId.map fun customId => ("custom_id", customId)).toList ++
    (params.username.map fun username => ("username", username)).toList

def validateFilters (params : ListParams) : Except Refusal Unit :=
  if params.customId = some "" then .error invalidFilter
  else if params.username = some "" then .error invalidFilter
  else .ok ()

def listConsumers (params : ListParams) : Except Refusal Response := do
  validateFilters params
  params.validateTags
  let page ← liftDao (page library store .consumers
    { params.toPageParams with filters := consumerFilters params })
  return buildPageResponseWithTags page params.tags

def listCertificates (params : ListParams) : Except Refusal Response := do
  params.validateTags
  let page ← liftDao (page library store .certificates params.toPageParams)
  return buildPageResponseWithTags page params.tags

/-- `PrimaryKey::from_str_or_uuid`. -/
def fromStrOrUuid (s : String) : PrimaryKey :=
  match library.parseStr s with
  | .ok id => .id id
  | .error _ => .endpointKey s

def resolve (owner : EntityType) (idOrName : String) : Option Uuid :=
  (select store owner (fromStrOrUuid library idOrName)).map Row.id

/-- `resolve_cert_id_or_name`: any identifier, or the certificate of an SNI. -/
def Listing.resolveCertIdOrName (idOrName : String) : Option Uuid :=
  match library.parseStr idOrName with
  | .ok id => some id
  | .error _ => (select store .snis (.endpointKey idOrName)).bind fun sni =>
      (sni.refs.find? fun ref => ref.1 = .certificates).map Prod.snd

/-- The handlers of the nested lists: the page of the rows that refer to their owner. -/
def listNested (owner type : EntityType) (id : Option Uuid) (message : String)
    (params : ListParams) : Except Refusal Page :=
  match id with
  | none => .error (.notFound message)
  | some id => liftDao (selectPageByForeignKey library store type owner id params.toPageParams)

def listNestedRoutes (service : String) (params : ListParams) : Except Refusal Response := do
  params.validateTags
  let page ← listNested library store .services .routes (resolve library store .services service)
    "service not found" params
  return buildPageResponse page

def listServicePlugins (service : String) (params : ListParams) : Except Refusal Response := do
  params.validateTags
  let page ← listNested library store .services .plugins (resolve library store .services service)
    "service not found" params
  return buildPageResponse page

def listRoutePlugins (route : String) (params : ListParams) : Except Refusal Response := do
  params.validateTags
  let page ← listNested library store .routes .plugins (resolve library store .routes route)
    "route not found" params
  return buildPageResponse page

def listConsumerPlugins (consumer : String) (params : ListParams) : Except Refusal Response := do
  params.validateTags
  let page ← listNested library store .consumers .plugins
    (resolve library store .consumers consumer) "consumer not found" params
  return buildPageResponse page

def listNestedTargets (upstream path : String) (params : ListParams) :
    Except Refusal Response := do
  params.validateTags
  let page ← listNested library store .upstreams .targets
    (resolve library store .upstreams upstream) "upstream not found" params
  return buildNestedPageResponse page (Text.trimEndMatches '/' path)

def listNestedKeys (keySet path : String) (params : ListParams) : Except Refusal Response := do
  params.validateTags
  let page ← listNested library store .keySets .keys (resolve library store .keySets keySet)
    "key_set not found" params
  return buildNestedPageResponse page (Text.trimEndMatches '/' path)

def listCertificateSnis (certificate : String) (params : ListParams) :
    Except Refusal Response := do
  let page ← listNested library store .certificates .snis
    (Listing.resolveCertIdOrName library store certificate) "Not found" params
  return buildPageResponseWithTags page params.tags

/-- `ai_providers::list_models`. -/
def listModels (provider : String) (params : ListParams) : Except Refusal Response := do
  let page ← listNested library store .aiProviders .aiModels
    (resolve library store .aiProviders provider) "ai_providers not found" params
  return buildPageResponse page

end Handlers

/-! ## Routes -/

/-- The lists below a row of another table. -/
inductive Nested where
  | serviceRoutes
  | servicePlugins
  | routePlugins
  | consumerPlugins
  | upstreamTargets
  | certificateSnis
  | keySetKeys
  | providerModels
  deriving DecidableEq

/-- The collections of the list endpoints. -/
inductive Collection where
  | top (type : EntityType)
  | nested (nested : Nested) (parent : String)

def topLevel : List (String × EntityType) :=
  [("services", .services), ("routes", .routes), ("consumers", .consumers),
    ("plugins", .plugins), ("upstreams", .upstreams), ("certificates", .certificates),
    ("snis", .snis), ("ca_certificates", .caCertificates), ("vaults", .vaults),
    ("key-sets", .keySets), ("keys", .keys), ("ai-providers", .aiProviders),
    ("ai-models", .aiModels), ("ai-virtual-keys", .aiVirtualKeys)]

def nestedLists : List ((String × String) × Nested) :=
  [(("services", "routes"), .serviceRoutes), (("services", "plugins"), .servicePlugins),
    (("routes", "plugins"), .routePlugins), (("consumers", "plugins"), .consumerPlugins),
    (("upstreams", "targets"), .upstreamTargets), (("certificates", "snis"), .certificateSnis),
    (("key-sets", "keys"), .keySetKeys), (("ai-providers", "ai-models"), .providerModels)]

/-- The list endpoint of a path: `build_admin_router`, and its fallback, which leaves slashes at
the end away. -/
def routeOf (path : String) : Option Collection :=
  match (Text.split '/' (Text.trimEndMatches '/' path).toList).map String.ofList with
  | ["", name] => (topLevel.lookup name).map .top
  | ["", outer, parent, inner] =>
    if parent.isEmpty then none
    else (nestedLists.lookup (outer, inner)).map fun nested => .nested nested parent
  | ["", "upstreams", parent, "targets", "all"] =>
    if parent.isEmpty then none else some (.nested .upstreamTargets parent)
  | _ => none

/-- What the server uses of `axum` to read the target of a request. -/
structure TargetLibrary where
  /-- The path and the parameters of a target. -/
  read : String → Option (String × List (String × String))
  /-- A segment of a path, decoded. -/
  segment : String → String

/-- The query of a target, its values percent-encoded as `encode_tags_param` does. -/
def queryText (query : List (String × String)) : String :=
  Text.join "&" (query.map fun entry => entry.1 ++ "=" ++ encodeTagsParam entry.2)

/-- Plain paths are read as they are, also without the slashes at their end, and a query as it was
before its encoding. -/
structure TargetLibrary.Lawful (library : TargetLibrary) : Prop where
  plain : ∀ path : String, path.toList.head? = some '/' →
    (∀ c ∈ path.toList, c.isLower ∨ c = '_' ∨ c = '/') → library.read path = some (path, [])
  trimmed : ∀ path : String, library.read path = some (path, []) →
    Text.trimEndMatches '/' path ≠ "" →
      library.read (Text.trimEndMatches '/' path) = some (Text.trimEndMatches '/' path, [])
  query : ∀ (path : String) (query : List (String × String)),
    library.read path = some (path, []) → query ≠ [] →
      (∀ entry ∈ query, ∀ c ∈ entry.1.toList, c.isLower ∨ c = '_') →
        library.read (path ++ "?" ++ queryText query) = some (path, query)

section Server

variable (library : OffsetLibrary) (targets : TargetLibrary) (store : Store)

/-- The handler of a list endpoint. -/
def list (collection : Collection) (path : String) (params : ListParams) :
    Except Refusal Response :=
  match collection with
  | .top .consumers => listConsumers library store params
  | .top .certificates => listCertificates library store params
  | .top type => doList library store type params
  | .nested nested parent =>
    let name := targets.segment parent
    match nested with
    | .serviceRoutes => listNestedRoutes library store name params
    | .servicePlugins => listServicePlugins library store name params
    | .routePlugins => listRoutePlugins library store name params
    | .consumerPlugins => listConsumerPlugins library store name params
    | .upstreamTargets => listNestedTargets library store name path params
    | .certificateSnis => listCertificateSnis library store name params
    | .keySetKeys => listNestedKeys library store name path params
    | .providerModels => listModels library store name params

/-- The answer to a GET request. -/
def get (target : String) : Except Refusal Response :=
  match targets.read target with
  | none => .error .badRequest
  | some (path, query) =>
    match routeOf path with
    | none => .error .noRoute
    | some collection =>
      match ListParams.ofQuery query with
      | none => .error .badRequest
      | some params => list library targets store collection path params

/-- The rows of an answer and of those that its links lead to; none where a link is refused. -/
def follow : Nat → Response → Option (List Row)
  | fuel, response =>
    match response.next, fuel with
    | none, _ => some response.data
    | some _, 0 => none
    | some link, fuel + 1 =>
      match get library targets store link with
      | .error _ => none
      | .ok next => (follow fuel next).map fun rows => response.data ++ rows

end Server

end KongRust.Admin

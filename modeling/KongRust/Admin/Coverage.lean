import KongRust.Foundation.Fallible
import KongRust.Proxy.Plugins

/-!
# Policy coverage of virtual keys

`AiPolicyCoverageIndex`: which plugins are in effect on each route, for the report of the Admin API.
The report looks at the plugins of a route's own workspace; the chains of the proxy know no
workspaces.
-/

namespace KongRust.Admin.Coverage

open Latest Proxy

/-! ## Validation of `ai-rate-limit` -/

structure PluginConfigValidationError where
  field : String
  message : String

def AI_RATE_LIMIT_MAX_LIMIT : Nat := 2147483647

def knownFields : List String :=
  ["limit_by", "tpm_limit", "rpm_limit", "header_name", "error_code", "error_message"]

variable (fields : List (String × Json)) (field : String)

def configField (fields : List (String × Json)) (field : String) : Option Json :=
  (Json.object fields).get field

def validateOptionalLimit (fields : List (String × Json)) (field : String) :
    Except PluginConfigValidationError Unit :=
  match configField fields field with
  | none | some .null => .ok ()
  | some value =>
    if (value.asU64).any fun limit => 1 ≤ limit.toNat ∧ limit.toNat ≤ AI_RATE_LIMIT_MAX_LIMIT then
      .ok ()
    else .error ⟨field, "expected an integer between 1 and " ++
      toString AI_RATE_LIMIT_MAX_LIMIT ++ " or null"⟩

def limitByOf (fields : List (String × Json)) : Except PluginConfigValidationError String :=
  match configField fields "limit_by" with
  | none => .ok "consumer"
  | some (.string value) =>
    if value ∈ ["global", "route", "consumer", "virtual_key"] then .ok value
    else .error ⟨"limit_by", "expected one of: global, route, consumer, virtual_key"⟩
  | some _ => .error ⟨"limit_by", "expected a string"⟩

def validateOptionalText (fields : List (String × Json)) (field : String) :
    Except PluginConfigValidationError Unit :=
  match configField fields field with
  | none | some (.string _) => .ok ()
  | some _ => .error ⟨field, "expected a string"⟩

def validateErrorCode (fields : List (String × Json)) :
    Except PluginConfigValidationError Unit :=
  match configField fields "error_code" with
  | none => .ok ()
  | some value =>
    if (value.asU64).any fun code => code.toNat ≤ 65535 then .ok ()
    else .error ⟨"error_code", "expected an integer between 0 and 65535"⟩

/-- Whether a limit is there and not `null`. -/
def limitConfigured (fields : List (String × Json)) (field : String) : Bool :=
  match configField fields field with
  | none | some .null => false
  | some _ => true

def validateAiRateLimitConfig (config : Json) : Except PluginConfigValidationError Unit := do
  let fields ← match config with
    | .object fields => .ok fields
    | _ => .error ⟨"", "expected a record"⟩
  match fields.find? fun field => field.1 ∉ knownFields with
  | some field => .error ⟨field.1, "unknown field"⟩
  | none => pure ()
  let limitBy ← limitByOf fields
  validateOptionalLimit fields "tpm_limit"
  validateOptionalLimit fields "rpm_limit"
  validateOptionalText fields "header_name"
  validateErrorCode fields
  validateOptionalText fields "error_message"
  let configured := limitConfigured fields "tpm_limit" || limitConfigured fields "rpm_limit"
  if limitBy = "virtual_key" then
    if configured then
      .error ⟨"@entity", "tpm_limit and rpm_limit must be null when limit_by is virtual_key"⟩
    else .ok ()
  else if !configured then
    .error ⟨"@entity", "at least one of tpm_limit or rpm_limit must be configured"⟩
  else .ok ()

/-! ## The topology -/

structure Route where
  id : Uuid
  service : Option Uuid
  wsId : Option Uuid

structure Service where
  id : Uuid
  wsId : Option Uuid
  enabled : Bool

/-- One snapshot of the routes, services and plugins. -/
structure Topology where
  routes : List Route
  services : List Service
  plugins : List Plugin
  defaultWorkspaceId : Uuid

inductive AiPluginKind where
  | keyAuth
  | rateLimit
  | proxy
  deriving DecidableEq

def AiPluginKind.fromName (name : String) : Option AiPluginKind :=
  if name = "ai-key-auth" then some .keyAuth
  else if name = "ai-rate-limit" then some .rateLimit
  else if name = "ai-proxy" then some .proxy
  else none

def AiPluginKind.name : AiPluginKind → String
  | .keyAuth => "ai-key-auth"
  | .rateLimit => "ai-rate-limit"
  | .proxy => "ai-proxy"

structure ScopedPluginKey where
  workspaceId : Uuid
  routeId : Option Uuid
  serviceId : Option Uuid
  kind : AiPluginKind
  deriving DecidableEq

def normalizeWorkspace (workspaceId : Option Uuid) (defaultWorkspaceId : Uuid) : Uuid :=
  workspaceId.getD defaultWorkspaceId

namespace Topology

variable (t : Topology)

def serviceById : AList fun _ : Uuid => Service :=
  collect (t.services.map fun service => (service.id, service))

def routeById : AList fun _ : Uuid => Route :=
  collect (t.routes.map fun route => (route.id, route))

/-- `route_ids_by_service`. -/
def routeIdsByService (serviceId : Uuid) : List Uuid :=
  (t.routes.filter fun route => route.service = some serviceId).map Route.id

def workspaceOf (workspaceId : Option Uuid) : Uuid :=
  normalizeWorkspace workspaceId t.defaultWorkspaceId

/-- The check of a plugin's route; a failure lists the routes that become invalid. -/
def checkRoute (workspaceId : Uuid) (routeId : Option Uuid) : Except (List Uuid) Unit :=
  match routeId with
  | none => .ok ()
  | some routeId =>
    match t.routeById.lookup routeId with
    | none => .error []
    | some route =>
      if t.workspaceOf route.wsId ≠ workspaceId then .error [routeId] else .ok ()

def checkService (workspaceId : Uuid) (routeId serviceId : Option Uuid) :
    Except (List Uuid) Unit :=
  match serviceId with
  | none => .ok ()
  | some serviceId =>
    match t.serviceById.lookup serviceId with
    | none => .error routeId.toList
    | some service =>
      if t.workspaceOf service.wsId ≠ workspaceId then
        .error (match routeId with
          | some routeId => [routeId]
          | none => t.routeIdsByService serviceId)
      else .ok ()

def checkPair (routeId serviceId : Option Uuid) : Except (List Uuid) Unit :=
  match routeId, serviceId with
  | some routeId, some serviceId =>
    if ((t.routeById.lookup routeId).bind Route.service) ≠ some serviceId then .error [routeId]
    else .ok ()
  | _, _ => .ok ()

/-- One turn of the loop over the plugins: the key under which a plugin counts, or the routes that
it makes invalid. -/
def placePlugin (plugin : Plugin) : Except (List Uuid) ScopedPluginKey := do
  if !plugin.enabled then .error []
  let kind ← match AiPluginKind.fromName plugin.name with
    | some kind => .ok kind
    | none => .error []
  if plugin.consumer.isSome then .error []
  let workspaceId := t.workspaceOf plugin.wsId
  t.checkRoute workspaceId plugin.route
  t.checkService workspaceId plugin.route plugin.service
  t.checkPair plugin.route plugin.service
  return ⟨workspaceId, plugin.route, plugin.service, kind⟩

def invalidRoutes : List Uuid :=
  t.plugins.flatMap fun plugin =>
    match t.placePlugin plugin with
    | .ok _ => []
    | .error routeIds => routeIds

def scopedPlugins : AList fun _ : ScopedPluginKey => Plugin :=
  collect (t.plugins.filterMap fun plugin =>
    (t.placePlugin plugin).toOption.map fun key => (key, plugin))

end Topology

def effectivePlugin (plugins : AList fun _ : ScopedPluginKey => Plugin) (workspaceId routeId : Uuid)
    (serviceId : Option Uuid) (kind : AiPluginKind) : Option Plugin :=
  let effective := plugins.lookup ⟨workspaceId, none, none, kind⟩
  let effective := match serviceId with
    | some serviceId =>
      (plugins.lookup ⟨workspaceId, none, some serviceId, kind⟩).or effective
    | none => effective
  let effective := (plugins.lookup ⟨workspaceId, some routeId, none, kind⟩).or effective
  match serviceId with
  | some serviceId =>
    (plugins.lookup ⟨workspaceId, some routeId, some serviceId, kind⟩).or effective
  | none => effective

/-! ## The report -/

/-- What serde reads of the configurations of `ai-key-auth` and `ai-proxy`. -/
structure ConfigReaders where
  /-- `from_value::<AiKeyAuthConfig>` succeeds. -/
  keyAuth : Json → Bool
  /-- `effective_client_protocol` of what `from_value::<AiProxyConfig>` reads. -/
  clientProtocol : Json → Option String

inductive AiRateLimitState where
  | invalid
  | other
  | virtualKey
  deriving DecidableEq

def ConfigReaders.validAiProxy (readers : ConfigReaders) (config : Json) : Bool :=
  (readers.clientProtocol config).any fun protocol => protocol = "openai" ∨ protocol = "anthropic"

def classifyAiRateLimit (config : Json) : AiRateLimitState :=
  match validateAiRateLimitConfig config with
  | .error _ => .invalid
  | .ok () =>
    if ((config.get "limit_by").bind Json.asStr).getD "consumer" = "virtual_key" then .virtualKey
    else .other

structure AiPolicyCoverageSnapshot where
  authEndpointCount : Nat
  enforcedEndpointCount : Nat
  policyErrorCount : Nat
  coverageAvailable : Bool

namespace AiPolicyCoverageSnapshot

def unavailable : AiPolicyCoverageSnapshot := ⟨0, 0, 0, false⟩

def availableEmpty : AiPolicyCoverageSnapshot := ⟨0, 0, 0, true⟩

def countError (coverage : AiPolicyCoverageSnapshot) : AiPolicyCoverageSnapshot :=
  { coverage with policyErrorCount := coverage.policyErrorCount + 1 }

end AiPolicyCoverageSnapshot

section Build

variable (readers : ConfigReaders) (t : Topology) (coverage : AiPolicyCoverageSnapshot)

/-- What the plugins in effect on a callable route add to the report. -/
def countPolicies (coverage : AiPolicyCoverageSnapshot)
    (auth proxy rateLimit : Option Plugin) : AiPolicyCoverageSnapshot :=
  let authValid := auth.any fun plugin => readers.keyAuth plugin.config
  let proxyValid := proxy.any fun plugin => readers.validAiProxy plugin.config
  let rateLimitState := rateLimit.map fun plugin => classifyAiRateLimit plugin.config
  let coverage :=
    if authValid then { coverage with authEndpointCount := coverage.authEndpointCount + 1 }
    else coverage
  let hasInvalidConfig := auth.isSome && !authValid || proxy.isSome && !proxyValid ||
    decide (rateLimitState = some .invalid)
  let requestsVirtualKeyPolicy := decide (rateLimitState = some .virtualKey)
  let incompleteVirtualKeyChain := requestsVirtualKeyPolicy && (!authValid || !proxyValid)
  if hasInvalidConfig || incompleteVirtualKeyChain then coverage.countError
  else if authValid && proxyValid && requestsVirtualKeyPolicy then
    { coverage with enforcedEndpointCount := coverage.enforcedEndpointCount + 1 }
  else coverage

/-- The part of a turn for a route whose service, if it names one, may be called. -/
def coverCallable (coverage : AiPolicyCoverageSnapshot) (route : Route) :
    AiPolicyCoverageSnapshot :=
  if t.invalidRoutes.contains route.id then coverage.countError
  else
    let effective := effectivePlugin t.scopedPlugins (t.workspaceOf route.wsId) route.id
      route.service
    countPolicies readers coverage (effective .keyAuth) (effective .proxy) (effective .rateLimit)

/-- One turn of the loop over the routes. -/
def coverRoute (coverage : AiPolicyCoverageSnapshot) (route : Route) : AiPolicyCoverageSnapshot :=
  match route.service with
  | none => coverCallable readers t coverage route
  | some serviceId =>
    match t.serviceById.lookup serviceId with
    | none => coverage.countError
    | some service =>
      if t.workspaceOf service.wsId ≠ t.workspaceOf route.wsId then coverage.countError
      else if !service.enabled then coverage
      else coverCallable readers t coverage route

structure AiPolicyCoverageIndex where
  defaultWorkspaceId : Uuid
  coverageAvailable : Bool
  byWorkspace : AList fun _ : Uuid => AiPolicyCoverageSnapshot

def AiPolicyCoverageIndex.build : AiPolicyCoverageIndex where
  defaultWorkspaceId := t.defaultWorkspaceId
  coverageAvailable := true
  byWorkspace := t.routes.foldl (fun byWorkspace route =>
    let workspaceId := t.workspaceOf route.wsId
    byWorkspace.insert workspaceId
      (coverRoute readers t ((byWorkspace.lookup workspaceId).getD .availableEmpty) route)) ∅

def AiPolicyCoverageIndex.coverageFor (index : AiPolicyCoverageIndex)
    (workspaceId : Option Uuid) : AiPolicyCoverageSnapshot :=
  if !index.coverageAvailable then .unavailable
  else (index.byWorkspace.lookup
    (normalizeWorkspace workspaceId index.defaultWorkspaceId)).getD .availableEmpty

end Build

/-! ## Keys of plugins -/

theorem AiPluginKind.fromName_iff {name : String} {kind : AiPluginKind} :
    AiPluginKind.fromName name = some kind ↔ name = kind.name := by
  unfold AiPluginKind.fromName
  constructor
  · intro h
    split at h
    · cases h
      assumption
    · split at h
      · cases h
        assumption
      · split at h
        · cases h
          assumption
        · cases h
  · rintro rfl
    cases kind <;> rfl

section Keys

variable {t : Topology}

def Topology.checkScope (t : Topology) (workspaceId : Uuid) (routeId serviceId : Option Uuid) :
    Except (List Uuid) Unit := do
  t.checkRoute workspaceId routeId
  t.checkService workspaceId routeId serviceId
  t.checkPair routeId serviceId

variable {plugin : Plugin} {kind : AiPluginKind}

theorem Topology.placePlugin_of_kind (hEnabled : plugin.enabled = true)
    (hName : plugin.name = kind.name) (hConsumer : plugin.consumer = none) :
    t.placePlugin plugin =
      (t.checkScope (t.workspaceOf plugin.wsId) plugin.route plugin.service).map fun _ =>
        ⟨t.workspaceOf plugin.wsId, plugin.route, plugin.service, kind⟩ := by
  have hKind := AiPluginKind.fromName_iff.mpr hName
  unfold Topology.placePlugin Topology.checkScope
  rw [hEnabled, hKind, hConsumer]
  cases hRoute : t.checkRoute (t.workspaceOf plugin.wsId) plugin.route with
  | error ids => simp [hRoute, bind, Except.bind, Except.map]
  | ok _ =>
    cases hService : t.checkService (t.workspaceOf plugin.wsId) plugin.route plugin.service with
    | error ids => simp [hRoute, hService, bind, Except.bind, Except.map]
    | ok _ =>
      simp only [Bool.not_true, Bool.false_eq_true, if_false, Option.isSome_none, hRoute, hService,
        bind, Except.bind]
      cases t.checkPair plugin.route plugin.service with
      | error ids | ok _ => rfl

theorem Topology.placePlugin_ok {key : ScopedPluginKey} (h : t.placePlugin plugin = .ok key) :
    plugin.enabled = true ∧ plugin.name = key.kind.name ∧ plugin.consumer = none ∧
      key = ⟨t.workspaceOf plugin.wsId, plugin.route, plugin.service, key.kind⟩ := by
  cases hEnabled : plugin.enabled with
  | false => simp [Topology.placePlugin, hEnabled, bind, Except.bind] at h
  | true =>
    cases hKind : AiPluginKind.fromName plugin.name with
    | none => simp [Topology.placePlugin, hEnabled, hKind, bind, Except.bind] at h
    | some kind =>
      cases hConsumer : plugin.consumer with
      | some consumer => simp [Topology.placePlugin, hEnabled, hKind, hConsumer, bind,
          Except.bind] at h
      | none =>
        have hName := AiPluginKind.fromName_iff.mp hKind
        rw [Topology.placePlugin_of_kind hEnabled hName hConsumer] at h
        cases hScope : t.checkScope (t.workspaceOf plugin.wsId) plugin.route plugin.service with
        | error ids =>
          rw [hScope] at h
          cases h
        | ok _ =>
          rw [hScope] at h
          cases h
          exact ⟨rfl, hName, rfl, rfl⟩

theorem Topology.not_mem_of_error {routeId : Uuid} (hValid : routeId ∉ t.invalidRoutes)
    (hPlugin : plugin ∈ t.plugins) {routeIds : List Uuid}
    (h : t.placePlugin plugin = .error routeIds) : routeId ∉ routeIds := by
  intro hMem
  refine hValid (List.mem_flatMap.mpr ⟨plugin, hPlugin, ?_⟩)
  rw [h]
  exact hMem

variable {route : Route}

theorem Topology.lookup_routeById (hRoute : route ∈ t.routes) :
    ∃ found ∈ t.routes, found.id = route.id ∧ t.routeById.lookup route.id = some found := by
  unfold Topology.routeById
  rw [lookup_collect, List.filter_map, List.getLast?_map, Option.map_map]
  cases hLast : (t.routes.filter ((fun entry : Uuid × Route => decide (entry.1 = route.id)) ∘
      fun route => (route.id, route))).getLast? with
  | none =>
    rw [List.getLast?_eq_none_iff, List.filter_eq_nil_iff] at hLast
    exact absurd (decide_eq_true rfl) (hLast route hRoute)
  | some found =>
    have hFound := List.mem_filter.mp (List.mem_of_getLast? hLast)
    exact ⟨found, hFound.1, of_decide_eq_true hFound.2, rfl⟩

/-- The service of a route, when it names one, belongs to the same workspace. -/
def Topology.bound (t : Topology) (route : Route) : Bool :=
  route.service.all fun serviceId => (t.serviceById.lookup serviceId).any fun service =>
    t.workspaceOf service.wsId = t.workspaceOf route.wsId

section

variable (hRoute : route ∈ t.routes) (hBound : t.bound route = true)
  (hValid : route.id ∉ t.invalidRoutes)
include hRoute hBound hValid

/-- A plugin that this route selects passes every check, or the route is invalid. -/
theorem Topology.checkScope_of_valid (hPlugin : plugin ∈ t.plugins)
    (hEnabled : plugin.enabled = true) (hName : plugin.name = kind.name)
    (hConsumer : plugin.consumer = none)
    (hWorkspace : t.workspaceOf plugin.wsId = t.workspaceOf route.wsId)
    (hRouteScope : plugin.route = none ∨ plugin.route = some route.id)
    (hServiceScope : plugin.service = none ∨
      plugin.service.isSome ∧ plugin.service = route.service) :
    t.checkScope (t.workspaceOf plugin.wsId) plugin.route plugin.service = .ok () := by
  have hPlace := Topology.placePlugin_of_kind (t := t) hEnabled hName hConsumer
  have hService : t.checkService (t.workspaceOf plugin.wsId) plugin.route plugin.service =
      .ok () := by
    obtain hNone | ⟨hSome, hEq⟩ := hServiceScope
    · rw [hNone]
      rfl
    · rw [hEq] at hSome
      obtain ⟨serviceId, hId⟩ := Option.isSome_iff_exists.mp hSome
      rw [hEq, hId]
      rw [Topology.bound, hId, Option.all_some, Option.any_eq_true] at hBound
      obtain ⟨service, hLookup, hSame⟩ := hBound
      have hSame := of_decide_eq_true hSame
      unfold Topology.checkService
      dsimp only
      rw [hLookup]
      dsimp only
      rw [if_neg (by rw [hSame, hWorkspace]; exact fun h => h rfl)]
  obtain hNone | hOwn := hRouteScope
  · unfold Topology.checkScope
    rw [hNone] at hService ⊢
    rw [hService]
    rfl
  · obtain ⟨found, -, hId, hLookup⟩ := Topology.lookup_routeById hRoute
    have hNotIn (routeIds : List Uuid)
        (h : t.checkScope (t.workspaceOf plugin.wsId) plugin.route plugin.service =
          .error routeIds) : route.id ∉ routeIds := by
      refine Topology.not_mem_of_error hValid hPlugin ?_
      rw [hPlace, h]
      rfl
    have hRouteOk : t.checkRoute (t.workspaceOf plugin.wsId) plugin.route = .ok () := by
      by_contra hFails
      have hError : t.checkRoute (t.workspaceOf plugin.wsId) plugin.route =
          .error [route.id] := by
        rw [hOwn] at hFails ⊢
        unfold Topology.checkRoute at hFails ⊢
        dsimp only at hFails ⊢
        rw [hLookup] at hFails ⊢
        dsimp only at hFails ⊢
        by_cases hDiffers : t.workspaceOf found.wsId ≠ t.workspaceOf plugin.wsId
        · rw [if_pos hDiffers]
        · exact absurd (if_neg hDiffers) hFails
      refine hNotIn [route.id] ?_ List.mem_cons_self
      unfold Topology.checkScope
      rw [hError]
      rfl
    have hPairOk : t.checkPair plugin.route plugin.service = .ok () := by
      by_contra hFails
      have hError : t.checkPair plugin.route plugin.service = .error [route.id] := by
        rw [hOwn] at hFails ⊢
        cases hScope : plugin.service with
        | none =>
          rw [hScope] at hFails
          exact absurd rfl hFails
        | some serviceId =>
          rw [hScope] at hFails
          unfold Topology.checkPair at hFails ⊢
          dsimp only at hFails ⊢
          by_cases hDiffers : (t.routeById.lookup route.id).bind Route.service ≠ some serviceId
          · rw [if_pos hDiffers]
          · exact absurd (if_neg hDiffers) hFails
      refine hNotIn [route.id] ?_ List.mem_cons_self
      unfold Topology.checkScope
      rw [hRouteOk, hService]
      exact hError
    unfold Topology.checkScope
    rw [hRouteOk, hService, hPairOk]
    rfl

def Topology.workspacePlugins (t : Topology) (workspaceId : Uuid) : List Plugin :=
  t.plugins.filter fun plugin => t.workspaceOf plugin.wsId = workspaceId

theorem Topology.lookup_scopedPlugins {routeScope serviceScope : Option Uuid}
    (hRouteScope : routeScope = none ∨ routeScope = some route.id)
    (hServiceScope : serviceScope = none ∨ serviceScope.isSome ∧ serviceScope = route.service)
    (kind : AiPluginKind) :
    t.scopedPlugins.lookup ⟨t.workspaceOf route.wsId, routeScope, serviceScope, kind⟩ =
      lastScoped (t.workspacePlugins (t.workspaceOf route.wsId)) kind.name routeScope
        serviceScope := by
  unfold Topology.scopedPlugins lastScoped Topology.workspacePlugins
  rw [lookup_collect_filterMap, List.filter_filter]
  congr 1
  refine List.filter_congr fun plugin hPlugin => ?_
  rw [Bool.eq_iff_iff, decide_eq_true_eq, Fallible.toOption_eq_some]
  simp only [Bool.and_eq_true, decide_eq_true_eq]
  constructor
  · intro hPlace
    obtain ⟨hEnabled, hName, hConsumer, hKey⟩ := Topology.placePlugin_ok hPlace
    injection hKey with hWorkspace hR hS
    exact ⟨⟨⟨⟨⟨hEnabled, hName⟩, hConsumer⟩, hR.symm⟩, hS.symm⟩, hWorkspace.symm⟩
  · rintro ⟨⟨⟨⟨⟨hEnabled, hName⟩, hConsumer⟩, rfl⟩, rfl⟩, hWorkspace⟩
    rw [Topology.placePlugin_of_kind hEnabled hName hConsumer,
      Topology.checkScope_of_valid hRoute hBound hValid hPlugin hEnabled hName hConsumer hWorkspace
        hRouteScope hServiceScope, hWorkspace]
    rfl

theorem effectivePlugin_eq (kind : AiPluginKind) :
    effectivePlugin t.scopedPlugins (t.workspaceOf route.wsId) route.id route.service kind =
      ((sortByKey Plugin.specificity ((t.workspacePlugins
        (t.workspaceOf route.wsId)).filter Plugin.enabled)).filter fun plugin =>
          pluginMatches plugin (some route.id) route.service none &&
            decide (plugin.name = kind.name)).getLast? := by
  have hFound {routeScope serviceScope : Option Uuid}
      (hR : routeScope = none ∨ routeScope = some route.id)
      (hS : serviceScope = none ∨ serviceScope.isSome ∧ serviceScope = route.service) :=
    Topology.lookup_scopedPlugins hRoute hBound hValid hR hS kind
  rw [last_match]
  unfold effectivePlugin
  cases hService : route.service with
  | none =>
    dsimp only
    rw [hFound (.inl rfl) (.inl rfl), hFound (.inr rfl) (.inl rfl)]
    rfl
  | some serviceId =>
    have hOwn : (some serviceId).isSome ∧ some serviceId = route.service := ⟨rfl, hService.symm⟩
    dsimp only
    rw [hFound (.inl rfl) (.inl rfl), hFound (.inr rfl) (.inl rfl),
      hFound (.inl rfl) (.inr hOwn), hFound (.inr rfl) (.inr hOwn)]
    rfl

end

end Keys

/-! ## Against the chain that runs -/

section Runtime

variable {W : Type} (readers : ConfigReaders) (t : Topology) (registry : PluginRegistry W)

/-- The chain that the proxy runs on a route: the plugins of all workspaces are in the list. -/
def Topology.chain (route : Route) : List (ResolvedPlugin W) :=
  resolvePlugins registry t.plugins (some route.id) route.service none

/-- A chain with `ai-key-auth`, `ai-proxy` and an `ai-rate-limit` by virtual key. -/
def ConfigReaders.enforces (chain : List (ResolvedPlugin W)) : Bool :=
  ((ofName "ai-key-auth" chain).any fun plugin => readers.keyAuth plugin.config.config) &&
  ((ofName "ai-proxy" chain).any fun plugin => readers.validAiProxy plugin.config.config) &&
  (ofName "ai-rate-limit" chain).any fun plugin =>
    classifyAiRateLimit plugin.config.config = .virtualKey

/-- A route that can be called, in the words of the report: a service that it names is in the same
workspace and enabled, and no plugin binds it across workspaces. -/
def Topology.counted (route : Route) : Bool :=
  (route.service.all fun serviceId => (t.serviceById.lookup serviceId).any fun service =>
    decide (t.workspaceOf service.wsId = t.workspaceOf route.wsId) && service.enabled) &&
  !t.invalidRoutes.contains route.id

variable {t registry} {route : Route}

/-- A plugin that a route without a consumer selects. -/
def Route.Selects (route : Route) (kind : AiPluginKind) (plugin : Plugin) : Prop :=
  plugin.name = kind.name ∧ pluginMatches plugin (some route.id) route.service none

/-- Of the enabled plugins of a kind that a route selects, this one has the most specific scope and
comes last among those of that scope. -/
def Route.Leads (route : Route) (plugins : List Plugin) (kind : AiPluginKind)
    (plugin : Plugin) : Prop :=
  ∃ front later, plugins.filter Plugin.enabled = front ++ plugin :: later ∧
    route.Selects kind plugin ∧
    (∀ other ∈ front, route.Selects kind other → other.specificity ≤ plugin.specificity) ∧
    ∀ other ∈ later, route.Selects kind other → other.specificity < plugin.specificity

/-- The plugin that leads those of all workspaces leads those of the route's own workspace; only in
its workspace may the one there differ from it. -/
def Topology.Undisplaced (t : Topology) (route : Route) (kind : AiPluginKind) : Prop :=
  ∀ plugin, route.Leads t.plugins kind plugin →
    ∃ wsId, route.Leads (t.workspacePlugins (t.workspaceOf route.wsId)) kind
      { plugin with wsId := wsId }

theorem last_iff_leads {plugins : List Plugin} {kind : AiPluginKind} {plugin : Plugin} :
    ((sortByKey Plugin.specificity (plugins.filter Plugin.enabled)).filter fun plugin =>
      pluginMatches plugin (some route.id) route.service none &&
        decide (plugin.name = kind.name)).getLast? = some plugin ↔
      route.Leads plugins kind plugin := by
  rw [getLast?_sortByKey_eq_some]
  unfold Route.Leads Route.Selects
  simp only [Bool.and_eq_true, decide_eq_true_eq, and_comm]

/-- What the report takes for a route is what runs there, unless a plugin of another workspace
displaces it. -/
theorem effectivePlugin_agrees (hRoute : route ∈ t.routes) (hBound : t.bound route = true)
    (hValid : route.id ∉ t.invalidRoutes) {kind : AiPluginKind} {handler : PluginHandler W}
    (hHandler : registry.get kind.name = some handler) :
    ofName kind.name (t.chain registry route) =
        (effectivePlugin t.scopedPlugins (t.workspaceOf route.wsId) route.id route.service
          kind).map (fun plugin => plugin.resolved handler) ↔ t.Undisplaced route kind := by
  unfold Topology.chain
  rw [ofName_resolvePlugins registry _ _ _ _ hHandler, effectivePlugin_eq hRoute hBound hValid]
  constructor
  · intro hSame plugin hLeads
    rw [last_iff_leads.mpr hLeads] at hSame
    obtain ⟨own, hOwn, hResolved⟩ := Option.map_eq_some_iff.mp hSame.symm
    have hOwnLeads := last_iff_leads.mp hOwn
    have hEnabled {plugins : List Plugin} {plugin : Plugin} (h : route.Leads plugins kind plugin) :
        plugin.enabled = true := by
      obtain ⟨front, later, hSplit, -⟩ := h
      exact (List.mem_filter.mp (hSplit ▸ List.mem_append_right _ List.mem_cons_self)).2
    refine ⟨own.wsId, ?_⟩
    have hTwin : { plugin with wsId := own.wsId } = own := by
      have hBoth := (hEnabled hLeads).trans (hEnabled hOwnLeads).symm
      obtain ⟨⟩ := plugin
      obtain ⟨⟩ := own
      simp only [Plugin.resolved, ResolvedPlugin.mk.injEq, PluginConfig.mk.injEq] at hResolved
      simp only at hBoth
      simp [hResolved, hBoth]
    rw [hTwin]
    exact hOwnLeads
  · intro hUndisplaced
    cases hLast : ((sortByKey Plugin.specificity (t.plugins.filter Plugin.enabled)).filter
        fun plugin => pluginMatches plugin (some route.id) route.service none &&
          decide (plugin.name = kind.name)).getLast? with
    | some plugin =>
      obtain ⟨wsId, hOwn⟩ := hUndisplaced plugin (last_iff_leads.mp hLast)
      rw [last_iff_leads.mpr hOwn]
      rfl
    | none =>
      rw [List.getLast?_eq_none_iff, List.filter_eq_nil_iff] at hLast
      have hNone : (sortByKey Plugin.specificity ((t.workspacePlugins
          (t.workspaceOf route.wsId)).filter Plugin.enabled)).filter (fun plugin =>
            pluginMatches plugin (some route.id) route.service none &&
              decide (plugin.name = kind.name)) = [] := by
        refine List.filter_eq_nil_iff.mpr fun plugin hPlugin => hLast plugin ?_
        obtain ⟨hIn, hEnabled⟩ := List.mem_filter.mp ((mem_sortByKey _).mp hPlugin)
        exact (mem_sortByKey _).mpr (List.mem_filter.mpr ⟨List.mem_of_mem_filter hIn, hEnabled⟩)
      rw [hNone]
      rfl

/-- A turn counts a route at most once, and exactly when the three plugins are as required. -/
theorem enforced_countPolicies (coverage : AiPolicyCoverageSnapshot)
    (auth proxy rateLimit : Option Plugin) :
    (countPolicies readers coverage auth proxy rateLimit).enforcedEndpointCount =
      coverage.enforcedEndpointCount + ((auth.any fun plugin => readers.keyAuth plugin.config) &&
          (proxy.any fun plugin => readers.validAiProxy plugin.config) &&
            rateLimit.any fun plugin => classifyAiRateLimit plugin.config = .virtualKey).toNat := by
  have hState : decide (rateLimit.map (fun plugin => classifyAiRateLimit plugin.config) =
      some .virtualKey) = rateLimit.any fun plugin =>
        classifyAiRateLimit plugin.config = .virtualKey := by
    cases rateLimit with
    | none => rfl
    | some plugin => simp
  have hNotBoth (h : (rateLimit.any fun plugin =>
      decide (classifyAiRateLimit plugin.config = .virtualKey)) = true) :
      decide (rateLimit.map (fun plugin => classifyAiRateLimit plugin.config) = some .invalid) =
        false := by
    rw [← hState, decide_eq_true_eq] at h
    rw [h]
    rfl
  unfold countPolicies
  dsimp only
  rw [hState]
  cases hAuth : auth.any fun plugin => readers.keyAuth plugin.config with
  | false =>
    simp only [Bool.false_and, Bool.toNat_false, Nat.add_zero, Bool.false_eq_true, if_false]
    split
    · rfl
    · rfl
  | true =>
    cases hProxy : proxy.any fun plugin => readers.validAiProxy plugin.config with
    | false =>
      simp only [Bool.and_false, Bool.false_and, Bool.toNat_false, Nat.add_zero,
        Bool.false_eq_true, if_false]
      split
      · rfl
      · rfl
    | true =>
      cases hLimit : rateLimit.any fun plugin =>
          decide (classifyAiRateLimit plugin.config = .virtualKey) with
      | false =>
        simp only [Bool.and_false, Bool.toNat_false, Nat.add_zero, Bool.false_eq_true, if_false]
        split
        · rfl
        · rfl
      | true =>
        rw [hNotBoth hLimit]
        simp

variable {handler : AiPluginKind → PluginHandler W}

/-- What runs on every route that is bound within its workspace comes from that workspace. -/
def Topology.Separate (t : Topology) : Prop :=
  ∀ route ∈ t.routes, t.bound route = true → route.id ∉ t.invalidRoutes →
    ∀ kind : AiPluginKind, t.Undisplaced route kind

section

variable (hRegistered : ∀ kind : AiPluginKind, registry.get kind.name = some (handler kind))
  (hSeparate : t.Separate)
include hRegistered hSeparate

/-- The step of the loop over the routes. -/
theorem enforced_coverRoute (coverage : AiPolicyCoverageSnapshot) (hRoute : route ∈ t.routes) :
    (coverRoute readers t coverage route).enforcedEndpointCount = coverage.enforcedEndpointCount +
        (t.counted route && readers.enforces (t.chain registry route)).toNat := by
  have hCallable (hBound : t.bound route = true) :
      (coverCallable readers t coverage route).enforcedEndpointCount =
        coverage.enforcedEndpointCount + (!t.invalidRoutes.contains route.id &&
          readers.enforces (t.chain registry route)).toNat := by
    unfold coverCallable
    by_cases hValid : route.id ∈ t.invalidRoutes
    · rw [if_pos (List.contains_iff_mem.mpr hValid), List.contains_iff_mem.mpr hValid,
        Bool.not_true, Bool.false_and]
      rfl
    · have hKind (kind : AiPluginKind) := (effectivePlugin_agrees hRoute hBound hValid
        (hRegistered kind)).mpr (hSeparate route hRoute hBound hValid kind)
      have hAuth := hKind .keyAuth
      have hProxy := hKind .proxy
      have hLimit := hKind .rateLimit
      have hContains : t.invalidRoutes.contains route.id = false := by
        rw [List.contains_eq_mem]
        exact decide_eq_false hValid
      rw [hContains, if_neg Bool.false_ne_true, Bool.not_false, Bool.true_and,
        enforced_countPolicies]
      unfold ConfigReaders.enforces
      dsimp only [AiPluginKind.name] at hAuth hProxy hLimit
      rw [hAuth, hProxy, hLimit, Option.any_map, Option.any_map, Option.any_map]
      rfl
  unfold coverRoute Topology.counted
  unfold Topology.bound at hCallable
  cases hService : route.service with
  | none =>
    rw [hService] at hCallable
    exact hCallable rfl
  | some serviceId =>
    rw [hService] at hCallable
    dsimp only
    cases hLookup : t.serviceById.lookup serviceId with
    | none => simp [hLookup, AiPolicyCoverageSnapshot.countError]
    | some service =>
      dsimp only
      by_cases hSame : t.workspaceOf service.wsId = t.workspaceOf route.wsId
      · rw [if_neg (not_not_intro hSame)]
        cases hEnabled : service.enabled with
        | false => simp [hLookup, hEnabled]
        | true =>
          have hCount := hCallable (by simpa [hLookup] using hSame)
          simpa [hLookup, hSame, hEnabled] using hCount
      · rw [if_pos hSame]
        simp [hLookup, hSame, AiPolicyCoverageSnapshot.countError]

theorem enforced_foldl (routes : List Route) (hRoutes : ∀ route ∈ routes, route ∈ t.routes)
    (coverage : AiPolicyCoverageSnapshot) :
    (routes.foldl (coverRoute readers t) coverage).enforcedEndpointCount =
      coverage.enforcedEndpointCount + routes.countP fun route =>
        t.counted route && readers.enforces (t.chain registry route) := by
  induction routes generalizing coverage with
  | nil => rfl
  | cons route routes ih =>
    have hStep := enforced_coverRoute readers hRegistered hSeparate coverage
      (hRoutes route List.mem_cons_self)
    have hRest := ih (fun other hOther => hRoutes other (List.mem_cons_of_mem _ hOther))
      (coverRoute readers t coverage route)
    rw [List.foldl_cons, hRest, hStep, List.countP_cons]
    cases t.counted route && readers.enforces (t.chain registry route) with
    | false => simp
    | true =>
      simp only [Bool.toNat_true, if_true]
      omega

end

variable (t registry)

end Runtime

/-! ## Two workspaces -/

def globalPlugin (id : Uuid) (name : String) (config : Json) (wsId : Option Uuid) : Plugin :=
  ⟨id, name, config, none, none, none, wsId, true⟩

def virtualKeyConfig : Json := .object [("limit_by", .string "virtual_key")]

/-- The chain of virtual keys in the default workspace; another workspace limits by route. -/
def sampleTopology : Topology where
  routes := [⟨10, none, none⟩]
  services := []
  plugins := [globalPlugin 21 "ai-key-auth" (.object []) none,
    globalPlugin 22 "ai-proxy" (.object []) none,
    globalPlugin 23 "ai-rate-limit" virtualKeyConfig none,
    globalPlugin 24 "ai-rate-limit" (.object [("limit_by", .string "route"),
      ("rpm_limit", .number (.posInt 10))]) (some 2)]
  defaultWorkspaceId := 1

def sampleReaders : ConfigReaders := ⟨fun _ => true, fun _ => some "openai"⟩

def sampleRegistry : PluginRegistry (List String) where
  handlers := collect (["ai-key-auth", "ai-proxy", "ai-rate-limit"].map (·, notingHandler (.ok ())))

theorem sampleRegistry_get (kind : AiPluginKind) :
    sampleRegistry.get kind.name = some (notingHandler (.ok ())) := by
  cases kind <;> rfl

/-- The same plugins, that of the other workspace in front: the chain of the route is its own. -/
def separateTopology : Topology :=
  { sampleTopology with plugins := sampleTopology.plugins.reverse }

theorem separateTopology_separate : separateTopology.Separate := by
  intro route hRoute _ _ kind plugin hLeads
  obtain rfl : route = ⟨10, none, none⟩ := List.mem_singleton.mp hRoute
  have hLast := last_iff_leads.mpr hLeads
  rw [last_match] at hLast
  refine ⟨none, last_iff_leads.mp ?_⟩
  rw [last_match]
  cases kind <;> cases hLast <;> rfl

end KongRust.Admin.Coverage

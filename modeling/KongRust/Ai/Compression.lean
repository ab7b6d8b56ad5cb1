import KongRust.Ai.Upstreams
import KongRust.Foundation.Fallible

/-!
# Context compression

`ai-proxy` may send a request by way of a compression proxy. Where compression does not apply,
the request stays as it is.
-/

namespace KongRust.Ai

open KongRust KongRust.Proxy

/-! ## The backend -/

inductive CompressionProtocol where
  | openAiChat
  | openAiResponses
  | anthropicMessages
  deriving DecidableEq

/-- The target of a provider that was chosen. -/
structure ProviderTarget where
  scheme : String
  host : String
  port : Nat
  path : String

inductive CompressionStoreScope where
  | localStore
  | cluster
  deriving DecidableEq

structure CompressionBackendDescriptor where
  backend : String
  transparentCcr : Bool
  streaming : Bool
  storeScope : CompressionStoreScope

inductive CompressionBodyTransform where
  | injectOpenAiResponsesCcrTool
  deriving DecidableEq

structure CompressionRoute where
  scheme : String
  host : String
  port : Nat
  path : String
  controlHeaders : List (String × String)
  bodyTransform : Option CompressionBodyTransform

inductive CompressionBackendError where
  | unavailable
  | unsupportedProtocol
  | unsupportedTarget
  deriving DecidableEq

/-- `ContextCompressionBackend`, as it answers at one moment. -/
structure ContextCompressionBackend where
  descriptor : CompressionBackendDescriptor
  prepareRoute : CompressionProtocol → ProviderTarget →
    Except CompressionBackendError CompressionRoute

/-! ## The Headroom proxy -/

/-- What a backend uses of the URL of its endpoint. -/
structure Endpoint where
  scheme : String
  host : Option String
  port : Option Nat
  path : String

structure HeadroomProxyAdapter where
  endpoint : Endpoint
  storeScope : CompressionStoreScope

namespace HeadroomProxyAdapter

variable (provider : ProviderTarget)

/-- `validate_provider_target`. -/
def validTarget (provider : ProviderTarget) : Bool :=
  (provider.scheme == "http" || provider.scheme == "https") &&
    !(Text.trim provider.host.toList).isEmpty && Text.startsWith provider.path "/" &&
    !Text.startsWith provider.path "//" && !Text.contains '?' provider.path &&
    !Text.contains '#' provider.path

/-- `provider_origin`, of a valid target. -/
def providerOrigin (provider : ProviderTarget) : String :=
  let host :=
    if Text.contains ':' provider.host && !Text.startsWith provider.host "[" then
      "[" ++ provider.host ++ "]"
    else provider.host
  let defaultPort := (provider.scheme == "http" && provider.port == 80) ||
    (provider.scheme == "https" && provider.port == 443)
  provider.scheme ++ "://" ++ host ++ if defaultPort then "" else ":" ++ toString provider.port

/-- `endpoint_path`. -/
def endpointPath (endpoint : Endpoint) (suffix : String) : String :=
  Text.trimEndMatches '/' endpoint.path ++ suffix

/-- `str::strip_suffix`. -/
def stripSuffix (suffix path : String) : Option String :=
  if suffix.toList.isSuffixOf path.toList then
    some (String.ofList (path.toList.take (path.toList.length - suffix.toList.length)))
  else none

/-- What the Headroom proxy is asked for: its path, the base URL, the path that it is to use, and
what the body needs. OpenAI chats are not sent there, since their tool calls would reach the
client. -/
def transport (protocol : CompressionProtocol) (provider : ProviderTarget) :
    Except CompressionBackendError
      (String × String × Option String × Option CompressionBodyTransform) :=
  match protocol with
  | .openAiChat => .error .unsupportedProtocol
  | .openAiResponses =>
    if (stripSuffix "/responses" provider.path).isNone then .error .unsupportedTarget
    else .ok ("/v1/responses", providerOrigin provider, some provider.path,
      some .injectOpenAiResponsesCcrTool)
  | .anthropicMessages =>
    match stripSuffix "/v1/messages" provider.path with
    | none => .error .unsupportedTarget
    | some front =>
      .ok ("/v1/messages", providerOrigin provider ++ Text.trimEndMatches '/' front, none, none)

variable (adapter : HeadroomProxyAdapter)

/-- `route_for`. -/
def routeFor (adapter : HeadroomProxyAdapter) (protocol : CompressionProtocol)
    (provider : ProviderTarget) : Except CompressionBackendError CompressionRoute :=
  if !validTarget provider then .error .unsupportedTarget
  else do
    let (path, baseUrl, originalPath, bodyTransform) ← transport protocol provider
    match adapter.endpoint.port, adapter.endpoint.host with
    | some port, some host =>
      return {
        scheme := adapter.endpoint.scheme
        host := host
        port := port
        path := endpointPath adapter.endpoint path
        controlHeaders := [("x-headroom-base-url", baseUrl), ("x-headroom-stack", "kong-rust")] ++
          (originalPath.map fun path => ("x-headroom-original-path", path)).toList
        bodyTransform := bodyTransform }
    | _, _ => .error .unavailable

/-- The adapter as a backend, with the answer of the health check. -/
def backend (adapter : HeadroomProxyAdapter) (healthy : Bool) : ContextCompressionBackend where
  descriptor := ⟨"headroom_proxy", true, false, adapter.storeScope⟩
  prepareRoute protocol provider :=
    if healthy then adapter.routeFor protocol provider else .error .unavailable

/-- A body is changed only on the way to the responses of OpenAI. -/
theorem protocol_of_bodyTransform {adapter : HeadroomProxyAdapter} {healthy : Bool}
    {protocol : CompressionProtocol} {provider : ProviderTarget} {route : CompressionRoute}
    (h : (adapter.backend healthy).prepareRoute protocol provider = .ok route)
    (hTransform : route.bodyTransform.isSome = true) : protocol = .openAiResponses := by
  unfold backend at h
  dsimp only at h
  cases healthy with
  | false => cases h
  | true =>
    rw [if_pos rfl] at h
    unfold routeFor at h
    cases hValid : validTarget provider with
    | false =>
      rw [hValid] at h
      cases h
    | true =>
      rw [hValid, Bool.not_true, if_neg Bool.false_ne_true] at h
      obtain ⟨⟨path, baseUrl, originalPath, bodyTransform⟩, hTransport, h⟩ :=
        Fallible.bind_eq_ok.mp h
      dsimp only at h
      cases hPort : adapter.endpoint.port with
      | none =>
        rw [hPort] at h
        cases h
      | some port =>
        cases hHost : adapter.endpoint.host with
        | none =>
          rw [hPort, hHost] at h
          cases h
        | some host =>
          rw [hPort, hHost] at h
          cases h
          dsimp only at hTransform
          cases protocol with
          | openAiResponses => rfl
          | openAiChat => cases hTransport
          | anthropicMessages =>
            unfold transport at hTransport
            dsimp only at hTransport
            cases hStrip : stripSuffix "/v1/messages" provider.path with
            | none =>
              rw [hStrip] at hTransport
              cases hTransport
            | some front =>
              rw [hStrip] at hTransport
              cases hTransport
              cases hTransform

end HeadroomProxyAdapter

/-! ## The state of a request -/

inductive UnavailablePolicy where
  | passThrough
  | reject
  deriving DecidableEq

/-- What compression of a request depends on. -/
structure AiContextCompressionConfig where
  minInputTokens : Nat
  maxInputBytes : Nat
  onUnavailable : UnavailablePolicy

inductive ContextCompressionStatus where
  | pending
  | applied
  | bypassed
  | rejected
  deriving DecidableEq

inductive ContextCompressionReason where
  | pending
  | applied
  | belowThreshold
  | bodyTooLarge
  | streaming
  | unsupportedProvider
  | unsupportedProtocol
  | toolChoiceUnsupported
  | unsupportedPath
  | backendNotConfigured
  | backendUnhealthy
  deriving DecidableEq

structure ContextCompressionOutcome where
  status : ContextCompressionStatus
  reason : ContextCompressionReason
  backend : Option String
  ccr : Bool

structure ContextCompressionContext where
  policy : AiContextCompressionConfig
  outcome : ContextCompressionOutcome

/-- What a short-circuited request is answered with. -/
structure ShortCircuit where
  status : Nat
  headers : List (String × String)
  body : Json

/-- What the access phase of the AI proxy reads and writes of a request. The body for the provider
is the value that it is the text of. -/
structure RequestCtx where
  requestBody : Option String
  requestHeaders : List (String × String)
  upstreamTargetHost : Option String
  upstreamTargetPort : Option Nat
  upstreamScheme : Option String
  upstreamPath : Option String
  upstreamBody : Option Json
  upstreamHeadersToSet : List (String × String)
  upstreamHeadersToRemove : List String
  upstreamForceHttp1 : Bool
  responseHeadersToSet : List (String × String)
  exit : Option ShortCircuit
  compression : Option ContextCompressionContext
  aiState : Option AiRequestState
  lifecycle : RequestLifecycle

namespace RequestCtx

def eqIgnoreAsciiCase (a b : String) : Bool :=
  a.toList.map Char.toLower == b.toList.map Char.toLower

def isHeadroom (name : String) : Bool :=
  "x-headroom-".toList.isPrefixOf (name.toList.map Char.toLower)

/-- The headers to remove, with those of a client that belong to the compression proxy. -/
def removedHeadroom (ctx : RequestCtx) : List String :=
  ((ctx.requestHeaders.map Prod.fst).filter isHeadroom).foldl
    (fun removed name =>
      if removed.any fun candidate => eqIgnoreAsciiCase candidate name then removed
      else removed ++ [name])
    ctx.upstreamHeadersToRemove

/-- `scrub_client_headroom_headers`. -/
def scrub (ctx : RequestCtx) : RequestCtx :=
  { ctx with
    upstreamHeadersToSet := ctx.upstreamHeadersToSet.filter fun header => !isHeadroom header.1
    upstreamHeadersToRemove := ctx.removedHeadroom }

/-- `mark_compression_bypass`. -/
def bypass (ctx : RequestCtx) (reason : ContextCompressionReason) : RequestCtx :=
  { ctx with
    compression := ctx.compression.map fun context =>
      { context with outcome := { context.outcome with status := .bypassed, reason := reason } } }

/-- The body of a request that is refused for want of a backend. -/
def unavailableBody : ClientProtocol → Json
  | .anthropic =>
    .ofFields [("type", .string "error"), ("error", .ofFields [("type", .string "api_error"),
      ("code", .string "context_compression_unavailable"),
      ("message", .string "context compression backend is unavailable")])]
  | .openAi =>
    .ofFields [("error", .ofFields [
      ("message", .string "context compression backend is unavailable"),
      ("type", .string "server_error"), ("code", .string "context_compression_unavailable")])]

/-- `handle_compression_unavailable`: whether the request goes on, and how it is left. -/
def unavailable (ctx : RequestCtx) (policy : UnavailablePolicy) (reason : ContextCompressionReason)
    (clientProtocol : ClientProtocol) : Bool × RequestCtx :=
  match policy with
  | .passThrough => (true, ctx.bypass reason)
  | .reject =>
    (false,
      { ctx with
        compression := ctx.compression.map fun context =>
          { context with outcome := { context.outcome with status := .rejected, reason := reason } }
        exit := some
          ⟨503, [("content-type", "application/json")], unavailableBody clientProtocol⟩ })

/-! ### The tool of the compression proxy -/

def toolName (tool : Json) : Option String :=
  ((tool.get "name").bind Json.asStr).or
    (((tool.get "function").bind fun function => function.get "name").bind Json.asStr)

def ccrTool : Json :=
  .ofFields [("type", .string "function"), ("name", .string "headroom_retrieve"),
    ("description", .string ("Retrieve original uncompressed content from Headroom when a " ++
      "compression marker is insufficient.")),
    ("parameters", .ofFields [("type", .string "object"),
      ("properties", .ofFields [("hash", .ofFields [("type", .string "string"),
        ("description", .string "Hash from the Headroom compression marker")])]),
      ("required", .array [.string "hash"]), ("additionalProperties", .bool false)]),
    ("strict", .bool true)]

/-- `responses_tool_choice_allows_ccr`. -/
def toolChoiceAllowsCcr : Option Json → Bool
  | none | some .null => true
  | some (.string choice) => choice == "auto" || choice == "required"
  | some (.object fields) =>
    ((Json.object fields).get "name").bind Json.asStr == some "headroom_retrieve"
  | some _ => false

/-- The tools of a client, with the one that Kong gives in the place of any of its name. -/
def withCcrTool (tools : List Json) : List Json :=
  (tools.filter fun tool => toolName tool != some "headroom_retrieve") ++ [ccrTool]

def pluginError (message : String) : PluginError := ⟨"ai-proxy", message⟩

/-- `inject_openai_responses_ccr_tool`: the body with the tool, or none if the choice of tools
forbids it. -/
def injectCcrTool (J : JsonText) (body : Option Json) : Except PluginError (Option Json) :=
  match body with
  | none => .error (pluginError "context compression requires an upstream request body")
  | some body =>
    match J.parse (J.print body) with
    | .error e => .error (pluginError ("failed to prepare Responses CCR tool: " ++ e))
    | .ok value =>
      if !value.isObject then
        .error (pluginError "Responses CCR request body must be a JSON object")
      else if !toolChoiceAllowsCcr (value.get "tool_choice") then .ok none
      else
        match (value.get "tools").getD (.array []) with
        | .array tools => .ok (some (value.setField "tools" (.array (withCcrTool tools))))
        | _ => .error (pluginError "Responses tools must be an array")

/-- `apply_compression_body_transform`: the body that is sent, or none. -/
def transformBody (J : JsonText) (transform : CompressionBodyTransform) (body : Option Json) :
    Except PluginError (Option Json) :=
  match transform with
  | .injectOpenAiResponsesCcrTool => injectCcrTool J body

/-! ### The route -/

def pushControlHeader (ctx : RequestCtx) (header : String × String) : RequestCtx :=
  { ctx with
    upstreamHeadersToRemove := ctx.upstreamHeadersToRemove.filter fun candidate =>
      !eqIgnoreAsciiCase candidate header.1
    upstreamHeadersToSet := ctx.upstreamHeadersToSet ++ [header] }

/-- The target, the headers and the outcome of a route, all at once. -/
def install (ctx : RequestCtx) (descriptor : CompressionBackendDescriptor)
    (route : CompressionRoute) : RequestCtx :=
  let routed := route.controlHeaders.foldl pushControlHeader
    { ctx with
      upstreamTargetHost := some route.host
      upstreamTargetPort := some route.port
      upstreamScheme := some route.scheme
      upstreamPath := some route.path }
  { routed with
    compression := routed.compression.map fun context =>
      { context with
        outcome := ⟨.applied, .applied, some descriptor.backend, descriptor.transparentCcr⟩ } }

/-- What is known of a request when compression is decided. -/
structure CompressionInput where
  protocol : Option CompressionProtocol
  provider : ProviderTarget
  streamMode : Bool
  estimatedPromptTokens : Nat
  originalBodyBytes : Nat
  clientProtocol : ClientProtocol

/-- A route that a backend has prepared: it is installed, unless the body does not allow it. -/
def applyRoute (J : JsonText) (ctx : RequestCtx) (descriptor : CompressionBackendDescriptor)
    (route : CompressionRoute) : Except PluginError (Bool × RequestCtx) :=
  match route.bodyTransform with
  | none => .ok (true, ctx.install descriptor route)
  | some transform => do
    match ← transformBody J transform ctx.upstreamBody with
    | none => return (true, ctx.bypass .toolChoiceUnsupported)
    | some body => return (true, { ctx with upstreamBody := some body }.install descriptor route)

/-- `apply_context_compression`: whether the request goes on, and how it is left. -/
def applyContextCompression (J : JsonText) (backend : Option ContextCompressionBackend)
    (ctx : RequestCtx) (input : CompressionInput) : Except PluginError (Bool × RequestCtx) :=
  match ctx.compression with
  | none => .ok (true, ctx)
  | some context =>
    let policy := context.policy
    let ctx := ctx.scrub
    if policy.maxInputBytes < input.originalBodyBytes then .ok (true, ctx.bypass .bodyTooLarge)
    else if input.estimatedPromptTokens < policy.minInputTokens then
      .ok (true, ctx.bypass .belowThreshold)
    else if input.streamMode then .ok (true, ctx.bypass .streaming)
    else
      match input.protocol with
      | none => .ok (true, ctx.bypass .unsupportedProvider)
      | some protocol =>
        match backend with
        | none =>
          .ok (ctx.unavailable policy.onUnavailable .backendNotConfigured input.clientProtocol)
        | some backend =>
          match backend.prepareRoute protocol input.provider with
          | .ok route => applyRoute J ctx backend.descriptor route
          | .error .unsupportedProtocol => .ok (true, ctx.bypass .unsupportedProtocol)
          | .error .unsupportedTarget => .ok (true, ctx.bypass .unsupportedPath)
          | .error .unavailable =>
            .ok (ctx.unavailable policy.onUnavailable .backendUnhealthy input.clientProtocol)

/-! ### What a decision does -/

section Decisions

variable {J : JsonText} {backend : Option ContextCompressionBackend} {ctx : RequestCtx}
  {input : CompressionInput}

/-- The body that goes with a route: as it was, or with the tool. -/
inductive BodyFor (J : JsonText) (body : Option Json) : Option CompressionBodyTransform →
    Option Json → Prop where
  | same : BodyFor J body none body
  | injected {value : Json} (h : injectCcrTool J body = .ok (some value)) :
    BodyFor J body (some .injectOpenAiResponsesCcrTool) (some value)

/-- What becomes of a request, by whether it goes on. -/
inductive Decision (J : JsonText) (backend : Option ContextCompressionBackend) (ctx : RequestCtx)
    (input : CompressionInput) : Bool → RequestCtx → Prop where
  | unasked (hNone : ctx.compression = none) : Decision J backend ctx input true ctx
  | bypassed (reason : ContextCompressionReason) (hAsked : ctx.compression.isSome = true) :
    Decision J backend ctx input true (ctx.scrub.bypass reason)
  | routed {protocol : CompressionProtocol} {chosen : ContextCompressionBackend}
      {route : CompressionRoute} {body : Option Json} (hAsked : ctx.compression.isSome = true)
      (hProtocol : input.protocol = some protocol) (hBackend : backend = some chosen)
      (hRoute : chosen.prepareRoute protocol input.provider = .ok route)
      (hBody : BodyFor J ctx.upstreamBody route.bodyTransform body) :
    Decision J backend ctx input true
      ({ ctx.scrub with upstreamBody := body }.install chosen.descriptor route)
  | refused (reason : ContextCompressionReason) {context : ContextCompressionContext}
      (hAsked : ctx.compression = some context) (hPolicy : context.policy.onUnavailable = .reject) :
    Decision J backend ctx input false
      (ctx.scrub.unavailable .reject reason input.clientProtocol).2

theorem transformBody_eq (transform : CompressionBodyTransform) (body : Option Json) :
    transformBody J transform body = injectCcrTool J body := by
  cases transform
  rfl

variable {goesOn : Bool} {after : RequestCtx}

theorem decision_unavailable {context : ContextCompressionContext}
    {reason : ContextCompressionReason} (hAsked : ctx.compression = some context)
    (h : ctx.scrub.unavailable context.policy.onUnavailable reason input.clientProtocol =
      (goesOn, after)) : Decision J backend ctx input goesOn after := by
  cases hPolicy : context.policy.onUnavailable with
  | passThrough =>
    rw [hPolicy] at h
    cases h
    exact .bypassed reason (by rw [hAsked]; rfl)
  | reject =>
    rw [hPolicy] at h
    cases h
    exact .refused reason hAsked hPolicy

variable {route : CompressionRoute}

theorem decision_of_applyRoute {protocol : CompressionProtocol} {chosen : ContextCompressionBackend}
    (hAsked : ctx.compression.isSome = true) (hProtocol : input.protocol = some protocol)
    (hRoute : chosen.prepareRoute protocol input.provider = .ok route)
    (h : applyRoute J ctx.scrub chosen.descriptor route = .ok (goesOn, after)) :
    Decision J (some chosen) ctx input goesOn after := by
  unfold applyRoute at h
  cases hTransform : route.bodyTransform with
  | none =>
    rw [hTransform] at h
    cases h
    have hBody : BodyFor J ctx.upstreamBody route.bodyTransform ctx.upstreamBody :=
      hTransform ▸ .same
    exact .routed hAsked hProtocol rfl hRoute hBody
  | some transform =>
    rw [hTransform] at h
    obtain ⟨sent, hSent, h⟩ := Fallible.bind_eq_ok.mp h
    rw [transformBody_eq] at hSent
    cases sent with
    | none =>
      cases h
      exact .bypassed _ hAsked
    | some value =>
      cases h
      refine .routed hAsked hProtocol rfl hRoute ?_
      rw [hTransform]
      cases transform
      exact .injected hSent

/-- Each decision takes all of its effects, or none. -/
theorem decision_of_apply (h : applyContextCompression J backend ctx input = .ok (goesOn, after)) :
    Decision J backend ctx input goesOn after := by
  unfold applyContextCompression at h
  cases hContext : ctx.compression with
  | none =>
    rw [hContext] at h
    cases h
    exact .unasked hContext
  | some context =>
    have hAsked : ctx.compression.isSome = true := by rw [hContext]; rfl
    rw [hContext] at h
    dsimp only at h
    by_cases hLarge : context.policy.maxInputBytes < input.originalBodyBytes
    · rw [if_pos hLarge] at h
      cases h
      exact .bypassed _ hAsked
    · rw [if_neg hLarge] at h
      by_cases hSmall : input.estimatedPromptTokens < context.policy.minInputTokens
      · rw [if_pos hSmall] at h
        cases h
        exact .bypassed _ hAsked
      · rw [if_neg hSmall] at h
        cases hStream : input.streamMode with
        | true =>
          rw [hStream, if_pos rfl] at h
          cases h
          exact .bypassed _ hAsked
        | false =>
          rw [hStream, if_neg Bool.false_ne_true] at h
          cases hProtocol : input.protocol with
          | none =>
            rw [hProtocol] at h
            cases h
            exact .bypassed _ hAsked
          | some protocol =>
            rw [hProtocol] at h
            dsimp only at h
            cases hBackend : backend with
            | none =>
              rw [hBackend] at h
              exact decision_unavailable hContext (Except.ok.inj h)
            | some chosen =>
              rw [hBackend] at h
              dsimp only at h
              cases hRoute : chosen.prepareRoute protocol input.provider with
              | error e =>
                rw [hRoute] at h
                cases e with
                | unavailable => exact decision_unavailable hContext (Except.ok.inj h)
                | unsupportedProtocol | unsupportedTarget =>
                  cases h
                  exact .bypassed _ hAsked
              | ok route =>
                rw [hRoute] at h
                dsimp only at h
                exact decision_of_applyRoute hAsked hProtocol hRoute h

theorem exists_applyRoute {descriptor : CompressionBackendDescriptor} {scrubbed : RequestCtx}
    (hBody : route.bodyTransform.isSome = true →
      ∃ sent, injectCcrTool J scrubbed.upstreamBody = .ok sent) :
    ∃ goesOn after, applyRoute J scrubbed descriptor route = .ok (goesOn, after) := by
  unfold applyRoute
  cases hTransform : route.bodyTransform with
  | none => exact ⟨_, _, rfl⟩
  | some transform =>
    obtain ⟨sent, hSent⟩ := hBody (by rw [hTransform]; rfl)
    rw [← transformBody_eq transform] at hSent
    dsimp only
    rw [hSent]
    cases sent with
    | none | some value => exact ⟨_, _, rfl⟩

/-- Nothing fails but the transformation of a body. -/
theorem exists_apply (hBody : ∀ protocol chosen route, input.protocol = some protocol →
      backend = some chosen → chosen.prepareRoute protocol input.provider = .ok route →
        route.bodyTransform.isSome = true → ∃ sent, injectCcrTool J ctx.upstreamBody = .ok sent) :
    ∃ goesOn after, applyContextCompression J backend ctx input = .ok (goesOn, after) := by
  unfold applyContextCompression
  cases ctx.compression with
  | none => exact ⟨_, _, rfl⟩
  | some context =>
    dsimp only
    by_cases hLarge : context.policy.maxInputBytes < input.originalBodyBytes
    · rw [if_pos hLarge]
      exact ⟨_, _, rfl⟩
    · rw [if_neg hLarge]
      by_cases hSmall : input.estimatedPromptTokens < context.policy.minInputTokens
      · rw [if_pos hSmall]
        exact ⟨_, _, rfl⟩
      · rw [if_neg hSmall]
        cases input.streamMode with
        | true => exact ⟨_, _, rfl⟩
        | false =>
          rw [if_neg Bool.false_ne_true]
          cases hProtocol : input.protocol with
          | none => exact ⟨_, _, rfl⟩
          | some protocol =>
            cases hBackend : backend with
            | none => exact ⟨_, _, rfl⟩
            | some chosen =>
              dsimp only
              cases hRoute : chosen.prepareRoute protocol input.provider with
              | error e => cases e <;> exact ⟨_, _, rfl⟩
              | ok route =>
                dsimp only
                exact exists_applyRoute (hBody protocol chosen route hProtocol hBackend hRoute)

end Decisions

/-! ### The tool in a body -/

section Tools

variable {J : JsonText} {value : Json}

theorem exists_injectCcrTool (hReadable : value.Readable 127) (hObject : value.isObject = true)
    (hTools : ∀ tools, value.get "tools" = some tools → tools.asArray.isSome = true) :
    ∃ sent, injectCcrTool J (some value) = .ok sent := by
  obtain ⟨read, hParse, hErase⟩ := J.reads hReadable
  have hReadObject : read.isObject = true := by
    rw [← Json.isObject_erase, hErase, Json.isObject_erase]
    exact hObject
  unfold injectCcrTool
  dsimp only
  rw [hParse]
  dsimp only
  rw [hReadObject, Bool.not_true, if_neg Bool.false_ne_true]
  cases toolChoiceAllowsCcr (read.get "tool_choice") with
  | false => exact ⟨none, rfl⟩
  | true =>
    rw [Bool.not_true, if_neg Bool.false_ne_true]
    have hSame := Json.get_of_erase hErase "tools"
    cases hGet : read.get "tools" with
    | none => exact ⟨_, rfl⟩
    | some tools =>
      rw [hGet] at hSame
      obtain ⟨found, hFound, hSame⟩ := Option.map_eq_some_iff.mp hSame.symm
      have hArray := hTools found hFound
      rw [← Option.isSome_map (f := List.map Json.erase), ← Json.asArray_erase, hSame,
        Json.asArray_erase, Option.isSome_map] at hArray
      cases tools with
      | array items => exact ⟨_, rfl⟩
      | _ => cases hArray

theorem injectCcrTool_eq_some {sent : Json} (h : injectCcrTool J (some value) = .ok (some sent)) :
    ∃ read tools, J.parse (J.print value) = .ok read ∧
      (read.get "tools").getD (.array []) = .array tools ∧
      sent = read.setField "tools" (.array (withCcrTool tools)) := by
  unfold injectCcrTool at h
  dsimp only at h
  cases hParse : J.parse (J.print value) with
  | error e =>
    rw [hParse] at h
    cases h
  | ok read =>
    rw [hParse] at h
    dsimp only at h
    cases hObject : read.isObject with
    | false =>
      rw [hObject] at h
      cases h
    | true =>
      rw [hObject, Bool.not_true, if_neg Bool.false_ne_true] at h
      cases hChoice : toolChoiceAllowsCcr (read.get "tool_choice") with
      | false =>
        rw [hChoice] at h
        cases h
      | true =>
        rw [hChoice, Bool.not_true, if_neg Bool.false_ne_true] at h
        cases hTools : (read.get "tools").getD (.array []) with
        | array tools =>
          rw [hTools] at h
          cases h
          exact ⟨read, tools, rfl, hTools, rfl⟩
        | _ =>
          rw [hTools] at h
          cases h

end Tools

end RequestCtx

end KongRust.Ai

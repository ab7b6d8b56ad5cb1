import KongRust.Ai.Compression

/-!
# The access phase of the AI proxy

A request is decoded, its model and provider are chosen, and it is sent on: as it is, where the
client speaks the provider's own protocol, or else translated. The stream policy, the target and
the state of the request are set on each of these ways.
-/

namespace KongRust.Ai

open KongRust KongRust.Proxy Requests

/-! ## The configuration -/

/-- `ModelField`, with the name of a model in the official form. -/
inductive ModelField where
  | simple (name : String)
  | kong (name : Option String)

/-- `AiProxyConfig`. What the choice of a provider reads is left to the choice. -/
structure AiProxyConfig where
  model : ModelField
  modelGroup : Option String
  modelSource : String
  routeType : String
  clientProtocol : String
  llmFormat : Option String
  responseStreaming : String
  maxRequestBodySize : Nat

namespace AiProxyConfig

variable (cfg : AiProxyConfig)

def effectiveClientProtocol (cfg : AiProxyConfig) : String :=
  if cfg.clientProtocol ≠ "openai" then cfg.clientProtocol
  else cfg.llmFormat.getD cfg.clientProtocol

def modelGroupName (cfg : AiProxyConfig) : Option String :=
  (cfg.modelGroup.map fun group => String.ofList (Text.trim group.toList)).filter fun group =>
    group != ""

def effectiveModelName (cfg : AiProxyConfig) : String :=
  match cfg.modelGroupName with
  | some group => group
  | none =>
    match cfg.model with
    | .simple name => name
    | .kong name => name.getD ""

def isResponsesRoute (cfg : AiProxyConfig) : Bool := cfg.routeType == "llm/v1/responses"

def isAnthropic (cfg : AiProxyConfig) : Bool := cfg.effectiveClientProtocol == "anthropic"

def format (cfg : AiProxyConfig) : RequestFormat :=
  if cfg.isResponsesRoute then .responses else if cfg.isAnthropic then .anthropic else .chat

/-- The stream mode of a policy for a client that does, or does not, ask for a stream. -/
def streamMode (cfg : AiProxyConfig) (requested : Bool) : Bool :=
  if cfg.responseStreaming = "always" then true
  else if cfg.responseStreaming = "deny" then false
  else requested

end AiProxyConfig

/-! ## The request that is sent -/

/-- The provider and the model of a request. The driver is the one that the registry has under the
type of the provider. -/
structure Selection where
  provider : Provider
  model : AiModel
  config : AiProviderConfig
  registered : config.providerType = provider.providerType

/-- What a body was decoded into, with what a responses request says of a stream and the tools that
it has to leave behind. -/
structure Decoded where
  chat : ChatRequest
  stream : Option Bool
  strippedTools : Option (List String)

/-- What the access phase is given: the libraries, the choice among the providers, the tokenizers,
and the identifiers that it draws. -/
structure AccessEnv extends RequestLibraries where
  choose : AiProxyConfig → String → ChatRequest → Except PluginError Selection
  countPrompt : String → ChatRequest → Nat
  countBody : String → String → Json → Nat
  responseId : String
  errorId : String

namespace RequestCtx

/-- How a request is sent on: its way, and what the upstream and the filters to come are given. -/
structure Plan where
  selection : Selection
  path : AccessPath
  streamMode : Bool
  upstream : UpstreamConfig
  request : ProviderRequest
  protocol : Option CompressionProtocol
  promptTokens : Nat
  clientProtocol : ClientProtocol

variable (E : AccessEnv) (backend : Option ContextCompressionBackend) (cfg : AiProxyConfig)

def decodeFailure (kind : String) (message : String) : PluginError :=
  pluginError ("invalid " ++ kind ++ " request body: " ++ message)

variable (body : String)

/-- A body in the chat format; none for a responses request in the background. -/
def decodeClient (body : String) : Except PluginError (Option Decoded) :=
  match cfg.format with
  | .responses => do
    let request ← (decodeResponses E.toRequestLibraries body).mapError
      (decodeFailure "v1/responses")
    if request.background = some true then return none
    else
      let (chat, stripped) ← (responsesToChat E.J request).mapError fun message =>
        pluginError ("failed to convert responses request: " ++ message)
      return some ⟨chat, request.stream, some stripped⟩
  | .anthropic => do
    let chat ← (decodeAnthropic E.toRequestLibraries body).mapError (decodeFailure "Anthropic chat")
    return some ⟨chat, chat.stream, none⟩
  | .chat => do
    let chat ← (decodeChat E.toRequestLibraries body).mapError (decodeFailure "chat")
    return some ⟨chat, chat.stream, none⟩

/-- The name of the model, and the request with it. -/
def chooseModel (chat : ChatRequest) : Except PluginError (String × ChatRequest) :=
  if cfg.modelSource = "request" then
    if chat.model = "" then
      .error (pluginError "model_source=request but no model specified in request body")
    else .ok (chat.model, chat)
  else if cfg.effectiveModelName ≠ "" then
    .ok (cfg.effectiveModelName, { chat with model := cfg.effectiveModelName })
  else if chat.model ≠ "" then .ok (chat.model, chat)
  else .error (pluginError "no model specified in config or request body")

/-- The body of a client with the model that was chosen. -/
def passThroughBody (kind : String) (body : String) (model : AiModel) :
    Except PluginError Json :=
  match E.J.parse body with
  | .error message =>
    .error (pluginError ("failed to prepare " ++ kind ++ " request body: " ++ message))
  | .ok value =>
    if value.isObject then .ok (value.setField "model" (.string model.modelName))
    else .error (pluginError (kind ++ " request body must be a JSON object"))

def configure (selection : Selection) (streamMode : Bool) : Except PluginError UpstreamConfig :=
  (selection.provider.configureUpstream selection.model selection.config streamMode).mapError
    fun message => pluginError ("failed to configure upstream: " ++ message)

/-- A responses request for OpenAI. -/
def responsesPassThrough (body : String) (decoded : Decoded) (selection : Selection) :
    Except PluginError Plan := do
  let streamMode := decoded.stream.getD false
  let value ← passThroughBody E "v1/responses" body selection.model
  let upstream ← configure selection streamMode
  return {
    selection := selection
    path := .responsesPassThrough
    streamMode := streamMode
    upstream := { upstream with path := "/v1/responses" }
    request := ⟨value, "application/json", []⟩
    protocol := some .openAiResponses
    promptTokens := E.countBody selection.config.providerType selection.model.modelName value
    clientProtocol := .openAi }

/-- An Anthropic client's request for Anthropic. -/
def anthropicPassThrough (body : String) (selection : Selection) : Except PluginError Plan := do
  let value ← passThroughBody E "Anthropic" body selection.model
  let streamMode := cfg.streamMode (((value.get "stream").bind Json.asBool).getD false)
  let value := value.setField "stream" (.bool streamMode)
  let upstream ← configure selection streamMode
  return {
    selection := selection
    path := .anthropicPassThrough
    streamMode := streamMode
    upstream := upstream
    request := ⟨value, "application/json", []⟩
    protocol := some .anthropicMessages
    promptTokens := E.countBody selection.config.providerType selection.model.modelName value
    clientProtocol := .anthropic }

/-- A chat request with the stream that a policy prescribes; one that prescribes none leaves what
the client has said. -/
def withPolicy (chat : ChatRequest) : ChatRequest :=
  if cfg.responseStreaming = "always" then { chat with stream := some true }
  else if cfg.responseStreaming = "deny" then { chat with stream := some false }
  else chat

/-- `compression_protocol`. -/
def compressionProtocol (config : AiProviderConfig) : Option CompressionProtocol :=
  if config.providerType = "openai" ∨ config.providerType = "openai_compat" then some .openAiChat
  else if config.providerType = "anthropic" then some .anthropicMessages
  else none

/-- A request that the driver of its provider translates. -/
def translate (decoded : Decoded) (chat : ChatRequest) (selection : Selection) :
    Except PluginError Plan := do
  let streamMode := cfg.streamMode (chat.stream == some true)
  let chat := withPolicy cfg chat
  let upstream ← configure selection streamMode
  let clientProtocol := if cfg.isAnthropic then ClientProtocol.anthropic else .openAi
  return {
    selection := selection
    path := .translation clientProtocol cfg.isResponsesRoute decoded.strippedTools
    streamMode := streamMode
    upstream := upstream
    request := selection.provider.transformRequest E.J chat
    protocol := compressionProtocol selection.config
    promptTokens := E.countPrompt selection.config.providerType chat
    clientProtocol := clientProtocol }

variable (selection : Selection)

def isResponsesPassThrough (selection : Selection) : Bool :=
  cfg.isResponsesRoute && selection.provider == .openai

def isAnthropicPassThrough (selection : Selection) : Bool :=
  cfg.isAnthropic && selection.provider == .anthropic

def plan (body : String) (decoded : Decoded) (chat : ChatRequest) (selection : Selection) :
    Except PluginError Plan :=
  if isResponsesPassThrough cfg selection then responsesPassThrough E body decoded selection
  else if isAnthropicPassThrough cfg selection then anthropicPassThrough E cfg body selection
  else translate E cfg decoded chat selection

/-- What a body comes to; none for a responses request in the background. -/
def prepare (body : String) : Except PluginError (Option Plan) := do
  match ← decodeClient E cfg body with
  | none => return none
  | some decoded =>
    let (modelName, chat) ← chooseModel cfg decoded.chat
    let selection ← E.choose cfg modelName chat
    let plan ← plan E cfg body decoded { chat with model := selection.model.modelName } selection
    return some plan

/-! ### The request that leaves -/

variable (ctx : RequestCtx)

/-- The target, the headers and the body of a request. -/
def setUpstream (ctx : RequestCtx) (plan : Plan) : RequestCtx :=
  { ctx with
    upstreamTargetHost := some plan.upstream.host
    upstreamTargetPort := some plan.upstream.port
    upstreamScheme := some plan.upstream.scheme
    upstreamPath := some plan.upstream.path
    upstreamBody := some plan.request.body
    upstreamHeadersToSet := ctx.upstreamHeadersToSet ++
      [("Content-Type", plan.request.contentType)] ++ plan.upstream.headers ++
        plan.request.extraHeaders }

def routeTypeHeader : AccessPath → List (String × String)
  | .responsesPassThrough => [("X-Kong-AI-Route-Type", "responses-pass-through")]
  | .anthropicPassThrough => [("X-Kong-AI-Route-Type", "anthropic-pass-through")]
  | .translation _ responsesMode _ =>
    if responsesMode then [("X-Kong-AI-Route-Type", "responses-translation")] else []

def store (ctx : RequestCtx) (plan : Plan) : RequestCtx :=
  { ctx with
    aiState := some (.access E.toLibraries (plan.selection.provider.driver E.toLibraries)
      ⟨plan.path, plan.selection.model.modelName, plan.streamMode, E.responseId, ctx.lifecycle⟩)
    upstreamForceHttp1 := true
    responseHeadersToSet := ctx.responseHeadersToSet ++ routeTypeHeader plan.path }

def compressionInput (plan : Plan) (bodyBytes : Nat) : CompressionInput where
  protocol := plan.protocol
  provider := ⟨plan.upstream.scheme, plan.upstream.host, plan.upstream.port, plan.upstream.path⟩
  streamMode := plan.streamMode
  estimatedPromptTokens := plan.promptTokens
  originalBodyBytes := bodyBytes
  clientProtocol := plan.clientProtocol

/-- The upstream is set, compression is decided, and the state is stored unless the request was
refused. -/
def send (ctx : RequestCtx) (bodyBytes : Nat) (plan : Plan) : Except PluginError RequestCtx := do
  let (goesOn, ctx) ← applyContextCompression E.J backend (ctx.setUpstream plan)
    (compressionInput plan bodyBytes)
  return if goesOn then ctx.store E plan else ctx

def tooLarge : ShortCircuit :=
  ⟨413, [], .ofFields [("message", .string "request body exceeds max size limit")]⟩

def notInBackground : ShortCircuit :=
  ⟨400, [], (responsesError E.errorId "invalid_request_error"
    "background mode is not supported").json⟩

/-- `access`. -/
def access (ctx : RequestCtx) : Except PluginError RequestCtx :=
  match ctx.requestBody with
  | none => .error (pluginError "request body is empty")
  | some body =>
    if (cfg.maxRequestBodySize * 1024) % 2 ^ 64 < body.utf8ByteSize then
      .ok { ctx with exit := some tooLarge }
    else do
      match ← prepare E cfg body with
      | none => return { ctx with exit := some (notInBackground E) }
      | some plan => ctx.send E backend body.utf8ByteSize plan

end RequestCtx

end KongRust.Ai

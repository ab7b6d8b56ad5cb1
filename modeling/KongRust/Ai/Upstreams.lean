import KongRust.Ai.ModelRouter
import KongRust.Ai.Proxy
import KongRust.Ai.Requests
import KongRust.Foundation.Net

/-!
# The requests to a provider

Where a driver sends a request, and how it writes it: the chat format goes to OpenAI and its
likes as it is, the other providers have formats of their own. Gemini has no flag for a stream,
but an endpoint.
-/

namespace KongRust.Ai

open KongRust

structure UpstreamConfig where
  scheme : String
  host : String
  port : Nat
  path : String
  headers : List (String × String)

/-- `ProviderRequest`, with the value that its body is the text of. -/
structure ProviderRequest where
  body : Json
  contentType : String
  extraHeaders : List (String × String)

/-- The credentials of a provider that the drivers use. -/
structure AuthConfig where
  headerName : Option String
  headerValue : Option String
  paramName : Option String
  paramValue : Option String

/-! ## Endpoints -/

namespace Upstreams

open Serde

def authConfig : Struct :=
  [.plain "header_name" Serde.text, .plain "header_value" Serde.text,
    .plain "param_name" Serde.text, .plain "param_value" Serde.text,
    .plain "aws_access_key_id" Serde.text, .plain "aws_secret_access_key" Serde.text,
    .plain "aws_region" Serde.text, .plain "gcp_service_account_json" Serde.text]

variable (config : AiProviderConfig)

/-- `from_value(..).unwrap_or_default()`. -/
def authOf (config : AiProviderConfig) : AuthConfig :=
  match authConfig.codec config.authConfig with
  | some read =>
    ⟨OpenAiDriver.str? read "header_name", OpenAiDriver.str? read "header_value",
      OpenAiDriver.str? read "param_name", OpenAiDriver.str? read "param_value"⟩
  | none => ⟨none, none, none, none⟩

variable (s : List Char)

/-- `str::parse::<u16>`. -/
def parsePort (s : List Char) : Option Nat :=
  let digits := if s.head? = some '+' then s.tail else s
  if !digits.isEmpty && digits.all Net.isDigit && Net.decimal digits < 2 ^ 16 then
    some (Net.decimal digits)
  else none

/-- The texts before and after the last `:`. -/
def splitPort (s : List Char) : Option (List Char × List Char) :=
  if s.contains ':' then
    let after := (s.reverse.takeWhile (· != ':')).reverse
    some (s.take (s.length - after.length - 1), after)
  else none

/-- A host with its port, if it ends with one. -/
def hostAndPort (s : List Char) (defaultPort : Nat) : String × Nat :=
  match splitPort s with
  | some (host, digits) =>
    match parsePort digits with
    | some port => (String.ofList host, port)
    | none => (String.ofList s, defaultPort)
  | none => (String.ofList s, defaultPort)

def parseAfterScheme (scheme : String) (rest : List Char) : UpstreamConfig :=
  let (host, port) := hostAndPort (rest.takeWhile (· != '/')) (if scheme = "https" then 443 else 80)
  let path := rest.dropWhile (· != '/')
  ⟨scheme, host, port, if path.isEmpty then "/" else String.ofList path, []⟩

/-- `parse_endpoint_url`. -/
def parseEndpointUrl (url : String) : Except String UpstreamConfig :=
  match Text.stripPrefix "https://" url with
  | some rest => .ok (parseAfterScheme "https" rest.toList)
  | none =>
    match Text.stripPrefix "http://" url with
    | some rest => .ok (parseAfterScheme "http" rest.toList)
    | none => .error ("configuration error: invalid endpoint URL: " ++ url)

/-- The header with the key of a provider, which `Authorization` carries as a bearer token. -/
def bearerHeader (auth : AuthConfig) : List (String × String) :=
  match auth.headerValue with
  | some value =>
    let name := auth.headerName.getD "Authorization"
    if name = "Authorization" && !Text.startsWith value "Bearer " then [(name, "Bearer " ++ value)]
    else [(name, value)]
  | none => []

/-- `OpenAiDriver::configure_upstream`. -/
def configureOpenAi (config : AiProviderConfig) : Except String UpstreamConfig := do
  let upstream ← match config.endpointUrl with
    | some url => parseEndpointUrl url
    | none => .ok ⟨"https", "api.openai.com", 443, "/v1/chat/completions", []⟩
  return { upstream with headers := bearerHeader (authOf config) }

/-- `OpenAiCompatDriver::configure_upstream`. -/
def configureOpenAiCompat (config : AiProviderConfig) : Except String UpstreamConfig :=
  if config.endpointUrl.isNone then
    .error "configuration error: openai_compat provider requires endpoint_url"
  else do
    let upstream ← configureOpenAi config
    return if upstream.path = "/" then { upstream with path := "/v1/chat/completions" }
      else upstream

/-- `AnthropicDriver::configure_upstream`. -/
def configureAnthropic (config : AiProviderConfig) : Except String UpstreamConfig := do
  let upstream ← match config.endpointUrl with
    | some url => parseEndpointUrl url
    | none => .ok ⟨"https", "api.anthropic.com", 443, "/v1/messages", []⟩
  let auth := authOf config
  let key := auth.headerValue.map fun value => (auth.headerName.getD "x-api-key", value)
  return { upstream with headers := ("anthropic-version", "2023-06-01") :: key.toList }

def geminiMethod (stream : Bool) : String :=
  if stream then ":streamGenerateContent?alt=sse" else ":generateContent"

def withKey (auth : AuthConfig) (path : String) : String :=
  match auth.paramValue with
  | some value =>
    path ++ (if Text.contains '?' path then "&" else "?") ++
      auth.paramName.getD "key" ++ "=" ++ value
  | none => path

/-- `GeminiDriver::configure_upstream`. An endpoint of the provider's own is taken as it is. -/
def configureGemini (model : AiModel) (config : AiProviderConfig) (stream : Bool) :
    Except String UpstreamConfig :=
  match config.endpointUrl with
  | some url => do
    let upstream ← parseEndpointUrl url
    return { upstream with headers := bearerHeader (authOf config) }
  | none =>
    let auth := authOf config
    .ok ⟨"https", "generativelanguage.googleapis.com", 443,
      withKey auth ("/v1beta/models/" ++ model.modelName ++ geminiMethod stream), bearerHeader auth⟩

end Upstreams

/-! ## The bodies -/

def StreamOptions.json (options : StreamOptions) : Json :=
  .object (optionalField "include_usage" (options.includeUsage.map .bool))

def ChatRequest.json (request : ChatRequest) : Json :=
  .object ([("model", .string request.model),
      ("messages", .array (request.messages.map Message.json))] ++
    optionalField "temperature" request.temperature ++
    optionalField "max_tokens" (request.maxTokens.map fun n => .number (.posInt n)) ++
    optionalField "top_p" request.topP ++
    optionalField "top_k" (request.topK.map fun n => .number (.posInt n)) ++
    optionalField "stream" (request.stream.map .bool) ++
    optionalField "stream_options" (request.streamOptions.map StreamOptions.json) ++
    optionalField "tools" (request.tools.map .array) ++
    optionalField "tool_choice" request.toolChoice ++ request.extra)

namespace Upstreams

variable (request : ChatRequest)

/-- `OpenAiDriver::transform_request`: a stream is asked for its usage. -/
def openAiBody (request : ChatRequest) : Json :=
  if request.stream = some true then
    { request with streamOptions := some ⟨some true⟩ }.json
  else request.json

variable (J : JsonText)

def contentString (J : JsonText) (message : Message) : String :=
  (message.content.map (Requests.plainText J)).getD ""

def systemText (J : JsonText) (messages : List Message) : Option String :=
  match (messages.filter fun message => message.role == "system").map (contentString J) with
  | [] => none
  | texts => some ("\n".intercalate texts)

/-- `AnthropicDriver::transform_request`. -/
def anthropicBody (J : JsonText) (request : ChatRequest) : Json :=
  .object ([("model", .string request.model),
      ("messages", .array ((request.messages.filter fun message => message.role != "system").map
        fun message => .object [("role", .string message.role),
          ("content", message.content.getD (.string ""))])),
      ("max_tokens", .number (.posInt (request.maxTokens.getD 4096)))] ++
    optionalField "system" ((systemText J request.messages).map .string) ++
    optionalField "temperature" request.temperature ++ optionalField "top_p" request.topP ++
    optionalField "top_k" (request.topK.map fun n => .number (.posInt n)) ++
    optionalField "stream" (request.stream.map .bool))

def geminiContent (role : Option String) (text : String) : Json :=
  .object (optionalField "role" (role.map .string) ++
    [("parts", .array [.object [("text", .string text)]])])

def geminiRole (role : String) : String := if role = "assistant" then "model" else role

def geminiConfig (request : ChatRequest) : Option Json :=
  if request.temperature.isSome || request.topP.isSome || request.topK.isSome ||
      request.maxTokens.isSome then
    some (.object (optionalField "temperature" request.temperature ++
      optionalField "topP" request.topP ++
      optionalField "topK" (request.topK.map fun n => .number (.posInt n)) ++
      optionalField "maxOutputTokens" (request.maxTokens.map fun n => .number (.posInt n))))
  else none

/-- `GeminiDriver::transform_request`: the last system message is the instruction. -/
def geminiBody (J : JsonText) (request : ChatRequest) : Json :=
  let system := (request.messages.filter fun message => message.role == "system").getLast?
  .object ([("contents", .array ((request.messages.filter fun message =>
      message.role != "system").map fun message =>
        geminiContent (some (geminiRole message.role)) (contentString J message)))] ++
    optionalField "systemInstruction"
      (system.map fun message => geminiContent none (contentString J message)) ++
    optionalField "generationConfig" (geminiConfig request))

end Upstreams

/-! ## The providers -/

namespace Provider

open Upstreams

def providerType : Provider → String
  | .openai => "openai"
  | .openaiCompat => "openai_compat"
  | .anthropic => "anthropic"
  | .gemini => "gemini"

def configureUpstream (provider : Provider) (model : AiModel) (config : AiProviderConfig)
    (stream : Bool) : Except String UpstreamConfig :=
  match provider with
  | .openai => configureOpenAi config
  | .openaiCompat => configureOpenAiCompat config
  | .anthropic => configureAnthropic config
  | .gemini => configureGemini model config stream

def transformRequest (provider : Provider) (J : JsonText) (request : ChatRequest) :
    ProviderRequest :=
  match provider with
  | .openai | .openaiCompat => ⟨openAiBody request, "application/json", []⟩
  | .anthropic => ⟨anthropicBody J request, "application/json", []⟩
  | .gemini => ⟨geminiBody J request, "application/json", []⟩

end Provider

/-! ## What is asked of a provider -/

def streamFlag (body : Json) : Bool := (body.get "stream").bind Json.asBool == some true

def streamPath (path : String) : Bool :=
  ":streamGenerateContent".toList.isSuffixOf (path.toList.takeWhile (· != '?'))

/-- Whether a provider is asked for a stream: by the flag of the body, or by the endpoint. -/
def Provider.sentStream (provider : Provider) (path : String) (body : Json) : Bool :=
  match provider with
  | .gemini => streamPath path
  | _ => streamFlag body

end KongRust.Ai

import KongRust.Ai.Gemini
import KongRust.Ai.Anthropic
import KongRust.Ai.Usage

/-!
# The provider drivers

`AiDriver` is what the proxy asks of a provider. The OpenAI driver takes over what it reads, and
the compatible providers use it as it is.
-/

namespace KongRust.Ai

open KongRust

/-- `AiDriver`, as far as answers go. The second text of `transform_response` is the identifier
that it may draw. -/
structure AiDriver where
  providerType : String
  transformResponse : Nat → String → String → Except DriverError ChatResponse
  transformStreamEvent : SseEvent → Except DriverError (Option SseEvent)
  extractUsage : String → Option TokenUsage
  extractStreamUsage : SseEvent → Option TokenUsage

/-- The `Display` of an error. -/
def DriverError.text : DriverError → String
  | .upstreamError message => "upstream connection error: " ++ message
  | .serializationError message => "serialization error: " ++ message

variable (J : JsonText)

def readJson (J : JsonText) (text : String) : Option Json := (J.parse text).toOption

/-! ## The OpenAI driver -/

namespace OpenAiDriver

open Serde

def u32 : Codec := int 0 (2 ^ 32 - 1)

def functionCall : Struct := [.required "name" Serde.text, .required "arguments" Serde.text]

def toolCall : Struct :=
  [.required "id" Serde.text, .required "type" Serde.text,
    .required "function" functionCall.codec]

def message : Struct :=
  [.required "role" Serde.text, .plain "content" value,
    .plain "tool_calls" (vec toolCall.codec), .plain "tool_call_id" Serde.text,
    .plain "name" Serde.text]

def choice : Struct :=
  [.required "index" u32, .required "message" message.codec, .plain "finish_reason" Serde.text]

def usage : Struct :=
  [.required "prompt_tokens" u64, .required "completion_tokens" u64,
    .required "total_tokens" u64]

/-- `ChatResponse`. -/
def chatResponse : Struct :=
  [.required "id" Serde.text, .required "object" Serde.text, .plain "created" u64,
    .required "model" Serde.text, .required "choices" (vec choice.codec),
    .plain "usage" usage.codec]

def streamDelta : Struct :=
  [.plain "role" Serde.text, .plain "content" Serde.text, .plain "tool_calls" (vec value)]

def streamChoice : Struct :=
  [.required "index" u32, .required "delta" streamDelta.codec, .plain "finish_reason" Serde.text]

/-- `ChatStreamChunk`. -/
def chatStreamChunk : Struct :=
  [.required "id" Serde.text, .required "object" Serde.text, .plain "created" u64,
    .required "model" Serde.text, .required "choices" (vec streamChoice.codec),
    .plain "usage" usage.codec]

/-! ### The values of the types -/

variable (v : Json)

def str? (v : Json) (key : String) : Option String := (v.get key).bind Json.asStr

def str (v : Json) (key : String) : String := (str? v key).getD ""

def count (v : Json) (key : String) : UInt64 := ((v.get key).bind Json.asU64).getD 0

def toolCallOf (v : Json) : ToolCall :=
  let function := v.field "function"
  ⟨str v "id", str v "type", ⟨str function "name", str function "arguments"⟩⟩

def messageOf (v : Json) : Message where
  role := str v "role"
  content := (v.get "content").filter fun content => !content.isNull
  toolCalls := ((v.get "tool_calls").bind Json.asArray).map (List.map toolCallOf)
  toolCallId := str? v "tool_call_id"
  name := str? v "name"

def choiceOf (v : Json) : Choice where
  index := (count v "index").toNat
  message := messageOf (v.field "message")
  finishReason := str? v "finish_reason"

def usageOf (v : Json) : Usage :=
  ⟨count v "prompt_tokens", count v "completion_tokens", count v "total_tokens"⟩

def chatResponseOf (v : Json) : ChatResponse where
  id := str v "id"
  object := str v "object"
  created := (v.get "created").bind Json.asU64
  model := str v "model"
  choices := (((v.get "choices").bind Json.asArray).getD []).map choiceOf
  usage := ((v.get "usage").filter Json.isObject).map usageOf

/-! ### The driver -/

def transformResponse (L : Libraries) (status : Nat) (body : String) :
    Except DriverError ChatResponse :=
  if status ≠ 200 then
    .error (.upstreamError
      ("OpenAI API returned status " ++ toString status ++ ": " ++ excerpt body))
  else
    match L.J.fromStr chatResponse.codec L.refusal body with
    | .error e => .error (.serializationError e)
    | .ok v => .ok (chatResponseOf v)

/-- The event is passed on as it is once it has been read. -/
def transformStreamEvent (L : Libraries) (event : SseEvent) :
    Except DriverError (Option SseEvent) :=
  if event.isDone then .ok none
  else
    match L.J.fromStr chatStreamChunk.codec L.refusal event.data with
    | .error e => .error (.serializationError ("invalid OpenAI stream chunk: " ++ e))
    | .ok _ => .ok (some event)

def extractUsage (J : JsonText) (body : String) : Option TokenUsage := do
  let raw ← readJson J body
  let usage ← raw.get "usage"
  return responsesTokenUsage usage

def extractStreamUsage (J : JsonText) (event : SseEvent) : Option TokenUsage :=
  if event.isDone then none else extractUsage J event.data

end OpenAiDriver

/-! ## What the other drivers read of the usage -/

def AnthropicDriver.extractUsage (J : JsonText) (body : String) : Option TokenUsage := do
  let data ← readJson J body
  let usage ← data.get "usage"
  return .fromObservation (anthropicObservation usage)

/-- The counts of `message_start` are no counts of the completion yet. -/
def AnthropicDriver.extractStreamUsage (J : JsonText) (event : SseEvent) : Option TokenUsage := do
  let data ← readJson J event.data
  match ← (data.get "type").bind Json.asStr with
  | "message_start" =>
    let usage ← (← data.get "message").get "usage"
    return .fromObservation ((anthropicObservation usage).map fun observation =>
      { observation with completionTokens := none, totalTokens := none })
  | "message_delta" =>
    let usage ← data.get "usage"
    return .fromObservation (anthropicObservation usage)
  | _ => none

def GeminiDriver.extractUsage (J : JsonText) (body : String) : Option TokenUsage := do
  let data ← readJson J body
  let usage ← data.get "usageMetadata"
  return .fromObservation (geminiObservation usage)

def GeminiDriver.extractStreamUsage (J : JsonText) (event : SseEvent) : Option TokenUsage :=
  if event.isDone then none else extractUsage J event.data

/-! ## The registry -/

variable (L : Libraries)

def openaiDriver (L : Libraries) : AiDriver where
  providerType := "openai"
  transformResponse := fun status body _ => OpenAiDriver.transformResponse L status body
  transformStreamEvent := OpenAiDriver.transformStreamEvent L
  extractUsage := OpenAiDriver.extractUsage L.J
  extractStreamUsage := OpenAiDriver.extractStreamUsage L.J

def openaiCompatDriver (L : Libraries) : AiDriver :=
  { openaiDriver L with providerType := "openai_compat" }

def anthropicDriver (L : Libraries) : AiDriver where
  providerType := "anthropic"
  transformResponse := fun status body _ => AnthropicDriver.transformResponse L status body
  transformStreamEvent := AnthropicDriver.transformStreamEvent L
  extractUsage := AnthropicDriver.extractUsage L.J
  extractStreamUsage := AnthropicDriver.extractStreamUsage L.J

def geminiDriver (L : Libraries) : AiDriver where
  providerType := "gemini"
  transformResponse := GeminiDriver.transformResponse L
  transformStreamEvent := GeminiDriver.transformStreamEvent L
  extractUsage := GeminiDriver.extractUsage L.J
  extractStreamUsage := GeminiDriver.extractStreamUsage L.J

inductive Provider where
  | openai
  | openaiCompat
  | anthropic
  | gemini
  deriving DecidableEq

namespace Provider

def driver (L : Libraries) : Provider → AiDriver
  | .openai => openaiDriver L
  | .openaiCompat => openaiCompatDriver L
  | .anthropic => anthropicDriver L
  | .gemini => geminiDriver L

end Provider

end KongRust.Ai

import KongRust.Foundation.JsonText
import KongRust.Ai.Sse

/-!
# The chat format

The OpenAI chat completion is the format between the provider drivers and the client codecs.
-/

namespace KongRust.Ai

open KongRust

/-- `FunctionCall`. -/
structure FunctionCall where
  name : String
  arguments : String
  deriving DecidableEq

structure ToolCall where
  id : String
  callType : String
  function : FunctionCall
  deriving DecidableEq

/-- `Message`. The content is a string or an array of parts. -/
structure Message where
  role : String
  content : Option Json
  toolCalls : Option (List ToolCall)
  toolCallId : Option String
  name : Option String

structure Choice where
  index : Nat
  message : Message
  finishReason : Option String

structure Usage where
  promptTokens : UInt64
  completionTokens : UInt64
  totalTokens : UInt64
  deriving DecidableEq

structure ChatResponse where
  id : String
  object : String
  created : Option UInt64
  model : String
  choices : List Choice
  usage : Option Usage

/-! ## What a driver makes -/

/-- What a driver takes from its libraries: JSON, the message for a value that a type refuses,
and `str::to_lowercase`. -/
structure Libraries where
  J : JsonText
  refusal : Json → String
  toLowercase : String → String

/-- The errors of a driver. -/
inductive DriverError where
  | upstreamError (message : String)
  | serializationError (message : String)
  deriving DecidableEq

/-- `body.chars().take(500)`. -/
def excerpt (body : String) : String := String.ofList (body.toList.take 500)

/-- A field of a chat message that is left away where it is empty. -/
def contentOf (text : String) : Option Json := if text = "" then none else some (.string text)

def toolCallsOf (calls : List ToolCall) : Option (List ToolCall) :=
  if calls = [] then none else some calls

/-- The one choice of an answer of the assistant. -/
def assistantChoice (text : String) (calls : List ToolCall) (finishReason : Option String) :
    Choice where
  index := 0
  message :=
    { role := "assistant"
      content := contentOf text
      toolCalls := toolCallsOf calls
      toolCallId := none
      name := none }
  finishReason := finishReason

variable (id model : String)

def chatChunk (id model : String) (delta : List (String × Json)) (finishReason : Option String) :
    Json :=
  .ofFields [("id", .string id), ("object", .string "chat.completion.chunk"),
    ("model", .string model),
    ("choices", .array [.ofFields [("index", .number (.posInt 0)), ("delta", .ofFields delta),
      ("finish_reason", (finishReason.map Json.string).getD .null)]])]

theorem isDone_print (J : JsonText) {v : Json} (h : v.isObject) (eventType : String)
    (id : Option String) : (⟨eventType, J.print v, id⟩ : SseEvent).isDone = false := by
  cases v with
  | object fields => exact SseEvent.isDone_of_head (J.print_object fields)
  | _ => cases h

/-! ## What is read from a chat chunk -/

namespace Chunk

/-- The first element of `choices`. -/
def firstChoice (chunk : Json) : Option Json :=
  ((chunk.get "choices").bind Json.asArray).bind List.head?

def delta (chunk : Json) : Option Json := (firstChoice chunk).bind fun choice => choice.get "delta"

def content (delta : Json) : Option String := (delta.get "content").bind Json.asStr

def toolCalls (delta : Json) : List Json :=
  ((delta.get "tool_calls").bind Json.asArray).getD []

variable (toolCall : Json)

def callId (toolCall : Json) : Option String := (toolCall.get "id").bind Json.asStr

def functionName (toolCall : Json) : Option String :=
  ((toolCall.get "function").bind fun f => f.get "name").bind Json.asStr

def functionArguments (toolCall : Json) : Option String :=
  ((toolCall.get "function").bind fun f => f.get "arguments").bind Json.asStr

def finishReason (chunk : Json) : Option String :=
  ((firstChoice chunk).bind fun choice => choice.get "finish_reason").bind Json.asStr

end Chunk

/-! ## Chunks with one choice -/

theorem chatChunk_plain {id model : String} {delta : List (String × Json)}
    (h : ∀ field ∈ delta, field.2.Plain 123) (finishReason : Option String) :
    (chatChunk id model delta finishReason).Plain 127 := by
  have hReason : ((finishReason.map Json.string).getD .null).Plain 124 := by
    cases finishReason <;> simp
  have hDelta : (Json.ofFields delta).Plain 124 := Json.plain_ofFields h
  simp [chatChunk, hReason, hDelta]

theorem chatChunk_delta (delta : List (String × Json)) (finishReason : Option String) :
    Chunk.delta (chatChunk id model delta finishReason) = some (.ofFields delta) := by
  simp [Chunk.delta, Chunk.firstChoice, chatChunk, Json.get_ofFields, Json.asArray]

theorem chatChunk_finishReason (delta : List (String × Json)) (finishReason : Option String) :
    Chunk.finishReason (chatChunk id model delta finishReason) = finishReason := by
  cases finishReason <;>
    simp [Chunk.finishReason, Chunk.firstChoice, chatChunk, Json.get_ofFields, Json.asArray,
      Json.asStr]

end KongRust.Ai

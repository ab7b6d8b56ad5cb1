import KongRust.Ai.ChatFormat

/-!
# The Anthropic client protocol

`AnthropicCodec` gives a chat answer to a client of the Messages API: as one message, or as the
events of a stream.
-/

namespace KongRust.Ai.AnthropicCodec

open KongRust

structure ContentBlock where
  blockType : String
  text : Option String

structure AnthropicUsage where
  inputTokens : UInt64
  outputTokens : UInt64

structure AnthropicResponse where
  id : String
  msgType : String
  role : String
  content : List ContentBlock
  model : String
  stopReason : Option String
  stopSequence : Option String
  usage : AnthropicUsage

/-- Its serialization, in the order of the struct's fields. -/
def AnthropicResponse.json (response : AnthropicResponse) : Json :=
  let optional : Option String → Json := fun s => (s.map Json.string).getD .null
  .object [("id", .string response.id), ("type", .string response.msgType),
    ("role", .string response.role),
    ("content", .array (response.content.map fun block =>
      .object (("type", .string block.blockType) ::
        (block.text.map fun text => ("text", Json.string text)).toList))),
    ("model", .string response.model), ("stop_reason", optional response.stopReason),
    ("stop_sequence", optional response.stopSequence),
    ("usage", .object [("input_tokens", .number (.posInt response.usage.inputTokens)),
      ("output_tokens", .number (.posInt response.usage.outputTokens))])]

/-! ## One message -/

def stopReasonOf : String → String
  | "stop" => "end_turn"
  | "length" => "max_tokens"
  | "tool_calls" => "tool_use"
  | other => other

variable (J : JsonText)

/-- The message that `encode_response` writes. -/
def encodeResponse (J : JsonText) (response : ChatResponse) : AnthropicResponse :=
  let choice := response.choices.head?
  let contentText :=
    match choice.bind fun choice => choice.message.content with
    | some (.string s) => s
    | some other => J.print other
    | none => ""
  { id := response.id
    msgType := "message"
    role := "assistant"
    content := [⟨"text", some contentText⟩]
    model := response.model
    stopReason := (choice.bind fun choice => choice.finishReason).map stopReasonOf
    stopSequence := none
    usage :=
      match response.usage with
      | some usage => ⟨usage.promptTokens, usage.completionTokens⟩
      | none => ⟨0, 0⟩ }

/-! ## A stream -/

def messageDelta : Json :=
  .ofFields [("type", .string "message_delta"),
    ("delta", .ofFields [("stop_reason", .string "end_turn")]),
    ("usage", .ofFields [("output_tokens", .number (.posInt 0))])]

def messageStop : Json := .ofFields [("type", .string "message_stop")]

def messageStart (id model : String) : Json :=
  .ofFields [("type", .string "message_start"),
    ("message", .ofFields [("id", .string id), ("type", .string "message"),
      ("role", .string "assistant"), ("content", .array []), ("model", .string model),
      ("stop_reason", .null), ("stop_sequence", .null),
      ("usage", .ofFields [("input_tokens", .number (.posInt 0)),
        ("output_tokens", .number (.posInt 0))])])]

def contentBlockStart : Json :=
  .ofFields [("type", .string "content_block_start"), ("index", .number (.posInt 0)),
    ("content_block", .ofFields [("type", .string "text"), ("text", .string "")])]

def contentBlockDelta (content : String) : Json :=
  .ofFields [("type", .string "content_block_delta"), ("index", .number (.posInt 0)),
    ("delta", .ofFields [("type", .string "text_delta"), ("text", .string content)])]

def event (J : JsonText) (eventType : String) (data : Json) : SseEvent :=
  ⟨eventType, J.print data, none⟩

def doneEvents (J : JsonText) : List SseEvent :=
  [event J "message_delta" messageDelta, event J "message_stop" messageStop]

def startEvents (J : JsonText) (chunk : Json) : List SseEvent :=
  let model := ((chunk.get "model").bind Json.asStr).getD "unknown"
  let id := ((chunk.get "id").bind Json.asStr).getD "msg_unknown"
  [event J "message_start" (messageStart id model),
    event J "content_block_start" contentBlockStart]

def deltaEvents (J : JsonText) (chunk : Json) : List SseEvent :=
  let content := ((Chunk.delta chunk).bind Chunk.content).getD ""
  if content = "" then [] else [event J "content_block_delta" (contentBlockDelta content)]

/-- `encode_stream_event`. -/
def encodeStreamEvent (J : JsonText) (given : SseEvent) (isFirst : Bool) :
    Except String (List SseEvent) :=
  if given.isDone then .ok (doneEvents J)
  else
    match J.parse given.data with
    | .error e => .error ("invalid OpenAI stream chunk: " ++ e)
    | .ok chunk => .ok ((if isFirst then startEvents J chunk else []) ++ deltaEvents J chunk)

end KongRust.Ai.AnthropicCodec

import KongRust.Ai.ChatFormat

/-!
# The Anthropic driver

`AnthropicDriver` gives an answer of the Messages API as a chat answer: the whole message by
`transform_response`, the events of a stream one by one by `transform_stream_event`.
-/

namespace KongRust.Ai.AnthropicDriver

open KongRust Serde

/-! ## The types of the API -/

def contentBlock : Struct :=
  [.required "type" Serde.text, .plain "text" Serde.text, .plain "id" Serde.text,
    .plain "name" Serde.text, .plain "input" value]

def apiUsage : Struct := [.required "input_tokens" u64, .required "output_tokens" u64]

/-- `AnthropicApiResponse`. -/
def apiResponse : Struct :=
  [.required "id" Serde.text, .required "type" Serde.text, .required "role" Serde.text,
    .required "content" (vec contentBlock.codec), .required "model" Serde.text,
    .plain "stop_reason" Serde.text, .required "usage" apiUsage.codec]

variable (L : Libraries)

def read (L : Libraries) (body : String) : Except String Json :=
  L.J.fromStr apiResponse.codec L.refusal body

/-! ## The whole message -/

def str (value : Option Json) (key : String) : Option String :=
  (value.bind fun v => v.get key).bind Json.asStr

def count (value : Option Json) (key : String) : Option UInt64 :=
  (value.bind fun v => v.get key).bind Json.asU64

def blocks (resp : Json) : List Json := ((resp.get "content").bind Json.asArray).getD []

def ofType (blockType : String) (resp : Json) : List Json :=
  (blocks resp).filter fun block => str (some block) "type" = some blockType

def text (resp : Json) : String :=
  String.join ((ofType "text" resp).filterMap fun block => str (some block) "text")

/-- The input of a call, which is not `null`. -/
def inputOf (block : Json) : Option Json := (block.get "input").filter fun v => !v.isNull

def toolCall (L : Libraries) (block : Json) : Option ToolCall :=
  match str (some block) "id", str (some block) "name" with
  | some id, some name =>
    let args := ((inputOf block).map L.J.print).getD "\x7b\x7d"
    some ⟨id, "function", ⟨name, args⟩⟩
  | _, _ => none

def toolCalls (L : Libraries) (resp : Json) : List ToolCall :=
  (ofType "tool_use" resp).filterMap (toolCall L)

def finishReasonOf : String → String
  | "end_turn" => "stop"
  | "max_tokens" => "length"
  | "tool_use" => "tool_calls"
  | other => other

/-- `transform_response`. -/
def transformResponse (L : Libraries) (status : Nat) (body : String) :
    Except DriverError ChatResponse :=
  if status ≠ 200 then
    .error (.upstreamError
      ("Anthropic API returned status " ++ toString status ++ ": " ++ excerpt body))
  else
    match read L body with
    | .error e => .error (.serializationError ("invalid Anthropic response: " ++ e))
    | .ok resp =>
      let input := (count (resp.get "usage") "input_tokens").getD 0
      let output := (count (resp.get "usage") "output_tokens").getD 0
      if input.toNat + output.toNat < 2 ^ 64 then
        .ok
          { id := (str (some resp) "id").getD ""
            object := "chat.completion"
            created := none
            model := (str (some resp) "model").getD ""
            choices := [assistantChoice (text resp) (toolCalls L resp)
              ((str (some resp) "stop_reason").map finishReasonOf)]
            usage := some ⟨input, output, input + output⟩ }
      else .error (.serializationError "Anthropic usage token 总量溢出")

/-! ## The events of a stream -/

variable (data : Json)

def messageStart (data : Json) : Json :=
  chatChunk ((str (data.get "message") "id").getD "msg_unknown")
    ((str (data.get "message") "model").getD "unknown") [("role", .string "assistant")] none

def blockIndex (data : Json) : UInt64 := ((data.get "index").bind Json.asU64).getD 0

/-- Only a call makes a chunk when it starts. -/
def contentBlockStart (data : Json) : Option Json :=
  let block := data.get "content_block"
  if (str block "type").getD "text" = "tool_use" then
    some (chatChunk "msg_stream" "unknown" [("tool_calls", .array [.ofFields
      [("index", .number (.posInt (blockIndex data))),
        ("id", .string ((str block "id").getD "call_unknown")), ("type", .string "function"),
        ("function", .ofFields [("name", .string ((str block "name").getD "unknown")),
          ("arguments", .string "")])]])] none)
  else none

def contentBlockDelta (data : Json) : Option Json :=
  let delta := data.get "delta"
  match (str delta "type").getD "text_delta" with
  | "text_delta" =>
    let text := (str delta "text").getD ""
    if text = "" then none
    else some (chatChunk "msg_stream" "unknown" [("content", .string text)] none)
  | "input_json_delta" =>
    let partialJson := (str delta "partial_json").getD ""
    if partialJson = "" then none
    else
      some (chatChunk "msg_stream" "unknown" [("tool_calls", .array [.ofFields
        [("index", .number (.posInt (blockIndex data))),
          ("function", .ofFields [("arguments", .string partialJson)])]])] none)
  | _ => none

def messageDelta (data : Json) : Json :=
  chatChunk "msg_stream" "unknown" []
    (some (((str (data.get "delta") "stop_reason").map finishReasonOf).getD "stop"))

/-- The chunk of an event, by its type. -/
def chunkOf (eventType : String) (data : Json) : Option Json :=
  match eventType with
  | "message_start" => some (messageStart data)
  | "content_block_start" => contentBlockStart data
  | "ping" => none
  | "content_block_delta" => contentBlockDelta data
  | "content_block_stop" => none
  | "message_delta" => some (messageDelta data)
  | "message_stop" => none
  | _ => none

/-- `transform_stream_event`. The type that the data gives goes before the event's own. -/
def transformStreamEvent (L : Libraries) (event : SseEvent) :
    Except DriverError (Option SseEvent) :=
  match L.J.parse event.data with
  | .error e => .error (.serializationError ("invalid Anthropic SSE data: " ++ e))
  | .ok data =>
    let eventType := (str (some data) "type").getD event.eventType
    .ok ((chunkOf eventType data).map fun chunk => .message (L.J.print chunk))

end KongRust.Ai.AnthropicDriver

import KongRust.Ai.Drivers

/-!
# The requests of a client

The AI proxy takes three formats of requests and decodes each into the chat format, which the
drivers translate for their providers.
-/

namespace KongRust.Ai

open KongRust

/-- `StreamOptions`. -/
structure StreamOptions where
  includeUsage : Option Bool

/-- `ChatRequest`. A tool is kept as the value that it is written as, and so is a number that may
have a fraction. -/
structure ChatRequest where
  model : String
  messages : List Message
  temperature : Option Json
  maxTokens : Option UInt64
  topP : Option Json
  topK : Option UInt64
  stream : Option Bool
  streamOptions : Option StreamOptions
  tools : Option (List Json)
  toolChoice : Option Json
  extra : List (String × Json)

/-- `Message`, of a role and a content. -/
def Message.plain (role : String) (content : Option Json) : Message :=
  ⟨role, content, none, none, none⟩

/-- What the decoders take from their libraries: those of the drivers, and what `from_str` says of
a text in which a field of a struct stands twice. A value has the last of such fields. -/
structure RequestLibraries extends Libraries where
  repeatedField : Serde.Struct → String → Option String

namespace Requests

open Serde

/-- A field that is left away where it is `None`, without a default. -/
def skipped (name : String) (codec : Codec) : Field :=
  { Field.plain name codec with skipNone := true }

def flattened (struct : Struct) : Codec
  | .object fields => struct.codec (.object fields)
  | _ => none

def unknownFields (struct : Struct) : Json → List (String × Json)
  | .object fields => fields.filter fun field => field.1 ∉ struct.map Field.name
  | _ => []

variable (R : RequestLibraries)

/-- `from_str` of a struct: the value that the text stands for, with what is read of it. -/
def fromStr (R : RequestLibraries) (struct : Struct) (codec : Codec) (text : String) :
    Except String (Json × Json) :=
  match R.repeatedField struct text with
  | some message => .error message
  | none =>
    match R.J.parse text with
    | .error message => .error message
    | .ok value =>
      match codec value with
      | some read => .ok (value, read)
      | none => .error (R.refusal value)

theorem fromStr_ok {R : RequestLibraries} {struct : Struct} {codec : Codec} {text : String}
    {value read : Json} (h : fromStr R struct codec text = .ok (value, read)) :
    R.J.parse text = .ok value ∧ codec value = some read := by
  unfold fromStr at h
  cases hRepeated : R.repeatedField struct text with
  | some message =>
    rw [hRepeated] at h
    cases h
  | none =>
    rw [hRepeated] at h
    dsimp only at h
    cases hParse : R.J.parse text with
    | error message =>
      rw [hParse] at h
      cases h
    | ok found =>
      rw [hParse] at h
      dsimp only at h
      cases hCodec : codec found with
      | none =>
        rw [hCodec] at h
        cases h
      | some result =>
        rw [hCodec] at h
        cases h
        exact ⟨rfl, hCodec⟩

theorem fromStr_of_parse {R : RequestLibraries} {struct : Struct} {codec : Codec} {text : String}
    {value read : Json} (hRepeated : R.repeatedField struct text = none)
    (hParse : R.J.parse text = .ok value) (hCodec : codec value = some read) :
    fromStr R struct codec text = .ok (value, read) := by
  unfold fromStr
  rw [hRepeated]
  dsimp only
  rw [hParse]
  dsimp only
  rw [hCodec]

/-! ## Chat completions -/

def functionDef : Struct :=
  [.required "name" Serde.text, skipped "description" Serde.text, skipped "parameters" value]

def tool : Struct := [.required "type" Serde.text, .required "function" functionDef.codec]

def streamOptions : Struct := [.plain "include_usage" bool]

def chatRequest : Struct :=
  [.required "model" Serde.text, .required "messages" (vec OpenAiDriver.message.codec),
    .plain "temperature" f64, .plain "max_tokens" u64, .plain "top_p" f64, .plain "top_k" u64,
    .plain "stream" bool, .plain "stream_options" streamOptions.codec,
    .plain "tools" (vec tool.codec), .plain "tool_choice" value]

/-- A field that is not `None`. -/
def given (read : Json) (key : String) : Option Json :=
  (read.get key).filter fun field => !field.isNull

def number (read : Json) (key : String) : Option UInt64 := (read.get key).bind Json.asU64

def flag (read : Json) (key : String) : Option Bool := (read.get key).bind Json.asBool

def items (read : Json) (key : String) : List Json := ((read.get key).bind Json.asArray).getD []

/-- The chat request of what was read of a value. -/
def chatRequestOf (value read : Json) : ChatRequest where
  model := OpenAiDriver.str read "model"
  messages := (items read "messages").map OpenAiDriver.messageOf
  temperature := given read "temperature"
  maxTokens := number read "max_tokens"
  topP := given read "top_p"
  topK := number read "top_k"
  stream := flag read "stream"
  streamOptions := (given read "stream_options").map fun options =>
    ⟨flag options "include_usage"⟩
  tools := (read.get "tools").bind Json.asArray
  toolChoice := given read "tool_choice"
  extra := unknownFields chatRequest value

def decodeChat (R : RequestLibraries) (body : String) : Except String ChatRequest := do
  let (value, read) ← fromStr R chatRequest (flattened chatRequest) body
  return chatRequestOf value read

/-! ## Anthropic messages -/

def anthropicMessage : Struct := [.required "role" Serde.text, .required "content" value]

def anthropicRequest : Struct :=
  [.required "model" Serde.text, .required "messages" (vec anthropicMessage.codec),
    .opt "system" value, .required "max_tokens" u64, .opt "temperature" f64, .opt "top_p" f64,
    .opt "top_k" u64, .opt "stream" bool, .opt "metadata" value]

def blockText (block : Json) : Option String := (block.get "text").bind Json.asStr

/-- The text of a block whose type is `text`. -/
def textBlock (block : Json) : Option String :=
  if (block.get "type").bind Json.asStr = some "text" then blockText block else none

/-- `convert_anthropic_content_to_openai`. -/
def convertAnthropicContentToOpenai : Json → Json
  | .array blocks => .string ("".intercalate (blocks.filterMap textBlock))
  | content => content

def systemContent : Json → Json
  | .array blocks => .string ("\n".intercalate (blocks.filterMap blockText))
  | system => system

/-- `AnthropicCodec::decode_request`. -/
def decodeAnthropic (R : RequestLibraries) (body : String) : Except String ChatRequest := do
  let (_, read) ← (fromStr R anthropicRequest anthropicRequest.codec body).mapError fun message =>
    "serialization error: invalid Anthropic request: " ++ message
  return {
    model := OpenAiDriver.str read "model"
    messages :=
      ((given read "system").map fun system =>
        Message.plain "system" (some (systemContent system))).toList ++
      (items read "messages").map fun message =>
        Message.plain (OpenAiDriver.str message "role")
          (some (convertAnthropicContentToOpenai (message.field "content")))
    temperature := given read "temperature"
    maxTokens := number read "max_tokens"
    topP := given read "top_p"
    topK := number read "top_k"
    stream := flag read "stream"
    streamOptions := none
    tools := none
    toolChoice := none
    extra := [] }

/-! ## Responses -/

/-- `ResponsesRequest`, as far as the proxy uses it. -/
structure ResponsesRequest where
  model : String
  input : Json
  instructions : Option String
  tools : List Json
  toolChoice : Option Json
  temperature : Option Json
  topP : Option Json
  maxOutputTokens : Option UInt64
  stream : Option Bool
  background : Option Bool

def responsesRequest : Struct :=
  [.required "model" Serde.text, .required "input" value, .opt "instructions" Serde.text,
    .default "tools" (vec value) (.array []), .opt "tool_choice" value, .opt "temperature" f64,
    .opt "top_p" f64, .opt "max_output_tokens" u64, .opt "stream" bool,
    .opt "previous_response_id" Serde.text, .opt "background" bool]

def responsesRequestOf (read : Json) : ResponsesRequest where
  model := OpenAiDriver.str read "model"
  input := read.field "input"
  instructions := OpenAiDriver.str? read "instructions"
  tools := items read "tools"
  toolChoice := given read "tool_choice"
  temperature := given read "temperature"
  topP := given read "top_p"
  maxOutputTokens := number read "max_output_tokens"
  stream := flag read "stream"
  background := flag read "background"

def decodeResponses (R : RequestLibraries) (body : String) : Except String ResponsesRequest := do
  let (_, read) ← fromStr R responsesRequest (flattened responsesRequest) body
  return responsesRequestOf read

def partType (part : Json) : Option String := (part.get "type").bind Json.asStr

def plainText (J : JsonText) : Json → String
  | .string s => s
  | other => J.print other

/-- The chat form of a part of a message with more than text. -/
def convertPart (part : Json) : Option Json :=
  match (partType part).getD "" with
  | "input_text" =>
    some (.ofFields [("type", .string "text"), ("text", .string ((blockText part).getD ""))])
  | "input_image" =>
    (((part.get "image_url").bind Json.asStr).or ((part.get "url").bind Json.asStr)).map
      fun url => .ofFields [("type", .string "image_url"),
        ("image_url", .ofFields [("url", .string url)])]
  | "input_audio" =>
    some (.ofFields [("type", .string "input_audio"),
      ("input_audio", .ofFields [("data", part.field "data"),
        ("format", .string (((part.get "format").bind Json.asStr).getD "wav"))])])
  | _ => none

/-- The content of a message: parts that are all text become one string. -/
def convertContent : Json → Json
  | .array parts =>
    if parts.any fun part => partType part != some "input_text" then
      .array (parts.filterMap convertPart)
    else
      let texts := parts.filterMap blockText
      if texts.isEmpty then .array parts else .string ("".intercalate texts)
  | content => content

/-- `input_item_to_message`. -/
def inputItemToMessage (J : JsonText) (item : Json) : Option Message :=
  match partType item, (item.get "role").bind Json.asStr with
  | some "function_call", _ => do
    let callId ← (item.get "call_id").bind Json.asStr
    let name ← (item.get "name").bind Json.asStr
    let arguments := ((item.get "arguments").map (plainText J)).getD ""
    return ⟨"assistant", none, some [⟨callId, "function", ⟨name, arguments⟩⟩], none, none⟩
  | some "function_call_output", _ => do
    let callId ← (item.get "call_id").bind Json.asStr
    let output := ((item.get "output").map (plainText J)).getD ""
    return ⟨"tool", some (.string output), none, some callId, none⟩
  | _, some role => some (Message.plain role ((item.get "content").map convertContent))
  | _, none => none

def inputMessages (J : JsonText) : Json → Except String (List Message)
  | .string s => .ok [Message.plain "user" (some (.string s))]
  | .array inputs => .ok (inputs.filterMap (inputItemToMessage J))
  | _ => .error "input must be a string or array"

/-- The tools that chat completions have: those of the type `function` that can be read. -/
def functionTool (given : Json) : Option Json :=
  if partType given = some "function" then tool.codec given else none

def strippedTool (given : Json) : Option String :=
  (partType given).filter fun toolType => toolType != "function" && toolType != ""

/-- `responses_to_chat`, with the types of the tools that it strips. -/
def responsesToChat (J : JsonText) (request : ResponsesRequest) :
    Except String (ChatRequest × List String) :=
  if request.background = some true then
    .error "background mode is not supported in translation path"
  else do
    let instructions := (request.instructions.filter fun text => text != "").map fun text =>
      Message.plain "system" (some (.string text))
    let messages ← inputMessages J request.input
    let tools := request.tools.filterMap functionTool
    return (
      { model := request.model
        messages := instructions.toList ++ messages
        temperature := request.temperature
        maxTokens := request.maxOutputTokens
        topP := request.topP
        topK := none
        stream := request.stream
        streamOptions := none
        tools := if tools.isEmpty then none else some tools
        toolChoice := request.toolChoice
        extra := [] },
      request.tools.filterMap strippedTool)

/-! ## The formats -/

/-- The format of a request, from `route_type` and the client's protocol. -/
inductive RequestFormat where
  | chat
  | anthropic
  | responses
  deriving DecidableEq

/-- What a request is decoded into before it is translated. -/
def decode (R : RequestLibraries) (format : RequestFormat) (body : String) :
    Except String ChatRequest :=
  match format with
  | .chat => decodeChat R body
  | .anthropic => decodeAnthropic R body
  | .responses => do
    let request ← decodeResponses R body
    let (chatRequest, _) ← responsesToChat R.J request
    return chatRequest

end Requests

end KongRust.Ai

import KongRust.Ai.AnthropicFormat
import KongRust.Ai.Drivers
import KongRust.Ai.Remap
import KongRust.Ai.Responses
import KongRust.Foundation.Utf8
import KongRust.Proxy.Lifecycle

/-!
# The body filter of the AI proxy

`ai-proxy` takes the body of an answer in the chunks in which it arrives. A stream is cut into
events that are observed and translated one by one; another answer is put together, and translated
when it is complete. A pass-through only observes.
-/

namespace KongRust.Ai

open KongRust KongRust.Proxy

/-! ## What a client receives of a stream -/

/-- What is written of one event: its data, and its type if the client's protocol has one. -/
structure Frame where
  eventType : Option String
  data : String
  deriving DecidableEq

def Frame.text (frame : Frame) : String :=
  match frame.eventType with
  | some eventType => "event: " ++ eventType ++ "\ndata: " ++ frame.data ++ "\n\n"
  | none => "data: " ++ frame.data ++ "\n\n"

def SseEvent.frame (event : SseEvent) : Frame := ⟨some event.eventType, event.data⟩

def ResponsesEvent.frame (J : JsonText) (event : ResponsesEvent) : Frame :=
  ⟨some event.eventType, J.print event.data⟩

def chatFrame (data : String) : Frame := ⟨none, data⟩

def doneFrame : Frame := chatFrame "[DONE]"

/-! ## The state of a request -/

inductive ClientProtocol where
  | openAi
  | anthropic
  deriving DecidableEq

inductive StreamTerminalState where
  | notStreaming
  | pending
  | complete
  | providerFailed
  deriving DecidableEq

/-- What the access phase and the header filter set up. -/
structure RequestSetup where
  driver : AiDriver
  modelName : String
  streamMode : Bool
  clientProtocol : ClientProtocol
  responsesMode : Bool
  responsesPassThrough : Bool
  anthropicPassThrough : Bool
  strippedTools : Option (List String)
  responseStatus : Option Nat

/-- What cuts the bytes of a stream into events. -/
structure StreamDecoder where
  sseParser : Option SseParser
  streamUtf8Buffer : List UInt8

/-- What is known of the answer so far, with the lifecycle of the request. -/
structure Observed where
  usage : TokenUsage
  estimatedCompletionTokens : Option UInt64
  completionText : String
  /-- The texts of the choices, by their indexes. -/
  completionTextByChoice : List (UInt64 × String)
  completionObservationInvalid : Bool
  responseBuffer : Option String
  validStreamEventSeen : Bool
  streamTerminal : StreamTerminalState
  isFirstStreamEvent : Bool
  responsesEventState : Option ResponsesEventState
  streamToolCallCount : UInt32
  lifecycle : RequestLifecycle

/-- `AiRequestState`. -/
structure AiRequestState where
  setup : RequestSetup
  decoder : StreamDecoder
  observed : Observed

/-- What the filter takes from its libraries: those of the drivers, the encodings of the models,
and the identifiers that a translated answer draws. -/
structure Environment extends Libraries where
  tiktoken : Tiktoken
  driverUuid : String
  responseUuid : String

/-! ## Observing the events of a provider -/

/-- `has_finish_reason`. -/
def hasFinishReason (value : Json) : Bool :=
  (((value.get "candidates").bind Json.asArray).getD []).any fun candidate =>
    match (candidate.get "finishReason").bind Json.asStr with
    | some reason => reason ≠ ""
    | none => false

/-- `is_valid_provider_stream_event`. -/
def isValidProviderStreamEvent (providerType : String) (responsesSurface : Bool)
    (eventName : String) (parsed : Option Json) : Bool :=
  if eventName ∈ ["ping", "heartbeat", "keepalive", "response.keepalive"] then false
  else
    match parsed with
    | none => false
    | some value =>
      match providerType with
      | "anthropic" =>
        eventName ∈ ["message_start", "content_block_start", "content_block_delta",
          "content_block_stop", "message_delta"]
      | "gemini" =>
        !(((value.get "candidates").bind Json.asArray).getD []).isEmpty ||
          (value.get "usageMetadata").isSome
      | "openai" =>
        if responsesSurface then Text.startsWith eventName "response." else value.isObject
      | _ => value.isObject

/-- The name of an event: its type, or the one that its data gives. -/
def eventName (event : SseEvent) (parsed : Option Json) : String :=
  if event.eventType ≠ "message" then event.eventType
  else ((parsed.bind fun value => value.get "type").bind Json.asStr).getD ""

namespace Observed

/-- `observe_stream_event`. -/
def observeStreamEvent (J : JsonText) (setup : RequestSetup) (o : Observed) (event : SseEvent) :
    Observed :=
  if event.isDone then { o with streamTerminal := .complete }
  else
    let parsed := readJson J event.data
    if parsed.isNone ∧ event.eventType = "message" then o
    else
      let name := eventName event parsed
      if name = "error" ∨ name = "response.failed" ∨
          (parsed.bind fun value => value.get "error").isSome then
        { o with streamTerminal := .providerFailed }
      else if name ∈ ["response.completed", "response.incomplete", "message_stop"] then
        { o with streamTerminal := .complete }
      else if isValidProviderStreamEvent setup.driver.providerType
          (setup.responsesMode || setup.responsesPassThrough) name parsed then
        { o with
          validStreamEventSeen := true
          streamTerminal :=
            if (parsed.map hasFinishReason).getD false then .complete else o.streamTerminal }
      else o

/-- `mark_response_transform_error`: an error of the gateway, if the provider has succeeded. -/
def markResponseTransformError (setup : RequestSetup) (component : String) (o : Observed) :
    Observed :=
  match o.lifecycle.upstreamStatus.or setup.responseStatus with
  | some status =>
    if 200 ≤ status ∧ status ≤ 299 then
      { o with lifecycle := o.lifecycle.markGatewayError .bodyFilter component }
    else o
  | none => o

def markProviderFailure (setup : RequestSetup) (o : Observed) : Observed :=
  if o.streamTerminal = .providerFailed then
    { o with lifecycle := o.lifecycle.markUpstreamSemanticError (some setup.driver.providerType) }
  else o

def mergeUsage (observation : Option TokenUsage) (o : Observed) : Observed :=
  match observation with
  | some observation => { o with usage := o.usage.merge observation }
  | none => o

def invalidObservation (o : Observed) : Observed := { o with completionObservationInvalid := true }

end Observed

/-! ## The text of a completion -/

mutual

/-- `collect_content_text`. -/
def contentText : Json → String
  | .string s => s
  | .array items => contentTexts items
  | .object fields =>
    match ((Json.object fields).get "text").bind Json.asStr with
    | some text => text
    | none => contentField fields
  | _ => ""

def contentTexts : List Json → String
  | [] => ""
  | item :: items => contentText item ++ contentTexts items

/-- The text of the field `content`. -/
def contentField : List (String × Json) → String
  | [] => ""
  | (key, value) :: fields => if key = "content" then contentText value else contentField fields

end

mutual

/-- `collect_responses_output`. -/
def responsesOutput : Json → String
  | .array items => responsesOutputs items
  | .object fields =>
    let own :=
      match ((Json.object fields).get "type").bind Json.asStr with
      | some "output_text" => (((Json.object fields).get "text").bind Json.asStr).getD ""
      | some "function_call" => (((Json.object fields).get "arguments").bind Json.asStr).getD ""
      | _ => ""
    own ++ responsesField "output" fields ++ responsesField "content" fields
  | _ => ""

def responsesOutputs : List Json → String
  | [] => ""
  | item :: items => responsesOutput item ++ responsesOutputs items

def responsesField (name : String) : List (String × Json) → String
  | [] => ""
  | (key, value) :: fields =>
    if key = name then responsesOutput value else responsesField name fields

end

def deltaText (delta : Json) : String :=
  ((delta.get "content").map contentText).getD "" ++
    String.join ((Chunk.toolCalls delta).filterMap Chunk.functionArguments)

/-- The text of a choice in an ordered map, made where it is missing. -/
def appendAt (index : UInt64) (text : String) : List (UInt64 × String) → List (UInt64 × String)
  | [] => [(index, text)]
  | entry :: entries =>
    if index < entry.1 then (index, text) :: entry :: entries
    else if index = entry.1 then (index, entry.2 ++ text) :: entries
    else entry :: appendAt index text entries

namespace Observed

def appendChoice (o : Observed) (choice : Json) : Observed :=
  match (choice.get "index").bind Json.asU64 with
  | none => o.invalidObservation
  | some index =>
    match choice.get "delta" with
    | none => o
    | some delta =>
      { o with
        completionTextByChoice := appendAt index (deltaText delta) o.completionTextByChoice }

/-- `append_chat_stream_completion_text`. -/
def appendChatStreamCompletionText (J : JsonText) (o : Observed) (data : String) : Observed :=
  match readJson J data with
  | none => o
  | some chunk => (((chunk.get "choices").bind Json.asArray).getD []).foldl appendChoice o

/-- `append_responses_stream_completion_text`: the final event replaces what was collected, and
makes up for events that could not be read. -/
def appendResponsesStreamCompletionText (o : Observed) (event : Json) : Observed :=
  let eventType := ((event.get "type").bind Json.asStr).getD ""
  if eventType = "response.output_text.delta" ∨
      eventType = "response.function_call_arguments.delta" then
    { o with completionText := o.completionText ++ ((event.get "delta").bind Json.asStr).getD "" }
  else if eventType = "response.completed" ∨ eventType = "response.incomplete" then
    match (event.get "response").bind fun response => response.get "output" with
    | some output =>
      { o with completionText := responsesOutput output, completionObservationInvalid := false }
    | none => o
  else o

/-- `append_anthropic_stream_completion_text`. -/
def appendAnthropicStreamCompletionText (o : Observed) (event : Json) : Observed :=
  if ((event.get "type").bind Json.asStr).getD "" ≠ "content_block_delta" then o
  else
    match event.get "delta" with
    | none => o
    | some delta =>
      { o with
        completionText := o.completionText ++ ((delta.get "text").bind Json.asStr).getD "" ++
          ((delta.get "partial_json").bind Json.asStr).getD "" }

/-! ## The estimate of a completion -/

/-- `update_chat_completion_estimate`. -/
def updateChatCompletionEstimate (env : Environment) (setup : RequestSetup)
    (response : ChatResponse) (o : Observed) : Observed :=
  if o.usage.completionTokens.isSome ∨ response.choices.isEmpty then o
  else
    let texts := response.choices.map fun choice =>
      (choice.message.content.map contentText).getD "" ++
        String.join ((choice.message.toolCalls.getD []).map fun call => call.function.arguments)
    match estimateCompletionSegments env.tiktoken setup.modelName texts with
    | some tokens => { o with estimatedCompletionTokens := some tokens }
    | none => o.invalidObservation

/-- `update_responses_completion_estimate`. -/
def updateResponsesCompletionEstimate (env : Environment) (setup : RequestSetup) (response : Json)
    (o : Observed) : Observed :=
  if o.usage.completionTokens.isSome then o
  else
    match response.get "output" with
    | none => o
    | some output =>
      { o with
        estimatedCompletionTokens :=
          some (estimateCompletion env.tiktoken setup.modelName (responsesOutput output)) }

/-- `finalize_stream_completion_estimate`. -/
def finalizeStreamCompletionEstimate (env : Environment) (setup : RequestSetup) (o : Observed) :
    Observed :=
  if o.streamTerminal = .complete ∧ o.usage.completionTokens.isNone ∧
      o.completionObservationInvalid = false then
    let estimate :=
      if o.completionTextByChoice.isEmpty then
        some (estimateCompletion env.tiktoken setup.modelName o.completionText)
      else
        estimateCompletionSegments env.tiktoken setup.modelName
          (o.completionTextByChoice.map Prod.snd)
    { o with
      estimatedCompletionTokens := estimate
      completionObservationInvalid := estimate.isNone }
  else o

def finishStream (env : Environment) (setup : RequestSetup) (o : Observed) : Observed :=
  let o := o.finalizeStreamCompletionEstimate env setup
  { o with usage := o.usage.deriveTotalIfMissing }

end Observed

/-! ## The events of a stream -/

namespace StreamDecoder

variable (decoder : StreamDecoder)

/-- `decode_stream_chunk`: the text that can be given to the parser, unless it is empty, and
whether the bytes were invalid. The bytes of a character that has begun are kept. -/
def decodeStreamChunk (decoder : StreamDecoder) (chunk : List UInt8) :
    StreamDecoder × Option (List Char) × Bool :=
  let given := fun text : List Char => if text.isEmpty then none else some text
  match Utf8.fromUtf8 (decoder.streamUtf8Buffer ++ chunk) with
  | .ok text => ({ decoder with streamUtf8Buffer := [] }, given text, false)
  | .incomplete text rest => ({ decoder with streamUtf8Buffer := rest }, given text, false)
  | .invalid text => ({ decoder with streamUtf8Buffer := [] }, given text, true)

def feed (decoder : StreamDecoder) (text : Option (List Char)) : StreamDecoder × List SseEvent :=
  match text, decoder.sseParser with
  | some text, some parser =>
    ({ decoder with sseParser := some (parser.feed text).1 }, (parser.feed text).2)
  | _, _ => (decoder, [])

def flush (decoder : StreamDecoder) : StreamDecoder × List SseEvent :=
  match decoder.sseParser with
  | some parser => ({ decoder with sseParser := some parser.flush.1 }, parser.flush.2)
  | none => (decoder, [])

/-- What a call of the filter gets from its chunk. -/
structure Taken where
  decoder : StreamDecoder
  events : List SseEvent
  /-- The bytes were no UTF-8. -/
  invalid : Bool
  /-- The stream has ended inside a character. -/
  incomplete : Bool

/-- The events of a chunk, and at the end of the stream those of what is left. -/
def take (decoder : StreamDecoder) (body : Option (List UInt8)) (endOfStream : Bool) : Taken :=
  let fed : Taken :=
    match body with
    | some chunk =>
      let (decoder, text, invalid) := decoder.decodeStreamChunk chunk
      let (decoder, events) := decoder.feed text
      ⟨decoder, events, invalid, false⟩
    | none => ⟨decoder, [], false, false⟩
  if endOfStream then
    let incomplete := !fed.decoder.streamUtf8Buffer.isEmpty
    let (decoder, events) := { fed.decoder with streamUtf8Buffer := [] }.flush
    ⟨decoder, fed.events ++ events, fed.invalid, incomplete⟩
  else fed

end StreamDecoder

namespace Observed

def noteUndecoded (taken : StreamDecoder.Taken) (o : Observed) : Observed :=
  if taken.invalid || taken.incomplete then o.invalidObservation else o

def noteUndecodedAs (setup : RequestSetup) (component : String) (taken : StreamDecoder.Taken)
    (o : Observed) : Observed :=
  let note := fun o : Observed => o.invalidObservation.markResponseTransformError setup component
  let o := if taken.invalid then note o else o
  if taken.incomplete then note o else o

/-! ## One event -/

variable (env : Environment)

/-- An event that goes through to a client of the Messages API. -/
def anthropicPassThroughEvent (env : Environment) (setup : RequestSetup) (o : Observed)
    (event : SseEvent) : Observed :=
  let o := o.observeStreamEvent env.J setup event
  let o := o.mergeUsage (setup.driver.extractStreamUsage event)
  match readJson env.J event.data with
  | some value => o.appendAnthropicStreamCompletionText value
  | none => if event.isDone then o else o.invalidObservation

/-- An event that goes through to a client of the Responses API. Its usage may stand in the
response that it carries. -/
def responsesPassThroughEvent (env : Environment) (setup : RequestSetup) (o : Observed)
    (event : SseEvent) : Observed :=
  let o := (o.observeStreamEvent env.J setup event).markProviderFailure setup
  match readJson env.J event.data with
  | some value =>
    let usage := (value.get "usage").or
      ((value.get "response").bind fun response => response.get "usage")
    (o.appendResponsesStreamCompletionText value).mergeUsage (usage.map responsesTokenUsage)
  | none => if event.isDone then o else o.invalidObservation

/-- The machine for the client of the Responses API writes its events. -/
def advance (J : JsonText) (o : Observed)
    (f : ResponsesEventState → ResponsesEventState × List ResponsesEvent) :
    Observed × List Frame :=
  match o.responsesEventState with
  | some state =>
    ({ o with responsesEventState := some (f state).1 }, (f state).2.map (ResponsesEvent.frame J))
  | none => (o, [])

/-- The end of a stream for the client of the Responses API, with the usage so far. -/
def responsesDone (env : Environment) (setup : RequestSetup) (o : Observed) :
    Observed × List Frame :=
  let input := o.usage.promptTokens.getD 0
  let output := o.usage.completionTokens.getD 0
  let sum := if input.toNat + output.toNat < 2 ^ 64 then some (input + output) else none
  match o.usage.totalTokens.or sum with
  | some total =>
    o.advance env.J fun state =>
      ResponsesEventState.processDone { state with usage := ⟨input, output, total⟩ }
  | none =>
    let o := { o with usage := { o.usage with invalid := true } }
    (o.markResponseTransformError setup "responses_usage_overflow").advance env.J
      fun state => state.processError "invalid provider usage"

def remapped (J : JsonText) (o : Observed) (transformed : SseEvent) : Observed × SseEvent :=
  let (counter, data) := remapToolCallIndex J transformed.data o.streamToolCallCount
  ({ o with streamToolCallCount := counter },
    { transformed with data := data.getD transformed.data })

def transformFailed (setup : RequestSetup) (component : String) (o : Observed) : Observed :=
  let o := o.invalidObservation
  if o.streamTerminal ≠ .providerFailed then o.markResponseTransformError setup component else o

/-- One event for the client of the Responses API. -/
def responsesStreamEvent (env : Environment) (setup : RequestSetup) (o : Observed)
    (event : SseEvent) : Observed × List Frame :=
  let o := (o.observeStreamEvent env.J setup event).markProviderFailure setup
  let o := o.mergeUsage (setup.driver.extractStreamUsage event)
  if event.isDone then o.responsesDone env setup
  else
    match setup.driver.transformStreamEvent event with
    | .ok (some transformed) =>
      let (o, given) :=
        (o.appendChatStreamCompletionText env.J transformed.data).remapped env.J transformed
      o.advance env.J fun state => state.processChatChunk env.J given.data
    | .ok none => (o, [])
    | .error _ => (o.transformFailed setup "responses_stream_transform", [])

/-- The end of a stream for the client of a chat. -/
def chatDone (env : Environment) (setup : RequestSetup) (o : Observed) (event : SseEvent) :
    Observed × List Frame :=
  if setup.clientProtocol = .anthropic then
    match AnthropicCodec.encodeStreamEvent env.J event false with
    | .ok encoded => (o, encoded.map SseEvent.frame)
    | .error _ => (o.markResponseTransformError setup "anthropic_stream_encode", [])
  else (o, [doneFrame])

/-- A chunk for the client of a chat. -/
def chatChunkOut (env : Environment) (setup : RequestSetup) (o : Observed) (given : SseEvent) :
    Observed × List Frame :=
  if setup.clientProtocol = .anthropic then
    match AnthropicCodec.encodeStreamEvent env.J given o.isFirstStreamEvent with
    | .ok encoded => ({ o with isFirstStreamEvent := false }, encoded.map SseEvent.frame)
    | .error _ => (o.markResponseTransformError setup "anthropic_stream_encode", [])
  else (o, [chatFrame given.data])

/-- One event for the client of a chat. -/
def chatStreamEvent (env : Environment) (setup : RequestSetup) (o : Observed) (event : SseEvent) :
    Observed × List Frame :=
  let o := (o.observeStreamEvent env.J setup event).markProviderFailure setup
  if event.isDone then o.chatDone env setup event
  else
    let o := o.mergeUsage (setup.driver.extractStreamUsage event)
    match setup.driver.transformStreamEvent event with
    | .ok (some transformed) =>
      let (o, given) :=
        (o.appendChatStreamCompletionText env.J transformed.data).remapped env.J transformed
      let (o, frames) := o.chatChunkOut env setup given
      ({ o with responseBuffer := o.responseBuffer.map fun buffer => buffer ++ given.data }, frames)
    | .ok none => (o, [])
    | .error _ => (o.transformFailed setup "stream_event_transform", [])

/-! ## A whole answer -/

/-- A chunk of an answer that is put together, with invalid bytes replaced. -/
def bufferChunk (body : Option (List UInt8)) (o : Observed) : Observed :=
  match body with
  | some chunk =>
    { o with
      responseBuffer := some (o.responseBuffer.getD "" ++ String.ofList (Utf8.lossy chunk)) }
  | none => o

def takeBuffer (o : Observed) : Observed × String :=
  ({ o with responseBuffer := none }, o.responseBuffer.getD "")

def setUsage (usage : Option TokenUsage) (o : Observed) : Observed :=
  { o with usage := usage.getD o.usage }

/-- The usage of a message that goes through, or an estimate from its content. -/
def anthropicPassThroughBody (env : Environment) (setup : RequestSetup) (o : Observed) :
    Observed :=
  let (o, fullBody) := o.takeBuffer
  let o := o.setUsage (setup.driver.extractUsage fullBody)
  if o.usage.completionTokens.isSome then o
  else
    match readJson env.J fullBody with
    | none => o
    | some value =>
      let text := ((value.get "content").map contentText).getD ""
      { o with
        estimatedCompletionTokens :=
          some (estimateCompletion env.tiktoken setup.modelName text) }

/-- The usage of a response that goes through, or an estimate from its output. -/
def responsesPassThroughBody (env : Environment) (setup : RequestSetup) (o : Observed) :
    Observed :=
  match o.responseBuffer.bind (readJson env.J) with
  | none => o
  | some data =>
    (o.setUsage ((data.get "usage").map responsesTokenUsage)).updateResponsesCompletionEstimate
      env setup data

end Observed

/-! ### As a response -/

/-- `ResponsesResponse`. -/
structure ResponsesResponse where
  id : String
  status : String
  model : String
  output : List Json
  usage : ResponsesUsage
  error : Option Json
  metadata : Option Json

/-- Its serialization, in the order of the struct's fields. -/
def ResponsesResponse.json (response : ResponsesResponse) : Json :=
  .object ([("id", .string response.id), ("object", .string "response"),
    ("status", .string response.status), ("model", .string response.model),
    ("output", .array response.output),
    ("usage", .object [("input_tokens", .number (.posInt response.usage.inputTokens)),
      ("output_tokens", .number (.posInt response.usage.outputTokens)),
      ("total_tokens", .number (.posInt response.usage.totalTokens))])] ++
    (response.error.map fun error => ("error", error)).toList ++
    (response.metadata.map fun metadata => ("metadata", metadata)).toList)

/-- The text of a message; a content that is no string is written as JSON. -/
def messageText (J : JsonText) (message : Message) : String :=
  match message.content with
  | some (.string s) => s
  | some other => J.print other
  | none => ""

def chatOutput (J : JsonText) (response : ChatResponse) : List Json :=
  match response.choices.head? with
  | none => []
  | some choice =>
    let text := messageText J choice.message
    (if text = "" then []
      else [.ofFields [("type", .string "message"), ("id", .string ("msg_" ++ response.id)),
        ("status", .string "completed"), ("role", .string "assistant"),
        ("content", .array [outputText text])]]) ++
      (choice.message.toolCalls.getD []).map fun call =>
        functionCallItem call.id call.function.name call.function.arguments "completed"

/-- `chat_to_responses`, with the identifier that it draws. -/
def chatToResponses (J : JsonText) (uuid : String) (response : ChatResponse)
    (stripped : List String) : ResponsesResponse where
  id := "resp_" ++ uuid
  status := "completed"
  model := response.model
  output := chatOutput J response
  usage :=
    match response.usage with
    | some usage => ⟨usage.promptTokens, usage.completionTokens, usage.totalTokens⟩
    | none => .default
  error := none
  metadata :=
    if stripped = [] then none
    else some (.ofFields [("warnings",
      .ofFields [("unsupported_tools", .array (stripped.map Json.string))])])

/-- `responses_error`. -/
def responsesError (uuid errorType message : String) : ResponsesResponse where
  id := "resp_" ++ uuid
  status := "failed"
  model := ""
  output := []
  usage := .default
  error := some (.ofFields [("type", .string errorType), ("message", .string message)])
  metadata := none

/-! ### As a chat answer -/

def optionalField (key : String) (value : Option Json) : List (String × Json) :=
  (value.map fun value => (key, value)).toList

def ToolCall.json (call : ToolCall) : Json :=
  .object [("id", .string call.id), ("type", .string call.callType),
    ("function", .object [("name", .string call.function.name),
      ("arguments", .string call.function.arguments)])]

def Message.json (message : Message) : Json :=
  .object (("role", .string message.role) :: (optionalField "content" message.content ++
    optionalField "tool_calls" (message.toolCalls.map fun calls =>
      .array (calls.map ToolCall.json)) ++
    optionalField "tool_call_id" (message.toolCallId.map .string) ++
    optionalField "name" (message.name.map .string)))

def Choice.json (choice : Choice) : Json :=
  .object ([("index", natJson choice.index), ("message", choice.message.json)] ++
    optionalField "finish_reason" (choice.finishReason.map .string))

def Usage.json (usage : Usage) : Json :=
  .object [("prompt_tokens", .number (.posInt usage.promptTokens)),
    ("completion_tokens", .number (.posInt usage.completionTokens)),
    ("total_tokens", .number (.posInt usage.totalTokens))]

def ChatResponse.json (response : ChatResponse) : Json :=
  .object ([("id", .string response.id), ("object", .string response.object)] ++
    optionalField "created" (response.created.map fun n => .number (.posInt n)) ++
    [("model", .string response.model), ("choices", .array (response.choices.map Choice.json))] ++
    optionalField "usage" (response.usage.map Usage.json))

namespace Observed

def answer (env : Environment) (setup : RequestSetup) (fullBody : String) :
    Except DriverError ChatResponse :=
  setup.driver.transformResponse (setup.responseStatus.getD 200) fullBody env.driverUuid

/-- A whole answer for the client of the Responses API. -/
def responsesBody (env : Environment) (setup : RequestSetup) (o : Observed) :
    Observed × String :=
  let (o, fullBody) := o.takeBuffer
  let o := o.setUsage (setup.driver.extractUsage fullBody)
  match answer env setup fullBody with
  | .ok response =>
    (o.updateChatCompletionEstimate env setup response,
      env.J.print (chatToResponses env.J env.responseUuid response
        (setup.strippedTools.getD [])).json)
  | .error e =>
    (o.markResponseTransformError setup "responses_body_transform",
      env.J.print (responsesError env.responseUuid "server_error"
        ("upstream provider error: " ++ e.text)).json)

/-- A whole answer for the client of a chat. One that the driver refuses goes through. -/
def chatBody (env : Environment) (setup : RequestSetup) (o : Observed) : Observed × String :=
  let (o, fullBody) := o.takeBuffer
  let o := o.setUsage (setup.driver.extractUsage fullBody)
  match answer env setup fullBody with
  | .ok response =>
    (o.updateChatCompletionEstimate env setup response,
      if setup.clientProtocol = .anthropic then
        env.J.print (AnthropicCodec.encodeResponse env.J response).json
      else env.J.print response.json)
  | .error _ => (o.markResponseTransformError setup "response_body_transform", fullBody)

end Observed

/-! ## Before the body -/

/-- How the access phase leaves a request: as one that goes through to its own provider, or as
one that is translated. -/
inductive AccessPath where
  | responsesPassThrough
  | anthropicPassThrough
  | translation (clientProtocol : ClientProtocol) (responsesMode : Bool)
      (strippedTools : Option (List String))

namespace AccessPath

/-- A pass-through is taken for the provider whose API the client uses. -/
def driver (L : Libraries) (chosen : AiDriver) : AccessPath → AiDriver
  | .responsesPassThrough => openaiDriver L
  | .anthropicPassThrough => anthropicDriver L
  | .translation .. => chosen

def clientProtocol : AccessPath → ClientProtocol
  | .responsesPassThrough => .openAi
  | .anthropicPassThrough => .anthropic
  | .translation clientProtocol _ _ => clientProtocol

def responsesMode : AccessPath → Bool
  | .translation _ responsesMode _ => responsesMode
  | _ => false

def strippedTools : AccessPath → Option (List String)
  | .translation _ _ strippedTools => strippedTools
  | _ => none

end AccessPath

/-- What the access phase knows of a request. -/
structure AccessedRequest where
  path : AccessPath
  modelName : String
  streamMode : Bool
  responseId : String
  lifecycle : RequestLifecycle

namespace AiRequestState

/-- The state that the access phase stores. -/
def access (L : Libraries) (chosen : AiDriver) (request : AccessedRequest) : AiRequestState where
  setup :=
    { driver := request.path.driver L chosen
      modelName := request.modelName
      streamMode := request.streamMode
      clientProtocol := request.path.clientProtocol
      responsesMode := request.path.responsesMode
      responsesPassThrough := request.path matches .responsesPassThrough
      anthropicPassThrough := request.path matches .anthropicPassThrough
      strippedTools := request.path.strippedTools
      responseStatus := none }
  decoder :=
    { sseParser :=
        if request.path matches .responsesPassThrough then
          if request.streamMode then some (.new .standard) else none
        else none
      streamUtf8Buffer := [] }
  observed :=
    { usage := .default
      estimatedCompletionTokens := none
      completionText := ""
      completionTextByChoice := []
      completionObservationInvalid := false
      responseBuffer := none
      validStreamEventSeen := false
      streamTerminal := if request.streamMode then .pending else .notStreaming
      isFirstStreamEvent := true
      responsesEventState :=
        if request.path.responsesMode then some (.new request.responseId) else none
      streamToolCallCount := 0
      lifecycle := request.lifecycle }

end AiRequestState

def mediaType (contentType : Option String) : List Char :=
  Text.trim ((contentType.getD "").toList.takeWhile fun c => c != ';')

def eqIgnoreAsciiCase (media : List Char) (name : String) : Bool :=
  media.map Char.toLower == name.toList.map Char.toLower

def streamFormat (contentType : Option String) : Option SseFormat :=
  let media := mediaType contentType
  if eqIgnoreAsciiCase media "application/x-ndjson" ||
      eqIgnoreAsciiCase media "application/stream+json" then some .ndjson
  else if eqIgnoreAsciiCase media "text/event-stream" then some .standard
  else none

/-- `header_filter`: a stream gets its parser and its buffer. -/
def AiRequestState.headerFilter (state : AiRequestState) (responseStatus : Option Nat)
    (contentType : Option String) : AiRequestState :=
  let setup := { state.setup with responseStatus := responseStatus }
  match streamFormat contentType with
  | some format =>
    { setup := { setup with streamMode := true }
      decoder := { state.decoder with sseParser := some (.new format) }
      observed := { state.observed with responseBuffer := some "" } }
  | none => { state with setup := setup }

/-! ## The filter -/

namespace AiRequestState

variable (env : Environment)

/-- A stream that goes through. -/
def observeStream (env : Environment)
    (observe : Environment → RequestSetup → Observed → SseEvent → Observed)
    (state : AiRequestState) (body : Option (List UInt8)) (endOfStream : Bool) :
    AiRequestState × Option (List UInt8) :=
  let taken := state.decoder.take body endOfStream
  let o := taken.events.foldl (observe env state.setup) (state.observed.noteUndecoded taken)
  let o := if endOfStream then o.finalizeStreamCompletionEstimate env state.setup else o
  ({ state with decoder := taken.decoder, observed := o }, body)

/-- A stream that is translated. -/
def translateStream (env : Environment) (component : String)
    (translate : Environment → RequestSetup → Observed → SseEvent → Observed × List Frame)
    (state : AiRequestState) (body : Option (List UInt8)) (endOfStream : Bool) :
    AiRequestState × List Frame :=
  let taken := state.decoder.take body endOfStream
  let (o, frames) := Transducer.run (translate env state.setup)
    (state.observed.noteUndecodedAs state.setup component taken) taken.events
  let o := if endOfStream then o.finishStream env state.setup else o
  ({ state with decoder := taken.decoder, observed := o }, frames)

/-- A whole answer that goes through. -/
def observeBody (env : Environment)
    (observe : Environment → RequestSetup → Observed → Observed)
    (state : AiRequestState) (body : Option (List UInt8)) (endOfStream : Bool) :
    AiRequestState × Option (List UInt8) :=
  let o := state.observed.bufferChunk body
  let o := if endOfStream then observe env state.setup o else o
  ({ state with observed := o }, body)

/-- A whole answer that is translated; nothing is given out before its end. -/
def translateBody (env : Environment)
    (translate : Environment → RequestSetup → Observed → Observed × String)
    (state : AiRequestState) (body : Option (List UInt8)) (endOfStream : Bool) :
    AiRequestState × Option (List UInt8) :=
  let o := state.observed.bufferChunk body
  if endOfStream then
    let (o, text) := translate env state.setup o
    ({ state with observed := o }, some (Text.asBytes text))
  else ({ state with observed := o }, none)

/-- `body_filter`, with the body that it leaves. -/
def bodyFilter (env : Environment) (state : AiRequestState) (body : Option (List UInt8))
    (endOfStream : Bool) : AiRequestState × Option (List UInt8) :=
  if state.setup.anthropicPassThrough then
    if state.setup.streamMode then
      state.observeStream env Observed.anthropicPassThroughEvent body endOfStream
    else state.observeBody env Observed.anthropicPassThroughBody body endOfStream
  else if state.setup.responsesPassThrough then
    if state.setup.streamMode then
      state.observeStream env Observed.responsesPassThroughEvent body endOfStream
    else state.observeBody env Observed.responsesPassThroughBody body endOfStream
  else if state.setup.streamMode then
    if state.setup.responsesMode then
      let (state, frames) := state.translateStream env "responses_stream_utf8_decode"
        Observed.responsesStreamEvent body endOfStream
      (state, some (Text.asBytes (String.join (frames.map Frame.text))))
    else
      let (state, frames) := state.translateStream env "stream_utf8_decode"
        Observed.chatStreamEvent body endOfStream
      let output := String.join (frames.map Frame.text)
      -- Without output a chunk is emptied, and a call without a chunk stays one.
      (state, if output = "" then body.map fun _ => [] else some (Text.asBytes output))
  else if state.setup.responsesMode then
    state.translateBody env Observed.responsesBody body endOfStream
  else state.translateBody env Observed.chatBody body endOfStream

end AiRequestState

end KongRust.Ai

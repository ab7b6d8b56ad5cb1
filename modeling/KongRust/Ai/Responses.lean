import KongRust.Ai.ChatFormat

/-!
# The event stream of the Responses API

`ResponsesEventState` turns the chunks of a chat stream into the events of a response. An event
is its name and its JSON data; `formatEvent` writes it as the client receives it.
-/

namespace KongRust.Ai

open KongRust

/-! ## Events -/

/-- `ResponsesUsage`. -/
structure ResponsesUsage where
  inputTokens : UInt64
  outputTokens : UInt64
  totalTokens : UInt64
  deriving DecidableEq

def ResponsesUsage.default : ResponsesUsage := ⟨0, 0, 0⟩

inductive ItemType where
  | message
  | functionCall
  deriving DecidableEq

/-- A `TrackedItem`. -/
structure TrackedItem where
  itemType : ItemType
  index : Nat
  emittedAdded : Bool
  emittedDone : Bool
  accumulatedText : String
  callId : String
  fnName : String
  accumulatedArguments : String
  deriving DecidableEq

def outputText (text : String) : Json :=
  .ofFields [("type", .string "output_text"), ("text", .string text), ("annotations", .array [])]

def messageItem (index : Nat) (status : String) (content : List Json) : Json :=
  .ofFields [("type", .string "message"), ("id", .string ("msg_" ++ toString index)),
    ("status", .string status), ("role", .string "assistant"), ("content", .array content)]

def functionCallItem (callId fnName arguments status : String) : Json :=
  .ofFields [("type", .string "function_call"), ("id", .string ("fc_" ++ callId)),
    ("call_id", .string callId), ("name", .string fnName), ("arguments", .string arguments),
    ("status", .string status)]

def TrackedItem.output (item : TrackedItem) : Json :=
  match item.itemType with
  | .message => messageItem item.index "completed" [outputText item.accumulatedText]
  | .functionCall =>
    functionCallItem item.callId item.fnName item.accumulatedArguments "completed"

inductive ResponsesEvent where
  | created (responseId model : String)
  | inProgress (responseId model : String)
  | messageAdded (index : Nat)
  | contentPartAdded (index contentIndex : Nat)
  | outputTextDelta (index contentIndex : Nat) (delta : String)
  | contentPartDone (index contentIndex : Nat) (text : String)
  | messageDone (index : Nat) (text : String)
  | functionCallAdded (index : Nat) (callId fnName : String)
  | argumentsDelta (index : Nat) (delta : String)
  | argumentsDone (index : Nat) (arguments : String)
  | functionCallDone (index : Nat) (callId fnName arguments : String)
  | completed (responseId model : String) (output : List TrackedItem) (usage : ResponsesUsage)
  | failed (responseId message : String)
  deriving DecidableEq

def natJson (n : Nat) : Json := .number (.posInt (UInt64.ofNat n))

/-- `make_response_shell`. -/
def responseShell (responseId model : String) : Json :=
  .ofFields [("response", .ofFields [("id", .string responseId), ("object", .string "response"),
    ("status", .string "in_progress"), ("model", .string model)])]

def ResponsesEvent.eventType : ResponsesEvent → String
  | .created .. => "response.created"
  | .inProgress .. => "response.in_progress"
  | .messageAdded .. | .functionCallAdded .. => "response.output_item.added"
  | .contentPartAdded .. => "response.content_part.added"
  | .outputTextDelta .. => "response.output_text.delta"
  | .contentPartDone .. => "response.content_part.done"
  | .messageDone .. | .functionCallDone .. => "response.output_item.done"
  | .argumentsDelta .. => "response.function_call_arguments.delta"
  | .argumentsDone .. => "response.function_call_arguments.done"
  | .completed .. => "response.completed"
  | .failed .. => "response.failed"

def ResponsesEvent.data : ResponsesEvent → Json
  | .created responseId model => responseShell responseId model
  | .inProgress responseId model => responseShell responseId model
  | .messageAdded index =>
    .ofFields [("output_index", natJson index), ("item", messageItem index "in_progress" [])]
  | .contentPartAdded index contentIndex =>
    .ofFields [("output_index", natJson index), ("content_index", natJson contentIndex),
      ("part", outputText "")]
  | .outputTextDelta index contentIndex delta =>
    .ofFields [("output_index", natJson index), ("content_index", natJson contentIndex),
      ("delta", .string delta)]
  | .contentPartDone index contentIndex text =>
    .ofFields [("output_index", natJson index), ("content_index", natJson contentIndex),
      ("part", outputText text)]
  | .messageDone index text =>
    .ofFields [("output_index", natJson index),
      ("item", messageItem index "completed" [outputText text])]
  | .functionCallAdded index callId fnName =>
    .ofFields [("output_index", natJson index),
      ("item", functionCallItem callId fnName "" "in_progress")]
  | .argumentsDelta index delta =>
    .ofFields [("output_index", natJson index), ("delta", .string delta)]
  | .argumentsDone index arguments =>
    .ofFields [("output_index", natJson index), ("arguments", .string arguments)]
  | .functionCallDone index callId fnName arguments =>
    .ofFields [("output_index", natJson index),
      ("item", functionCallItem callId fnName arguments "completed")]
  | .completed responseId model output usage =>
    .ofFields [("response", .ofFields [("id", .string responseId), ("object", .string "response"),
      ("status", .string "completed"), ("model", .string model),
      ("output", .array (output.map TrackedItem.output)),
      ("usage", .ofFields [("input_tokens", .number (.posInt usage.inputTokens)),
        ("output_tokens", .number (.posInt usage.outputTokens)),
        ("total_tokens", .number (.posInt usage.totalTokens))])])]
  | .failed responseId message =>
    .ofFields [("response", .ofFields [("id", .string responseId), ("object", .string "response"),
      ("status", .string "failed"), ("error", .ofFields [("type", .string "server_error"),
        ("message", .string message)])])]

/-! ## The state machine -/

inductive StreamPhase where
  | init
  | contentStreaming
  | toolCallStreaming
  | done
  deriving DecidableEq

structure ResponsesEventState where
  phase : StreamPhase
  responseId : String
  model : String
  outputItems : List TrackedItem
  contentPartIndex : Nat
  hasEmittedInit : Bool
  usage : ResponsesUsage
  deriving DecidableEq

namespace ResponsesEventState

/-- `ResponsesEventState::new`, with the identifier that it draws. -/
def new (responseId : String) : ResponsesEventState where
  phase := .init
  responseId := responseId
  model := ""
  outputItems := []
  contentPartIndex := 0
  hasEmittedInit := false
  usage := .default

variable (state : ResponsesEventState)

/-- An index of the output, a `u32`. -/
def nextIndex (state : ResponsesEventState) : Nat := state.outputItems.length % 2 ^ 32

def updateLast (state : ResponsesEventState) (f : TrackedItem → TrackedItem) :
    ResponsesEventState :=
  { state with
    outputItems := state.outputItems.dropLast ++ (state.outputItems.getLast?.map f).toList }

def lastIndex (state : ResponsesEventState) : Nat :=
  (state.outputItems.getLast?.map TrackedItem.index).getD 0

def closeCurrentContent (state : ResponsesEventState) :
    ResponsesEventState × List ResponsesEvent :=
  match state.outputItems.getLast? with
  | some item =>
    if item.itemType = .message ∧ item.emittedDone = false then
      (state.updateLast fun item => { item with emittedDone := true },
        [.contentPartDone item.index state.contentPartIndex item.accumulatedText,
          .messageDone item.index item.accumulatedText])
    else (state, [])
  | none => (state, [])

def closeCurrentToolCall (state : ResponsesEventState) :
    ResponsesEventState × List ResponsesEvent :=
  match state.outputItems.getLast? with
  | some item =>
    if item.itemType = .functionCall ∧ item.emittedDone = false then
      (state.updateLast fun item => { item with emittedDone := true },
        [.argumentsDone item.index item.accumulatedArguments,
          .functionCallDone item.index item.callId item.fnName item.accumulatedArguments])
    else (state, [])
  | none => (state, [])

def closeActive (state : ResponsesEventState) : ResponsesEventState × List ResponsesEvent :=
  match state.phase with
  | .contentStreaming => state.closeCurrentContent
  | .toolCallStreaming => state.closeCurrentToolCall
  | _ => (state, [])

def closeAll (state : ResponsesEventState) : ResponsesEventState × List ResponsesEvent :=
  let (state, events) := state.closeActive
  ({ state with phase := .done },
    events ++ [.completed state.responseId state.model state.outputItems state.usage])

def emitInit (state : ResponsesEventState) : ResponsesEventState × List ResponsesEvent :=
  if state.hasEmittedInit then (state, [])
  else
    ({ state with hasEmittedInit := true },
      [.created state.responseId state.model, .inProgress state.responseId state.model])

/-- A text delta needs an open message. -/
def openMessage (state : ResponsesEventState) : ResponsesEventState × List ResponsesEvent :=
  let (state, closing) :=
    if state.phase = .toolCallStreaming then state.closeCurrentToolCall else (state, [])
  if state.phase = .contentStreaming then (state, closing)
  else
    let index := state.nextIndex
    let item : TrackedItem :=
      { itemType := .message, index, emittedAdded := true, emittedDone := false,
        accumulatedText := "", callId := "", fnName := "", accumulatedArguments := "" }
    ({ state with
        phase := .contentStreaming
        outputItems := state.outputItems ++ [item]
        contentPartIndex := 0 },
      closing ++ [.messageAdded index, .contentPartAdded index 0])

def appendText (state : ResponsesEventState) (content : String) :
    ResponsesEventState × List ResponsesEvent :=
  let state := state.updateLast fun item =>
    { item with accumulatedText := item.accumulatedText ++ content }
  (state, [.outputTextDelta state.lastIndex state.contentPartIndex content])

def processContent (state : ResponsesEventState) (content : Option String) :
    ResponsesEventState × List ResponsesEvent :=
  match content with
  | none => (state, [])
  | some content =>
    if content = "" then (state, [])
    else
      let (state, opening) := state.openMessage
      let (state, delta) := state.appendText content
      (state, opening ++ delta)

/-- A tool call with an identifier starts a new item. -/
def openToolCall (state : ResponsesEventState) (callId fnName : String) :
    ResponsesEventState × List ResponsesEvent :=
  let (state, closing) := state.closeActive
  let index := state.nextIndex
  let item : TrackedItem :=
    { itemType := .functionCall, index, emittedAdded := true, emittedDone := false,
      accumulatedText := "", callId, fnName, accumulatedArguments := "" }
  ({ state with phase := .toolCallStreaming, outputItems := state.outputItems ++ [item] },
    closing ++ [.functionCallAdded index callId fnName])

def appendArguments (state : ResponsesEventState) (arguments : Option String) :
    ResponsesEventState × List ResponsesEvent :=
  match arguments with
  | none => (state, [])
  | some arguments =>
    if arguments = "" then (state, [])
    else
      let state := state.updateLast fun item =>
        { item with accumulatedArguments := item.accumulatedArguments ++ arguments }
      (state, [.argumentsDelta state.lastIndex arguments])

/-- One element of `tool_calls`; its index is not used. -/
def processToolCall (state : ResponsesEventState) (toolCall : Json) :
    ResponsesEventState × List ResponsesEvent :=
  let (state, opening) :=
    match Chunk.callId toolCall with
    | some callId =>
      state.openToolCall callId ((Chunk.functionName toolCall).getD "unknown")
    | none => (state, [])
  let (state, delta) := state.appendArguments (Chunk.functionArguments toolCall)
  (state, opening ++ delta)

def processToolCalls (state : ResponsesEventState) :
    List Json → ResponsesEventState × List ResponsesEvent
  | [] => (state, [])
  | toolCall :: toolCalls =>
    let (state, first) := state.processToolCall toolCall
    let (state, rest) := state.processToolCalls toolCalls
    (state, first ++ rest)

def noteModel (state : ResponsesEventState) (chunk : Json) : ResponsesEventState :=
  match (chunk.get "model").bind Json.asStr with
  | some model => if state.model = "" then { state with model } else state
  | none => state

def processDelta (state : ResponsesEventState) (delta : Json) :
    ResponsesEventState × List ResponsesEvent :=
  let (state, opening) := state.emitInit
  let (state, text) := state.processContent (Chunk.content delta)
  let (state, calls) := state.processToolCalls (Chunk.toolCalls delta)
  (state, opening ++ text ++ calls)

/-- `process_chat_chunk`. The finish reason closes nothing. -/
def processChatChunk (J : JsonText) (state : ResponsesEventState) (chunkJson : String) :
    ResponsesEventState × List ResponsesEvent :=
  match J.parse chunkJson with
  | .error _ => (state, [])
  | .ok chunk =>
    let state := state.noteModel chunk
    match (Chunk.firstChoice chunk).bind fun choice => choice.get "delta" with
    | none => (state, [])
    | some delta => state.processDelta delta

/-- `process_done`. -/
def processDone (state : ResponsesEventState) : ResponsesEventState × List ResponsesEvent :=
  if state.phase = .done then (state, []) else state.closeAll

/-- `process_error`. -/
def processError (state : ResponsesEventState) (message : String) :
    ResponsesEventState × List ResponsesEvent :=
  let opening := if state.hasEmittedInit then [] else [.created state.responseId state.model]
  ({ state with hasEmittedInit := true, phase := .done },
    opening ++ [.failed state.responseId message])

end ResponsesEventState

end KongRust.Ai

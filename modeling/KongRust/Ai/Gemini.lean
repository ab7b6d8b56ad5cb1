import KongRust.Ai.ChatFormat

/-!
# The Gemini driver

`GeminiDriver` gives an answer of the `generateContent` API as a chat answer: the whole body by
`transform_response`, the chunks of a stream one by one by `transform_stream_event`.
-/

namespace KongRust.Ai

open KongRust

namespace GeminiDriver

open Serde

/-! ## The types of the API -/

def functionCall : Struct := [.required "name" Serde.text, .default "args" value .null]

def part : Struct := [.plain "text" Serde.text, .plain "functionCall" functionCall.codec]

def content : Struct := [.plain "role" Serde.text, .required "parts" (vec part.codec)]

def candidate : Struct := [.plain "content" content.codec, .plain "finishReason" Serde.text]

def usageMetadata : Struct :=
  [.plain "promptTokenCount" u64, .plain "candidatesTokenCount" u64,
    .plain "totalTokenCount" u64]

/-- `GeminiApiResponse`. -/
def apiResponse : Struct :=
  [.plain "candidates" (vec candidate.codec), .plain "usageMetadata" usageMetadata.codec,
    .opt "modelVersion" Serde.text]

variable (L : Libraries)

def read (L : Libraries) (body : String) : Except String Json :=
  L.J.fromStr apiResponse.codec L.refusal body

/-! ## What is taken from a response -/

variable (resp : Json)

def firstCandidate (resp : Json) : Option Json :=
  ((resp.get "candidates").bind Json.asArray).bind List.head?

def parts (resp : Json) : List Json :=
  ((((firstCandidate resp).bind fun candidate => candidate.get "content").bind fun content =>
    content.get "parts").bind Json.asArray).getD []

def text (resp : Json) : String :=
  String.join ((parts resp).filterMap fun part => (part.get "text").bind Json.asStr)

def functionCalls (resp : Json) : List Json :=
  (parts resp).filterMap fun part => (part.get "functionCall").filter Json.isObject

variable (fc : Json)

def callName (fc : Json) : String := ((fc.get "name").bind Json.asStr).getD ""

/-- `fc.args.to_string()`. -/
def callArguments (L : Libraries) (fc : Json) : String := L.J.print (fc.field "args")

def callId (i : Nat) : String := "call_gemini_" ++ toString i

def reasonOf (L : Libraries) : String → String
  | "STOP" => "stop"
  | "MAX_TOKENS" => "length"
  | other => L.toLowercase other

def finishReason (L : Libraries) (resp : Json) : Option String :=
  (((firstCandidate resp).bind fun candidate => candidate.get "finishReason").bind
    Json.asStr).map (reasonOf L)

def model (resp : Json) : String :=
  ((resp.get "modelVersion").bind Json.asStr).getD "gemini"

/-- The sum of the counts that are given, unless it does not fit. -/
def usage (resp : Json) : Option Usage :=
  ((resp.get "usageMetadata").filter Json.isObject).bind fun u =>
    let count := fun key => (u.get key).bind Json.asU64
    let pt := (count "promptTokenCount").getD 0
    let ct := (count "candidatesTokenCount").getD 0
    let sum := if pt.toNat + ct.toNat < 2 ^ 64 then some (pt + ct) else none
    ((count "totalTokenCount").or sum).map fun tt => ⟨pt, ct, tt⟩

/-! ## The answer -/

def toolCall (L : Libraries) (fc : Json) (i : Nat) : ToolCall :=
  ⟨callId i, "function", ⟨callName fc, callArguments L fc⟩⟩

/-- `transform_response`, with the identifier that it draws. -/
def transformResponse (L : Libraries) (status : Nat) (body uuid : String) :
    Except DriverError ChatResponse :=
  if status ≠ 200 then
    .error (.upstreamError
      ("Gemini API returned status " ++ toString status ++ ": " ++ excerpt body))
  else
    match read L body with
    | .error e => .error (.serializationError ("invalid Gemini response: " ++ e))
    | .ok resp =>
      .ok
        { id := "gemini-" ++ uuid
          object := "chat.completion"
          created := none
          model := model resp
          choices := [assistantChoice (text resp) ((functionCalls resp).mapIdx fun i fc =>
            toolCall L fc i) (finishReason L resp)]
          usage := usage resp }

/-! ## A chunk -/

def callDelta (L : Libraries) (fc : Json) (i : Nat) : Json :=
  .ofFields [("index", .number (.posInt (UInt64.ofNat i))), ("id", .string (callId i)),
    ("type", .string "function"),
    ("function", .ofFields [("name", .string (callName fc)),
      ("arguments", .string (callArguments L fc))])]

/-- A chunk with calls has neither a text nor a finish reason. -/
def chunkOf (L : Libraries) (resp : Json) : Json :=
  let calls := functionCalls resp
  if calls ≠ [] then
    chatChunk "gemini-stream" (model resp)
      [("tool_calls", .array (calls.mapIdx fun i fc => callDelta L fc i))] none
  else
    chatChunk "gemini-stream" (model resp) [("content", .string (text resp))]
      (finishReason L resp)

/-- `transform_stream_event`. -/
def transformStreamEvent (L : Libraries) (event : SseEvent) :
    Except DriverError (Option SseEvent) :=
  if event.isDone then .ok none
  else
    match read L event.data with
    | .error e => .error (.serializationError ("invalid Gemini stream chunk: " ++ e))
    | .ok resp => .ok (some (.message (L.J.print (chunkOf L resp))))

end GeminiDriver

end KongRust.Ai

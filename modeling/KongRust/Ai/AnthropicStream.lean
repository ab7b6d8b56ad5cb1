import KongRust.Ai.AnthropicFormat

/-!
# The streamed message of an Anthropic client

A client puts the events of a stream together to a message. `encode_stream_event` ends every
stream with the same `message_delta`: the stop reason and the tokens of the answer, which
`encode_response` takes over, are those of a stream only where they are the fixed ones.
-/

namespace KongRust.Ai.AnthropicCodec

open KongRust

/-! ## What a client puts together -/

structure Accumulated where
  text : String
  stopReason : Option String
  outputTokens : Option UInt64
  blocksOpened : Nat
  blocksClosed : Nat
  stopped : Bool

namespace Accumulated

def start : Accumulated := ⟨"", none, none, 0, 0, false⟩

/-- One event of a stream that has begun. -/
def receive (message : Accumulated) (eventType : String) (data : Json) : Accumulated :=
  match eventType with
  | "content_block_start" => { message with blocksOpened := message.blocksOpened + 1 }
  | "content_block_delta" =>
    let text := ((data.get "delta").bind fun delta => delta.get "text").bind Json.asStr
    { message with text := message.text ++ text.getD "" }
  | "content_block_stop" => { message with blocksClosed := message.blocksClosed + 1 }
  | "message_delta" =>
    { message with
      stopReason := ((data.get "delta").bind fun delta => delta.get "stop_reason").bind Json.asStr
      outputTokens :=
        ((data.get "usage").bind fun usage => usage.get "output_tokens").bind Json.asU64 }
  | "message_stop" => { message with stopped := true }
  | _ => message

end Accumulated

/-- A message begins with `message_start`; events that are no JSON are left out. -/
def accumulate (J : JsonText) (message : Option Accumulated) (event : SseEvent) :
    Option Accumulated :=
  match J.parse event.data with
  | .error _ => message
  | .ok data =>
    if event.eventType = "message_start" then some .start
    else message.map fun message => message.receive event.eventType data

def AnthropicResponse.text (response : AnthropicResponse) : String :=
  String.join (response.content.filterMap ContentBlock.text)

def Accumulated.Same (message : Accumulated) (response : AnthropicResponse) : Prop :=
  message.text = response.text ∧ message.stopReason = response.stopReason ∧
    message.outputTokens = some response.usage.outputTokens

/-! ## The events of an answer -/

/-- The chunks of a stream as `body_filter` encodes them: the first one that can be read opens
the message. -/
def encodeChunks (J : JsonText) : Bool → List SseEvent → List SseEvent
  | _, [] => []
  | isFirst, chunk :: chunks =>
    match encodeStreamEvent J chunk isFirst with
    | .ok encoded => encoded ++ encodeChunks J false chunks
    | .error _ => encodeChunks J isFirst chunks

/-- The events of a stream that ends with `[DONE]`. -/
def encodeStream (J : JsonText) (chunks : List SseEvent) : List SseEvent :=
  encodeChunks J true chunks ++ doneEvents J

def readChunk (J : JsonText) (chunk : SseEvent) : Option Json := (J.parse chunk.data).toOption

def chunkText (J : JsonText) (chunk : SseEvent) : String :=
  (((readChunk J chunk).bind Chunk.delta).bind Chunk.content).getD ""

def chunkFinish (J : JsonText) (chunk : SseEvent) : Option String :=
  (readChunk J chunk).bind Chunk.finishReason

def chunkTokens (J : JsonText) (chunk : SseEvent) : Option UInt64 :=
  (((readChunk J chunk).bind fun v => v.get "usage").bind fun usage =>
    usage.get "completion_tokens").bind Json.asU64

variable (response : ChatResponse)

def answerText (response : ChatResponse) : Option Json :=
  response.choices.head?.bind fun choice => choice.message.content

def answerFinish (response : ChatResponse) : Option String :=
  response.choices.head?.bind fun choice => choice.finishReason

/-- The chunks are a stream of an answer, however it was split: their texts make up its text,
and its finish reason and its usage come with the last chunks that have one. -/
structure StreamOf (J : JsonText) (chunks : List SseEvent) (response : ChatResponse) : Prop where
  read : ∀ chunk ∈ chunks, chunk.isDone = false ∧ (readChunk J chunk).isSome
  text : answerText response = some (.string (String.join (chunks.map (chunkText J)))) ∨
    answerText response = none ∧ String.join (chunks.map (chunkText J)) = ""
  finish : answerFinish response = (chunks.filterMap (chunkFinish J)).getLast?
  tokens : response.usage.map Usage.completionTokens = (chunks.filterMap (chunkTokens J)).getLast?

/-- The stop reason and the output tokens that every stream ends with. -/
def FixedEnd (response : ChatResponse) : Prop :=
  (answerFinish response = some "stop" ∨ answerFinish response = some "end_turn") ∧
    (response.usage.map Usage.completionTokens).getD 0 = 0

/-! ## Reading the events back -/

section Read

variable (J : JsonText)

theorem accumulate_event {eventType : String} (h : eventType ≠ "message_start") {data : Json}
    (hPlain : data.Plain 127) (message : Accumulated) :
    accumulate J (some message) (event J eventType data) =
      some (message.receive eventType data) := by
  unfold accumulate event
  simp only [J.parse_print hPlain, h, if_false, Option.map_some]

theorem accumulate_start (id model : String) (message : Option Accumulated) :
    accumulate J message (event J "message_start" (messageStart id model)) = some .start := by
  have hPlain : (messageStart id model).Plain 127 := by simp [messageStart]
  unfold accumulate event
  simp only [J.parse_print hPlain, if_true]

theorem accumulate_done (message : Accumulated) :
    (doneEvents J).foldl (accumulate J) (some message) =
      some { message with
        stopReason := some "end_turn"
        outputTokens := some 0
        stopped := true } := by
  have hDelta : messageDelta.Plain 127 := by simp [messageDelta]
  have hStop : messageStop.Plain 127 := by simp [messageStop]
  rw [doneEvents, List.foldl_cons, List.foldl_cons, List.foldl_nil,
    accumulate_event J (by decide) hDelta, accumulate_event J (by decide) hStop]
  simp [Accumulated.receive, messageDelta, Json.get_ofFields, Json.asStr, Json.asU64]

theorem accumulate_done_none : (doneEvents J).foldl (accumulate J) none = none := by
  have hNone : ∀ {eventType : String}, eventType ≠ "message_start" → ∀ data,
      accumulate J none (event J eventType data) = none := by
    intro eventType hType data
    unfold accumulate event
    split
    · rfl
    · rw [if_neg hType]
      rfl
  rw [doneEvents, List.foldl_cons, hNone (by decide), List.foldl_cons, hNone (by decide)]
  rfl

theorem accumulate_delta (chunk : Json) (message : Accumulated) :
    (deltaEvents J chunk).foldl (accumulate J) (some message) =
      some { message with
        text := message.text ++ ((Chunk.delta chunk).bind Chunk.content).getD "" } := by
  unfold deltaEvents
  dsimp only
  split
  · rename_i hEmpty
    rw [hEmpty, String.append_empty]
    rfl
  · have hPlain : ∀ content, (contentBlockDelta content).Plain 127 := fun content => by
      simp [contentBlockDelta]
    rw [List.foldl_cons, List.foldl_nil, accumulate_event J (by decide) (hPlain _)]
    simp [Accumulated.receive, contentBlockDelta, Json.get_ofFields, Json.asStr]

theorem encodeStreamEvent_read {chunk : SseEvent} (hDone : chunk.isDone = false)
    (hRead : (readChunk J chunk).isSome) (isFirst : Bool) :
    ∃ v, readChunk J chunk = some v ∧ encodeStreamEvent J chunk isFirst =
      .ok ((if isFirst then startEvents J v else []) ++ deltaEvents J v) := by
  unfold readChunk at hRead ⊢
  unfold encodeStreamEvent
  rw [hDone]
  cases hParse : J.parse chunk.data with
  | error e =>
    rw [hParse] at hRead
    cases hRead
  | ok v => exact ⟨v, rfl, rfl⟩

theorem accumulate_chunks {chunks : List SseEvent}
    (h : ∀ chunk ∈ chunks, chunk.isDone = false ∧ (readChunk J chunk).isSome)
    (message : Accumulated) :
    (encodeChunks J false chunks).foldl (accumulate J) (some message) =
      some { message with text := message.text ++ String.join (chunks.map (chunkText J)) } := by
  induction chunks generalizing message with
  | nil => simp [encodeChunks]
  | cons chunk chunks ih =>
    obtain ⟨hDone, hRead⟩ := h chunk List.mem_cons_self
    obtain ⟨v, hValue, hEncode⟩ := encodeStreamEvent_read J hDone hRead false
    have hText : chunkText J chunk = ((Chunk.delta v).bind Chunk.content).getD "" := by
      simp [chunkText, hValue]
    simp only [encodeChunks, hEncode, Bool.false_eq_true, if_false, List.nil_append]
    rw [List.foldl_append, accumulate_delta,
      ih (fun other hOther => h other (List.mem_cons_of_mem chunk hOther))]
    simp [hText, String.append_assoc]

theorem accumulate_stream {chunks : List SseEvent} (hNe : chunks ≠ [])
    (h : ∀ chunk ∈ chunks, chunk.isDone = false ∧ (readChunk J chunk).isSome) :
    (encodeStream J chunks).foldl (accumulate J) none =
      some ⟨String.join (chunks.map (chunkText J)), some "end_turn", some 0, 1, 0, true⟩ := by
  obtain ⟨chunk, chunks, rfl⟩ := List.exists_cons_of_ne_nil hNe
  obtain ⟨hDone, hRead⟩ := h chunk List.mem_cons_self
  obtain ⟨v, hValue, hEncode⟩ := encodeStreamEvent_read J hDone hRead true
  have hText : chunkText J chunk = ((Chunk.delta v).bind Chunk.content).getD "" := by
    simp [chunkText, hValue]
  have hBlock : contentBlockStart.Plain 127 := by simp [contentBlockStart]
  have hStart : (startEvents J v).foldl (accumulate J) none =
      some { Accumulated.start with blocksOpened := 1 } := by
    rw [startEvents, List.foldl_cons, accumulate_start, List.foldl_cons, List.foldl_nil,
      accumulate_event J (by decide) hBlock]
    rfl
  simp only [encodeStream, encodeChunks, hEncode, if_true]
  rw [List.foldl_append, List.foldl_append, List.foldl_append, hStart, accumulate_delta,
    accumulate_chunks J (fun other hOther => h other (List.mem_cons_of_mem chunk hOther)),
    accumulate_done]
  simp [hText, Accumulated.start]

end Read

/-! ## The two encodings of an answer -/

theorem stopReasonOf_eq_iff (reason : String) :
    stopReasonOf reason = "end_turn" ↔ reason = "stop" ∨ reason = "end_turn" := by
  unfold stopReasonOf
  split <;> simp_all

theorem encodeResponse_text {J : JsonText} {response : ChatResponse} {s : String}
    (h : answerText response = some (.string s) ∨ answerText response = none ∧ s = "") :
    (encodeResponse J response).text = s := by
  unfold answerText at h
  rcases h with hText | ⟨hText, rfl⟩
  · simp [encodeResponse, AnthropicResponse.text, hText]
  · simp [encodeResponse, AnthropicResponse.text, hText]

theorem encodeResponse_tokens (J : JsonText) (response : ChatResponse) :
    (encodeResponse J response).usage.outputTokens =
      (response.usage.map Usage.completionTokens).getD 0 := by
  unfold encodeResponse
  cases response.usage <;> rfl

/-- The streamed message of an answer is the message of the answer if and only if the answer
ends as every stream does; and the block that every stream opens is never closed. -/
theorem streamed_same_iff (J : JsonText) {chunks : List SseEvent} {response : ChatResponse}
    (h : StreamOf J chunks response) :
    ((∃ message, (encodeStream J chunks).foldl (accumulate J) none = some message ∧
        message.Same (encodeResponse J response)) ↔ FixedEnd response) ∧
      ∀ message, (encodeStream J chunks).foldl (accumulate J) none = some message →
        message.blocksOpened = 1 ∧ message.blocksClosed = 0 := by
  have hStop : (encodeResponse J response).stopReason =
      (answerFinish response).map stopReasonOf := rfl
  have hText := encodeResponse_text (J := J) h.text
  by_cases hNe : chunks = []
  · subst hNe
    have hNone : (encodeStream J []).foldl (accumulate J) none = none := accumulate_done_none J
    have hFinish : answerFinish response = none := h.finish
    rw [hNone]
    refine ⟨⟨fun ⟨_, hMessage, _⟩ => (Option.some_ne_none _ hMessage.symm).elim, fun hEnd => ?_⟩,
      fun message hMessage => (Option.some_ne_none _ hMessage.symm).elim⟩
    rcases hEnd.1 with hStop | hStop <;> exact absurd (hFinish.symm.trans hStop) nofun
  · have hStream := accumulate_stream J hNe h.read
    refine ⟨⟨?_, fun hEnd => ⟨_, hStream, hText.symm, ?_, ?_⟩⟩, ?_⟩
    · rintro ⟨message, hMessage, -, hReason, hTokens⟩
      rw [hStream, Option.some.injEq] at hMessage
      subst hMessage
      rw [hStop] at hReason
      obtain ⟨reason, hFinish, hMapped⟩ := Option.map_eq_some_iff.mp hReason.symm
      rw [encodeResponse_tokens, Option.some.injEq] at hTokens
      refine ⟨?_, hTokens.symm⟩
      rw [hFinish, Option.some.injEq, Option.some.injEq]
      exact (stopReasonOf_eq_iff reason).mp hMapped
    · rw [hStop]
      rcases hEnd.1 with hFinish | hFinish <;> rw [hFinish] <;> rfl
    · rw [encodeResponse_tokens, hEnd.2]
    · intro message hMessage
      rw [hStream, Option.some.injEq] at hMessage
      subst hMessage
      exact ⟨rfl, rfl⟩

namespace StreamSample

def chunks : List SseEvent :=
  [.message "\x7b\"choices\":[\x7b\"delta\":\x7b\"content\":\"a\"\x7d\x7d]\x7d",
    .message ("\x7b\"choices\":[\x7b\"delta\":\x7b\"content\":\"b\"\x7d," ++
      "\"finish_reason\":\"length\"\x7d]\x7d")]

def answer : ChatResponse where
  id := "chatcmpl-1"
  object := "chat.completion"
  created := none
  model := "m"
  choices := [⟨0, ⟨"assistant", some (.string "ab"), none, none, none⟩, some "length"⟩]
  usage := none

theorem streamOf_answer : StreamOf .compact chunks answer where
  read := by
    rw [chunks, List.forall_mem_cons, List.forall_mem_singleton]
    decide
  text := Or.inl rfl
  finish := by decide
  tokens := by decide

theorem streamed_same_answer :
    ((∃ message, (encodeStream .compact chunks).foldl (accumulate .compact) none = some message ∧
        message.Same (encodeResponse .compact answer)) ↔ FixedEnd answer) ∧
      ∀ message, (encodeStream .compact chunks).foldl (accumulate .compact) none = some message →
        message.blocksOpened = 1 ∧ message.blocksClosed = 0 :=
  streamed_same_iff .compact streamOf_answer

/-- Its stream says that the turn has ended. -/
theorem length_lost : StreamOf .compact chunks answer ∧
    ¬ ∃ message, (encodeStream .compact chunks).foldl (accumulate .compact) none = some message ∧
        message.Same (encodeResponse .compact answer) := by
  refine ⟨streamOf_answer, ?_⟩
  have hNe : chunks ≠ [] := by decide
  have hStream := accumulate_stream .compact hNe streamOf_answer.read
  rintro ⟨message, hMessage, -, hReason, -⟩
  rw [hStream, Option.some.injEq] at hMessage
  subst hMessage
  exact absurd hReason (by decide)

end StreamSample

end KongRust.Ai.AnthropicCodec

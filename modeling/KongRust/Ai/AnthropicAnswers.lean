import KongRust.Ai.Anthropic
import KongRust.Ai.ChatStream

/-!
# Whole and streamed answers of Anthropic

The events of a stream open the content blocks of an answer one after the other, fill each with
deltas and close it. What a client puts together of their chunks is the whole answer, except
that a call with an empty input gets no arguments at all.
-/

namespace KongRust.Ai.AnthropicDriver

open KongRust ChatAnswer

/-! ## The blocks of an answer -/

inductive ContentBlock where
  | text (content : String)
  | toolUse (id name : String) (input : Json)

/-- A content block of one of the two kinds. -/
def blockOf (block : Json) : Option ContentBlock :=
  if str (some block) "type" = some "text" then (str (some block) "text").map .text
  else if str (some block) "type" = some "tool_use" then
    match str (some block) "id", str (some block) "name", inputOf block with
    | some id, some name, some input => some (.toolUse id name input)
    | _, _, _ => none
  else none

def ContentBlock.textPart : ContentBlock → Option String
  | .text content => some content
  | .toolUse .. => none

variable (J : JsonText)

def ContentBlock.call (J : JsonText) : ContentBlock → Option ToolCall
  | .text _ => none
  | .toolUse id name input => some ⟨id, "function", ⟨name, J.print input⟩⟩

/-! ## The events of an answer -/

def HasType (eventType : String) (data : Json) : Prop := str (some data) "type" = some eventType

instance (eventType : String) (data : Json) : Decidable (HasType eventType data) :=
  inferInstanceAs (Decidable (_ = _))

/-- The event that opens a block. -/
structure Opens (index : UInt64) (block : ContentBlock) (data : Json) : Prop where
  type : HasType "content_block_start" data
  index : (data.get "index").bind Json.asU64 = some index
  block : match block with
    | .text _ => str (data.get "content_block") "type" = some "text"
    | .toolUse id name _ =>
      str (data.get "content_block") "type" = some "tool_use" ∧
        str (data.get "content_block") "id" = some id ∧
        str (data.get "content_block") "name" = some name

/-- A delta with a part of a block. -/
structure Delta (index : UInt64) (block : ContentBlock) (part : String) (data : Json) : Prop where
  type : HasType "content_block_delta" data
  index : (data.get "index").bind Json.asU64 = some index
  part : match block with
    | .text _ =>
      str (data.get "delta") "type" = some "text_delta" ∧
        str (data.get "delta") "text" = some part
    | .toolUse .. =>
      str (data.get "delta") "type" = some "input_json_delta" ∧
        str (data.get "delta") "partial_json" = some part

/-- What the parts of a block are: the pieces of its text, or of a JSON text of its input. An
empty input may have no text. -/
def PartsOf (J : JsonText) (parts : List String) : ContentBlock → Prop
  | .text content => String.join parts = content
  | .toolUse _ _ input => J.parse (String.join parts) = .ok input ∨
      input = .object [] ∧ String.join parts = ""

/-- The events of one block, from its start to its stop. -/
structure BlockEvents (J : JsonText) (index : UInt64) (block : ContentBlock)
    (parts : List String) (events : List Json) : Prop where
  whole : PartsOf J parts block
  inOrder : ∃ opening deltas closing, events = opening :: (deltas ++ [closing]) ∧
    Opens index block opening ∧ List.Forall₂ (Delta index block) parts deltas ∧
    HasType "content_block_stop" closing

def BlocksEvents (J : JsonText) : Nat → List (ContentBlock × List String) → List Json → Prop
  | _, [], events => events = []
  | index, (block, parts) :: rest, events =>
    ∃ first later, events = first ++ later ∧
      BlockEvents J (UInt64.ofNat index) block parts first ∧ BlocksEvents J (index + 1) rest later

/-- The events of a message, with pings anywhere. -/
structure StreamOf (J : JsonText) (events : List SseEvent)
    (blocks : List (ContentBlock × List String)) (stopReason : String) : Prop where
  inOrder : ∃ datas opening body ending closing,
    List.Forall₂ (fun (event : SseEvent) data => J.parse event.data = .ok data ∧
        (str (some data) "type").isSome) events datas ∧
      datas.filter (fun data => ¬ HasType "ping" data) =
        opening :: (body ++ [ending, closing]) ∧
      HasType "message_start" opening ∧ BlocksEvents J 0 blocks body ∧
      HasType "message_delta" ending ∧ str (ending.get "delta") "stop_reason" = some stopReason ∧
      HasType "message_stop" closing

/-- The whole message has these blocks and this stop reason. -/
structure WholeOf (L : Libraries) (body : String) (contents : List ContentBlock)
    (stopReason : String) (resp : Json) : Prop where
  read : read L body = .ok resp
  blocks : (blocks resp).map blockOf = contents.map some
  stopReason : str (some resp) "stop_reason" = some stopReason

/-! ## What both answers must agree on -/

/-- A text of a value, and the text in which the value is written. -/
def SameValue (J : JsonText) (a b : String) : Prop := ∃ v, J.parse a = .ok v ∧ b = J.print v

structure SameAnswer (J : JsonText) (answer : ChatAnswer) (response : ChatResponse) : Prop where
  text : answer.text =
    ((response.choices.head?.bind fun choice => choice.message.content).bind Json.asStr).getD ""
  calls : List.Forall₂ (fun (streamed : StreamedCall) (call : ToolCall) =>
      streamed.id = call.id ∧ streamed.name = call.function.name ∧
        SameValue J streamed.arguments call.function.arguments)
    answer.calls
    ((response.choices.head?.bind fun choice => choice.message.toolCalls).getD [])
  finishReason : answer.finishReason =
    response.choices.head?.bind fun choice => choice.finishReason

/-! ## The whole answer -/

open ContentBlock

variable {content id name stopReason part : String} {input data : Json}

theorem blockOf_text {block : Json} (h : blockOf block = some (.text content)) :
    str (some block) "type" = some "text" ∧ str (some block) "text" = some content := by
  unfold blockOf at h
  split at h
  · rename_i hType
    obtain ⟨found, hText, hSame⟩ := Option.map_eq_some_iff.mp h
    rw [← text.inj hSame]
    exact ⟨hType, hText⟩
  · split at h
    · split at h
      · cases h
      · cases h
    · cases h

theorem blockOf_toolUse {block : Json} (h : blockOf block = some (.toolUse id name input)) :
    str (some block) "type" = some "tool_use" ∧ str (some block) "id" = some id ∧
      str (some block) "name" = some name ∧ inputOf block = some input := by
  unfold blockOf at h
  split at h
  · obtain ⟨found, -, hSame⟩ := Option.map_eq_some_iff.mp h
    cases hSame
  · split at h
    · rename_i hType
      split at h
      · rename_i hId hName hInput
        cases h
        exact ⟨hType, hId, hName, hInput⟩
      · cases h
    · cases h

variable {contents : List ContentBlock} (L : Libraries)

theorem taken_of_blocks {found : List Json} (h : found.map blockOf = contents.map some) :
    (found.filter fun block => str (some block) "type" = some "text").filterMap
        (fun block => str (some block) "text") = contents.filterMap textPart ∧
      (found.filter fun block => str (some block) "type" = some "tool_use").filterMap
        (toolCall L) = contents.filterMap (call L.J) := by
  induction found generalizing contents with
  | nil =>
    rw [List.map_nil, eq_comm, List.map_eq_nil_iff] at h
    rw [h]
    exact ⟨rfl, rfl⟩
  | cons block found ih =>
    cases contents with
    | nil => cases h
    | cons content contents =>
      obtain ⟨hHead, hTail⟩ := List.cons.inj h
      obtain ⟨hTexts, hCalls⟩ := ih hTail
      cases content with
      | text content =>
        obtain ⟨hType, hText⟩ := blockOf_text hHead
        rw [List.filter_cons_of_pos (by simp [hType]), List.filter_cons_of_neg (by simp [hType]),
          List.filterMap_cons, hText, hTexts, hCalls]
        exact ⟨rfl, rfl⟩
      | toolUse id name input =>
        obtain ⟨hType, hId, hName, hInput⟩ := blockOf_toolUse hHead
        have hCall : toolCall L block = some ⟨id, "function", ⟨name, L.J.print input⟩⟩ := by
          simp [toolCall, hId, hName, hInput]
        rw [List.filter_cons_of_neg (by simp [hType]), List.filter_cons_of_pos (by simp [hType]),
          List.filterMap_cons_some hCall, hTexts, hCalls]
        exact ⟨rfl, rfl⟩

theorem transformResponse_choices {L : Libraries} {body : String} {resp : Json}
    (h : WholeOf L body contents stopReason resp) {response : ChatResponse}
    (hResponse : transformResponse L 200 body = .ok response) :
    response.choices = [assistantChoice (String.join (contents.filterMap textPart))
      (contents.filterMap (call L.J)) (some (finishReasonOf stopReason))] := by
  obtain ⟨hTexts, hCalls⟩ := taken_of_blocks L h.blocks
  have hText : text resp = String.join (contents.filterMap textPart) := congrArg String.join hTexts
  have hToolCalls : toolCalls L resp = contents.filterMap (call L.J) := hCalls
  simp only [transformResponse, ne_eq, not_true_eq_false, if_false, h.read] at hResponse
  split at hResponse
  · rw [← Except.ok.inj hResponse]
    dsimp only
    rw [hText, hToolCalls, h.stopReason]
    rfl
  · cases hResponse

/-! ## The chunks of the events -/

def streamedChunks (L : Libraries) (events : List SseEvent) : List String :=
  events.filterMap fun event =>
    match transformStreamEvent L event with
    | .ok (some transformed) => some transformed.data
    | _ => none

def streamedAnswer (L : Libraries) (events : List SseEvent) : ChatAnswer :=
  (streamedChunks L events).foldl (ChatAnswer.accumulate L.J) .start

def receiveData (answer : ChatAnswer) (data : Json) : ChatAnswer :=
  match (str (some data) "type").bind fun eventType => chunkOf eventType data with
  | some chunk => answer.receive chunk
  | none => answer

attribute [local simp] chunkOf in
theorem chunkOf_plain {eventType : String} {chunk : Json} (h : chunkOf eventType data = some chunk) :
    chunk.Plain 127 := by
  unfold chunkOf at h
  split at h
  · rw [← Option.some.inj h]
    exact chatChunk_plain (by simp) none
  · unfold contentBlockStart at h
    dsimp only at h
    split at h
    · rw [← Option.some.inj h]
      exact chatChunk_plain (by simp) none
    · cases h
  · cases h
  · unfold contentBlockDelta at h
    dsimp only at h
    split at h
    · split at h
      · cases h
      · rw [← Option.some.inj h]
        exact chatChunk_plain (by simp) none
    · split at h
      · cases h
      · rw [← Option.some.inj h]
        exact chatChunk_plain (by simp) none
    · cases h
  · cases h
  · rw [← Option.some.inj h]
    exact chatChunk_plain (by simp) _
  · cases h
  · cases h

theorem streamed_eq {events : List SseEvent} {datas : List Json}
    (h : List.Forall₂ (fun (event : SseEvent) data => L.J.parse event.data = .ok data ∧
      (str (some data) "type").isSome) events datas) (answer : ChatAnswer) :
    (streamedChunks L events).foldl (accumulate L.J) answer =
      datas.foldl receiveData answer := by
  induction h generalizing answer with
  | nil => rfl
  | @cons event data events datas hHead hTail ih =>
    obtain ⟨eventType, hType⟩ := Option.isSome_iff_exists.mp hHead.2
    have hEvent : transformStreamEvent L event =
        .ok ((chunkOf eventType data).map fun chunk => .message (L.J.print chunk)) := by
      simp [transformStreamEvent, hHead.1, hType]
    have hData : receiveData answer data =
        match chunkOf eventType data with
        | some chunk => answer.receive chunk
        | none => answer := by
      simp only [receiveData, hType, Option.bind_some]
    rw [List.foldl_cons, hData]
    cases hChunk : chunkOf eventType data with
    | none =>
      have hNone : streamedChunks L (event :: events) = streamedChunks L events := by
        simp [streamedChunks, hEvent, hChunk]
      rw [hNone]
      exact ih answer
    | some chunk =>
      have hSome : streamedChunks L (event :: events) =
          L.J.print chunk :: streamedChunks L events := by
        simp [streamedChunks, hEvent, hChunk, SseEvent.message]
      have hStep : accumulate L.J answer (L.J.print chunk) = answer.receive chunk := by
        unfold accumulate
        rw [L.J.parse_print (chunkOf_plain hChunk)]
      rw [hSome, List.foldl_cons, hStep]
      exact ih (answer.receive chunk)

theorem foldl_without_pings (datas : List Json) (answer : ChatAnswer) :
    datas.foldl receiveData answer =
      (datas.filter fun data => ¬ HasType "ping" data).foldl receiveData answer := by
  induction datas generalizing answer with
  | nil => rfl
  | cons data datas ih =>
    rw [List.foldl_cons]
    by_cases hPing : HasType "ping" data
    · have hSame : receiveData answer data = answer := by
        simp only [receiveData, show str (some data) "type" = some "ping" from hPing,
          Option.bind_some, chunkOf]
      rw [List.filter_cons_of_neg (by simpa using hPing), hSame]
      exact ih answer
    · rw [List.filter_cons_of_pos (by simpa using hPing), List.foldl_cons]
      exact ih _

/-! ## One event -/

theorem receive_chatChunk (answer : ChatAnswer) (id model : String) (delta : List (String × Json))
    (finishReason : Option String) :
    answer.receive (chatChunk id model delta finishReason) =
      { text := answer.text ++ (Chunk.content (.ofFields delta)).getD ""
        calls := (Chunk.toolCalls (.ofFields delta)).foldl receiveCall answer.calls
        finishReason := finishReason.or answer.finishReason } := by
  unfold receive callsOf Chunk.toolCalls
  rw [chatChunk_delta, chatChunk_finishReason]
  rfl

theorem appendArguments_last (calls : List StreamedCall) (call : StreamedCall) (part : String) :
    appendArguments (calls ++ [call]) call.index part =
      calls ++ [{ call with arguments := call.arguments ++ part }] := by
  induction calls with
  | nil => simp [appendArguments]
  | cons other calls ih =>
    rw [List.cons_append, appendArguments, if_neg, ih]
    · rfl
    · exact fun hAll => hAll.2 call (List.mem_append_right calls List.mem_cons_self) rfl

variable {index : UInt64}

theorem receive_opening {block : ContentBlock} {data : Json} (h : Opens index block data)
    (answer : ChatAnswer) : receiveData answer data =
      match block with
      | .text _ => answer
      | .toolUse id name _ =>
        { answer with calls := answer.calls ++ [⟨index, id, name, ""⟩] } := by
  have hType : str (some data) "type" = some "content_block_start" := h.type
  have hBlock := h.block
  simp only [receiveData, hType, Option.bind_some, chunkOf]
  cases block with
  | text content =>
    have hKind : str (data.get "content_block") "type" = some "text" := hBlock
    simp [contentBlockStart, hKind]
  | toolUse id name input =>
    obtain ⟨hKind, hId, hName⟩ := hBlock
    simp [contentBlockStart, hKind, hId, hName, receive_chatChunk, Chunk.content, Chunk.toolCalls,
      Json.get_ofFields, Json.asArray, receiveCall, callIndex, Chunk.callId,
      Chunk.functionName, Chunk.functionArguments, Json.asStr, Json.asU64, blockIndex, h.index]

theorem receive_text_delta (h : Delta index (.text content) part data) (answer : ChatAnswer) :
    receiveData answer data = { answer with text := answer.text ++ part } := by
  have hType : str (some data) "type" = some "content_block_delta" := h.type
  obtain ⟨hKind, hPart⟩ := h.part
  simp only [receiveData, hType, Option.bind_some, chunkOf, contentBlockDelta, hKind,
    Option.getD_some, hPart]
  by_cases hEmpty : part = ""
  · simp [hEmpty]
  · simp [hEmpty, receive_chatChunk, Chunk.content, Chunk.toolCalls, Json.get_ofFields, Json.asStr]

variable {answer : ChatAnswer} {calls : List StreamedCall} {arguments : String}

theorem receive_arguments_delta (h : Delta index (.toolUse id name input) part data)
    (hLast : answer.calls = calls ++ [⟨index, id, name, arguments⟩]) :
    receiveData answer data =
      { answer with calls := calls ++ [⟨index, id, name, arguments ++ part⟩] } := by
  have hType : str (some data) "type" = some "content_block_delta" := h.type
  obtain ⟨hKind, hPart⟩ := h.part
  simp only [receiveData, hType, Option.bind_some, chunkOf, contentBlockDelta, hKind,
    Option.getD_some, hPart]
  by_cases hEmpty : part = ""
  · rw [hEmpty, String.append_empty, ← hLast]
    simp
  · have hAppend := appendArguments_last calls ⟨index, id, name, arguments⟩ part
    simp [hEmpty, receive_chatChunk, Chunk.content, Chunk.toolCalls, Json.get_ofFields,
      Json.asArray, receiveCall, callIndex, Chunk.callId, Chunk.functionArguments,
      Json.asStr, Json.asU64, blockIndex, h.index, hLast, hAppend]

/-! ## The blocks -/

variable {parts : List String} {deltas : List Json}

theorem receive_text_deltas {content : String}
    (h : List.Forall₂ (Delta index (.text content)) parts deltas) (answer : ChatAnswer) :
    deltas.foldl receiveData answer =
      { answer with text := answer.text ++ String.join parts } := by
  induction h generalizing answer with
  | nil => simp
  | cons hHead hTail ih =>
    rw [List.foldl_cons, receive_text_delta hHead, ih, String.join_cons, String.append_assoc]

theorem receive_arguments_deltas {id name : String} {input : Json}
    (h : List.Forall₂ (Delta index (.toolUse id name input)) parts deltas)
    (hLast : answer.calls = calls ++ [⟨index, id, name, arguments⟩]) :
    deltas.foldl receiveData answer =
      { answer with calls := calls ++ [⟨index, id, name, arguments ++ String.join parts⟩] } := by
  induction h generalizing answer arguments with
  | nil =>
    rw [List.foldl_nil, String.join_nil, String.append_empty, ← hLast]
  | cons hHead hTail ih =>
    rw [List.foldl_cons, receive_arguments_delta hHead hLast, ih rfl, String.join_cons,
      String.append_assoc]

def streamedCalls : Nat → List (ContentBlock × List String) → List StreamedCall
  | _, [] => []
  | index, (.text _, _) :: rest => streamedCalls (index + 1) rest
  | index, (.toolUse id name _, parts) :: rest =>
    ⟨UInt64.ofNat index, id, name, String.join parts⟩ :: streamedCalls (index + 1) rest

variable {blocks : List (ContentBlock × List String)}

theorem receive_blocks {index : Nat} {events : List Json} (h : BlocksEvents J index blocks events)
    (answer : ChatAnswer) :
    events.foldl receiveData answer =
      { answer with
        text := answer.text ++
          String.join ((blocks.map Prod.fst).filterMap textPart)
        calls := answer.calls ++ streamedCalls index blocks } := by
  induction blocks generalizing index events answer with
  | nil =>
    subst h
    simp [streamedCalls]
  | cons entry blocks ih =>
    obtain ⟨block, parts⟩ := entry
    obtain ⟨first, later, rfl, ⟨hWhole, opening, deltas, closing, rfl, hOpens, hDeltas, hCloses⟩,
      hLater⟩ := h
    have hClosing : ∀ answer, receiveData answer closing = answer := by
      intro answer
      simp only [receiveData, show str (some closing) "type" = some "content_block_stop" from
        hCloses, Option.bind_some, chunkOf]
    rw [List.foldl_append, ih hLater, List.foldl_cons, List.foldl_append, List.foldl_cons,
      List.foldl_nil, hClosing, receive_opening hOpens]
    cases block with
    | text content =>
      have hContent : String.join parts = content := hWhole
      rw [receive_text_deltas hDeltas, hContent]
      simp [streamedCalls, textPart, String.append_assoc]
    | toolUse id name input =>
      have hTexts : (((toolUse id name input, parts) :: blocks).map Prod.fst).filterMap textPart =
          (blocks.map Prod.fst).filterMap textPart := rfl
      rw [receive_arguments_deltas hDeltas rfl, hTexts, String.empty_append, streamedCalls,
        List.append_assoc]
      rfl

theorem streamedAnswer_eq {events : List SseEvent} (h : StreamOf L.J events blocks stopReason) :
    streamedAnswer L events =
      { text := String.join ((blocks.map Prod.fst).filterMap textPart)
        calls := streamedCalls 0 blocks
        finishReason := some (finishReasonOf stopReason) } := by
  obtain ⟨datas, opening, body, ending, closing, hDatas, hInOrder, hOpening, hBody, hEnding,
    hReason, hClosing⟩ := h.inOrder
  have hOpened : receiveData .start opening = .start := by
    simp only [receiveData, show str (some opening) "type" = some "message_start" from hOpening,
      Option.bind_some, chunkOf, messageStart, receive_chatChunk]
    simp [Chunk.content, Chunk.toolCalls, Json.get_ofFields, start]
  have hEnded : ∀ answer, receiveData answer ending =
      { answer with finishReason := some (finishReasonOf stopReason) } := by
    intro answer
    simp only [receiveData, show str (some ending) "type" = some "message_delta" from hEnding,
      Option.bind_some, chunkOf, messageDelta, receive_chatChunk, hReason]
    simp [Chunk.content, Chunk.toolCalls, Json.get_ofFields]
  have hClosed : ∀ answer, receiveData answer closing = answer := by
    intro answer
    simp only [receiveData, show str (some closing) "type" = some "message_stop" from hClosing,
      Option.bind_some, chunkOf]
  unfold streamedAnswer
  rw [streamed_eq L hDatas, foldl_without_pings, hInOrder, List.foldl_cons, hOpened,
    List.foldl_append, receive_blocks L.J hBody, List.foldl_cons, List.foldl_cons, List.foldl_nil,
    hEnded, hClosed]
  simp [start]

/-! ## When both are the same -/

def InputsWritten (blocks : List (ContentBlock × List String)) : Prop :=
  ∀ entry ∈ blocks, ∀ id name input, entry.1 = .toolUse id name input →
    String.join entry.2 ≠ ""

theorem parts_of_blocks {index : Nat} {events : List Json} (h : BlocksEvents J index blocks events) :
    ∀ entry ∈ blocks, PartsOf J entry.2 entry.1 := by
  induction blocks generalizing index events with
  | nil => exact nofun
  | cons entry blocks ih =>
    obtain ⟨first, later, -, hFirst, hLater⟩ := h
    exact List.forall_mem_cons.mpr ⟨hFirst.whole, ih hLater⟩

theorem calls_same_iff (hEmpty : ∀ v, J.parse "" ≠ .ok v) (index : Nat)
    (h : ∀ entry ∈ blocks, PartsOf J entry.2 entry.1) :
    List.Forall₂ (fun (streamed : StreamedCall) (call : ToolCall) =>
        streamed.id = call.id ∧ streamed.name = call.function.name ∧
          SameValue J streamed.arguments call.function.arguments)
      (streamedCalls index blocks) ((blocks.map Prod.fst).filterMap (call J)) ↔
      InputsWritten blocks := by
  induction blocks generalizing index with
  | nil => simp [streamedCalls, InputsWritten]
  | cons entry blocks ih =>
    obtain ⟨hHead, hTail⟩ := List.forall_mem_cons.mp h
    have hRest := ih (index + 1) hTail
    obtain ⟨block, parts⟩ := entry
    unfold InputsWritten at hRest ⊢
    rw [List.forall_mem_cons]
    cases block with
    | text content =>
      refine hRest.trans (and_iff_right ?_).symm
      intro id name input hBlock
      cases hBlock
    | toolUse id name input =>
      have hValue : SameValue J (String.join parts) (J.print input) ↔ String.join parts ≠ "" := by
        constructor
        · rintro ⟨v, hParse, -⟩ hNone
          exact hEmpty v (hNone ▸ hParse)
        · intro hNe
          rcases hHead with hParse | ⟨-, hNone⟩
          · exact ⟨input, hParse, rfl⟩
          · exact absurd hNone hNe
      rw [streamedCalls, List.map_cons, List.filterMap_cons]
      simp only [call, List.forall₂_cons, true_and]
      rw [hValue, hRest]
      refine and_congr_left fun _ => ⟨fun hNe _ _ _ _ => hNe, fun hAll => hAll id name input rfl⟩

/-- The streamed answer is the whole one if and only if no call is left without a text of its
input. -/
theorem streamed_same_iff_written (L : Libraries) (hEmpty : ∀ v, L.J.parse "" ≠ .ok v)
    {events : List SseEvent} {blocks : List (ContentBlock × List String)} {stopReason : String}
    (h : StreamOf L.J events blocks stopReason) {body : String} {resp : Json}
    (hWhole : WholeOf L body (blocks.map Prod.fst) stopReason resp) {response : ChatResponse}
    (hResponse : transformResponse L 200 body = .ok response) :
    SameAnswer L.J (streamedAnswer L events) response ↔ InputsWritten blocks := by
  have hChoices := transformResponse_choices hWhole hResponse
  have hParts : ∀ entry ∈ blocks, PartsOf L.J entry.2 entry.1 := by
    obtain ⟨datas, opening, events, ending, closing, -, -, -, hBody, -⟩ := h.inOrder
    exact parts_of_blocks L.J hBody
  obtain ⟨hText, hCalls, hReason⟩ := read_assistantChoice hChoices
  rw [← calls_same_iff L.J hEmpty 0 hParts, streamedAnswer_eq L h]
  constructor
  · rintro ⟨-, hSame, -⟩
    rw [hCalls] at hSame
    exact hSame
  · intro hSame
    exact ⟨hText.symm, hCalls.symm ▸ hSame, hReason.symm⟩

namespace StreamSample

def libraries : Libraries := ⟨.compact, fun _ => "invalid value", String.toLower⟩

def typed (eventType : String) (fields : List (String × Json)) : Json :=
  .ofFields (("type", .string eventType) :: fields)

def block : ContentBlock := .toolUse "toolu_1" "now" (.object [])

def start : Json :=
  typed "content_block_start" [("index", .number (.posInt 0)),
    ("content_block", typed "tool_use" [("id", .string "toolu_1"), ("name", .string "now"),
      ("input", .object [])])]

def delta : Json :=
  typed "content_block_delta" [("index", .number (.posInt 0)),
    ("delta", typed "input_json_delta" [("partial_json", .string "")])]

def ending : Json :=
  typed "message_delta" [("delta", .ofFields [("stop_reason", .string "tool_use")])]

def datas : List Json :=
  [typed "message_start" [], start, delta, typed "content_block_stop" [], ending,
    typed "message_stop" []]

def events : List SseEvent := datas.map fun data => .message (JsonText.compact.print data)

def message : Json :=
  .ofFields [("id", .string "msg_1"), ("type", .string "message"), ("role", .string "assistant"),
    ("content", .array [typed "tool_use" [("text", .null), ("id", .string "toolu_1"),
      ("name", .string "now"), ("input", .object [])]]), ("model", .string "m"),
    ("stop_reason", .string "tool_use"),
    ("usage", .ofFields [("input_tokens", .number (.posInt 1)),
      ("output_tokens", .number (.posInt 1))])]

def body : String := JsonText.compact.print message

theorem empty_plain (depth : Nat) : (Json.object []).Plain (depth + 1) :=
  @Json.plain_ofFields depth [] nofun

theorem datas_plain : ∀ data ∈ datas, data.Plain 127 := by
  simp [datas, typed, start, delta, ending, empty_plain]

theorem streamOf_events : StreamOf .compact events [(block, [""])] "tool_use" where
  inOrder := by
    refine ⟨datas, typed "message_start" [], [start, delta, typed "content_block_stop" []],
      ending, typed "message_stop" [], ?_, rfl, rfl, ?_, rfl, rfl, rfl⟩
    · refine List.forall₂_map_left_iff.mpr (List.forall₂_same.mpr fun data hData => ?_)
      refine ⟨JsonText.compact.parse_print (datas_plain data hData), ?_⟩
      revert data
      simp [datas, typed, start, delta, ending, str, Json.get_ofFields, Json.asStr]
    · exact ⟨_, [], rfl, ⟨Or.inr ⟨rfl, rfl⟩, start, [delta], typed "content_block_stop" [], rfl,
        ⟨rfl, rfl, rfl, rfl, rfl⟩, .cons ⟨rfl, rfl, rfl, rfl⟩ .nil, rfl⟩, rfl⟩

theorem message_plain : message.Plain 127 := by simp [message, typed, empty_plain]

theorem wholeOf_body : WholeOf libraries body [block] "tool_use" message where
  read :=
    JsonText.fromStr_of_parse (J := .compact) (JsonText.compact.parse_print message_plain) rfl
  blocks := rfl
  stopReason := rfl

def response : ChatResponse where
  id := "msg_1"
  object := "chat.completion"
  created := none
  model := "m"
  choices := [assistantChoice "" [⟨"toolu_1", "function", ⟨"now", "\x7b\x7d"⟩⟩] (some "tool_calls")]
  usage := some ⟨1, 1, 2⟩

theorem body_response : transformResponse libraries 200 body = .ok response := by
  simp only [transformResponse, ne_eq, not_true_eq_false, if_false, wholeOf_body.read]
  rfl

theorem parse_empty (v : Json) : JsonText.compact.parse "" ≠ .ok v := nofun

theorem streamed_same_empty_input : SameAnswer .compact (streamedAnswer libraries events) response ↔
      InputsWritten [(block, [""])] :=
  streamed_same_iff_written libraries parse_empty streamOf_events wholeOf_body body_response

/-- The streamed call has no arguments, which is no JSON text. -/
theorem empty_input_lost : StreamOf .compact events [(block, [""])] "tool_use" ∧
    WholeOf libraries body [block] "tool_use" message ∧
    transformResponse libraries 200 body = .ok response ∧
    ¬ SameAnswer .compact (streamedAnswer libraries events) response := by
  refine ⟨streamOf_events, wholeOf_body, body_response, fun hSame => ?_⟩
  have hCalls := hSame.calls
  rw [streamedAnswer_eq libraries streamOf_events] at hCalls
  obtain ⟨-, -, v, hParse, -⟩ := (List.forall₂_cons.mp hCalls).1
  exact parse_empty v hParse

end StreamSample

end KongRust.Ai.AnthropicDriver

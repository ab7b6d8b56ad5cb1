import KongRust.Ai.ChatStream
import KongRust.Ai.Gemini

/-!
# Whole and streamed answers of Gemini

The calls of an answer are numbered from 0, and a chunk of a stream numbers its own again; a
chunk with calls loses its text and its finish reason. The streamed answer is the whole one if
and only if none of this can be seen.
-/

namespace KongRust.Ai.GeminiDriver

open KongRust ChatAnswer

/-! ## Elements that start calls -/

def elementCall (element : Json) : ToolCall :=
  ⟨(Chunk.callId element).getD "", "function",
    ⟨(Chunk.functionName element).getD "", (Chunk.functionArguments element).getD ""⟩⟩

open StreamedCall

theorem receiveCall_start (calls : List StreamedCall) {element : Json} (h : IsStart element) :
    (receiveCall calls element).map call =
      calls.map call ++ [elementCall element] := by
  obtain ⟨id, hId⟩ := Option.isSome_iff_exists.mp h
  simp [receiveCall, hId, call, elementCall]

theorem setIndex_get (element : Json) (index : UInt32) {key : String} (h : key ≠ "index") :
    (setIndex element index).get key = element.get key :=
  Json.get_setField_ne h element _

theorem isStart_setIndex {element : Json} (h : IsStart element) (index : UInt32) :
    IsStart (setIndex element index) ∧
      elementCall (setIndex element index) = elementCall element := by
  unfold IsStart elementCall Chunk.callId Chunk.functionName Chunk.functionArguments
  rw [setIndex_get element index (by decide), setIndex_get element index (by decide)]
  exact ⟨h, rfl⟩

theorem receive_starts {elements : List Json} (h : ∀ element ∈ elements, IsStart element)
    (counter : UInt32) (calls : List StreamedCall) :
    ((remapCalls counter elements).2.1.foldl receiveCall calls).map call =
      calls.map call ++ elements.map elementCall := by
  induction elements generalizing counter calls with
  | nil => exact (List.append_nil _).symm
  | cons element elements ih =>
    have hStart := h element List.mem_cons_self
    obtain ⟨hSet, hSame⟩ := isStart_setIndex hStart counter
    have hHead : (remapCall counter element).2.1 = setIndex element counter := by
      rw [remapCall_start counter hStart]
    change ((remapCalls (remapCall counter element).1 elements).2.1.foldl receiveCall
      (receiveCall calls (remapCall counter element).2.1)).map call = _
    rw [ih (fun other hOther => h other (List.mem_cons_of_mem element hOther)), hHead,
      receiveCall_start calls hSet, hSame, List.map_cons, List.append_assoc]
    rfl

/-! ## One chunk -/

/-- What is left of the text and of the finish reason of a chunk. -/
def streamedText (resp : Json) : String := if functionCalls resp = [] then text resp else ""

def streamedReason (L : Libraries) (resp : Json) : Option String :=
  if functionCalls resp = [] then finishReason L resp else none

def numberedCalls (L : Libraries) (calls : List Json) : List ToolCall :=
  calls.mapIdx fun i fc => toolCall L fc i

variable (L : Libraries)

theorem callDelta_plain (fc : Json) (i : Nat) : (callDelta L fc i).Plain 122 := by
  simp [callDelta]

theorem callDelta_start (fc : Json) (i : Nat) :
    IsStart (callDelta L fc i) ∧ elementCall (callDelta L fc i) = toolCall L fc i := by
  simp [IsStart, elementCall, toolCall, callDelta, Chunk.callId, Chunk.functionName,
    Chunk.functionArguments, Json.get_ofFields, Json.asStr]

theorem chunkOf_plain (resp : Json) : (chunkOf L resp).Plain 127 := by
  unfold chunkOf
  dsimp only
  split
  · refine chatChunk_plain ?_ none
    rw [List.forall_mem_singleton, Json.plain_array_iff]
    intro element hElement
    obtain ⟨i, hi, rfl⟩ := List.mem_mapIdx.mp hElement
    exact callDelta_plain L _ i
  · refine chatChunk_plain ?_ _
    rw [List.forall_mem_singleton]
    exact Json.plain_string _ _

theorem chunkOf_text (resp : Json) :
    ((Chunk.delta (chunkOf L resp)).bind Chunk.content).getD "" = streamedText resp := by
  unfold chunkOf streamedText
  dsimp only
  by_cases hCalls : functionCalls resp = []
  · simp [hCalls, chatChunk_delta, Chunk.content, Json.get_ofFields, Json.asStr]
  · simp [hCalls, chatChunk_delta, Chunk.content, Json.get_ofFields]

theorem chunkOf_reason (resp : Json) :
    Chunk.finishReason (chunkOf L resp) = streamedReason L resp := by
  unfold chunkOf streamedReason
  dsimp only
  by_cases hCalls : functionCalls resp = []
  · simp [hCalls, chatChunk_finishReason]
  · simp [hCalls, chatChunk_finishReason]

theorem chunkOf_calls (resp : Json) : (callsOf (chunkOf L resp)).getD [] =
    (functionCalls resp).mapIdx fun i fc => callDelta L fc i := by
  unfold chunkOf callsOf
  dsimp only
  by_cases hCalls : functionCalls resp = []
  · simp [hCalls, chatChunk_delta, Json.get_ofFields]
  · simp [hCalls, chatChunk_delta, Json.get_ofFields, Json.asArray]

/-! ## The stream -/

def streamedChunks (chunks : List SseEvent) : List String :=
  chunks.filterMap fun chunk =>
    match transformStreamEvent L chunk with
    | .ok (some transformed) => some transformed.data
    | _ => none

def streamedAnswer (chunks : List SseEvent) : ChatAnswer :=
  (remapStream L.J 0 (streamedChunks L chunks)).foldl (ChatAnswer.accumulate L.J) .start

/-- A response in chunks, however it was split. -/
structure StreamOf (chunks : List SseEvent) (resps : List Json) (resp : Json) : Prop where
  read : List.Forall₂ (fun chunk r => chunk.isDone = false ∧ read L chunk.data = .ok r) chunks
    resps
  text : text resp = String.join (resps.map text)
  calls : functionCalls resp = resps.flatMap functionCalls
  reason : finishReason L resp = (resps.filterMap (finishReason L)).getLast?

theorem streamedChunks_eq {chunks : List SseEvent} {resps : List Json}
    (h : List.Forall₂ (fun chunk r => chunk.isDone = false ∧ read L chunk.data = .ok r) chunks
      resps) : streamedChunks L chunks = resps.map fun r => L.J.print (chunkOf L r) := by
  unfold streamedChunks
  induction h with
  | nil => rfl
  | @cons chunk r chunks resps hHead hTail ih =>
    have hChunk : transformStreamEvent L chunk =
        .ok (some (.message (L.J.print (chunkOf L r)))) := by
      simp [transformStreamEvent, hHead.1, hHead.2]
    rw [List.filterMap_cons, hChunk, List.map_cons, ← ih]
    rfl

theorem getLast_or {α : Type} (a : Option α) (rest : List α) (b : Option α) :
    (rest.getLast?).or (a.or b) = ((a.toList ++ rest).getLast?).or b := by
  cases a with
  | none => simp
  | some a =>
    rw [Option.toList_some, List.singleton_append, List.getLast?_cons]
    cases rest.getLast? <;> rfl

/-- What the chunks of some responses make of an answer. -/
theorem accumulate_chunks (resps : List Json) (counter : UInt32) (answer : ChatAnswer) :
    let last := (remapStream L.J counter (resps.map fun r => L.J.print (chunkOf L r))).foldl
      (accumulate L.J) answer
    last.text = answer.text ++ String.join (resps.map streamedText) ∧
      last.calls.map call = answer.calls.map call ++
        resps.flatMap (fun r => numberedCalls L (functionCalls r)) ∧
      last.finishReason =
        ((resps.filterMap (streamedReason L)).getLast?).or answer.finishReason := by
  induction resps generalizing counter answer with
  | nil => exact ⟨(String.append_empty).symm, (List.append_nil _).symm, rfl⟩
  | cons r resps ih =>
    have hParse := L.J.parse_print (chunkOf_plain L r)
    obtain ⟨-, handed, hHanded, h⟩ := remapToolCallIndex_handed L.J hParse counter
    have hStep : accumulate L.J answer
        ((remapToolCallIndex L.J (L.J.print (chunkOf L r)) counter).2.getD
          (L.J.print (chunkOf L r))) = answer.receive handed := by
      unfold accumulate
      rw [hHanded]
    have hStarts : ∀ element ∈ (functionCalls r).mapIdx fun i fc => callDelta L fc i,
        IsStart element := by
      intro element hElement
      obtain ⟨i, hi, rfl⟩ := List.mem_mapIdx.mp hElement
      exact (callDelta_start L _ i).1
    have hElements : ((functionCalls r).mapIdx fun i fc => callDelta L fc i).map elementCall =
        numberedCalls L (functionCalls r) := by
      unfold numberedCalls
      rw [List.mapIdx_eq_zipIdx_map, List.mapIdx_eq_zipIdx_map, List.map_map]
      exact List.map_congr_left fun entry _ => (callDelta_start L entry.1 entry.2).2
    have hNext := receive_handed h answer
    have hText : (answer.receive handed).text = answer.text ++ streamedText r := by
      rw [hNext, ← chunkOf_text L]
    have hCalls : (answer.receive handed).calls.map call =
        answer.calls.map call ++ numberedCalls L (functionCalls r) := by
      rw [hNext, ← hElements, ← receive_starts hStarts counter, chunkOf_calls]
    have hReason : (answer.receive handed).finishReason =
        (streamedReason L r).or answer.finishReason := by
      rw [hNext, ← chunkOf_reason]
    obtain ⟨hTexts, hAll, hLast⟩ := ih
      (remapToolCallIndex L.J (L.J.print (chunkOf L r)) counter).1 (answer.receive handed)
    rw [List.map_cons, remapStream, List.foldl_cons, hStep]
    refine ⟨hTexts.trans ?_, hAll.trans ?_, hLast.trans ?_⟩
    · rw [hText, List.map_cons, String.join_cons, String.append_assoc]
    · rw [hCalls, List.flatMap_cons, List.append_assoc]
    · rw [hReason, getLast_or]
      refine congrArg (fun list => (List.getLast? list).or answer.finishReason) ?_
      rw [List.filterMap_cons]
      cases streamedReason L r <;> rfl

/-! ## When both are the same -/

theorem callId_injective {i j : Nat} (h : callId i = callId j) : i = j := by
  have hDigits : Nat.toDigits 10 i = Nat.toDigits 10 j :=
    String.ofList_injective ((String.append_right_inj _).mp h)
  rw [← Nat.ofDigitChars_toDigits (b := 10) (n := i) (by decide) (by decide), hDigits,
    Nat.ofDigitChars_toDigits (by decide) (by decide)]

theorem numberedCalls_ids (calls : List Json) :
    (numberedCalls L calls).map ToolCall.id = (List.range calls.length).map callId := by
  unfold numberedCalls
  rw [List.mapIdx_eq_zipIdx_map, List.map_map, List.range_eq_range', ← List.zipIdx_map_snd,
    List.map_map]
  rfl

theorem nodup_ids_iff (resps : List Json) :
    ((resps.flatMap fun r => numberedCalls L (functionCalls r)).map ToolCall.id).Nodup ↔
      resps.Pairwise fun a b => functionCalls a = [] ∨ functionCalls b = [] := by
  have hIds : (resps.flatMap fun r => numberedCalls L (functionCalls r)).map ToolCall.id =
      resps.flatMap fun r => (List.range (functionCalls r).length).map callId := by
    rw [List.map_flatMap]
    exact congrArg (List.flatMap · resps) (funext fun r => numberedCalls_ids L _)
  have hNodup : ∀ n, ((List.range n).map callId).Nodup := fun n =>
    List.Nodup.map (fun _ _ => callId_injective) List.nodup_range
  rw [hIds, List.nodup_flatMap]
  refine (and_iff_right fun r _ => hNodup _).trans (List.Pairwise.iff fun a b => ?_)
  constructor
  · intro hDisjoint
    by_contra hBoth
    obtain ⟨hA, hB⟩ := not_or.mp hBoth
    have hZero : ∀ calls : List Json, calls ≠ [] →
        callId 0 ∈ (List.range calls.length).map callId := fun calls hNe =>
      List.mem_map_of_mem (List.mem_range.mpr (List.length_pos_iff.mpr hNe))
    exact hDisjoint (hZero _ hA) (hZero _ hB)
  · rintro (hA | hB)
    · simp [Function.onFun, hA]
    · simp [Function.onFun, hB]

theorem calls_eq_of_pairwise {resps : List Json}
    (h : resps.Pairwise fun a b => functionCalls a = [] ∨ functionCalls b = []) :
    resps.flatMap (fun r => numberedCalls L (functionCalls r)) =
      numberedCalls L (resps.flatMap functionCalls) := by
  induction h with
  | nil => rfl
  | @cons r resps hHead hTail ih =>
    rw [List.flatMap_cons, List.flatMap_cons]
    by_cases hCalls : functionCalls r = []
    · rw [hCalls, List.nil_append, ← ih]
      rfl
    · have hRest : resps.flatMap functionCalls = [] :=
        List.flatMap_eq_nil_iff.mpr fun other hOther => (hHead other hOther).resolve_left hCalls
      rw [ih, hRest, List.append_nil]
      exact List.append_nil _

theorem streamedText_length (resps : List Json) :
    (String.join (resps.map streamedText)).length ≤ (String.join (resps.map text)).length := by
  induction resps with
  | nil => exact Nat.le_refl _
  | cons r resps ih =>
    rw [List.map_cons, List.map_cons, String.join_cons, String.join_cons, String.length_append,
      String.length_append]
    refine Nat.add_le_add ?_ ih
    unfold streamedText
    split
    · exact Nat.le_refl _
    · exact Nat.zero_le _

theorem texts_eq_iff (resps : List Json) :
    String.join (resps.map streamedText) = String.join (resps.map text) ↔
      ∀ r ∈ resps, functionCalls r ≠ [] → text r = "" := by
  induction resps with
  | nil => simp
  | cons r resps ih =>
    rw [List.map_cons, List.map_cons, String.join_cons, String.join_cons, List.forall_mem_cons]
    by_cases hCalls : functionCalls r = []
    · have hText : streamedText r = text r := if_pos hCalls
      rw [hText, String.append_right_inj, ih]
      exact (and_iff_right fun hNot => absurd hCalls hNot).symm
    · have hText : streamedText r = "" := if_neg hCalls
      rw [hText, String.empty_append, ← ih]
      constructor
      · intro hEq
        have hLength := congrArg String.length hEq
        have hLe := streamedText_length resps
        rw [String.length_append] at hLength
        have hEmpty : text r = "" := String.length_eq_zero_iff.mp (by omega)
        rw [hEmpty, String.empty_append] at hEq
        exact ⟨fun _ => hEmpty, hEq⟩
      · rintro ⟨hEmpty, hRest⟩
        rw [hEmpty hCalls, String.empty_append, hRest]

/-- At most one chunk has calls, none has calls beside a text, and the finish reason is not lost
on a chunk with calls. -/
structure Undivided (resps : List Json) : Prop where
  calls : resps.Pairwise fun a b => functionCalls a = [] ∨ functionCalls b = []
  text : ∀ r ∈ resps, functionCalls r ≠ [] → text r = ""
  reason : (((resps.filter fun r => functionCalls r = []).filterMap (finishReason L)).getLast?) =
    (resps.filterMap (finishReason L)).getLast?

theorem streamedReasons_eq (resps : List Json) : resps.filterMap (streamedReason L) =
    (resps.filter fun r => functionCalls r = []).filterMap (finishReason L) := by
  induction resps with
  | nil => rfl
  | cons r resps ih =>
    by_cases hCalls : functionCalls r = []
    · have hReason : streamedReason L r = finishReason L r := if_pos hCalls
      rw [List.filter_cons_of_pos (by simpa using hCalls), List.filterMap_cons,
        List.filterMap_cons, ih, hReason]
    · have hReason : streamedReason L r = none := if_neg hCalls
      rw [List.filter_cons_of_neg (by simpa using hCalls), List.filterMap_cons, ih, hReason]

theorem streamedAnswer_eq {chunks : List SseEvent} {resps : List Json} {resp : Json}
    (h : StreamOf L chunks resps resp) :
    (streamedAnswer L chunks).text = String.join (resps.map streamedText) ∧
      (streamedAnswer L chunks).calls.map call =
        resps.flatMap (fun r => numberedCalls L (functionCalls r)) ∧
      (streamedAnswer L chunks).finishReason =
        (resps.filterMap (streamedReason L)).getLast? := by
  have hAll := accumulate_chunks L resps 0 .start
  rw [← streamedChunks_eq L h.read] at hAll
  simp only [start, String.empty_append, List.map_nil, List.nil_append, Option.or_none] at hAll
  exact hAll

theorem streamedAnswer_nodup_iff {chunks : List SseEvent} {resps : List Json} {resp : Json}
    (h : StreamOf L chunks resps resp) :
    ((streamedAnswer L chunks).calls.map StreamedCall.id).Nodup ↔
      resps.Pairwise fun a b => functionCalls a = [] ∨ functionCalls b = [] := by
  have hIds : (streamedAnswer L chunks).calls.map StreamedCall.id =
      (resps.flatMap fun r => numberedCalls L (functionCalls r)).map ToolCall.id := by
    rw [← (streamedAnswer_eq L h).2.1, List.map_map]
    rfl
  rw [hIds, nodup_ids_iff]

/-- The streamed answer is the whole one, with distinct identifiers, if and only if the chunks
divide neither the calls nor what comes with them. -/
theorem streamed_same_iff_undivided {chunks : List SseEvent} {resps : List Json} {resp : Json}
    (h : StreamOf L chunks resps resp) {body uuid : String} (hBody : read L body = .ok resp)
    {response : ChatResponse} (hResponse : transformResponse L 200 body uuid = .ok response) :
    (streamedAnswer L chunks).Same response ∧
        ((streamedAnswer L chunks).calls.map StreamedCall.id).Nodup ↔ Undivided L resps := by
  obtain ⟨hText, hCalls, hReason⟩ := streamedAnswer_eq L h
  have hWhole : response.choices =
      [assistantChoice (text resp) (numberedCalls L (functionCalls resp))
        (finishReason L resp)] := by
    simp only [transformResponse, ne_eq, not_true_eq_false, if_false, hBody] at hResponse
    rw [← Except.ok.inj hResponse]
    rfl
  rw [same_assistantChoice_iff hWhole, streamedAnswer_nodup_iff L h, hText, hCalls,
    hReason, h.text, h.calls, h.reason, streamedReasons_eq, texts_eq_iff]
  constructor
  · rintro ⟨⟨hTexts, -, hReasons⟩, hPairwise⟩
    exact ⟨hPairwise, hTexts, hReasons⟩
  · rintro ⟨hPairwise, hTexts, hReasons⟩
    exact ⟨⟨hTexts, calls_eq_of_pairwise L hPairwise, hReasons⟩, hPairwise⟩

namespace StreamSample

def libraries : Libraries := ⟨.compact, fun _ => "invalid value", String.toLower⟩

def callPart (name : String) : Json :=
  .ofFields [("text", .null),
    ("functionCall", .ofFields [("name", .string name), ("args", .null)])]

def respOf (parts : List Json) (reason : Option String) : Json :=
  .ofFields [("candidates", .array [.ofFields [
      ("content", .ofFields [("role", .null), ("parts", .array parts)]),
      ("finishReason", (reason.map Json.string).getD .null)]]),
    ("usageMetadata", .null), ("modelVersion", .null)]

def resps : List Json := [respOf [callPart "f"] none, respOf [callPart "g"] (some "STOP")]

def chunks : List SseEvent := resps.map fun r => .message (JsonText.compact.print r)

def resp : Json := respOf [callPart "f", callPart "g"] (some "STOP")

def body : String := JsonText.compact.print resp

theorem respOf_plain {parts : List Json} (h : ∀ part ∈ parts, part.Plain 122)
    (reason : Option String) : (respOf parts reason).Plain 127 := by
  have hReason : ((reason.map Json.string).getD .null).Plain 124 := by cases reason <;> simp
  simp [respOf, hReason]
  exact h

theorem callPart_plain (name : String) : (callPart name).Plain 122 := by simp [callPart]

theorem read_print {v : Json} (hPlain : v.Plain 127) (hRead : apiResponse.codec v = some v) :
    read libraries (JsonText.compact.print v) = .ok v := by
  have hParse := JsonText.compact.parse_print hPlain
  simp only [read, JsonText.fromStr, libraries, hParse, hRead]

theorem read_chunk {parts : List Json} (h : ∀ part ∈ parts, part.Plain 122) {reason : Option String}
    (hRead : apiResponse.codec (respOf parts reason) = some (respOf parts reason)) :
    (SseEvent.message (JsonText.compact.print (respOf parts reason))).isDone = false ∧
      read libraries (SseEvent.message (JsonText.compact.print (respOf parts reason))).data =
        .ok (respOf parts reason) :=
  ⟨isDone_print .compact rfl "message" none, read_print (respOf_plain h reason) hRead⟩

theorem body_read : read libraries body = .ok resp :=
  read_print (respOf_plain (by simp [callPart_plain]) _) rfl

theorem streamOf_chunks : StreamOf libraries chunks resps resp where
  read := .cons (read_chunk (by simp [callPart_plain]) rfl)
    (.cons (read_chunk (by simp [callPart_plain]) rfl) .nil)
  text := by decide
  calls := rfl
  reason := by decide

/-- What is made of the whole body. -/
def response : ChatResponse where
  id := "gemini-0"
  object := "chat.completion"
  created := none
  model := "gemini"
  choices := [assistantChoice "" (numberedCalls libraries [(callPart "f").field "functionCall",
    (callPart "g").field "functionCall"]) (some "stop")]
  usage := none

theorem body_response : transformResponse libraries 200 body "0" = .ok response := by
  simp only [transformResponse, ne_eq, not_true_eq_false, if_false, body_read]
  rfl

theorem streamed_same_two_calls : (streamedAnswer libraries chunks).Same response ∧
        ((streamedAnswer libraries chunks).calls.map StreamedCall.id).Nodup ↔
      Undivided libraries resps :=
  streamed_same_iff_undivided libraries streamOf_chunks body_read body_response

/-- Both calls have the same identifier, and the finish reason is lost. -/
theorem second_call_collides : StreamOf libraries chunks resps resp ∧
    transformResponse libraries 200 body "0" = .ok response ∧
    ¬ ((streamedAnswer libraries chunks).calls.map StreamedCall.id).Nodup ∧
    (streamedAnswer libraries chunks).finishReason = none := by
  refine ⟨streamOf_chunks, body_response, ?_, ?_⟩
  · rw [streamedAnswer_nodup_iff libraries streamOf_chunks]
    intro hPairwise
    have hHead := (List.pairwise_cons.mp hPairwise).1 _ List.mem_cons_self
    rcases hHead with hCalls | hCalls <;> cases hCalls
  · rw [(streamedAnswer_eq libraries streamOf_chunks).2.2]
    decide

end StreamSample

end KongRust.Ai.GeminiDriver

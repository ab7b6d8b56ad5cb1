import KongRust.Ai.Remap
import KongRust.Ai.ResponsesStream

/-!
# Tool calls that are open at once

In a chat stream an element of `tool_calls` belongs to the call that was started under its
index, and the elements of several calls may come in any order. The proxy keeps no such table:
neither the indexes that it gives nor the items that it finishes are those of the calls, unless
each element comes while its call is the last one.
-/

namespace KongRust.Ai

open KongRust.Transducer Chunk ResponsesEventState

/-! ## The indexes that are given -/

theorem remapCalls_append (counter : UInt32) (calls more : List Json) :
    (remapCalls counter (calls ++ more)).1 = (remapCalls (remapCalls counter calls).1 more).1 ∧
      (remapCalls counter (calls ++ more)).2.1 =
        (remapCalls counter calls).2.1 ++ (remapCalls (remapCalls counter calls).1 more).2.1 := by
  induction calls generalizing counter with
  | nil => exact ⟨rfl, rfl⟩
  | cons call calls ih =>
    obtain ⟨hCounter, hCalls⟩ := ih (remapCall counter call).1
    exact ⟨hCounter, congrArg ((remapCall counter call).2.1 :: ·) hCalls⟩

variable (J : JsonText)

theorem remapStream_calls (counter : UInt32) (chunks : List String) :
    ((remapStream J counter chunks).flatMap (chunkCalls J)).map Json.erase =
      (remapCalls counter (chunks.flatMap (chunkCalls J))).2.1.map Json.erase := by
  induction chunks generalizing counter with
  | nil => rfl
  | cons data chunks ih =>
    rw [remapStream, List.flatMap_cons, List.flatMap_cons, List.map_append, ih]
    cases hParse : J.parse data with
    | error e =>
      have hNone : chunkCalls J data = [] := by simp [chunkCalls, hParse, Except.toOption]
      rw [remapToolCallIndex_unread J hParse, Option.getD_none, hNone]
      rfl
    | ok chunk =>
      obtain ⟨hCounter, handed, hHanded, h⟩ := remapToolCallIndex_handed J hParse counter
      have hCalls : chunkCalls J data = (callsOf chunk).getD [] := by
        simp [chunkCalls, hParse, Except.toOption]
      have hNew : chunkCalls J ((remapToolCallIndex J data counter).2.getD data) =
          (callsOf handed).getD [] := by
        simp [chunkCalls, hHanded, Except.toOption]
      rw [hNew, h.calls, hCounter, hCalls, (remapCalls_append counter _ _).2, List.map_append]

/-- How many calls have started before an element, as a `u32` counts them. -/
def startedBefore (calls : List Json) (i : Nat) : UInt32 :=
  UInt32.ofNat ((calls.take i).countP fun call => decide (IsStart call))

theorem startedBefore_succ (call : Json) (calls : List Json) (i : Nat) :
    startedBefore (call :: calls) (i + 1) =
      (if IsStart call then 1 else 0) + startedBefore calls i := by
  unfold startedBefore
  rw [List.take_succ_cons, List.countP_cons]
  split
  · rename_i hStart
    rw [if_pos (by simpa using hStart), UInt32.ofNat_add, UInt32.add_comm]
    rfl
  · rename_i hStart
    rw [if_neg (by simpa using hStart)]
    simp

variable {call : Json}

theorem callIndex_setIndex (h : (call.get "index").isSome) (index : UInt32) :
    callIndex (setIndex call index) = some index.toUInt64 := by
  obtain ⟨value, hGet⟩ := Option.isSome_iff_exists.mp h
  unfold callIndex setIndex
  rw [Json.get_setField (Json.isObject_of_get hGet), if_pos rfl]
  rfl

theorem index_of_callIndex (h : (callIndex call).isSome) : (call.get "index").isSome := by
  unfold callIndex at h
  cases hGet : call.get "index" with
  | none =>
    rw [hGet] at h
    cases h
  | some value => rfl

variable {calls : List Json}

theorem remapCalls_index (h : ∀ call ∈ calls, (callIndex call).isSome) (counter : UInt32) (i : Nat) :
    ((remapCalls counter calls).2.1[i]?).bind callIndex = calls[i]?.map fun call =>
      (if IsStart call then counter + startedBefore calls i
        else lastGiven (counter + startedBefore calls i)).toUInt64 := by
  induction calls generalizing counter i with
  | nil => rfl
  | cons call calls ih =>
    have hIndex := index_of_callIndex (h call List.mem_cons_self)
    cases i with
    | zero =>
      have hZero : counter + startedBefore (call :: calls) 0 = counter := UInt32.add_zero counter
      change callIndex (remapCall counter call).2.1 = some (if IsStart call then
        counter + startedBefore (call :: calls) 0 else _).toUInt64
      rw [hZero]
      by_cases hStart : IsStart call
      · rw [remapCall_start counter hStart, if_pos hStart, callIndex_setIndex hIndex]
      · rw [remapCall_fragment counter hStart hIndex, if_neg hStart, callIndex_setIndex hIndex]
    | succ i =>
      have hNext : (remapCall counter call).1 = counter + if IsStart call then 1 else 0 := by
        by_cases hStart : IsStart call
        · rw [remapCall_start counter hStart, if_pos hStart]
        · rw [remapCall_fragment counter hStart hIndex, if_neg hStart, UInt32.add_zero]
      change ((remapCalls (remapCall counter call).1 calls).2.1[i]?).bind callIndex = _
      rw [ih (fun other hOther => h other (List.mem_cons_of_mem call hOther)), hNext,
        startedBefore_succ, ← UInt32.add_assoc, List.getElem?_cons_succ]

/-- An element of a call that has started: the element at `i` belongs to the call at `j`. -/
structure Belongs (calls : List Json) (i j : Nat) : Prop where
  fragment : ∃ fragment, calls[i]? = some fragment ∧ ¬ IsStart fragment
  start : ∃ start, calls[j]? = some start ∧ IsStart start
  same : (calls[i]?).bind callIndex = (calls[j]?).bind callIndex

/-- The elements that are handed on have the indexes of their calls. -/
def IndexesKept (J : JsonText) (chunks : List String) : Prop :=
  ∀ i j, Belongs (chunks.flatMap (chunkCalls J)) i j →
    ((remapStream J 0 chunks).flatMap (chunkCalls J))[i]?.bind callIndex =
      ((remapStream J 0 chunks).flatMap (chunkCalls J))[j]?.bind callIndex

/-- Each element comes while its call is the last one that the counter has numbered. -/
def LastNumbered (calls : List Json) : Prop :=
  ∀ i j, Belongs calls i j → lastGiven (startedBefore calls i) = startedBefore calls j

theorem bind_index_of_erase {others : List Json} (h : calls.map Json.erase = others.map Json.erase)
    (i : Nat) : (calls[i]?).bind callIndex = (others[i]?).bind callIndex := by
  have hAt := congrArg (fun list => list[i]?) h
  simp only [List.getElem?_map] at hAt
  cases hCall : calls[i]? with
  | none =>
    rw [hCall, Option.map_none, eq_comm, Option.map_eq_none_iff] at hAt
    rw [hAt]
  | some call =>
    rw [hCall, Option.map_some, eq_comm, Option.map_eq_some_iff] at hAt
    obtain ⟨other, hOther, hErase⟩ := hAt
    rw [hOther, Option.bind_some, Option.bind_some, ← callIndex_erase, ← hErase, callIndex_erase]

theorem indexesKept_iff {chunks : List String}
    (h : ∀ call ∈ chunks.flatMap (chunkCalls J), (callIndex call).isSome) :
    IndexesKept J chunks ↔ LastNumbered (chunks.flatMap (chunkCalls J)) := by
  refine forall_congr' fun i => forall_congr' fun j => imp_congr_right fun hBelongs => ?_
  obtain ⟨fragment, hFragment, hNotStart⟩ := hBelongs.fragment
  obtain ⟨start, hStart, hIsStart⟩ := hBelongs.start
  have hGiven := bind_index_of_erase (remapStream_calls J 0 chunks)
  rw [hGiven, hGiven, remapCalls_index h, remapCalls_index h, hFragment, hStart, Option.map_some,
    Option.map_some, if_neg hNotStart, if_pos hIsStart, UInt32.zero_add, UInt32.zero_add,
    Option.some.injEq]
  exact UInt32.toUInt64_inj

/-! ## The calls that are finished -/

abbrev CallText := String × String × String

def CallText.append (call : CallText) (arguments : String) : CallText :=
  (call.1, call.2.1, call.2.2 ++ arguments)

def finishedCall : ResponsesEvent → Option CallText
  | .functionCallDone _ callId fnName arguments => some (callId, fnName, arguments)
  | _ => none

/-- What becomes of the call that is open: the next text or call finishes it. -/
def collectPiece (opened : Option CallText) : Piece → Option CallText × List CallText
  | .text _ => (none, opened.toList)
  | .call callId fnName => (some (callId, fnName, ""), opened.toList)
  | .arguments arguments => (opened.map fun call => call.append arguments, [])

namespace ResponsesEventState

def OpenCall (state : ResponsesEventState) : Option CallText → Prop
  | none => state.phase = .init ∨ state.phase = .contentStreaming
  | some call =>
    state.phase = .toolCallStreaming ∧ ∃ before item, state.outputItems = before ++ [item] ∧
      item.itemType = .functionCall ∧ item.emittedDone = false ∧
      (item.callId, item.fnName, item.accumulatedArguments) = call

theorem finished_closeActive {state : ResponsesEventState} {opened : Option CallText}
    (h : state.OpenCall opened) : state.closeActive.2.filterMap finishedCall = opened.toList := by
  cases opened with
  | none =>
    rcases h with hPhase | hPhase
    · simp [closeActive, hPhase]
    · unfold closeActive closeCurrentContent
      rw [hPhase]
      dsimp only
      split
      · split <;> rfl
      · rfl
  | some call =>
    obtain ⟨hPhase, before, item, hItems, hType, hDone, rfl⟩ := h
    simp only [closeActive, hPhase, closeCurrentToolCall, hItems, List.getLast?_concat, hType,
      hDone, and_self, if_true]
    rfl

variable {state : ResponsesEventState} {opened : Option CallText}

theorem finished_processDone (h : state.OpenCall opened) :
    state.processDone.2.filterMap finishedCall = opened.toList := by
  have hPhase : state.phase ≠ .done := by
    intro hDone
    cases opened with
    | none => rcases h with hPhase | hPhase <;> exact absurd (hDone.symm.trans hPhase) (by decide)
    | some call => exact absurd (hDone.symm.trans h.1) (by decide)
  have hEvents : state.processDone.2 = state.closeActive.2 ++
      [.completed state.closeActive.1.responseId state.closeActive.1.model
        state.closeActive.1.outputItems state.closeActive.1.usage] := by
    simp [processDone, hPhase, closeAll]
  rw [hEvents, List.filterMap_append, finished_closeActive h]
  exact List.append_nil _

theorem openMessage_finished (h : state.OpenCall opened) :
    state.openMessage.1.phase = .contentStreaming ∧
      state.openMessage.2.filterMap finishedCall = opened.toList := by
  by_cases hContent : state.phase = .contentStreaming
  · have hNothing : state.openMessage = (state, []) := by simp [openMessage, hContent]
    cases opened with
    | none => exact ⟨by rw [hNothing, hContent], by rw [hNothing]; rfl⟩
    | some call => exact absurd (hContent.symm.trans h.1) (by decide)
  · obtain ⟨hEvents, hPhase, -, -⟩ := openMessage_new hContent
    refine ⟨hPhase, ?_⟩
    rw [hEvents, List.filterMap_append, finished_closeActive h]
    simp [finishedCall]

theorem piece_collects (state : ResponsesEventState) (opened : Option CallText) (p : Piece)
    (h : state.OpenCall opened) :
    (state.piece p).1.OpenCall (collectPiece opened p).1 ∧
      (state.piece p).2.filterMap finishedCall = (collectPiece opened p).2 := by
  cases p with
  | text content =>
    obtain ⟨hPhase, hFinished⟩ := openMessage_finished h
    refine ⟨Or.inr hPhase, ?_⟩
    change (state.openMessage.2 ++ _).filterMap finishedCall = _
    rw [List.filterMap_append, hFinished]
    exact List.append_nil _
  | call callId fnName =>
    have hFinished := finished_closeActive h
    refine ⟨⟨rfl, state.closeActive.1.outputItems, _, rfl, rfl, rfl, rfl⟩, ?_⟩
    change (state.closeActive.2 ++ _).filterMap finishedCall = _
    rw [List.filterMap_append, hFinished]
    exact List.append_nil _
  | arguments arguments =>
    by_cases hEmpty : arguments = ""
    · subst hEmpty
      have hNothing : state.piece (.arguments "") = (state, []) := by
        simp [piece, appendArguments]
      have hSame : (collectPiece opened (.arguments "")).1 = opened := by
        cases opened <;> simp [collectPiece, CallText.append]
      rw [hNothing, hSame]
      exact ⟨h, rfl⟩
    · have hPiece : state.piece (.arguments arguments) =
          (state.updateLast fun item =>
            { item with accumulatedArguments := item.accumulatedArguments ++ arguments },
          [.argumentsDelta (state.updateLast fun item =>
            { item with accumulatedArguments :=
                item.accumulatedArguments ++ arguments }).lastIndex arguments]) := by
        simp [piece, appendArguments, hEmpty]
      rw [hPiece]
      refine ⟨?_, rfl⟩
      cases opened with
      | none => exact h
      | some call =>
        obtain ⟨hPhase, before, item, hItems, hType, hDone, rfl⟩ := h
        exact ⟨hPhase, before, _, updateLast_concat hItems _, hType, hDone, rfl⟩

def chunkPieces (J : JsonText) (data : String) : List Piece :=
  (((J.parse data).toOption.bind Chunk.delta).map piecesOf).getD []

theorem chunk_collects (J : JsonText) (state : ResponsesEventState) (opened : Option CallText)
    (data : String) (h : state.OpenCall opened) :
    (state.processChatChunk J data).1.OpenCall (run collectPiece opened (chunkPieces J data)).1 ∧
      (state.processChatChunk J data).2.filterMap finishedCall =
        (run collectPiece opened (chunkPieces J data)).2 := by
  unfold processChatChunk chunkPieces
  cases hParse : J.parse data with
  | error e => exact ⟨h, rfl⟩
  | ok chunk =>
    have hNoted : (state.noteModel chunk).OpenCall opened := by
      unfold noteModel
      split
      · split
        · cases opened <;> exact h
        · exact h
      · exact h
    have hDelta : (firstChoice chunk).bind (fun choice => choice.get "delta") = delta chunk := rfl
    simp only [Except.toOption, Option.bind_some, hDelta]
    cases delta chunk with
    | none => exact ⟨hNoted, rfl⟩
    | some delta =>
      have hInit : (state.noteModel chunk).emitInit.1.OpenCall opened ∧
          (state.noteModel chunk).emitInit.2.filterMap finishedCall = [] := by
        unfold emitInit
        split
        · exact ⟨hNoted, rfl⟩
        · exact ⟨by cases opened <;> exact hNoted, rfl⟩
      obtain ⟨hLast, hSeen⟩ := run_filterMap piece_collects hInit.1 (piecesOf delta)
      dsimp only [Option.map_some, Option.getD_some]
      rw [processDelta_eq, List.filterMap_append, hInit.2, List.nil_append]
      exact ⟨hLast, hSeen⟩

end ResponsesEventState

/-- The calls that a stream of pieces finishes, the last one by its end. -/
def collected (opened : Option CallText) (pieces : List Piece) : List CallText :=
  (run collectPiece opened pieces).2 ++ (run collectPiece opened pieces).1.toList

/-- The events of a whole stream in responses mode: its chunks as they are handed on, and its
end. -/
def responsesOf (J : JsonText) (responseId : String) (chunks : List String) :
    List ResponsesEvent :=
  let (state, events) := run (fun state data => state.processChatChunk J data)
    (ResponsesEventState.new responseId) (remapStream J 0 chunks)
  events ++ state.processDone.2

theorem responsesOf_collected (responseId : String) (chunks : List String) :
    (responsesOf J responseId chunks).filterMap finishedCall =
      collected none ((remapStream J 0 chunks).flatMap (chunkPieces J)) := by
  have hNew : (new responseId).OpenCall none := Or.inl rfl
  obtain ⟨hLast, hSeen⟩ := run_filterMap (chunk_collects J) hNew (remapStream J 0 chunks)
  rw [run_flatMap] at hLast hSeen
  unfold responsesOf collected
  dsimp only
  rw [List.filterMap_append, hSeen]
  exact congrArg (_ ++ ·) (finished_processDone hLast)

/-! ## The pieces of what is handed on -/

theorem chunkPieces_read {data : String} {chunk : Json} (h : J.parse data = .ok chunk) :
    chunkPieces J data = textPieces ((delta chunk).bind content) ++
        ((callsOf chunk).getD []).flatMap callPieces := by
  unfold chunkPieces callsOf
  rw [h]
  cases hDelta : delta chunk with
  | none => simp [Except.toOption, hDelta, textPieces]
  | some delta => simp [Except.toOption, hDelta, piecesOf, toolCalls]

theorem callPieces_erase (call : Json) : callPieces call.erase = callPieces call := by
  unfold callPieces
  rw [callId_erase, functionName_erase, functionArguments_erase]

theorem callPieces_setIndex (call : Json) (index : UInt32) :
    callPieces (setIndex call index) = callPieces call := by
  have hGet : ∀ key ≠ "index", (setIndex call index).get key = call.get key :=
    fun key hKey => Json.get_setField_ne hKey call _
  unfold callPieces callId functionName functionArguments
  rw [hGet "id" (by decide), hGet "function" (by decide)]

theorem remapCalls_pieces (counter : UInt32) (calls : List Json) :
    (remapCalls counter calls).2.1.flatMap callPieces = calls.flatMap callPieces := by
  induction calls generalizing counter with
  | nil => rfl
  | cons call calls ih =>
    have hCall : callPieces (remapCall counter call).2.1 = callPieces call := by
      unfold remapCall
      split
      · exact callPieces_setIndex call counter
      · split
        · exact callPieces_setIndex call _
        · rfl
    change callPieces (remapCall counter call).2.1 ++
      (remapCalls (remapCall counter call).1 calls).2.1.flatMap callPieces = _
    rw [hCall, ih, List.flatMap_cons]

theorem flatMap_callPieces_erase (calls : List Json) :
    (calls.map Json.erase).flatMap callPieces = calls.flatMap callPieces := by
  rw [List.flatMap_map]
  exact congrArg (List.flatMap · calls) (funext callPieces_erase)

theorem chunkPieces_handed (data : String) (counter : UInt32) :
    chunkPieces J ((remapToolCallIndex J data counter).2.getD data) =
      chunkPieces J data := by
  cases hParse : J.parse data with
  | error e => rw [remapToolCallIndex_unread J hParse, Option.getD_none]
  | ok chunk =>
    obtain ⟨-, handed, hHanded, h⟩ := remapToolCallIndex_handed J hParse counter
    rw [chunkPieces_read J hHanded, chunkPieces_read J hParse, h.content,
      ← flatMap_callPieces_erase, h.calls, flatMap_callPieces_erase, remapCalls_pieces]

theorem remapStream_pieces (counter : UInt32) (chunks : List String) :
    (remapStream J counter chunks).flatMap (chunkPieces J) =
      chunks.flatMap (chunkPieces J) := by
  induction chunks generalizing counter with
  | nil => rfl
  | cons data chunks ih =>
    rw [remapStream, List.flatMap_cons, List.flatMap_cons, ih]
    exact congrArg (· ++ _) (chunkPieces_handed J data counter)

/-! ## The calls of a stream -/

/-- A text, the start of a call with its first arguments, or further arguments of a call. -/
inductive CallDelta where
  | text (content : String)
  | start (index : UInt64) (callId fnName arguments : String)
  | fragment (index : UInt64) (arguments : String)

def deltaOf (call : Json) : CallDelta :=
  let index := (callIndex call).getD 0
  let arguments := (Chunk.functionArguments call).getD ""
  match Chunk.callId call with
  | some callId => .start index callId ((Chunk.functionName call).getD "unknown") arguments
  | none => .fragment index arguments

def chunkDeltas (J : JsonText) (data : String) : List CallDelta :=
  match J.parse data with
  | .error _ => []
  | .ok chunk =>
    (((Chunk.delta chunk).bind Chunk.content).filter fun content => content != "").toList.map
      .text ++ ((callsOf chunk).getD []).map deltaOf

def fragmentsOf (index : UInt64) : List CallDelta → String
  | [] => ""
  | .fragment other arguments :: deltas =>
    if other = index then arguments ++ fragmentsOf index deltas else fragmentsOf index deltas
  | _ :: deltas => fragmentsOf index deltas

def ownCalls : List CallDelta → List CallText
  | [] => []
  | .start index callId fnName arguments :: deltas =>
    (callId, fnName, arguments ++ fragmentsOf index deltas) :: ownCalls deltas
  | _ :: deltas => ownCalls deltas

def StartedFirst (started : List UInt64) : List CallDelta → Prop
  | [] => True
  | .text _ :: deltas => StartedFirst started deltas
  | .start index _ _ _ :: deltas => index ∉ started ∧ StartedFirst (index :: started) deltas
  | .fragment index _ :: deltas => index ∈ started ∧ StartedFirst started deltas

/-- A stream whose tool calls are told apart by their indexes. -/
structure CallStream (J : JsonText) (chunks : List String) : Prop where
  indexed : ∀ call ∈ chunks.flatMap (chunkCalls J), (callIndex call).isSome
  started : StartedFirst [] (chunks.flatMap (chunkDeltas J))

/-- The finished calls are those of the stream, with their own arguments. -/
def ArgumentsKept (J : JsonText) (responseId : String) (chunks : List String) : Prop :=
  (responsesOf J responseId chunks).filterMap finishedCall =
    ownCalls (chunks.flatMap (chunkDeltas J))

/-- Arguments come while their call is the one that started last, with no text in between. -/
def InTurn (current : Option UInt64) : List CallDelta → Prop
  | [] => True
  | .text _ :: deltas => InTurn none deltas
  | .start index _ _ _ :: deltas => InTurn (some index) deltas
  | .fragment index arguments :: deltas =>
    (arguments = "" ∨ current = some index) ∧ InTurn current deltas

def CallDelta.pieces : CallDelta → List Piece
  | .text content => [.text content]
  | .start _ callId fnName arguments =>
    .call callId fnName :: argumentPieces (some arguments)
  | .fragment _ arguments => argumentPieces (some arguments)

theorem deltaOf_pieces (call : Json) : (deltaOf call).pieces = callPieces call := by
  have hArguments : argumentPieces (some ((functionArguments call).getD "")) =
      argumentPieces (functionArguments call) := by
    cases functionArguments call <;> rfl
  unfold deltaOf callPieces
  cases callId call with
  | none => exact hArguments
  | some callId => exact congrArg (_ :: ·) hArguments

theorem chunkDeltas_pieces (data : String) :
    (chunkDeltas J data).flatMap CallDelta.pieces = chunkPieces J data := by
  cases hParse : J.parse data with
  | error e => simp [chunkDeltas, chunkPieces, hParse, Except.toOption]
  | ok chunk =>
    have hCalls : (((callsOf chunk).getD []).map deltaOf).flatMap CallDelta.pieces =
        ((callsOf chunk).getD []).flatMap callPieces := by
      rw [List.flatMap_map]
      exact congrArg (List.flatMap · _) (funext deltaOf_pieces)
    have hDeltas : chunkDeltas J data =
        (((delta chunk).bind content).filter fun content => content != "").toList.map
          .text ++ ((callsOf chunk).getD []).map deltaOf := by
      simp only [chunkDeltas, hParse]
    rw [chunkPieces_read J hParse, hDeltas, List.flatMap_append, hCalls]
    refine congrArg (· ++ _) ?_
    cases (delta chunk).bind content with
    | none => rfl
    | some content =>
      by_cases hEmpty : content = ""
      · simp [textPieces, hEmpty]
      · simp [textPieces, hEmpty, CallDelta.pieces, Option.filter]

/-! ## Which argument goes to which call -/

section

variable (opened : Option CallText)
include opened

theorem collected_text (content : String) (pieces : List Piece) :
    collected opened (.text content :: pieces) = opened.toList ++ collected none pieces :=
  List.append_assoc _ _ _

theorem collected_call (callId fnName : String)
    (pieces : List Piece) : collected opened (.call callId fnName :: pieces) =
      opened.toList ++ collected (some (callId, fnName, "")) pieces :=
  List.append_assoc _ _ _

theorem collected_arguments (arguments : String)
    (pieces : List Piece) : collected opened (argumentPieces (some arguments) ++ pieces) =
      collected (opened.map fun call => call.append arguments) pieces := by
  by_cases hEmpty : arguments = ""
  · subst hEmpty
    cases opened <;> simp [argumentPieces, CallText.append]
  · simp [argumentPieces, hEmpty, collected, run, collectPiece]

theorem collected_start (callId fnName arguments : String)
    (pieces : List Piece) :
    collected opened (.call callId fnName :: argumentPieces (some arguments) ++ pieces) =
      opened.toList ++ collected (some (callId, fnName, arguments)) pieces := by
  rw [List.cons_append, collected_call, collected_arguments]
  simp [CallText.append]

end

@[simp] theorem CallText.append_empty (call : CallText) : call.append "" = call := by
  simp [CallText.append]

theorem CallText.append_append (call : CallText) (a b : String) :
    (call.append a).append b = call.append (a ++ b) := by
  simp [CallText.append, String.append_assoc]

theorem CallText.append_eq_iff (call : CallText) (arguments : String) :
    call = call.append arguments ↔ arguments = "" := by
  constructor
  · intro h
    have hText := congrArg (fun call => call.2.2.length) h
    simp only [CallText.append, String.length_append] at hText
    exact String.length_eq_zero_iff.mp (by omega)
  · rintro rfl
    exact (CallText.append_empty call).symm

variable {started : List UInt64}

theorem flush_iff {opened : Option (UInt64 × CallText)}
    (hOpened : ∀ call ∈ opened, call.1 ∈ started) (left : UInt64 → String)
    (rest own : List CallText) :
    ((opened.map Prod.snd).toList ++ rest =
        (opened.map fun call => call.2.append (left call.1)).toList ++ own ∧
      ∀ index ∈ started, (∀ call ∈ opened, call.1 ≠ index) → left index = "") ↔
      rest = own ∧ ∀ index ∈ started, left index = "" := by
  have hFinished : (opened.map Prod.snd).toList ++ rest =
      (opened.map fun call => call.2.append (left call.1)).toList ++ own ↔
        (∀ call ∈ opened, left call.1 = "") ∧ rest = own := by
    cases opened with
    | none => simp
    | some call => simp [CallText.append_eq_iff]
  rw [hFinished]
  constructor
  · rintro ⟨⟨hCurrent, hRest⟩, hOthers⟩
    refine ⟨hRest, fun index hIndex => ?_⟩
    by_cases hSame : ∃ call ∈ opened, call.1 = index
    · obtain ⟨call, hCall, rfl⟩ := hSame
      exact hCurrent call hCall
    · exact hOthers index hIndex fun call hCall hEq => hSame ⟨call, hCall, hEq⟩
  · rintro ⟨hRest, hAll⟩
    exact ⟨⟨fun call hCall => hAll call.1 (hOpened call hCall), hRest⟩,
      fun index hIndex _ => hAll index hIndex⟩

theorem fragmentsOf_empty (other index : UInt64) (deltas : List CallDelta) :
    fragmentsOf index (.fragment other "" :: deltas) = fragmentsOf index deltas := by
  rw [fragmentsOf]
  split
  · exact String.empty_append
  · rfl

/-- The calls that are collected are those of the stream, and nothing is left for the others
that have started, if and only if the arguments come in turn. -/
theorem collected_iff {deltas : List CallDelta} (h : StartedFirst started deltas)
    (opened : Option (UInt64 × CallText)) (hOpened : ∀ call ∈ opened, call.1 ∈ started) :
    (collected (opened.map Prod.snd) (deltas.flatMap CallDelta.pieces) =
        (opened.map fun call => call.2.append (fragmentsOf call.1 deltas)).toList ++
          ownCalls deltas ∧
      ∀ index ∈ started, (∀ call ∈ opened, call.1 ≠ index) → fragmentsOf index deltas = "") ↔
      InTurn (opened.map Prod.fst) deltas := by
  induction deltas generalizing started opened with
  | nil =>
    cases opened <;> simp [collected, run, fragmentsOf, ownCalls, InTurn]
  | cons delta deltas ih =>
    cases delta with
    | text content =>
      have hTail : StartedFirst started deltas := h
      have hRest := ih hTail none nofun
      rw [List.flatMap_cons, CallDelta.pieces, List.singleton_append, collected_text]
      refine (flush_iff hOpened (fun index => fragmentsOf index deltas) _ (ownCalls deltas)).trans
        (Iff.trans ?_ hRest)
      simp
    | start index callId fnName arguments =>
      obtain ⟨hNew, hTail⟩ := h
      have hRest := ih hTail (some (index, callId, fnName, arguments))
        fun call hCall => by
          rw [← Option.some.inj hCall]
          exact List.mem_cons_self
      rw [List.flatMap_cons, CallDelta.pieces, collected_start]
      refine (flush_iff hOpened (fun index => fragmentsOf index deltas) _
        ((callId, fnName, arguments ++ fragmentsOf index deltas) :: ownCalls deltas)).trans
        (Iff.trans (and_congr_right fun _ => ?_) hRest)
      constructor
      · intro hAll other hOther hNe
        rcases List.mem_cons.mp hOther with rfl | hOther
        · exact absurd rfl (hNe _ rfl)
        · exact hAll other hOther
      · intro hAll other hOther
        refine hAll other (List.mem_cons_of_mem index hOther) fun call hCall hEq => hNew ?_
        rw [← Option.some.inj hCall] at hEq
        exact (show index = other from hEq) ▸ hOther
    | fragment index arguments =>
      obtain ⟨hStarted, hTail⟩ := h
      rw [List.flatMap_cons, CallDelta.pieces, collected_arguments]
      simp only [ownCalls, InTurn]
      by_cases hEmpty : arguments = ""
      · subst hEmpty
        have hSame : (opened.map Prod.snd).map (fun call => call.append "") =
            opened.map Prod.snd := by cases opened <;> simp
        simp only [fragmentsOf_empty, hSame, true_or, true_and]
        exact ih hTail opened hOpened
      · by_cases hTurn : opened.map Prod.fst = some index
        · obtain ⟨call, rfl, rfl⟩ := Option.map_eq_some_iff.mp hTurn
          have hRest := ih hTail (some (call.1, call.2.append arguments))
            fun other hOther => by
              rw [← Option.some.inj hOther]
              exact hStarted
          have hOwn : fragmentsOf call.1 (.fragment call.1 arguments :: deltas) =
              arguments ++ fragmentsOf call.1 deltas := if_pos rfl
          have hOther : ∀ other, call.1 ≠ other →
              fragmentsOf other (.fragment call.1 arguments :: deltas) =
                fragmentsOf other deltas := fun other hNe => if_neg hNe
          simp only [Option.map_some, Option.mem_some_iff, forall_eq', CallText.append_append,
            hOwn, or_true, true_and] at hRest ⊢
          rw [← hRest]
          refine and_congr_right fun _ => forall_congr' fun other => imp_congr_right fun _ =>
            imp_congr_right fun hNe => ?_
          rw [hOther other hNe]
        · refine iff_of_false (fun ⟨_, hOthers⟩ => ?_) fun ⟨hCase, _⟩ => hCase.elim hEmpty hTurn
          have hNe : ∀ call ∈ opened, call.1 ≠ index := by
            rintro call hCall rfl
            exact hTurn (congrArg (Option.map Prod.fst) hCall)
          have hOwn : arguments ++ fragmentsOf index deltas = "" :=
            (if_pos rfl).symm.trans (hOthers index hStarted hNe)
          exact hEmpty (String.append_eq_empty_iff.mp hOwn).1

theorem argumentsKept_iff (responseId : String) {chunks : List String}
    (h : StartedFirst [] (chunks.flatMap (chunkDeltas J))) :
    ArgumentsKept J responseId chunks ↔ InTurn none (chunks.flatMap (chunkDeltas J)) := by
  have hPieces : chunks.flatMap (chunkPieces J) =
      (chunks.flatMap (chunkDeltas J)).flatMap CallDelta.pieces := by
    rw [List.flatMap_assoc]
    exact congrArg (List.flatMap · chunks) (funext fun data => (chunkDeltas_pieces J data).symm)
  unfold ArgumentsKept
  rw [responsesOf_collected, remapStream_pieces, hPieces]
  refine Iff.trans ?_ (collected_iff h none nofun)
  simp

/-- Every element is delivered under its own call, in both modes, if and only if it comes while
its call is the last one. -/
theorem delivered_iff (J : JsonText) (responseId : String) {chunks : List String}
    (h : CallStream J chunks) :
    IndexesKept J chunks ∧ ArgumentsKept J responseId chunks ↔
      LastNumbered (chunks.flatMap (chunkCalls J)) ∧ InTurn none (chunks.flatMap (chunkDeltas J)) :=
  and_congr (indexesKept_iff J h.indexed) (argumentsKept_iff J responseId h.started)

namespace ToolCallSample

def start (index : UInt64) (id : String) : Json :=
  .ofFields [("index", .number (.posInt index)), ("id", .string id),
    ("function", .ofFields [("name", .string "f"), ("arguments", .string "")])]

def fragment (index : UInt64) (arguments : String) : Json :=
  .ofFields [("index", .number (.posInt index)),
    ("function", .ofFields [("arguments", .string arguments)])]

def chunkOf (call : Json) : Json :=
  .ofFields [("choices",
    .array [.ofFields [("delta", .ofFields [("tool_calls", .array [call])])]])]

/-- Two calls are started before the arguments of the first one come. -/
def chunks : List String :=
  [start 0 "a", start 1 "b", fragment 0 "1"].map fun call =>
    JsonText.compact.print (chunkOf call)

theorem chunkOf_read {call : Json} (h : call.Plain 122) :
    chunkCalls .compact (JsonText.compact.print (chunkOf call)) = [call] ∧
      chunkDeltas .compact (JsonText.compact.print (chunkOf call)) = [deltaOf call] := by
  have hPlain : (chunkOf call).Plain 127 := by simp [chunkOf, h]
  have hParse := JsonText.compact.parse_print hPlain
  have hDelta : delta (chunkOf call) = some (.ofFields [("tool_calls", .array [call])]) := rfl
  have hCalls : callsOf (chunkOf call) = some [call] := rfl
  constructor
  · simp [chunkCalls, hParse, Except.toOption, hCalls]
  · simp [chunkDeltas, hParse, hCalls, hDelta, content, Json.get_ofFields]

theorem start_plain (index : UInt64) (id : String) : (start index id).Plain 122 := by
  simp [start]

theorem fragment_plain (index : UInt64) (arguments : String) :
    (fragment index arguments).Plain 122 := by
  simp [fragment]

theorem chunks_calls : chunks.flatMap (chunkCalls .compact) =
    [start 0 "a", start 1 "b", fragment 0 "1"] := by
  simp [chunks, chunkOf_read, start_plain, fragment_plain]

theorem chunks_deltas : chunks.flatMap (chunkDeltas .compact) =
    [.start 0 "a" "f" "", .start 1 "b" "f" "", .fragment 0 "1"] := by
  simp only [chunks, List.map_cons, List.map_nil, List.flatMap_cons, List.flatMap_nil,
    chunkOf_read, start_plain, fragment_plain]
  rfl

theorem callStream_chunks : CallStream .compact chunks where
  indexed := by
    rw [chunks_calls]
    exact List.all_eq_true.mp (by decide)
  started := by
    rw [chunks_deltas]
    simp [StartedFirst]

theorem delivered_chunks : IndexesKept .compact chunks ∧ ArgumentsKept .compact "resp_1" chunks ↔
      LastNumbered (chunks.flatMap (chunkCalls .compact)) ∧
        InTurn none (chunks.flatMap (chunkDeltas .compact)) :=
  delivered_iff .compact "resp_1" callStream_chunks

/-- The arguments of the first call are delivered as the second one's. -/
theorem arguments_mixed_up : CallStream .compact chunks ∧ ¬ IndexesKept .compact chunks ∧
    ¬ ArgumentsKept .compact "resp_1" chunks := by
  refine ⟨callStream_chunks, fun hKept => ?_, fun hKept => ?_⟩
  · have hLast := (indexesKept_iff .compact callStream_chunks.indexed).mp hKept
    rw [chunks_calls] at hLast
    exact absurd (hLast 2 0 ⟨⟨_, rfl, by decide⟩, ⟨_, rfl, by decide⟩, by decide⟩) (by decide)
  · have hTurn := (argumentsKept_iff .compact "resp_1" callStream_chunks.started).mp hKept
    rw [chunks_deltas] at hTurn
    simp [InTurn] at hTurn

end ToolCallSample

end KongRust.Ai

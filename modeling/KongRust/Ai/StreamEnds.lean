import KongRust.Ai.Deliveries
import KongRust.Ai.ResponsesStream

/-!
# The end of a translated stream

A client knows that its stream has ended by the terminal of its own protocol. The body filter
writes it where the provider's stream has the event `[DONE]`, and nowhere else.
-/

namespace KongRust.Ai

open KongRust ResponsesEvent ResponsesEventState AnthropicDriver AiRequestState

/-! ## The terminals of the clients -/

inductive Client where
  | chat
  | responses
  | anthropic
  deriving DecidableEq

def RequestSetup.client (setup : RequestSetup) : Client :=
  if setup.responsesMode then .responses
  else if setup.clientProtocol = .anthropic then .anthropic else .chat

namespace Client

/-- A frame that a client takes for the end, or a part of it. -/
def Terminal (client : Client) (frame : Frame) : Prop :=
  match client with
  | .chat => (SseEvent.message frame.data).isDone = true
  | .responses =>
    frame.eventType = some "response.completed" ∨ frame.eventType = some "response.failed"
  | .anthropic =>
    frame.eventType = some "message_delta" ∨ frame.eventType = some "message_stop"

def IsEnd (client : Client) (frames : List Frame) : Prop :=
  match client with
  | .chat => frames = [doneFrame]
  | .responses => ∃ frame, frames = [frame] ∧ Client.responses.Terminal frame
  | .anthropic => frames.map Frame.eventType = [some "message_delta", some "message_stop"]

def EndsOnce (client : Client) (frames : List Frame) : Prop :=
  ∃ before terminal, frames = before ++ terminal ∧ client.IsEnd terminal ∧
    ∀ frame ∈ before, ¬ client.Terminal frame

variable {frames : List Frame}

theorem IsEnd.exists_terminal {client : Client} (h : client.IsEnd frames) :
    ∃ frame ∈ frames, client.Terminal frame := by
  cases client with
  | chat =>
    rw [show frames = [doneFrame] from h]
    exact ⟨doneFrame, List.mem_singleton_self _, show _ = true by decide⟩
  | responses =>
    obtain ⟨frame, rfl, hTerminal⟩ := h
    exact ⟨frame, List.mem_singleton_self _, hTerminal⟩
  | anthropic =>
    cases frames with
    | nil => cases h
    | cons frame frames =>
      have hHead : frame.eventType = some "message_delta" := (List.cons.inj h).1
      exact ⟨frame, List.mem_cons_self, Or.inl hHead⟩

theorem EndsOnce.prepend {client : Client} {earlier : List Frame} (h : client.EndsOnce frames)
    (hEarlier : ∀ frame ∈ earlier, ¬ client.Terminal frame) :
    client.EndsOnce (earlier ++ frames) := by
  obtain ⟨before, terminal, rfl, hEnd, hBefore⟩ := h
  refine ⟨earlier ++ before, terminal, (List.append_assoc ..).symm, hEnd, ?_⟩
  intro frame hFrame
  rcases List.mem_append.mp hFrame with hFrame | hFrame
  · exact hEarlier frame hFrame
  · exact hBefore frame hFrame

theorem not_endsOnce {client : Client} (h : ∀ frame ∈ frames, ¬ client.Terminal frame) :
    ¬ client.EndsOnce frames := by
  rintro ⟨before, terminal, rfl, hEnd, -⟩
  obtain ⟨frame, hFrame, hTerminal⟩ := hEnd.exists_terminal
  exact h frame (List.mem_append_right _ hFrame) hTerminal

end Client

/-! ## The machine of the Responses API -/

def ResponsesEvent.isTerminal : ResponsesEvent → Bool
  | .completed .. | .failed .. => true
  | _ => false

theorem terminal_frame_iff (J : JsonText) (event : ResponsesEvent) :
    Client.responses.Terminal (event.frame J) ↔ event.isTerminal = true := by
  cases event <;> simp [Client.Terminal, frame, eventType, isTerminal]

namespace ResponsesEventState

open Transducer

def Quiet (r : ResponsesEventState × List ResponsesEvent) : Prop :=
  r.1.phase ≠ .done ∧ ∀ event ∈ r.2, event.isTerminal = false

theorem closeActive_events (state : ResponsesEventState) :
    ∀ event ∈ state.closeActive.2, event.isTerminal = false := by
  unfold closeActive closeCurrentContent closeCurrentToolCall
  split
  · split
    · split <;> simp [isTerminal]
    · simp
  · split
    · split <;> simp [isTerminal]
    · simp
  · simp

theorem openMessage_quiet (state : ResponsesEventState) : Quiet state.openMessage := by
  by_cases hPhase : state.phase = .contentStreaming
  · have hOpen : state.openMessage = (state, []) := by simp [openMessage, hPhase]
    rw [hOpen]
    exact ⟨by simp [hPhase], by simp⟩
  · obtain ⟨hEvents, hNew, -, -⟩ := openMessage_new hPhase
    refine ⟨by simp [hNew], ?_⟩
    rw [hEvents]
    intro event hEvent
    rcases List.mem_append.mp hEvent with hClosing | hOpening
    · exact state.closeActive_events event hClosing
    · simp only [List.mem_cons, List.not_mem_nil, or_false] at hOpening
      rcases hOpening with rfl | rfl <;> rfl

variable {state : ResponsesEventState}

theorem piece_quiet (h : state.phase ≠ .done) (piece : Piece) : Quiet (state.piece piece) := by
  cases piece with
  | text content =>
    obtain ⟨hPhase, hEvents⟩ := state.openMessage_quiet
    refine ⟨hPhase, ?_⟩
    intro event hEvent
    rcases List.mem_append.mp hEvent with hOpening | hDelta
    · exact hEvents event hOpening
    · rw [List.mem_singleton.mp hDelta]
      rfl
  | call callId fnName =>
    refine ⟨by simp [piece, openToolCall], ?_⟩
    intro event hEvent
    rcases List.mem_append.mp hEvent with hClosing | hOpening
    · exact state.closeActive_events event hClosing
    · rw [List.mem_singleton.mp hOpening]
      rfl
  | arguments arguments =>
    simp only [piece, appendArguments]
    split
    · exact ⟨h, by simp⟩
    · exact ⟨h, by simp [isTerminal]⟩

theorem run_quiet (h : state.phase ≠ .done) (pieces : List Piece) :
    Quiet (run piece state pieces) := by
  induction pieces generalizing state with
  | nil => exact ⟨h, by simp [run]⟩
  | cons piece pieces ih =>
    obtain ⟨hPhase, hEvents⟩ := state.piece_quiet h piece
    obtain ⟨hLast, hRest⟩ := ih hPhase
    refine ⟨hLast, ?_⟩
    intro event hEvent
    rcases List.mem_append.mp hEvent with hFirst | hLater
    · exact hEvents event hFirst
    · exact hRest event hLater

theorem readChunk_phase (J : JsonText) (state : ResponsesEventState) (chunkJson : String) :
    (state.readChunk J chunkJson).1.phase = state.phase := by
  unfold readChunk noteModel
  split
  · rfl
  · split
    · split <;> rfl
    · rfl

theorem processChatChunk_quiet (J : JsonText) (h : state.phase ≠ .done) (chunkJson : String) :
    Quiet (state.processChatChunk J chunkJson) := by
  have hPhase : (state.readChunk J chunkJson).1.phase ≠ .done := by
    rwa [readChunk_phase]
  rw [processChatChunk_eq]
  split
  · exact ⟨hPhase, by simp⟩
  · rename_i delta hDelta
    rw [processDelta_eq]
    have hInit : Quiet (state.readChunk J chunkJson).1.emitInit := by
      unfold emitInit
      split
      · exact ⟨hPhase, by simp⟩
      · exact ⟨hPhase, by simp [isTerminal]⟩
    obtain ⟨hLast, hPieces⟩ := run_quiet hInit.1 (piecesOf delta)
    refine ⟨hLast, ?_⟩
    intro event hEvent
    rcases List.mem_append.mp hEvent with hOpening | hLater
    · exact hInit.2 event hOpening
    · exact hPieces event hLater

theorem processDone_ends (h : state.phase ≠ .done) :
    ∃ before last, state.processDone.2 = before ++ [last] ∧ last.isTerminal = true ∧
      ∀ event ∈ before, event.isTerminal = false := by
  unfold processDone
  rw [if_neg h]
  exact ⟨state.closeActive.2, _, rfl, rfl, state.closeActive_events⟩

theorem processError_ends (state : ResponsesEventState) (message : String) :
    ∃ before last, (state.processError message).2 = before ++ [last] ∧ last.isTerminal = true ∧
      ∀ event ∈ before, event.isTerminal = false := by
  refine ⟨_, _, rfl, rfl, ?_⟩
  split <;> simp [isTerminal]

end ResponsesEventState

theorem endsOnce_of_events (J : JsonText) {events : List ResponsesEvent}
    (h : ∃ before last, events = before ++ [last] ∧ last.isTerminal = true ∧
      ∀ event ∈ before, event.isTerminal = false) :
    Client.responses.EndsOnce (events.map (frame J)) := by
  obtain ⟨before, last, rfl, hLast, hBefore⟩ := h
  refine ⟨before.map (frame J), [last.frame J], by simp,
    ⟨last.frame J, rfl, (terminal_frame_iff J last).mpr hLast⟩, ?_⟩
  intro frame hFrame hTerminal
  obtain ⟨event, hEvent, rfl⟩ := List.mem_map.mp hFrame
  have hSome := (terminal_frame_iff J event).mp hTerminal
  rw [hBefore event hEvent] at hSome
  cases hSome

/-! ## One event of the provider -/

/-- A driver that makes no end of a stream out of an event that is none. -/
def AiDriver.Plain (driver : AiDriver) : Prop :=
  ∀ event transformed, event.isDone = false →
    driver.transformStreamEvent event = .ok (some transformed) → transformed.isDone = false

theorem isDone_data {event other : SseEvent} (h : event.data = other.data) :
    event.isDone = other.isDone := by
  unfold SseEvent.isDone
  rw [h]

theorem chat_terminal_iff (event : SseEvent) :
    Client.chat.Terminal (chatFrame event.data) ↔ event.isDone = true := Iff.rfl

namespace Observed

/-! ### What leaves the machine of the client alone -/

variable (J : JsonText)

@[simp] theorem observeStreamEvent_machine (setup : RequestSetup) (o : Observed) (event : SseEvent) :
    (o.observeStreamEvent J setup event).responsesEventState = o.responsesEventState := by
  simp only [observeStreamEvent]
  repeat' split
  all_goals rfl

@[simp] theorem markProviderFailure_machine (setup : RequestSetup) (o : Observed) :
    (o.markProviderFailure setup).responsesEventState = o.responsesEventState := by
  unfold markProviderFailure
  split <;> rfl

@[simp] theorem mergeUsage_machine (observation : Option TokenUsage) (o : Observed) :
    (o.mergeUsage observation).responsesEventState = o.responsesEventState := by
  unfold mergeUsage
  split <;> rfl

@[simp] theorem markResponseTransformError_machine (setup : RequestSetup) (component : String)
    (o : Observed) : (o.markResponseTransformError setup component).responsesEventState =
      o.responsesEventState := by
  unfold markResponseTransformError
  split
  · split <;> rfl
  · rfl

@[simp] theorem transformFailed_machine (setup : RequestSetup) (component : String)
    (o : Observed) : (o.transformFailed setup component).responsesEventState =
      o.responsesEventState := by
  simp only [transformFailed]
  split
  · rw [markResponseTransformError_machine]
    rfl
  · rfl

theorem appendChoice_machine (o : Observed) (choice : Json) :
    (o.appendChoice choice).responsesEventState = o.responsesEventState := by
  unfold appendChoice
  split
  · rfl
  · split <;> rfl

@[simp] theorem appendChatStreamCompletionText_machine (o : Observed) (data : String) :
    (o.appendChatStreamCompletionText J data).responsesEventState = o.responsesEventState := by
  unfold appendChatStreamCompletionText
  split
  · rfl
  · rename_i chunk hChunk
    generalize ((chunk.get "choices").bind Json.asArray).getD [] = choices
    induction choices generalizing o with
    | nil => rfl
    | cons choice choices ih => rw [List.foldl_cons, ih, appendChoice_machine]

@[simp] theorem remapped_machine (o : Observed) (transformed : SseEvent) :
    (o.remapped J transformed).1.responsesEventState = o.responsesEventState := rfl

theorem remapped_isDone (o : Observed) {transformed : SseEvent} (h : transformed.isDone = false) :
    (o.remapped J transformed).2.isDone = false := by
  cases hRemapped : (remapToolCallIndex J transformed.data o.streamToolCallCount).2 with
  | none =>
    have hData : (o.remapped J transformed).2.data = transformed.data := by
      simp [remapped, hRemapped]
    rw [isDone_data hData, h]
  | some data =>
    have hData : (o.remapped J transformed).2.data = data := by
      simp [remapped, hRemapped]
    obtain ⟨chunk, hObject, rfl⟩ := remapToolCallIndex_object J hRemapped
    rw [show (o.remapped J transformed).2.isDone = (⟨"", J.print chunk, none⟩ : SseEvent).isDone from
      isDone_data hData]
    exact isDone_print J hObject "" none

/-! ### The client -/

/-- The client of a Responses stream has a machine that has not written its end. -/
def Ready (setup : RequestSetup) (o : Observed) : Prop :=
  setup.client = .responses → ∃ state, o.responsesEventState = some state ∧ state.phase ≠ .done

variable {setup : RequestSetup} {o : Observed} {env : Environment} {event : SseEvent}

theorem advance_quiet {f : ResponsesEventState → ResponsesEventState × List ResponsesEvent}
    {state : ResponsesEventState} (hState : o.responsesEventState = some state)
    (h : Quiet (f state)) :
    (∀ frame ∈ (o.advance J f).2, ¬ Client.responses.Terminal frame) ∧
      ∃ state, (o.advance J f).1.responsesEventState = some state ∧ state.phase ≠ .done := by
  unfold advance
  rw [hState]
  refine ⟨?_, (f state).1, rfl, h.1⟩
  intro frame hFrame hTerminal
  obtain ⟨event, hEvent, rfl⟩ := List.mem_map.mp hFrame
  have hSome := (terminal_frame_iff J event).mp hTerminal
  rw [h.2 event hEvent] at hSome
  cases hSome

theorem responsesStreamEvent_quiet
    (hClient : setup.client = .responses) (hReady : o.Ready setup) (hDone : event.isDone = false) :
    (∀ frame ∈ (o.responsesStreamEvent env setup event).2, ¬ setup.client.Terminal frame) ∧
      (o.responsesStreamEvent env setup event).1.Ready setup := by
  obtain ⟨state, hState, hPhase⟩ := hReady hClient
  simp only [responsesStreamEvent, hDone, Bool.false_eq_true, if_false]
  split
  · have hChunk := fun data => processChatChunk_quiet env.J hPhase data
    rw [hClient]
    exact ⟨(advance_quiet env.J (by simpa using hState) (hChunk _)).1,
      fun _ => (advance_quiet env.J (by simpa using hState) (hChunk _)).2⟩
  · exact ⟨by simp, fun _ => ⟨state, by simpa using hState, hPhase⟩⟩
  · exact ⟨by simp, fun _ => ⟨state, by simpa using hState, hPhase⟩⟩

theorem encoded_terminal {J : JsonText} {given : SseEvent} {isFirst : Bool}
    {encoded : List SseEvent} (hDone : given.isDone = false)
    (h : AnthropicCodec.encodeStreamEvent J given isFirst = .ok encoded) :
    ∀ frame ∈ encoded.map SseEvent.frame, ¬ Client.anthropic.Terminal frame := by
  unfold AnthropicCodec.encodeStreamEvent at h
  rw [hDone] at h
  simp only [Bool.false_eq_true, if_false] at h
  split at h
  · cases h
  · rename_i chunk hParse
    cases h
    intro frame hFrame
    obtain ⟨event, hEvent, rfl⟩ := List.mem_map.mp hFrame
    have hType : event.eventType ∈
        ["message_start", "content_block_start", "content_block_delta"] := by
      rcases List.mem_append.mp hEvent with hStart | hDelta
      · split at hStart
        · simp only [AnthropicCodec.startEvents, List.mem_cons, List.not_mem_nil, or_false]
            at hStart
          rcases hStart with rfl | rfl <;> simp [AnthropicCodec.event]
        · cases hStart
      · simp only [AnthropicCodec.deltaEvents] at hDelta
        split at hDelta
        · cases hDelta
        · rw [List.mem_singleton.mp hDelta]
          simp [AnthropicCodec.event]
    simp only [List.mem_cons, List.not_mem_nil, or_false] at hType
    rcases hType with hType | hType | hType <;> simp [Client.Terminal, SseEvent.frame, hType]

/-- An event that is not the end, for the client of a chat or of the Messages API. -/
theorem chatStreamEvent_quiet (hClient : setup.client ≠ .responses) (hPlain : setup.driver.Plain)
    (hDone : event.isDone = false) :
    ∀ frame ∈ (o.chatStreamEvent env setup event).2, ¬ setup.client.Terminal frame := by
  have hMode : setup.responsesMode = false := by
    cases hMode : setup.responsesMode with
    | true => exact absurd (by simp [RequestSetup.client, hMode]) hClient
    | false => rfl
  simp only [chatStreamEvent, hDone, Bool.false_eq_true, if_false]
  split
  · rename_i transformed hTransformed
    have hGiven := remapped_isDone env.J
      ((((o.observeStreamEvent env.J setup event).markProviderFailure setup).mergeUsage
        (setup.driver.extractStreamUsage event)).appendChatStreamCompletionText env.J
          transformed.data) (hPlain event transformed hDone hTransformed)
    unfold chatChunkOut
    by_cases hAnthropic : setup.clientProtocol = .anthropic
    · have hIs : setup.client = .anthropic := by simp [RequestSetup.client, hMode, hAnthropic]
      rw [hIs]
      simp only [hAnthropic, if_true]
      split
      · rename_i encoded hEncoded
        exact encoded_terminal hGiven hEncoded
      · simp
    · have hIs : setup.client = .chat := by simp [RequestSetup.client, hMode, hAnthropic]
      rw [hIs]
      simp only [hAnthropic, if_false, List.mem_singleton]
      rintro frame rfl hTerminal
      have hSome := (chat_terminal_iff _).mp hTerminal
      rw [hGiven] at hSome
      cases hSome
  · simp
  · simp

theorem responsesStreamEvent_done
    (hClient : setup.client = .responses) (hReady : o.Ready setup) (hDone : event.isDone = true) :
    setup.client.EndsOnce (o.responsesStreamEvent env setup event).2 := by
  obtain ⟨state, hState, hPhase⟩ := hReady hClient
  rw [hClient]
  simp only [responsesStreamEvent, hDone, if_true, responsesDone]
  split
  · unfold advance
    simp only [mergeUsage_machine, markProviderFailure_machine, observeStreamEvent_machine, hState]
    exact endsOnce_of_events env.J (processDone_ends hPhase)
  · unfold advance
    simp only [markResponseTransformError_machine, mergeUsage_machine, markProviderFailure_machine,
      observeStreamEvent_machine, hState]
    exact endsOnce_of_events env.J (state.processError_ends _)

theorem chatStreamEvent_done (hClient : setup.client ≠ .responses) (hDone : event.isDone = true) :
    setup.client.EndsOnce (o.chatStreamEvent env setup event).2 := by
  have hMode : setup.responsesMode = false := by
    cases hMode : setup.responsesMode with
    | true => exact absurd (by simp [RequestSetup.client, hMode]) hClient
    | false => rfl
  simp only [chatStreamEvent, hDone, if_true]
  unfold chatDone
  by_cases hAnthropic : setup.clientProtocol = .anthropic
  · have hIs : setup.client = .anthropic := by simp [RequestSetup.client, hMode, hAnthropic]
    have hEncoded : AnthropicCodec.encodeStreamEvent env.J event false =
        .ok (AnthropicCodec.doneEvents env.J) := by
      simp [AnthropicCodec.encodeStreamEvent, hDone]
    rw [hIs, if_pos hAnthropic, hEncoded]
    exact ⟨[], _, rfl, rfl, by simp⟩
  · have hIs : setup.client = .chat := by simp [RequestSetup.client, hMode, hAnthropic]
    rw [hIs, if_neg hAnthropic]
    exact ⟨[], _, rfl, rfl, by simp⟩

end Observed

/-! ## A whole stream -/

theorem client_responses_iff (setup : RequestSetup) :
    setup.client = .responses ↔ setup.responsesMode = true := by
  unfold RequestSetup.client
  cases setup.responsesMode <;> cases setup.clientProtocol <;> decide

section Run

variable (env : Environment) {setup : RequestSetup} (hPlain : setup.driver.Plain)

include hPlain

variable {o : Observed}

theorem translateEvent_quiet (hReady : o.Ready setup) {event : SseEvent}
    (hDone : event.isDone = false) :
    (∀ frame ∈ (translateEvent env setup o event).2, ¬ setup.client.Terminal frame) ∧
      (translateEvent env setup o event).1.Ready setup := by
  unfold translateEvent
  by_cases hClient : setup.client = .responses
  · rw [if_pos ((client_responses_iff setup).mp hClient)]
    exact Observed.responsesStreamEvent_quiet hClient hReady hDone
  · rw [if_neg fun hMode => hClient ((client_responses_iff setup).mpr hMode)]
    exact ⟨Observed.chatStreamEvent_quiet hClient hPlain hDone, fun h => absurd h hClient⟩

theorem run_translateEvent_quiet (hReady : o.Ready setup) {events : List SseEvent}
    (hDone : ∀ event ∈ events, event.isDone = false) :
    (∀ frame ∈ (Transducer.run (translateEvent env setup) o events).2,
        ¬ setup.client.Terminal frame) ∧
      (Transducer.run (translateEvent env setup) o events).1.Ready setup := by
  induction events generalizing o with
  | nil => exact ⟨by simp [Transducer.run], hReady⟩
  | cons event events ih =>
    obtain ⟨hHead, hTail⟩ := List.forall_mem_cons.mp hDone
    obtain ⟨hFrames, hNext⟩ := translateEvent_quiet env hPlain hReady hHead
    obtain ⟨hRest, hLast⟩ := ih hNext hTail
    refine ⟨?_, hLast⟩
    intro frame hFrame
    rcases List.mem_append.mp hFrame with hFirst | hLater
    · exact hFrames frame hFirst
    · exact hRest frame hLater

theorem run_translateEvent_done (hReady : o.Ready setup) {before : List SseEvent}
    (hBefore : ∀ event ∈ before, event.isDone = false) {last : SseEvent}
    (hLast : last.isDone = true) :
    setup.client.EndsOnce (Transducer.run (translateEvent env setup) o (before ++ [last])).2 := by
  obtain ⟨hFrames, hNext⟩ := run_translateEvent_quiet env hPlain hReady hBefore
  have hEnd : setup.client.EndsOnce (translateEvent env setup
      (Transducer.run (translateEvent env setup) o before).1 last).2 := by
    unfold translateEvent at hNext ⊢
    by_cases hClient : setup.client = .responses
    · rw [if_pos ((client_responses_iff setup).mp hClient)]
      exact Observed.responsesStreamEvent_done hClient hNext hLast
    · rw [if_neg fun hMode => hClient ((client_responses_iff setup).mpr hMode)]
      exact Observed.chatStreamEvent_done hClient hLast
  rw [Transducer.run_append, Transducer.run, Transducer.run, List.append_nil]
  exact hEnd.prepend hFrames

end Run

/-! ## The providers -/

theorem chatChunk_isObject (id model : String) (delta : List (String × Json))
    (finishReason : Option String) : (chatChunk id model delta finishReason).isObject := rfl

theorem GeminiDriver.chunkOf_isObject (L : Libraries) (resp : Json) :
    (GeminiDriver.chunkOf L resp).isObject := by
  simp only [GeminiDriver.chunkOf]
  split <;> exact chatChunk_isObject ..

variable {data chunk : Json} {clientProtocol : ClientProtocol} {responsesMode : Bool}
  {strippedTools : Option (List String)} {contentType : Option String} {format : SseFormat}

theorem AnthropicDriver.contentBlockStart_isObject (h : contentBlockStart data = some chunk) :
    chunk.isObject := by
  simp only [contentBlockStart] at h
  split at h
  · rw [← Option.some.inj h]
    exact chatChunk_isObject ..
  · cases h

theorem AnthropicDriver.contentBlockDelta_isObject (h : contentBlockDelta data = some chunk) :
    chunk.isObject := by
  simp only [contentBlockDelta] at h
  split at h
  · split at h
    · cases h
    · rw [← Option.some.inj h]
      exact chatChunk_isObject ..
  · split at h
    · cases h
    · rw [← Option.some.inj h]
      exact chatChunk_isObject ..
  · cases h

theorem AnthropicDriver.chunkOf_isObject {eventType : String}
    (h : chunkOf eventType data = some chunk) : chunk.isObject := by
  unfold chunkOf at h
  split at h
  · rw [← Option.some.inj h]
    exact chatChunk_isObject ..
  · exact contentBlockStart_isObject h
  · cases h
  · exact contentBlockDelta_isObject h
  · cases h
  · rw [← Option.some.inj h]
    exact chatChunk_isObject ..
  · cases h
  · cases h

namespace Provider

/-- The stream of the provider ends with `[DONE]`. -/
def SendsDone (provider : Provider) : Prop := provider = .openai ∨ provider = .openaiCompat

def Ends (J : JsonText) (provider : Provider) (last : SseEvent) : Prop :=
  match provider with
  | .openai | .openaiCompat => last.isDone = true
  | .anthropic => ∃ data, J.parse last.data = .ok data ∧
      (data.get "type").bind Json.asStr = some "message_stop"
  | .gemini => ∃ data, J.parse last.data = .ok data ∧ hasFinishReason data = true

/-- A complete stream. Only the OpenAI protocol has the event `[DONE]`, as the last one. -/
def Complete (J : JsonText) (provider : Provider) (events : List SseEvent) : Prop :=
  ∃ before last, events = before ++ [last] ∧ provider.Ends J last ∧
    (∀ event ∈ before, event.isDone = false) ∧ (¬ provider.SendsDone → last.isDone = false)

theorem driver_plain (L : Libraries) (provider : Provider) : (provider.driver L).Plain := by
  have hOpenAi : (openaiDriver L).Plain := by
    intro event transformed hDone h
    simp only [openaiDriver, OpenAiDriver.transformStreamEvent, hDone, Bool.false_eq_true,
      if_false] at h
    split at h
    · cases h
    · cases h
      exact hDone
  cases provider with
  | openai | openaiCompat => exact hOpenAi
  | anthropic =>
    intro event transformed hDone h
    change transformStreamEvent L event = .ok (some transformed) at h
    unfold transformStreamEvent at h
    split at h
    · cases h
    · rename_i data hParse
      dsimp only at h
      obtain ⟨chunk, hChunk, rfl⟩ := Option.map_eq_some_iff.mp (Except.ok.inj h)
      exact isDone_print L.J (chunkOf_isObject hChunk) "message" none
  | gemini =>
    intro event transformed hDone h
    change GeminiDriver.transformStreamEvent L event = .ok (some transformed) at h
    simp only [GeminiDriver.transformStreamEvent, hDone, Bool.false_eq_true, if_false] at h
    split at h
    · cases h
    · rename_i resp hRead
      cases h
      exact isDone_print L.J (GeminiDriver.chunkOf_isObject L resp) "message" none

end Provider

/-! ## What the client receives -/

def writtenFrames (env : Environment) (state : AiRequestState)
    (earlier : List (Option (List UInt8))) (last : Option (List UInt8)) : List Frame :=
  (Transducer.run (translateCall env) state (calls earlier last)).2

def SseParser.events (format : SseFormat) (text : List Char) : List SseEvent :=
  ((SseParser.new format).feed text).2 ++ ((SseParser.new format).feed text).1.flush.2

section

variable (env : Environment) (request : AccessedRequest)
  (hPath : request.path = .translation clientProtocol responsesMode strippedTools)
  (hFormat : streamFormat contentType = some format) (chosen : AiDriver)
  (responseStatus : Option Nat)
include hPath hFormat

open StreamDecoder in
/-- The frames are those that the events of the text make, and they are what is let out. -/
theorem written_events {earlier : List (Option (List UInt8))} {last : Option (List UInt8)}
    {text : List Char} (hText : Utf8.fromUtf8 (callBytes (earlier ++ [last])) = .ok text) :
    let state := received env.toLibraries chosen request responseStatus contentType
    writtenFrames env state earlier last =
        (Transducer.run (translateEvent env state.setup) state.observed
          (SseParser.events format text)).2 ∧
      (outcome env state earlier last).emitted =
        (writtenFrames env state earlier last).flatMap Frame.bytes := by
  intro state
  have hRun := Utf8.fromUtf8_ok_iff.mp hText
  rw [callBytes_concat] at hRun
  have hNew : (SseParser.new format).feed [] = (SseParser.new format, []) := by
    cases format <;> rfl
  have hDecoder : state.decoder = after (some (.new format)) none [] := by
    simp [state, received, headerFilter, hFormat, after, hNew, Utf8.kept, access]
  have hState : state = ⟨state.setup, after (some (.new format)) none [], state.observed⟩ := by
    rw [← hDecoder]
  have hMode : state.setup.streamMode = true := by
    simp [state, received, headerFilter, hFormat]
  have hAnthropic : state.setup.anthropicPassThrough = false := by
    simp [state, received, headerFilter, hFormat, access, hPath]
  have hResponses : state.setup.responsesPassThrough = false := by
    simp [state, received, headerFilter, hFormat, access, hPath]
  have hEvents : newEvents (some (.new format)) [] text ++ leftEvents (some (.new format)) text =
      SseParser.events format text := by
    simp only [newEvents, leftEvents, Option.map_some, Option.getD_some, hNew, SseParser.events]
  have hFrames : writtenFrames env state earlier last =
      (Transducer.run (translateEvent env state.setup) state.observed
        (SseParser.events format text)).2 := by
    have hWrite : ∀ decoder o call, translateCall env ⟨state.setup, decoder, o⟩ call =
        ((translateCall env ⟨state.setup, decoder, o⟩ call).1,
          (translateCall env ⟨state.setup, decoder, o⟩ call).2.flatMap fun frame => [frame]) := by
      intro decoder o call
      rw [List.flatMap_singleton']
    rw [writtenFrames, hState, run_translateCall hRun _ _ hWrite, List.flatMap_singleton', hEvents]
  refine ⟨hFrames, ?_⟩
  have hWrite : ∀ decoder o call, filterStep env ⟨state.setup, decoder, o⟩ call = _ :=
    filterStep_translate hAnthropic hResponses hMode
  rw [hFrames, hState, outcome, run_translateCall hRun _ _ hWrite, hEvents]
  rfl

theorem received_ready :
    let state := received env.toLibraries chosen request responseStatus contentType
    state.observed.Ready state.setup := by
  intro state hClient
  have hMode := (client_responses_iff state.setup).mp hClient
  simp only [state, received, headerFilter, hFormat, access, hPath,
    AccessPath.responsesMode] at hMode ⊢
  rw [hMode]
  exact ⟨_, rfl, by simp [new]⟩

end

/-- A translated stream ends once for the client if and only if the provider is one that sends
`[DONE]`. -/
theorem ends_once_iff (env : Environment) (provider : Provider) (request : AccessedRequest)
    {clientProtocol : ClientProtocol} {responsesMode : Bool}
    {strippedTools : Option (List String)}
    (hPath : request.path = .translation clientProtocol responsesMode strippedTools)
    (responseStatus : Option Nat) {contentType : Option String} {format : SseFormat}
    (hFormat : streamFormat contentType = some format)
    (earlier : List (Option (List UInt8))) (last : Option (List UInt8)) {text : List Char}
    (hText : Utf8.fromUtf8 (callBytes (earlier ++ [last])) = .ok text)
    (hComplete : provider.Complete env.J (SseParser.events format text)) :
    let state := received env.toLibraries (provider.driver env.toLibraries) request
      responseStatus contentType
    let frames := writtenFrames env state earlier last
    (outcome env state earlier last).emitted = frames.flatMap Frame.bytes ∧
      (state.setup.client.EndsOnce frames ↔ provider.SendsDone) := by
  intro state frames
  obtain ⟨hFrames, hEmitted⟩ := written_events env request hPath hFormat
    (provider.driver env.toLibraries) responseStatus hText
  refine ⟨hEmitted, ?_⟩
  have hReady := received_ready env request hPath hFormat (provider.driver env.toLibraries)
    responseStatus
  have hPlain : state.setup.driver.Plain := by
    have hDriver : state.setup.driver = provider.driver env.toLibraries := by
      simp [state, received, headerFilter, hFormat, access, AccessPath.driver, hPath]
    rw [hDriver]
    exact provider.driver_plain env.toLibraries
  obtain ⟨before, lastEvent, hEvents, hEnds, hBefore, hOther⟩ := hComplete
  simp only [frames, state] at hFrames ⊢
  rw [hFrames, hEvents]
  by_cases hSends : provider.SendsDone
  · refine iff_of_true ?_ hSends
    have hDone : lastEvent.isDone = true := by
      rcases hSends with rfl | rfl <;> exact hEnds
    exact run_translateEvent_done env hPlain hReady hBefore hDone
  · refine iff_of_false ?_ hSends
    refine Client.not_endsOnce (run_translateEvent_quiet env hPlain hReady ?_).1
    intro event hEvent
    rcases List.mem_append.mp hEvent with hEarlier | hLast
    · exact hBefore event hEarlier
    · rw [List.mem_singleton.mp hLast]
      exact hOther hSends

namespace EndSample

def env : Environment where
  J := .compact
  refusal := fun _ => ""
  toLowercase := id
  tiktoken := fun _ _ => none
  driverUuid := "1"
  responseUuid := "2"

def request : AccessedRequest where
  path := .translation .openAi false none
  modelName := "model"
  streamMode := true
  responseId := "resp_1"
  lifecycle := ⟨"1", some 200, none⟩

/-- A chunk of text, and the end. -/
def done : List Char :=
  ("data: \x7b\"choices\":[\x7b\"delta\":\x7b\"content\":\"Hi\"\x7d\x7d]\x7d\n\n" ++
    "data: [DONE]\n\n").toList

def bytes (text : List Char) : List UInt8 := Utf8.encode text

theorem media_type : streamFormat (some "text/event-stream") = some .standard := by decide

/-- The bytes come in two calls, cut inside the first event. -/
def firstCall : List UInt8 := (bytes done).take 20

def secondCall : List UInt8 := (bytes done).drop 20

theorem done_decoded :
    Utf8.fromUtf8 (callBytes ([some firstCall] ++ [some secondCall])) = .ok done :=
  Utf8.fromUtf8_ok_iff.mpr (by decide +kernel)

theorem done_complete : Provider.openai.Complete .compact (SseParser.events .standard done) :=
  ⟨[.message "\x7b\"choices\":[\x7b\"delta\":\x7b\"content\":\"Hi\"\x7d\x7d]\x7d"],
    .message "[DONE]", by decide, show SseEvent.isDone _ = true by decide, by decide,
    fun h => absurd (Or.inl rfl) h⟩

def message : List Char :=
  ("data: \x7b\"type\":\"content_block_delta\",\"delta\":\x7b\"text\":\"Hi\"\x7d\x7d\n\n" ++
    "data: \x7b\"type\":\"message_stop\"\x7d\n\n").toList

theorem message_decoded : Utf8.fromUtf8 (callBytes [some (bytes message)]) = .ok message :=
  Utf8.fromUtf8_ok_iff.mpr (by decide +kernel)

theorem message_complete :
    Provider.anthropic.Complete .compact (SseParser.events .standard message) :=
  ⟨[.message "\x7b\"type\":\"content_block_delta\",\"delta\":\x7b\"text\":\"Hi\"\x7d\x7d"],
    .message "\x7b\"type\":\"message_stop\"\x7d", by decide,
    ⟨.object [("type", .string "message_stop")], rfl, rfl⟩, by decide, fun _ => by decide⟩

end EndSample

open EndSample in
theorem done_ends_once :
    let state := received env.toLibraries (openaiDriver env.toLibraries) request (some 200)
      (some "text/event-stream")
    state.setup.client.EndsOnce (writtenFrames env state [some firstCall] (some secondCall)) :=
  (ends_once_iff env .openai request rfl (some 200) media_type [some firstCall] (some secondCall)
    done_decoded done_complete).2.mpr (Or.inl rfl)

open EndSample in
/-- The client of a chat gets the text of the message, and no frame that is an end. -/
theorem message_stop_lost :
    let state := received env.toLibraries (anthropicDriver env.toLibraries) request (some 200)
      (some "text/event-stream")
    Provider.anthropic.Complete .compact (SseParser.events .standard message) ∧
      (∀ frame ∈ writtenFrames env state [] (some (bytes message)), ¬ Client.chat.Terminal frame) ∧
      ¬ Client.chat.EndsOnce (writtenFrames env state [] (some (bytes message))) := by
  intro state
  have hDone : ∀ event ∈ SseParser.events .standard message, event.isDone = false := by decide
  have hReady := received_ready env request rfl media_type (anthropicDriver env.toLibraries)
    (some 200)
  have hPlain : state.setup.driver.Plain := Provider.driver_plain env.toLibraries .anthropic
  have hFrames := (written_events env request rfl media_type (anthropicDriver env.toLibraries)
    (some 200) (show Utf8.fromUtf8 (callBytes ([] ++ [some (bytes message)])) = .ok message from
      message_decoded)).1
  have hQuiet := (run_translateEvent_quiet env hPlain hReady hDone).1
  rw [← hFrames] at hQuiet
  exact ⟨message_complete, hQuiet, Client.not_endsOnce hQuiet⟩

end KongRust.Ai

import KongRust.Ai.StreamEnds

/-!
# The terminal of a stream

`observe_stream_event` classifies a stream by its events. A later event overwrites the class, so a
failed stream counts as complete when `[DONE]` or an event with a finish reason follows
(`done_completes_failed`). `failure_kept` says in which runs a failed stream stays failed, and of
which streams the completion is estimated.
-/

namespace KongRust.Ai

open KongRust

/-! ## Events -/

/-- How the events of a stream are read: as they go through, or as they are translated. -/
inductive StreamReader where
  | anthropicPassThrough
  | responsesPassThrough
  | responses
  | chat

def StreamReader.observe (env : Environment) (setup : RequestSetup) (o : Observed)
    (event : SseEvent) : StreamReader → Observed
  | .anthropicPassThrough => o.anthropicPassThroughEvent env setup event
  | .responsesPassThrough => o.responsesPassThroughEvent env setup event
  | .responses => (o.responsesStreamEvent env setup event).1
  | .chat => (o.chatStreamEvent env setup event).1

def StreamReader.run (reader : StreamReader) (env : Environment) (setup : RequestSetup)
    (o : Observed) (events : List SseEvent) : Observed :=
  events.foldl (fun o event => reader.observe env setup o event) o

/-- The event says that the provider has failed. -/
def SseEvent.Fails (J : JsonText) (event : SseEvent) : Prop :=
  let name := eventName event (readJson J event.data)
  name = "error" ∨ name = "response.failed" ∨
    ((readJson J event.data).bind fun value => value.get "error").isSome

/-- The event ends a stream: `[DONE]`, a final event, or a valid event with a finish reason. -/
def SseEvent.Completes (J : JsonText) (setup : RequestSetup) (event : SseEvent) : Prop :=
  let parsed := readJson J event.data
  let name := eventName event parsed
  event.isDone ∨ ¬ (parsed.isNone ∧ event.eventType = "message") ∧ ¬ event.Fails J ∧
    (name ∈ ["response.completed", "response.incomplete", "message_stop"] ∨
      isValidProviderStreamEvent setup.driver.providerType
        (setup.responsesMode || setup.responsesPassThrough) name parsed ∧
        (parsed.map hasFinishReason).getD false)

/-- The event is not read in full: its data is no JSON, or it cannot be translated. -/
def StreamReader.Undecodable (env : Environment) (setup : RequestSetup) (event : SseEvent) :
    StreamReader → Prop
  | .anthropicPassThrough | .responsesPassThrough =>
    ¬ event.isDone ∧ readJson env.J event.data = none
  | .responses | .chat => ¬ event.isDone ∧ (readJson env.J event.data = none ∨
    ∃ e, setup.driver.transformStreamEvent event = .error e)

/-- A final event that carries the output of its response. -/
def CarriesOutput (value : Json) : Prop :=
  ((value.get "type").bind Json.asStr).getD "" ∈ ["response.completed", "response.incomplete"] ∧
    ((value.get "response").bind fun response => response.get "output").isSome

/-- The event replaces all that was collected, and makes up for what could not be read. -/
def StreamReader.Replaces (env : Environment) (event : SseEvent) : StreamReader → Prop
  | .responsesPassThrough => ∃ value, readJson env.J event.data = some value ∧ CarriesOutput value
  | _ => False

/-- The event ends no failed stream, and replaces nothing that could not be read. -/
def StreamReader.Keeps (reader : StreamReader) (env : Environment) (setup : RequestSetup)
    (o : Observed) (event : SseEvent) : Prop :=
  (o.streamTerminal = .providerFailed → ¬ event.Completes env.J setup) ∧
    (o.completionObservationInvalid → ¬ reader.Replaces env event)

def StreamReader.Along (reader : StreamReader) (env : Environment) (setup : RequestSetup) :
    Observed → List SseEvent → Prop
  | _, [] => True
  | o, event :: events => reader.Keeps env setup o event ∧
    reader.Along env setup (reader.observe env setup o event) events

/-! ## What one event changes -/

section Event

variable {env : Environment} {setup : RequestSetup} {o : Observed} {event : SseEvent}
  {reader : StreamReader}

/-- `observe_stream_event` keeps the class of a failed stream just if the event completes none. -/
theorem observeStreamEvent_failed (J : JsonText) (h : o.streamTerminal = .providerFailed) :
    (o.observeStreamEvent J setup event).streamTerminal = .providerFailed ↔
      ¬ event.Completes J setup := by
  unfold Observed.observeStreamEvent SseEvent.Completes
  dsimp only
  split_ifs with hDone hIgnored hFails hFinal hValid hFinish
  · simp [hDone]
  · simp [hDone, hIgnored, h]
  · have hFailed : event.Fails J := hFails
    simp [hFailed, hDone]
  · have hNot : ¬ event.Fails J := hFails
    simp only [hDone, hIgnored, hNot, hFinal]
    simp
  · have hNot : ¬ event.Fails J := hFails
    simp only [hDone, hIgnored, hNot, hFinal, hValid, hFinish]
    simp
  · have hNot : ¬ event.Fails J := hFails
    simp only [hDone, hIgnored, hNot, hFinal, hValid, hFinish]
    simp [h]
  · simp only [hDone, hFinal, hValid]
    simp [h]

/-- What the reading of an event leaves of the verdict on its stream. -/
structure Observed.Leaves (o o' : Observed) : Prop where
  terminal : o'.streamTerminal = o.streamTerminal
  estimate : o'.estimatedCompletionTokens = o.estimatedCompletionTokens
  invalid : o.completionObservationInvalid → o'.completionObservationInvalid

namespace Observed

theorem Leaves.refl (o : Observed) : o.Leaves o := ⟨rfl, rfl, id⟩

theorem Leaves.trans {o o' o'' : Observed} (h : o.Leaves o') (h' : o'.Leaves o'') : o.Leaves o'' :=
  ⟨h'.terminal.trans h.terminal, h'.estimate.trans h.estimate, h'.invalid ∘ h.invalid⟩

theorem leaves_invalidObservation : o.Leaves o.invalidObservation := ⟨rfl, rfl, fun _ => rfl⟩

theorem leaves_markResponseTransformError (setup : RequestSetup) (component : String)
    (o : Observed) : o.Leaves (o.markResponseTransformError setup component) := by
  unfold markResponseTransformError
  split
  · split <;> exact ⟨rfl, rfl, id⟩
  · exact .refl o

theorem leaves_markProviderFailure (setup : RequestSetup) (o : Observed) :
    o.Leaves (o.markProviderFailure setup) := by
  unfold markProviderFailure
  split <;> exact ⟨rfl, rfl, id⟩

theorem leaves_mergeUsage (usage : Option TokenUsage) (o : Observed) :
    o.Leaves (o.mergeUsage usage) := by
  cases usage <;> exact ⟨rfl, rfl, id⟩

theorem leaves_appendAnthropic (value : Json) :
    o.Leaves (o.appendAnthropicStreamCompletionText value) := by
  unfold appendAnthropicStreamCompletionText
  split_ifs
  · exact .refl o
  · split <;> exact ⟨rfl, rfl, id⟩

variable (J : JsonText)

theorem leaves_appendChat (data : String) (o : Observed) :
    o.Leaves (o.appendChatStreamCompletionText J data) := by
  unfold appendChatStreamCompletionText
  split
  · exact .refl o
  · generalize ((Json.get _ "choices").bind Json.asArray).getD [] = choices
    induction choices generalizing o with
    | nil => exact .refl o
    | cons choice choices ih =>
      have hChoice : o.Leaves (o.appendChoice choice) := by
        unfold appendChoice
        split
        · exact leaves_invalidObservation
        · split <;> exact ⟨rfl, rfl, id⟩
      exact hChoice.trans (ih _)

theorem leaves_appendResponses {value : Json}
    (h : o.completionObservationInvalid → ¬ CarriesOutput value) :
    o.Leaves (o.appendResponsesStreamCompletionText value) := by
  unfold appendResponsesStreamCompletionText
  dsimp only
  split_ifs with hDelta hFinal
  · exact ⟨rfl, rfl, id⟩
  · split
    · next output hOutput =>
      refine ⟨rfl, rfl, fun hInvalid => absurd ⟨?_, ?_⟩ (h hInvalid)⟩
      · simpa using hFinal
      · rw [hOutput]
        rfl
    · exact .refl o
  · exact .refl o

theorem markProviderFailure_invalid (setup : RequestSetup) (o : Observed) :
    (o.markProviderFailure setup).completionObservationInvalid =
      o.completionObservationInvalid := by
  unfold markProviderFailure
  split <;> rfl

theorem leaves_remapped (transformed : SseEvent) (o : Observed) :
    o.Leaves (o.remapped J transformed).1 := ⟨rfl, rfl, id⟩

theorem leaves_advance {J : JsonText}
    {f : ResponsesEventState → ResponsesEventState × List ResponsesEvent} :
    o.Leaves (o.advance J f).1 := by
  unfold advance
  split <;> exact ⟨rfl, rfl, id⟩

theorem leaves_responsesDone : o.Leaves (o.responsesDone env setup).1 := by
  unfold responsesDone
  dsimp only
  split
  · exact leaves_advance
  · have hUsage : o.Leaves { o with usage := { o.usage with invalid := true } } := ⟨rfl, rfl, id⟩
    exact (hUsage.trans (leaves_markResponseTransformError _ _ _)).trans leaves_advance

theorem leaves_transformFailed {component : String} :
    o.Leaves (o.transformFailed setup component) := by
  unfold transformFailed
  dsimp only
  split_ifs
  · exact leaves_invalidObservation.trans (leaves_markResponseTransformError _ _ _)
  · exact leaves_invalidObservation

theorem leaves_chatDone : o.Leaves (o.chatDone env setup event).1 := by
  unfold chatDone
  split_ifs
  · split
    · exact .refl o
    · exact leaves_markResponseTransformError _ _ _
  · exact .refl o

theorem leaves_chatChunkOut {buffer : Option String} :
    o.Leaves { (o.chatChunkOut env setup event).1 with responseBuffer := buffer } := by
  unfold chatChunkOut
  split_ifs
  · split
    · exact ⟨rfl, rfl, id⟩
    · have hError := leaves_markResponseTransformError setup "anthropic_stream_encode" o
      exact ⟨hError.terminal, hError.estimate, hError.invalid⟩
  · exact ⟨rfl, rfl, id⟩

theorem transformFailed_invalid {component : String} :
    (o.transformFailed setup component).completionObservationInvalid := by
  unfold transformFailed
  dsimp only
  split_ifs
  · exact (leaves_markResponseTransformError _ _ _).invalid rfl
  · rfl

theorem observeStreamEvent_kept (setup : RequestSetup) (o : Observed) (event : SseEvent) :
    (o.observeStreamEvent J setup event).estimatedCompletionTokens = o.estimatedCompletionTokens ∧
      (o.observeStreamEvent J setup event).completionObservationInvalid =
        o.completionObservationInvalid := by
  unfold observeStreamEvent
  dsimp only
  split_ifs <;> exact ⟨rfl, rfl⟩

end Observed

open Observed

/-- What is no JSON cannot be translated. -/
theorem transformStreamEvent_unread (L : Libraries) (provider : Provider) (hDone : ¬ event.isDone)
    (hRead : readJson L.J event.data = none) :
    ∃ e, (provider.driver L).transformStreamEvent event = .error e := by
  obtain ⟨e, hError⟩ : ∃ e, L.J.parse event.data = .error e := by
    unfold readJson at hRead
    cases hParse : L.J.parse event.data with
    | error e => exact ⟨e, rfl⟩
    | ok value => simp [hParse, Except.toOption] at hRead
  have hOpenAi : ∃ e, OpenAiDriver.transformStreamEvent L event = .error e := by
    unfold OpenAiDriver.transformStreamEvent JsonText.fromStr
    rw [if_neg hDone, hError]
    exact ⟨_, rfl⟩
  cases provider with
  | openai | openaiCompat => exact hOpenAi
  | anthropic =>
    refine ⟨.serializationError ("invalid Anthropic SSE data: " ++ e), ?_⟩
    simp only [Provider.driver, anthropicDriver, AnthropicDriver.transformStreamEvent, hError]
  | gemini =>
    simp only [Provider.driver, geminiDriver, GeminiDriver.transformStreamEvent]
    rw [if_neg hDone, GeminiDriver.read, JsonText.fromStr, hError]
    exact ⟨_, rfl⟩

/-- Behind `observe_stream_event` no reader changes the class, and it notes an event that it cannot
read. -/
theorem observe_leaves
    (hDriver : ∃ provider, setup.driver = Provider.driver env.toLibraries provider)
    (h : o.completionObservationInvalid → ¬ reader.Replaces env event) :
    (o.observeStreamEvent env.J setup event).Leaves (reader.observe env setup o event) ∧
      (reader.Undecodable env setup event →
        (reader.observe env setup o event).completionObservationInvalid) := by
  rw [← (observeStreamEvent_kept env.J setup o event).2] at h
  have hDecoded : ∀ transformed, setup.driver.transformStreamEvent event = .ok transformed →
      ¬ StreamReader.chat.Undecodable env setup event := by
    rintro transformed hOk ⟨hDone, hRead | ⟨e, hError⟩⟩
    · obtain ⟨provider, hProvider⟩ := hDriver
      obtain ⟨e, hError⟩ := transformStreamEvent_unread env.toLibraries provider hDone hRead
      rw [← hProvider, hOk] at hError
      cases hError
    · rw [hOk] at hError
      cases hError
  cases reader with
  | anthropicPassThrough =>
    simp only [StreamReader.observe, anthropicPassThroughEvent]
    have hUsage := leaves_mergeUsage (setup.driver.extractStreamUsage event)
      (o.observeStreamEvent env.J setup event)
    split
    · next value hRead =>
      exact ⟨hUsage.trans (leaves_appendAnthropic value),
        fun hUndecodable => by simp [hUndecodable.2] at hRead⟩
    · split_ifs with hDone
      · exact ⟨hUsage, fun hUndecodable => absurd hDone hUndecodable.1⟩
      · exact ⟨hUsage.trans leaves_invalidObservation, fun _ => rfl⟩
  | responsesPassThrough =>
    simp only [StreamReader.observe, responsesPassThroughEvent]
    have hFailure := leaves_markProviderFailure setup (o.observeStreamEvent env.J setup event)
    split
    · next value hRead =>
      refine ⟨(hFailure.trans (leaves_appendResponses fun hInvalid hOutput => ?_)).trans
        (leaves_mergeUsage _ _), fun hUndecodable => by simp [hUndecodable.2] at hRead⟩
      rw [markProviderFailure_invalid] at hInvalid
      exact h hInvalid ⟨value, hRead, hOutput⟩
    · split_ifs with hDone
      · exact ⟨hFailure, fun hUndecodable => absurd hDone hUndecodable.1⟩
      · exact ⟨hFailure.trans leaves_invalidObservation, fun _ => rfl⟩
  | responses =>
    simp only [StreamReader.observe, responsesStreamEvent]
    have hBefore := (leaves_markProviderFailure setup (o.observeStreamEvent env.J setup event)).trans
      (leaves_mergeUsage (setup.driver.extractStreamUsage event) _)
    split_ifs with hDone
    · exact ⟨hBefore.trans leaves_responsesDone, fun hUndecodable => absurd hDone hUndecodable.1⟩
    · split
      · next transformed hOk =>
        exact ⟨((hBefore.trans (leaves_appendChat env.J transformed.data _)).trans
          (leaves_remapped env.J transformed _)).trans leaves_advance,
          fun hUndecodable => absurd hUndecodable (hDecoded _ hOk)⟩
      · next hOk => exact ⟨hBefore, fun hUndecodable => absurd hUndecodable (hDecoded _ hOk)⟩
      · exact ⟨hBefore.trans leaves_transformFailed, fun _ => transformFailed_invalid⟩
  | chat =>
    simp only [StreamReader.observe, chatStreamEvent]
    have hFailure := leaves_markProviderFailure setup (o.observeStreamEvent env.J setup event)
    have hUsage := hFailure.trans (leaves_mergeUsage (setup.driver.extractStreamUsage event) _)
    split_ifs with hDone
    · exact ⟨hFailure.trans leaves_chatDone, fun hUndecodable => absurd hDone hUndecodable.1⟩
    · split
      · next transformed hOk =>
        exact ⟨((hUsage.trans (leaves_appendChat env.J transformed.data _)).trans
          (leaves_remapped env.J transformed _)).trans leaves_chatChunkOut,
          fun hUndecodable => absurd hUndecodable (hDecoded _ hOk)⟩
      · next hOk => exact ⟨hUsage, fun hUndecodable => absurd hUndecodable (hDecoded _ hOk)⟩
      · exact ⟨hUsage.trans leaves_transformFailed, fun _ => transformFailed_invalid⟩

end Event

/-! ## Runs -/

section Runs

variable {env : Environment} {setup : RequestSetup} {reader : StreamReader} {o : Observed}
  {before after events : List SseEvent}

theorem StreamReader.Along.of_append (h : reader.Along env setup o (before ++ after)) :
    reader.Along env setup (reader.run env setup o before) after := by
  induction before generalizing o with
  | nil => exact h
  | cons event before ih => exact ih h.2

/-- What a run keeps: the class of a failed stream, the estimate, and the note that an event could
not be read. -/
theorem run_kept (hDriver : ∃ provider, setup.driver = Provider.driver env.toLibraries provider)
    (h : reader.Along env setup o events) :
    (o.streamTerminal = .providerFailed →
      (reader.run env setup o events).streamTerminal = .providerFailed) ∧
    (reader.run env setup o events).estimatedCompletionTokens = o.estimatedCompletionTokens ∧
    (o.completionObservationInvalid ∨ (∃ event ∈ events, reader.Undecodable env setup event) →
      (reader.run env setup o events).completionObservationInvalid) := by
  induction events generalizing o with
  | nil => exact ⟨id, rfl, fun hNote => hNote.elim id (by simp)⟩
  | cons event events ih =>
    obtain ⟨⟨hFailed, hReplaces⟩, hRest⟩ := h
    obtain ⟨hLeaves, hNoted⟩ := observe_leaves hDriver hReplaces
    obtain ⟨hEstimate, hInvalid⟩ := Observed.observeStreamEvent_kept env.J setup o event
    obtain ⟨hClass, hKept, hNote⟩ := ih hRest
    refine ⟨fun hProvider => hClass ?_, hKept.trans (hLeaves.estimate.trans hEstimate),
      fun hBoth => hNote ?_⟩
    · rw [hLeaves.terminal]
      exact (observeStreamEvent_failed env.J hProvider).mpr (hFailed hProvider)
    · rcases hBoth with hBefore | ⟨bad, hBad, hUndecodable⟩
      · exact .inl (hLeaves.invalid (hInvalid.trans hBefore))
      · rcases List.mem_cons.mp hBad with rfl | hBad
        · exact .inl (hNoted hUndecodable)
        · exact .inr ⟨bad, hBad, hUndecodable⟩

/-- In a run whose events end no failed stream, and replace nothing that could not be read, a failed
stream stays failed, and an estimate is made at the end only of a stream that is complete and all of
whose events could be read. -/
theorem failure_kept (env : Environment) (setup : RequestSetup) (reader : StreamReader)
    (o : Observed) (events : List SseEvent)
    (hDriver : ∃ provider, setup.driver = Provider.driver env.toLibraries provider)
    (hNew : o.estimatedCompletionTokens = none) (h : reader.Along env setup o events) :
    (∀ before after, events = before ++ after →
      (reader.run env setup o before).streamTerminal = .providerFailed →
        (reader.run env setup o events).streamTerminal = .providerFailed) ∧
    (((reader.run env setup o events).finalizeStreamCompletionEstimate env
        setup).estimatedCompletionTokens.isSome →
      (reader.run env setup o events).streamTerminal = .complete ∧
        ∀ event ∈ events, ¬ reader.Undecodable env setup event) := by
  constructor
  · rintro before after rfl hFailed
    have hAfter := (run_kept hDriver h.of_append).1 hFailed
    rw [StreamReader.run, StreamReader.run, ← List.foldl_append] at hAfter
    exact hAfter
  · obtain ⟨-, hEstimate, hNote⟩ := run_kept hDriver h
    intro hSome
    unfold Observed.finalizeStreamCompletionEstimate at hSome
    split at hSome
    · next hReady =>
      refine ⟨hReady.1, fun event hEvent hUndecodable => ?_⟩
      have hInvalid := hNote (.inr ⟨event, hEvent, hUndecodable⟩)
      rw [hReady.2.2] at hInvalid
      cases hInvalid
    · rw [hEstimate, hNew] at hSome
      cases hSome

end Runs

open EndSample in
/-- The state of a chat with OpenAI at the beginning of a stream. -/
def sampleStream : AiRequestState :=
  received env.toLibraries (openaiDriver env.toLibraries) request (some 200)
    (some "text/event-stream")

/-- An error of the provider. -/
def sampleFailure : SseEvent :=
  { SseEvent.message "\x7b\"error\":\"overloaded\"\x7d" with eventType := "error" }

/-- Content that comes all the same, and data that cannot be read. -/
def sampleRest : List SseEvent :=
  [.message "\x7b\"choices\":[\x7b\"delta\":\x7b\"content\":\"a\"\x7d\x7d]\x7d", .message "?"]

open EndSample in
theorem sampleRest_keeps : ∀ event ∈ sampleFailure :: sampleRest,
    ¬ event.Completes env.J sampleStream.setup := by
  unfold SseEvent.Completes SseEvent.Fails
  decide +kernel

open EndSample in
theorem failure_kept_sample : (StreamReader.chat.run env sampleStream.setup sampleStream.observed
    (sampleFailure :: sampleRest)).streamTerminal = .providerFailed := by
  have hKeeps : ∀ o, ∀ event ∈ sampleFailure :: sampleRest,
      StreamReader.chat.Keeps env sampleStream.setup o event :=
    fun _ event hEvent => ⟨fun _ => sampleRest_keeps event hEvent, fun _ h => h⟩
  have hKept := failure_kept env sampleStream.setup .chat sampleStream.observed
    (sampleFailure :: sampleRest) ⟨.openai, rfl⟩ rfl
    ⟨hKeeps _ _ (by decide), hKeeps _ _ (by decide), hKeeps _ _ (by decide), trivial⟩
  exact hKept.1 [sampleFailure] sampleRest rfl (by decide +kernel)

open EndSample in
/-- After an error of the provider `[DONE]` makes the stream complete. -/
theorem done_completes_failed : ¬ ∀ (env : Environment) (setup : RequestSetup)
    (reader : StreamReader) (o : Observed) (before after : List SseEvent),
    (reader.run env setup o before).streamTerminal = .providerFailed →
      (reader.run env setup o (before ++ after)).streamTerminal = .providerFailed := by
  intro h
  have hComplete := h env sampleStream.setup .chat sampleStream.observed
    [sampleFailure] [.message "[DONE]"] (by decide +kernel)
  exact absurd hComplete (by decide +kernel)

end KongRust.Ai

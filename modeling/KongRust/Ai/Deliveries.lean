import KongRust.Ai.Chunking

/-!
# An answer in chunks

What the client gets of an answer, with the usage and the estimate that are collected, does not
depend on the chunks of a stream. Another answer is put together from chunks that are read one by
one, each as a text of its own.
-/

namespace KongRust.Ai

open KongRust AiRequestState Transducer Observed

/-! ## The outcome of a body -/

def filterStep (env : Environment) (state : AiRequestState) (call : Call) :
    AiRequestState × List UInt8 :=
  let r := state.bodyFilter env call.1 call.2
  (r.1, r.2.getD [])

/-- What comes of an answer: the bytes that are let out, the usage, and the estimate. -/
structure Outcome where
  emitted : List UInt8
  usage : TokenUsage
  estimatedCompletionTokens : Option UInt64

def Outcome.of (r : AiRequestState × List UInt8) : Outcome :=
  ⟨r.2, r.1.observed.usage, r.1.observed.estimatedCompletionTokens⟩

def outcome (env : Environment) (state : AiRequestState) (earlier : List (Option (List UInt8)))
    (last : Option (List UInt8)) : Outcome :=
  .of (Transducer.run (filterStep env) state (calls earlier last))

def Frame.bytes (frame : Frame) : List UInt8 := Text.asBytes frame.text

theorem asBytes_join (frames : List Frame) :
    Text.asBytes (String.join (frames.map Frame.text)) = frames.flatMap Frame.bytes := by
  rw [Text.asBytes, String.toList_join, List.flatMap_assoc, List.flatMap_map]
  rfl

theorem calls_bytes (earlier : List (Option (List UInt8))) (last : Option (List UInt8)) :
    (calls earlier last).flatMap (fun call => call.1.getD []) =
      callBytes earlier ++ last.getD [] := by
  rw [calls, List.flatMap_append, List.flatMap_map, List.flatMap_singleton]
  rfl

/-! ## Streams -/

/-- One event of a translated stream, for the client of either API. -/
def translateEvent (env : Environment) (setup : RequestSetup) (o : Observed) (event : SseEvent) :
    Observed × List Frame :=
  if setup.responsesMode then o.responsesStreamEvent env setup event
  else o.chatStreamEvent env setup event

/-- A call of the filter for a translated stream, with the frames that it writes. -/
def translateCall (env : Environment) (state : AiRequestState) (call : Call) :
    AiRequestState × List Frame :=
  state.translateStream env
    (if state.setup.responsesMode then "responses_stream_utf8_decode" else "stream_utf8_decode")
    translateEvent call.1 call.2

section Stream

variable {env : Environment} {setup : RequestSetup} {earlier : List (Option (List UInt8))}
  {last : Option (List UInt8)} {text : List Char}

section

variable (h : run Utf8.step none (callBytes earlier ++ last.getD []) = (none, text.map some))
  (parser : Option SseParser) (o : Observed)
include h

open StreamDecoder in
theorem run_observeStream {observe : Environment → RequestSetup → Observed → SseEvent → Observed}
    (hFilter : ∀ decoder o body eos, bodyFilter env ⟨setup, decoder, o⟩ body eos =
      observeStream env observe ⟨setup, decoder, o⟩ body eos) :
    run (filterStep env) ⟨setup, after parser none [], o⟩ (calls earlier last) =
      (⟨setup, (after parser none text).flush.1,
        ((newEvents parser [] text ++ leftEvents parser text).foldl (observe env setup)
          o).finalizeStreamCompletionEstimate env setup⟩, callBytes earlier ++ last.getD []) := by
  let step := fun o event => (observe env setup o event, ([] : List UInt8))
  have hStep : ∀ (s : StreamDecoder × Observed) (call : Call),
      filterStep env ⟨setup, s.1, s.2⟩ call = (⟨setup, (streamCall noteUndecoded step
            (finalizeStreamCompletionEstimate env setup) s call).1.1,
          (streamCall noteUndecoded step (finalizeStreamCompletionEstimate env setup) s call).1.2⟩,
          call.1.getD []) := by
    intro s call
    simp only [filterStep, hFilter, observeStream, streamCall, step, run_silent]
  have hNote : ∀ (taken : StreamDecoder.Taken) (o : Observed), taken.invalid = false →
      taken.incomplete = false → noteUndecoded taken o = o := by
    intro taken o hInvalid hIncomplete
    simp [noteUndecoded, hInvalid, hIncomplete]
  have hRun := run_streamCall step (finalizeStreamCompletionEstimate env setup) hNote parser h o
  have hPass := run_pass (fun s : StreamDecoder × Observed =>
    (⟨setup, s.1, s.2⟩ : AiRequestState)) _ hStep (after parser none [], o) (calls earlier last)
  simp only [step, run_silent] at hRun hPass
  rw [hRun, calls_bytes] at hPass
  exact hPass

open StreamDecoder in
/-- A step that writes the frames of a translated stream in some way. -/
theorem run_translateCall {φ : Type} {step : AiRequestState → Call → AiRequestState × List φ}
    {write : Frame → List φ}
    (hWrite : ∀ decoder o call, step ⟨setup, decoder, o⟩ call =
      ((translateCall env ⟨setup, decoder, o⟩ call).1,
        (translateCall env ⟨setup, decoder, o⟩ call).2.flatMap write)) :
    let r := run (translateEvent env setup) o
      (newEvents parser [] text ++ leftEvents parser text)
    run step ⟨setup, after parser none [], o⟩ (calls earlier last) =
      (⟨setup, (after parser none text).flush.1, r.1.finishStream env setup⟩,
        r.2.flatMap write) := by
  intro r
  let component :=
    if setup.responsesMode then "responses_stream_utf8_decode" else "stream_utf8_decode"
  have hNote : ∀ (taken : StreamDecoder.Taken) (o : Observed), taken.invalid = false →
      taken.incomplete = false → noteUndecodedAs setup component taken o = o := by
    intro taken o hInvalid hIncomplete
    simp [noteUndecodedAs, hInvalid, hIncomplete]
  have hStep : ∀ (s : StreamDecoder × Observed) (call : Call), step ⟨setup, s.1, s.2⟩ call =
        (⟨setup, (streamCall (noteUndecodedAs setup component) (translateEvent env setup)
            (finishStream env setup) s call).1.1,
          (streamCall (noteUndecodedAs setup component) (translateEvent env setup)
            (finishStream env setup) s call).1.2⟩,
          (streamCall (noteUndecodedAs setup component) (translateEvent env setup)
            (finishStream env setup) s call).2.flatMap write) := by
    intro s call
    rw [hWrite]
    rfl
  have hRun := run_streamCall (translateEvent env setup) (finishStream env setup) hNote parser h o
  have hMap := run_map (fun s : StreamDecoder × Observed =>
    (⟨setup, s.1, s.2⟩ : AiRequestState)) _ hStep (after parser none [], o) (calls earlier last)
  rw [hRun] at hMap
  exact hMap

end

theorem emptied_bytes (body : Option (List UInt8)) (output : String) :
    (if output = "" then body.map fun _ => [] else some (Text.asBytes output)).getD [] =
      Text.asBytes output := by
  split
  · rename_i hEmpty
    rw [hEmpty]
    cases body <;> rfl
  · rfl

theorem filterStep_translate (hAnthropic : setup.anthropicPassThrough = false)
    (hResponses : setup.responsesPassThrough = false) (hStream : setup.streamMode = true)
    (decoder : StreamDecoder) (o : Observed) (call : Call) :
    filterStep env ⟨setup, decoder, o⟩ call = ((translateCall env ⟨setup, decoder, o⟩ call).1,
        (translateCall env ⟨setup, decoder, o⟩ call).2.flatMap Frame.bytes) := by
  rw [← asBytes_join]
  cases hMode : setup.responsesMode with
  | true =>
    have hEvent : translateEvent env setup = responsesStreamEvent env setup := by
      funext o event
      simp [translateEvent, hMode]
    simp [filterStep, bodyFilter, translateCall, translateStream,
      hAnthropic, hResponses, hStream, hMode, hEvent]
  | false =>
    have hEvent : translateEvent env setup = chatStreamEvent env setup := by
      funext o event
      simp [translateEvent, hMode]
    simp only [filterStep, bodyFilter, translateCall, translateStream,
      hAnthropic, hResponses, hStream, hMode, hEvent, Bool.false_eq_true, if_false, if_true,
      emptied_bytes]

open StreamDecoder in
/-- The outcome of a stream is that of its bytes. -/
theorem outcome_stream {env : Environment} {setup : RequestSetup}
    (hStream : setup.streamMode = true)
    {earlier earlier' : List (Option (List UInt8))} {last last' : Option (List UInt8)}
    {text : List Char}
    (h : run Utf8.step none (callBytes earlier ++ last.getD []) = (none, text.map some))
    (hSame : callBytes earlier' ++ last'.getD [] = callBytes earlier ++ last.getD [])
    (parser : Option SseParser) (o : Observed) :
    outcome env ⟨setup, after parser none [], o⟩ earlier last =
      outcome env ⟨setup, after parser none [], o⟩ earlier' last' := by
  have h' := hSame ▸ h
  unfold outcome
  cases hAnthropic : setup.anthropicPassThrough with
  | true =>
    have hFilter : ∀ decoder o body eos, bodyFilter env ⟨setup, decoder, o⟩ body eos =
          observeStream env anthropicPassThroughEvent
          ⟨setup, decoder, o⟩ body eos := by
      intro decoder o body eos
      simp [bodyFilter, hAnthropic, hStream]
    rw [run_observeStream h _ _ hFilter, run_observeStream h' _ _ hFilter, hSame]
  | false =>
    cases hResponses : setup.responsesPassThrough with
    | true =>
      have hFilter : ∀ decoder o body eos, bodyFilter env ⟨setup, decoder, o⟩ body eos =
            observeStream env responsesPassThroughEvent
              ⟨setup, decoder, o⟩ body eos := by
        intro decoder o body eos
        simp [bodyFilter, hAnthropic, hResponses, hStream]
      rw [run_observeStream h _ _ hFilter, run_observeStream h' _ _ hFilter, hSame]
    | false =>
      have hWrite : ∀ decoder o call, filterStep env ⟨setup, decoder, o⟩ call = _ :=
        filterStep_translate hAnthropic hResponses hStream
      rw [run_translateCall h _ _ hWrite, run_translateCall h' _ _ hWrite]

end Stream

/-! ## Answers that are put together -/

/-- The text that is put together from chunks that are read one by one. -/
def bodyText (chunks : List (Option (List UInt8))) : String :=
  String.ofList (chunks.flatMap fun chunk => Utf8.lossy (chunk.getD []))

namespace Observed

theorem bufferChunk_eq (o : Observed) (chunk : Option (List UInt8)) :
    ∃ buffer, o.bufferChunk chunk = { o with responseBuffer := buffer } ∧
      buffer.getD "" = o.responseBuffer.getD "" ++ String.ofList (Utf8.lossy (chunk.getD [])) := by
  cases chunk with
  | none => exact ⟨o.responseBuffer, rfl, (String.append_empty).symm⟩
  | some chunk => exact ⟨_, rfl, rfl⟩

theorem foldl_bufferChunk (chunks : List (Option (List UInt8))) (o : Observed) :
    ∃ buffer, chunks.foldl (fun o chunk => o.bufferChunk chunk) o =
        { o with responseBuffer := buffer } ∧
      buffer.getD "" = o.responseBuffer.getD "" ++ bodyText chunks := by
  induction chunks generalizing o with
  | nil => exact ⟨o.responseBuffer, rfl, (String.append_empty).symm⟩
  | cons chunk chunks ih =>
    obtain ⟨first, hFirst, hText⟩ := o.bufferChunk_eq chunk
    obtain ⟨buffer, hRest, hBuffer⟩ := ih { o with responseBuffer := first }
    refine ⟨buffer, by rw [List.foldl_cons, hFirst, hRest], ?_⟩
    have hBody : bodyText (chunk :: chunks) =
        String.ofList (Utf8.lossy (chunk.getD [])) ++ bodyText chunks := by
      rw [bodyText, List.flatMap_cons, String.ofList_append]
      rfl
    rw [hBuffer, hText, hBody, String.append_assoc]

end Observed

section Whole

variable {env : Environment} {setup : RequestSetup}

theorem run_observeBody {observe : Environment → RequestSetup → Observed → Observed}
    (hFilter : ∀ decoder o body eos, bodyFilter env ⟨setup, decoder, o⟩ body eos =
      observeBody env observe ⟨setup, decoder, o⟩ body eos)
    (earlier : List (Option (List UInt8))) (last : Option (List UInt8)) (decoder : StreamDecoder)
    (o : Observed) :
    run (filterStep env) ⟨setup, decoder, o⟩ (calls earlier last) =
      (⟨setup, decoder, observe env setup
        ((earlier ++ [last]).foldl (fun o chunk => o.bufferChunk chunk) o)⟩,
        callBytes earlier ++ last.getD []) := by
  induction earlier generalizing o with
  | nil =>
    simp [calls, callBytes, run, filterStep, hFilter, observeBody]
  | cons chunk earlier ih =>
    have hCalls : calls (chunk :: earlier) last = (chunk, false) :: calls earlier last := rfl
    have hCall : filterStep env ⟨setup, decoder, o⟩ (chunk, false) =
        (⟨setup, decoder, o.bufferChunk chunk⟩, chunk.getD []) := by
      simp [filterStep, hFilter, observeBody]
    rw [hCalls, run, hCall, ih]
    simp [callBytes]

theorem run_translateBody {translate : Environment → RequestSetup → Observed → Observed × String}
    (hFilter : ∀ decoder o body eos, bodyFilter env ⟨setup, decoder, o⟩ body eos =
      translateBody env translate ⟨setup, decoder, o⟩ body eos)
    (earlier : List (Option (List UInt8))) (last : Option (List UInt8)) (decoder : StreamDecoder)
    (o : Observed) :
    let r := translate env setup
      ((earlier ++ [last]).foldl (fun o chunk => o.bufferChunk chunk) o)
    run (filterStep env) ⟨setup, decoder, o⟩ (calls earlier last) =
      (⟨setup, decoder, r.1⟩, Text.asBytes r.2) := by
  induction earlier generalizing o with
  | nil => simp [calls, run, filterStep, hFilter, translateBody]
  | cons chunk earlier ih =>
    have hCalls : calls (chunk :: earlier) last = (chunk, false) :: calls earlier last := rfl
    have hCall : filterStep env ⟨setup, decoder, o⟩ (chunk, false) =
        (⟨setup, decoder, o.bufferChunk chunk⟩, []) := by
      simp [filterStep, hFilter, translateBody]
    rw [hCalls, run, hCall, ih]
    simp

end Whole

/-! ### What goes through -/

variable (J : JsonText)

/-- The usage of a response that goes through, and the text of which the completion is estimated. -/
def responsesReading (J : JsonText) (text : String) : TokenUsage × Option String :=
  match readJson J text with
  | none => (.default, none)
  | some data =>
    let usage := ((data.get "usage").map responsesTokenUsage).getD .default
    (usage, if usage.completionTokens.isSome then none
      else (data.get "output").map responsesOutput)

/-- The usage of a message that goes through, and the text of which the completion is estimated. -/
def anthropicReading (J : JsonText) (text : String) : TokenUsage × Option String :=
  let usage := (AnthropicDriver.extractUsage J text).getD .default
  (usage, if usage.completionTokens.isSome then none
    else (readJson J text).map fun value => ((value.get "content").map contentText).getD "")

def readingOutcome (emitted : List UInt8) (tiktoken : Tiktoken) (model : String)
    (reading : TokenUsage × Option String) : Outcome :=
  ⟨emitted, reading.1, reading.2.map (estimateCompletion tiktoken model)⟩

theorem reading_eq_of_outcome {emitted : List UInt8} {model : String}
    {a b : TokenUsage × Option String}
    (h : ∀ tiktoken, readingOutcome emitted tiktoken model a =
      readingOutcome emitted tiktoken model b) : a = b := by
  obtain ⟨usage, told⟩ := a
  obtain ⟨usage', told'⟩ := b
  have hUsage : usage = usage' := congrArg Outcome.usage (h fun _ _ => none)
  have hTold := congrArg Outcome.estimatedCompletionTokens
    (h fun _ text => some (if some text = told then 1 else 0))
  simp only [readingOutcome] at hTold
  cases told with
  | none =>
    cases told' with
    | none => rw [hUsage]
    | some text' => cases hTold
  | some text =>
    cases told' with
    | none => cases hTold
    | some text' =>
      simp only [Option.map_some, Option.some.injEq, estimateCompletion, if_true,
        Option.getD_some] at hTold
      split at hTold
      · rename_i hText
        rw [hUsage, hText]
      · exact absurd hTold (by decide)

section Reading

variable {env : Environment} {setup : RequestSetup} {o : Observed} (hUsage : o.usage = .default)
  (hEstimate : o.estimatedCompletionTokens = none)

include hUsage hEstimate

theorem responsesPassThroughBody_outcome (hEmpty : ∀ v, env.J.parse "" ≠ .ok v)
    (buffer : Option String) (emitted : List UInt8) :
    let o' := responsesPassThroughBody env setup { o with responseBuffer := buffer }
    Outcome.mk emitted o'.usage o'.estimatedCompletionTokens =
      readingOutcome emitted env.tiktoken setup.modelName
        (responsesReading env.J (buffer.getD "")) := by
  have hRead : buffer.bind (readJson env.J) = readJson env.J (buffer.getD "") := by
    cases buffer with
    | none =>
      have hNone : readJson env.J "" = none := by
        unfold readJson
        cases hParse : env.J.parse "" with
        | error e => rfl
        | ok v => exact absurd hParse (hEmpty v)
      exact hNone.symm
    | some text => rfl
  intro o'
  simp only [o', responsesPassThroughBody, readingOutcome, responsesReading, hRead]
  cases readJson env.J (buffer.getD "") with
  | none => simp [hUsage, hEstimate]
  | some data =>
    simp only [setUsage, updateResponsesCompletionEstimate, hUsage]
    split
    · simp [hEstimate]
    · cases data.get "output" <;> simp [hEstimate]

theorem anthropicPassThroughBody_outcome
    (hDriver : setup.driver.extractUsage = AnthropicDriver.extractUsage env.J)
    (buffer : Option String) (emitted : List UInt8) :
    let o' := anthropicPassThroughBody env setup { o with responseBuffer := buffer }
    Outcome.mk emitted o'.usage o'.estimatedCompletionTokens =
      readingOutcome emitted env.tiktoken setup.modelName
        (anthropicReading env.J (buffer.getD "")) := by
  intro o'
  simp only [o', anthropicPassThroughBody, readingOutcome, anthropicReading,
    takeBuffer, setUsage, hUsage, hDriver]
  split
  · simp [hEstimate]
  · cases readJson env.J (buffer.getD "") <;> simp [hEstimate]

end Reading

/-! ### What is translated -/

namespace Observed

@[simp] theorem markResponseTransformError_usage (setup : RequestSetup) (component : String)
    (o : Observed) : (o.markResponseTransformError setup component).usage = o.usage := by
  unfold markResponseTransformError
  split
  · split <;> rfl
  · rfl

@[simp] theorem updateChatCompletionEstimate_usage (env : Environment) (setup : RequestSetup)
    (response : ChatResponse) (o : Observed) :
    (o.updateChatCompletionEstimate env setup response).usage = o.usage := by
  simp only [updateChatCompletionEstimate]
  split
  · rfl
  · split <;> rfl

def wholeAnswer (env : Environment) (setup : RequestSetup) (o : Observed) : Observed × String :=
  if setup.responsesMode then o.responsesBody env setup else o.chatBody env setup

theorem wholeAnswer_buffer (env : Environment) (setup : RequestSetup) (o : Observed)
    (buffer : Option String) : wholeAnswer env setup { o with responseBuffer := buffer } =
      wholeAnswer env setup { o with responseBuffer := some (buffer.getD "") } := rfl

theorem wholeAnswer_usage (env : Environment) (setup : RequestSetup) (o : Observed) :
    (wholeAnswer env setup o).1.usage =
      (setup.driver.extractUsage (o.responseBuffer.getD "")).getD o.usage := by
  unfold wholeAnswer
  split
  · simp only [responsesBody, takeBuffer, setUsage]
    split <;> simp
  · simp only [chatBody, takeBuffer, setUsage]
    split <;> simp

end Observed

/-- A driver that knows one text from all others. -/
def tellingDriver (known : String) : AiDriver where
  providerType := ""
  transformResponse := fun _ _ _ => .error (.serializationError "")
  transformStreamEvent := fun _ => .ok none
  extractUsage := fun text =>
    if text = known then some { TokenUsage.default with invalid := true } else none
  extractStreamUsage := fun _ => none

/-! ## The chunks of an answer -/

variable (L : Libraries)

def received (L : Libraries) (chosen : AiDriver) (request : AccessedRequest)
    (responseStatus : Option Nat) (contentType : Option String) : AiRequestState :=
  (AiRequestState.access L chosen request).headerFilter responseStatus contentType

/-- The answer is taken for a stream: it was asked for, or its media type says so. -/
def AccessedRequest.isStream (request : AccessedRequest) (contentType : Option String) : Bool :=
  request.streamMode || (streamFormat contentType).isSome

open StreamDecoder in
theorem received_decoder (chosen : AiDriver) (request : AccessedRequest)
    (responseStatus : Option Nat) (contentType : Option String) :
    ∃ parser, (received L chosen request responseStatus contentType).decoder =
      after parser none [] := by
  have hNew : ∀ format, (SseParser.new format).feed [] = (SseParser.new format, []) := by
    intro format
    cases format <;> rfl
  refine ⟨(received L chosen request responseStatus contentType).decoder.sseParser, ?_⟩
  unfold received headerFilter
  cases streamFormat contentType with
  | some format => simp [after, hNew, Utf8.kept, access]
  | none =>
    obtain ⟨path, modelName, streamMode, responseId, lifecycle⟩ := request
    cases path <;> cases streamMode <;> simp [access, after, Utf8.kept, hNew]

theorem received_streamMode (chosen : AiDriver) (request : AccessedRequest)
    (responseStatus : Option Nat) (contentType : Option String) :
    (received L chosen request responseStatus contentType).setup.streamMode =
      request.isStream contentType := by
  unfold received headerFilter AccessedRequest.isStream
  cases streamFormat contentType with
  | some format => simp
  | none => simp [access]

def answeredSetup (L : Libraries) (chosen : AiDriver) (request : AccessedRequest)
    (responseStatus : Option Nat) : RequestSetup :=
  { (AiRequestState.access L chosen request).setup with responseStatus := responseStatus }

theorem received_whole {request : AccessedRequest} {contentType : Option String}
    (h : request.isStream contentType = false) (L : Libraries) (chosen : AiDriver)
    (responseStatus : Option Nat) :
    received L chosen request responseStatus contentType =
      { access L chosen request with
        setup := answeredSetup L chosen request responseStatus } := by
  have hFormat : streamFormat contentType = none := by
    cases hEq : streamFormat contentType with
    | none => rfl
    | some format => simp [AccessedRequest.isStream, hEq] at h
  unfold received headerFilter
  rw [hFormat]
  rfl

/-- No chunk of an answer that is put together cuts a character. What goes through may have one cut
where it is not read for its usage and its text; a driver may read anything. -/
def AccessPath.Decodes (J : JsonText) (path : AccessPath) (chunks : List (Option (List UInt8))) :
    Prop :=
  (∀ chunk ∈ chunks, Utf8.Valid (chunk.getD [])) ∨
    let whole := bodyText [some (callBytes chunks)]
    match path with
    | .responsesPassThrough => responsesReading J (bodyText chunks) = responsesReading J whole
    | .anthropicPassThrough => anthropicReading J (bodyText chunks) = anthropicReading J whole
    | .translation .. => False

theorem callBytes_concat (earlier : List (Option (List UInt8))) (last : Option (List UInt8)) :
    callBytes (earlier ++ [last]) = callBytes earlier ++ last.getD [] := by
  rw [callBytes, List.flatMap_append, List.flatMap_singleton]
  rfl

section Answer

variable (env : Environment) {request : AccessedRequest} {contentType : Option String}
  (responseStatus : Option Nat) (earlier : List (Option (List UInt8)))
  (last : Option (List UInt8)) (chosen : AiDriver)

theorem access_buffered (request : AccessedRequest) :
    ∃ buffer, (earlier ++ [last]).foldl (fun o chunk => o.bufferChunk chunk)
        (access env.toLibraries chosen request).observed =
          { (access env.toLibraries chosen request).observed with
            responseBuffer := buffer } ∧
      buffer.getD "" = bodyText (earlier ++ [last]) := by
  obtain ⟨buffer, hFold, hText⟩ := foldl_bufferChunk (earlier ++ [last])
    (access env.toLibraries chosen request).observed
  exact ⟨buffer, hFold, hText.trans String.empty_append⟩

variable (hWhole : request.isStream contentType = false)

include hWhole

theorem outcome_responsesPassThrough (hEmpty : ∀ v, env.J.parse "" ≠ .ok v)
    (hPath : request.path = .responsesPassThrough) :
    outcome env (received env.toLibraries chosen request responseStatus contentType) earlier last =
      readingOutcome (callBytes (earlier ++ [last])) env.tiktoken request.modelName
        (responsesReading env.J (bodyText (earlier ++ [last]))) := by
  have hMode : request.streamMode = false := (Bool.or_eq_false_iff.mp hWhole).1
  obtain ⟨buffer, hFold, hText⟩ := access_buffered env earlier last chosen request
  have hFilter : ∀ decoder o body eos, bodyFilter env
      ⟨answeredSetup env.toLibraries chosen request responseStatus, decoder, o⟩ body eos =
        observeBody env responsesPassThroughBody
          ⟨answeredSetup env.toLibraries chosen request responseStatus, decoder, o⟩ body eos := by
    intros
    simp [bodyFilter, answeredSetup, access, hPath, hMode]
  rw [received_whole hWhole, outcome, run_observeBody hFilter, hFold, ← hText, callBytes_concat]
  exact responsesPassThroughBody_outcome rfl rfl hEmpty buffer _

theorem outcome_anthropicPassThrough (hPath : request.path = .anthropicPassThrough) :
    outcome env (received env.toLibraries chosen request responseStatus contentType) earlier last =
      readingOutcome (callBytes (earlier ++ [last])) env.tiktoken request.modelName
        (anthropicReading env.J (bodyText (earlier ++ [last]))) := by
  have hMode : request.streamMode = false := (Bool.or_eq_false_iff.mp hWhole).1
  obtain ⟨buffer, hFold, hText⟩ := access_buffered env earlier last chosen request
  have hFilter : ∀ decoder o body eos, bodyFilter env
      ⟨answeredSetup env.toLibraries chosen request responseStatus, decoder, o⟩ body eos =
        observeBody env anthropicPassThroughBody
          ⟨answeredSetup env.toLibraries chosen request responseStatus, decoder, o⟩ body eos := by
    intros
    simp [bodyFilter, answeredSetup, access, hPath, hMode]
  have hDriver : (answeredSetup env.toLibraries chosen request responseStatus).driver.extractUsage =
      AnthropicDriver.extractUsage env.J := by
    simp [answeredSetup, access, AccessPath.driver, hPath, anthropicDriver]
  rw [received_whole hWhole, outcome, run_observeBody hFilter, hFold, ← hText, callBytes_concat]
  exact anthropicPassThroughBody_outcome rfl rfl hDriver buffer _

theorem outcome_translation {clientProtocol : ClientProtocol} {responsesMode : Bool}
    {strippedTools : Option (List String)}
    (hPath : request.path = .translation clientProtocol responsesMode strippedTools) :
    let r := wholeAnswer env (answeredSetup env.toLibraries chosen request responseStatus)
      { (access env.toLibraries chosen request).observed with
        responseBuffer := some (bodyText (earlier ++ [last])) }
    outcome env (received env.toLibraries chosen request responseStatus contentType) earlier last =
      ⟨Text.asBytes r.2, r.1.usage, r.1.estimatedCompletionTokens⟩ := by
  have hMode : request.streamMode = false := (Bool.or_eq_false_iff.mp hWhole).1
  obtain ⟨buffer, hFold, hText⟩ := access_buffered env earlier last chosen request
  have hFilter : ∀ decoder o body eos, bodyFilter env
      ⟨answeredSetup env.toLibraries chosen request responseStatus, decoder, o⟩ body eos =
        translateBody env wholeAnswer
          ⟨answeredSetup env.toLibraries chosen request responseStatus, decoder, o⟩ body eos := by
    intros
    cases responsesMode <;> simp [bodyFilter, answeredSetup, access, hPath, hMode,
        AccessPath.responsesMode, translateBody, wholeAnswer]
  intro r
  rw [received_whole hWhole, outcome, run_translateBody hFilter, hFold, wholeAnswer_buffer, hText]
  rfl

end Answer

theorem bodyText_eq_iff {chunks : List (Option (List UInt8))} (h : Utf8.Valid (callBytes chunks)) :
    bodyText chunks = bodyText [some (callBytes chunks)] ↔
      ∀ chunk ∈ chunks, Utf8.Valid (chunk.getD []) := by
  obtain ⟨text, hText⟩ := h
  have hFlat : (chunks.map fun chunk => chunk.getD []).flatten = callBytes chunks := by
    rw [callBytes, List.flatMap_def]
  have hLossy := Utf8.lossy_chunks_iff (hFlat ▸ hText)
  rw [List.flatMap_map] at hLossy
  have hWhole : bodyText [some (callBytes chunks)] = String.ofList text := by
    rw [bodyText, List.flatMap_singleton, Option.getD_some, Utf8.lossy_of_ok hText]
  rw [hWhole, bodyText, String.ofList_inj, hLossy, List.forall_mem_map]

theorem bodyText_eq_of_outcome {env : Environment} {request : AccessedRequest}
    {contentType : Option String} (hWhole : request.isStream contentType = false)
    {clientProtocol : ClientProtocol} {responsesMode : Bool}
    {strippedTools : Option (List String)}
    (hPath : request.path = .translation clientProtocol responsesMode strippedTools)
    {responseStatus : Option Nat} {earlier earlier' : List (Option (List UInt8))}
    {last last' : Option (List UInt8)}
    (h : ∀ chosen,
      let state := received env.toLibraries chosen request responseStatus contentType
      outcome env state earlier last = outcome env state earlier' last') :
    bodyText (earlier ++ [last]) = bodyText (earlier' ++ [last']) := by
  have hTold := h (tellingDriver (bodyText (earlier ++ [last])))
  dsimp only at hTold
  rw [outcome_translation env responseStatus earlier last _ hWhole hPath,
    outcome_translation env responseStatus earlier' last' _ hWhole hPath] at hTold
  have hUsage := congrArg Outcome.usage hTold
  dsimp only at hUsage
  rw [wholeAnswer_usage, wholeAnswer_usage] at hUsage
  simp only [answeredSetup, access, AccessPath.driver, hPath, tellingDriver,
    Option.getD_some, if_true] at hUsage
  split at hUsage
  · rename_i hEq
    exact hEq.symm
  · exact absurd (congrArg TokenUsage.invalid hUsage) (by decide)

/-- What comes of an answer does not depend on its chunks, whatever the driver and the encodings
are, if and only if it is a stream or its chunks read as the whole does. -/
theorem same_outcome_iff (env : Environment) (hEmpty : ∀ v, env.J.parse "" ≠ .ok v)
    (request : AccessedRequest) (responseStatus : Option Nat) (contentType : Option String)
    (earlier : List (Option (List UInt8))) (last : Option (List UInt8))
    (hText : Utf8.Valid (callBytes (earlier ++ [last]))) :
    (∀ (chosen : AiDriver) (tiktoken : Tiktoken),
      let env := { env with tiktoken := tiktoken }
      let state := received env.toLibraries chosen request responseStatus contentType
      outcome env state earlier last =
        outcome env state [] (some (callBytes (earlier ++ [last])))) ↔
      request.isStream contentType = true ∨ request.path.Decodes env.J (earlier ++ [last]) := by
  cases hStream : request.isStream contentType with
  | true =>
    refine iff_of_true ?_ (Or.inl rfl)
    intro chosen tiktoken env state
    obtain ⟨text, hText⟩ := hText
    have hRun := Utf8.fromUtf8_ok_iff.mp hText
    rw [callBytes_concat] at hRun
    obtain ⟨parser, hDecoder⟩ :=
      received_decoder env.toLibraries chosen request responseStatus contentType
    have hMode := (received_streamMode env.toLibraries chosen request responseStatus
      contentType).trans hStream
    have hSame : outcome env ⟨state.setup, .after parser none [], state.observed⟩ earlier last =
        outcome env ⟨state.setup, .after parser none [], state.observed⟩ []
          (some (callBytes (earlier ++ [last]))) :=
      outcome_stream hMode hRun (show callBytes [] ++ callBytes (earlier ++ [last]) = _ from
        callBytes_concat earlier last) parser state.observed
    rw [← hDecoder] at hSame
    exact hSame
  | false =>
    have hWholeBytes : callBytes [some (callBytes (earlier ++ [last]))] =
        callBytes (earlier ++ [last]) := List.flatMap_singleton ..
    have hDecodes := bodyText_eq_iff hText
    cases hPath : request.path with
    | responsesPassThrough =>
      have hOutcome := fun chosen (tiktoken : Tiktoken) earlier last =>
        outcome_responsesPassThrough { env with tiktoken := tiktoken } responseStatus earlier last
          chosen hStream hEmpty hPath
      simp only [hOutcome, List.nil_append, hWholeBytes, Bool.false_eq_true, false_or,
        AccessPath.Decodes, ← hDecodes]
      constructor
      · intro h
        exact .inr (reading_eq_of_outcome (h (tellingDriver "")))
      · rintro (h | h) _ tiktoken
        · rw [h]
        · rw [h]
    | anthropicPassThrough =>
      have hOutcome := fun chosen (tiktoken : Tiktoken) earlier last =>
        outcome_anthropicPassThrough { env with tiktoken := tiktoken } responseStatus earlier last
          chosen hStream hPath
      simp only [hOutcome, List.nil_append, hWholeBytes, Bool.false_eq_true, false_or,
        AccessPath.Decodes, ← hDecodes]
      constructor
      · intro h
        exact .inr (reading_eq_of_outcome (h (tellingDriver "")))
      · rintro (h | h) _ tiktoken
        · rw [h]
        · rw [h]
    | translation clientProtocol responsesMode strippedTools =>
      simp only [Bool.false_eq_true, false_or, or_false, AccessPath.Decodes, ← hDecodes]
      constructor
      · intro h
        exact bodyText_eq_of_outcome hStream hPath fun chosen => h chosen env.tiktoken
      · intro h chosen tiktoken
        rw [outcome_translation _ responseStatus earlier last chosen hStream hPath,
          outcome_translation _ responseStatus [] _ chosen hStream hPath, List.nil_append, h]

namespace SplitSample

def env : Environment where
  J := .compact
  refusal := fun _ => ""
  toLowercase := id
  tiktoken := fun _ _ => none
  driverUuid := "1"
  responseUuid := "2"

def request : AccessedRequest where
  path := .translation .openAi false none
  modelName := "gpt-4o"
  streamMode := false
  responseId := "resp_1"
  lifecycle := ⟨"1", some 500, none⟩

/-- The character `é` in two chunks. -/
def chunks : List (Option (List UInt8)) := [some [0xC3], some [0xA9]]

theorem valid : Utf8.Valid (callBytes chunks) := ⟨['é'], rfl⟩

end SplitSample

open SplitSample in
theorem same_outcome_fails_inside_character : ¬ ∀ (chosen : AiDriver) (tiktoken : Tiktoken),
      let env := { env with tiktoken := tiktoken }
      let state := received env.toLibraries chosen request (some 500) (some "text/plain")
      outcome env state [some [0xC3]] (some [0xA9]) =
        outcome env state [] (some (callBytes chunks)) := by
  intro h
  have hDecodes := (same_outcome_iff env nofun request (some 500) (some "text/plain")
    [some [0xC3]] (some [0xA9]) valid).mp h
  rcases hDecodes with hStream | hValid | hFalse
  · exact absurd hStream (by decide)
  · obtain ⟨text, hText⟩ := hValid (some [0xC3]) List.mem_cons_self
    cases hText
  · exact hFalse

open SplitSample in
/-- An error of the provider whose text is `é` reaches the client as two replacement characters. -/
theorem split_character_outcome :
    let state := received env.toLibraries (openaiDriver env.toLibraries) request (some 500)
      (some "text/plain")
    Utf8.Valid (callBytes chunks) ∧ (outcome env state [some [0xC3]] (some [0xA9])).emitted =
        [0xEF, 0xBF, 0xBD, 0xEF, 0xBF, 0xBD] ∧
      (outcome env state [] (some (callBytes chunks))).emitted = [0xC3, 0xA9] ∧
      outcome env state [some [0xC3]] (some [0xA9]) ≠
        outcome env state [] (some (callBytes chunks)) := by
  intro state
  have hSplit : (outcome env state [some [0xC3]] (some [0xA9])).emitted =
      [0xEF, 0xBF, 0xBD, 0xEF, 0xBF, 0xBD] := by decide
  have hWhole : (outcome env state [] (some (callBytes chunks))).emitted = [0xC3, 0xA9] := by
    decide
  refine ⟨valid, hSplit, hWhole, fun h => ?_⟩
  rw [h, hWhole] at hSplit
  exact absurd hSplit (by decide)

end KongRust.Ai

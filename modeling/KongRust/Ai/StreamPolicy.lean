import KongRust.Ai.Transparency

/-!
# The stream policy

`response_streaming` says whether a client is answered by a stream. The stream mode that the
filters go by, and what the provider is asked for, follow it on every way but two: a responses
request that goes to OpenAI as it is, and an endpoint of Gemini that a configuration fixes.
-/

namespace KongRust

open Fallible

/-! ## The fields of a body -/

namespace Ai.Upstreams

theorem get_optionalField (key other : String) (field : Option Json) :
    (Json.object (optionalField other field)).get key = if other == key then field else none := by
  cases field with
  | none => exact (ite_self none).symm
  | some value => cases hKey : other == key <;> simp [optionalField, Json.get, hKey]

theorem get_of_not_mem {fields : List (String × Json)} {key : String}
    (h : ∀ field ∈ fields, field.1 ≠ key) : (Json.object fields).get key = none := by
  change Option.map Prod.snd (fields.find? fun field => field.1 == key) = none
  have hNone : (fields.find? fun field => field.1 == key) = none := by
    apply List.find?_eq_none.mpr
    intro field hField hKey
    exact h field hField (beq_iff_eq.mp hKey)
  rw [hNone]
  rfl

theorem streamFlag_of_get {body : Json} {stream : Option Bool}
    (h : body.get "stream" = stream.map .bool) : streamFlag body = (stream == some true) := by
  unfold streamFlag
  rw [h]
  cases stream with
  | none | some flag => rfl

variable {request : ChatRequest}

theorem get_stream_json (h : ∀ field ∈ request.extra, field.1 ≠ "stream") :
    request.json.get "stream" = request.stream.map .bool := by
  unfold ChatRequest.json
  simp only [Json.get_append, get_optionalField, get_of_not_mem h]
  cases request.stream with
  | none | some flag => rfl

theorem streamFlag_openAiBody (h : ∀ field ∈ request.extra, field.1 ≠ "stream") :
    streamFlag (openAiBody request) = (request.stream == some true) := by
  apply streamFlag_of_get
  unfold openAiBody
  by_cases hStream : request.stream = some true
  · rw [if_pos hStream]
    exact get_stream_json h
  · rw [if_neg hStream]
    exact get_stream_json h

theorem streamFlag_anthropicBody (J : JsonText) (request : ChatRequest) :
    streamFlag (anthropicBody J request) = (request.stream == some true) := by
  apply streamFlag_of_get
  unfold anthropicBody
  simp only [Json.get_append, get_optionalField]
  cases request.stream with
  | none | some flag => rfl

/-! ## The endpoints of Gemini -/

variable {path : String}

theorem streamPath_of_query (h : '?' ∈ path.toList) (more : String) :
    streamPath (path ++ more) = streamPath path := by
  have hShort : ¬ (path.toList.takeWhile (· != '?')).length = path.toList.length := by
    intro hLength
    have hAll := List.takeWhile_eq_self_iff.mp
      ((List.takeWhile_prefix _).eq_of_length hLength) '?' h
    exact absurd hAll (by decide)
  unfold streamPath
  rw [String.toList_append, List.takeWhile_append, if_neg hShort]

theorem streamPath_append {more : String} (h : '?' ∉ path.toList) :
    streamPath (path ++ more) = ":streamGenerateContent".toList.isSuffixOf
      (path.toList ++ more.toList.takeWhile (· != '?')) := by
  have hAll : ∀ c ∈ path.toList, (c != '?') = true := fun c hMem =>
    bne_iff_ne.mpr fun hSame => h (hSame ▸ hMem)
  unfold streamPath
  rw [String.toList_append, List.takeWhile_append_of_pos hAll]

theorem streamPath_stream (h : '?' ∉ path.toList) (query : String) :
    streamPath (path ++ geminiMethod true ++ query) = true := by
  have hQuery : '?' ∈ (path ++ geminiMethod true).toList := by
    rw [String.toList_append]
    exact List.mem_append_right _ (by decide)
  rw [streamPath_of_query hQuery, streamPath_append h]
  exact List.isSuffixOf_iff_suffix.mpr (List.suffix_append _ _)

theorem streamPath_generate {query : String} (h : '?' ∉ path.toList)
    (hQuery : query = "" ∨ query.toList.head? = some '?') :
    streamPath (path ++ geminiMethod false ++ query) = false := by
  have hAll : (geminiMethod false).toList.all (· != '?') = true := rfl
  have hCut : query.toList.takeWhile (· != '?') = [] := by
    rcases hQuery with rfl | hHead
    · rfl
    · obtain ⟨rest, hRest⟩ := List.head?_eq_some_iff.mp hHead
      rw [hRest]
      rfl
  rw [String.append_assoc, streamPath_append h, String.toList_append,
    List.takeWhile_append_of_pos (List.all_eq_true.mp hAll), hCut, List.append_nil]
  -- one of the two methods would end with the other
  apply Bool.eq_false_iff.mpr
  intro hSuffix
  have hEnds := List.suffix_of_suffix_length_le (List.suffix_append _ _)
    (List.isSuffixOf_iff_suffix.mp hSuffix) (show (geminiMethod false).toList.length ≤
      ":streamGenerateContent".toList.length by decide)
  exact absurd hEnds (by decide)

theorem withKey_eq (auth : AuthConfig) (path : String) :
    ∃ query, withKey auth path = path ++ query ∧
      ('?' ∉ path.toList → query = "" ∨ query.toList.head? = some '?') := by
  unfold withKey
  cases auth.paramValue with
  | none => exact ⟨"", (String.append_empty).symm, fun _ => .inl rfl⟩
  | some value =>
    refine ⟨(if Text.contains '?' path then "&" else "?") ++ auth.paramName.getD "key" ++ "=" ++
      value, by simp only [String.append_assoc], fun hNone => .inr ?_⟩
    have hContains : Text.contains '?' path = false :=
      Bool.eq_false_iff.mpr fun hMem => hNone (List.contains_iff_mem.mp hMem)
    rw [hContains]
    simp [String.toList_append]

theorem streamPath_withKey (auth : AuthConfig) (path : String) (stream : Bool) :
    streamPath (withKey auth (path ++ geminiMethod stream)) =
      if Text.contains '?' path then streamPath path else stream := by
  obtain ⟨query, hPath, hQuery⟩ := withKey_eq auth (path ++ geminiMethod stream)
  rw [hPath]
  cases hContains : Text.contains '?' path with
  | true =>
    rw [if_pos rfl, String.append_assoc]
    exact streamPath_of_query (List.contains_iff_mem.mp hContains) _
  | false =>
    rw [if_neg Bool.false_ne_true]
    have hNone : '?' ∉ path.toList := fun hMem =>
      Bool.false_ne_true (hContains.symm.trans (List.contains_iff_mem.mpr hMem))
    cases stream with
    | true => exact streamPath_stream hNone query
    | false =>
      apply streamPath_generate hNone (hQuery _)
      rw [String.toList_append]
      intro hMem
      rcases List.mem_append.mp hMem with hMem | hMem
      · exact hNone hMem
      · exact absurd hMem (by decide)

end Ai.Upstreams

/-! ## What a client asks for -/

namespace Ai.Requests

open Serde

theorem flag_eq (read : Json) (key : String) : flag read key = (read.field key).asBool := by
  unfold flag Json.field
  cases read.get key with
  | none | some value => rfl

variable {struct : Struct} {read : Json}

theorem flag_of_codec (hNodup : (struct.map Field.name).Nodup) {given : Json}
    (hObject : given.isObject) (h : struct.codec given = some read) {field : Field}
    (hField : field ∈ struct) (hCodec : field.codec = option bool)
    (hMissing : field.missing = some .null) :
    flag read field.name = (given.get field.name).bind Json.asBool := by
  have hRead := Struct.codec_field hNodup h hField hObject
  rw [flag_eq]
  unfold Field.read at hRead
  cases hGet : given.get field.name with
  | none =>
    rw [hGet] at hRead
    dsimp only at hRead
    rw [hMissing] at hRead
    rw [← Option.some.inj hRead]
    rfl
  | some value =>
    rw [hGet] at hRead
    dsimp only at hRead
    rw [hCodec] at hRead
    cases value with
    | null | bool flag =>
      rw [← Option.some.inj hRead]
      rfl
    | _ => cases hRead

theorem stream_of_fromStr {R : RequestLibraries} {codec : Codec} {text : String}
    {value parsed : Json} (field : Field) (h : fromStr R struct codec text = .ok (value, read))
    (hParse : R.J.parse text = .ok parsed) (hObject : parsed.isObject = true)
    (hStruct : ∀ fields, codec (.object fields) = struct.codec (.object fields))
    (hNodup : (struct.map Field.name).Nodup) (hField : field ∈ struct)
    (hCodec : field.codec = option bool) (hMissing : field.missing = some .null) :
    flag read field.name = (parsed.get field.name).bind Json.asBool := by
  obtain ⟨hValue, hRead⟩ := fromStr_ok h
  rw [hParse] at hValue
  cases hValue
  cases value with
  | object fields =>
    rw [hStruct] at hRead
    exact flag_of_codec hNodup rfl hRead hField hCodec hMissing
  | _ => cases hObject

end Ai.Requests

def Ai.Decoded.asked (decoded : Decoded) : Bool := decoded.chat.stream == some true

namespace Ai.RequestCtx

open Requests Upstreams

section Asking

variable {E : AccessEnv} {cfg : AiProxyConfig} {body : String} {decoded : Decoded}

/-- What a body was decoded into asks for what the body does, wherever it is said. -/
structure Reads (E : AccessEnv) (body : String) (decoded : Decoded) : Prop where
  asked : ∀ parsed, E.J.parse body = .ok parsed → parsed.isObject = true →
    decoded.chat.stream = (parsed.get "stream").bind Json.asBool
  stream : decoded.stream = decoded.chat.stream
  extra : ∀ field ∈ decoded.chat.extra, field.1 ≠ "stream"

theorem reads_of_decodeClient (h : decodeClient E cfg body = .ok (some decoded)) :
    Reads E body decoded := by
  unfold decodeClient at h
  cases hFormat : cfg.format with
  | responses =>
    rw [hFormat] at h
    obtain ⟨request, hRequest, h⟩ := bind_eq_ok.mp h
    by_cases hBackground : request.background = some true
    · rw [if_pos hBackground] at h
      cases h
    · rw [if_neg hBackground] at h
      obtain ⟨⟨chat, stripped⟩, hChat, h⟩ := bind_eq_ok.mp h
      cases h
      rw [mapError_eq_ok] at hRequest hChat
      obtain ⟨⟨value, read⟩, hRead, hRequest⟩ := bind_eq_ok.mp hRequest
      cases hRequest
      unfold responsesToChat at hChat
      rw [if_neg hBackground] at hChat
      obtain ⟨messages, -, hChat⟩ := bind_eq_ok.mp hChat
      cases hChat
      refine ⟨fun parsed hParse hObject => ?_, rfl, fun field hField => absurd hField
        List.not_mem_nil⟩
      exact stream_of_fromStr (.opt "stream" Serde.bool) hRead hParse hObject
        (fun _ => rfl) (by decide) (by simp [responsesRequest]) rfl rfl
  | anthropic =>
    rw [hFormat] at h
    obtain ⟨chat, hChat, h⟩ := bind_eq_ok.mp h
    cases h
    rw [mapError_eq_ok] at hChat
    obtain ⟨⟨value, read⟩, hRead, hChat⟩ := bind_eq_ok.mp hChat
    rw [mapError_eq_ok] at hRead
    cases hChat
    refine ⟨fun parsed hParse hObject => ?_, rfl, fun field hField => absurd hField
      List.not_mem_nil⟩
    exact stream_of_fromStr (.opt "stream" Serde.bool) hRead hParse hObject
      (fun _ => rfl) (by decide) (by simp [anthropicRequest]) rfl rfl
  | chat =>
    rw [hFormat] at h
    obtain ⟨chat, hChat, h⟩ := bind_eq_ok.mp h
    cases h
    rw [mapError_eq_ok] at hChat
    obtain ⟨⟨value, read⟩, hRead, hChat⟩ := bind_eq_ok.mp hChat
    cases hChat
    refine ⟨fun parsed hParse hObject => ?_, rfl, fun field hField hName => ?_⟩
    · exact stream_of_fromStr (.plain "stream" Serde.bool) hRead hParse hObject
        (fun _ => rfl) (by decide) (by simp [chatRequest]) rfl rfl
    · change field ∈ unknownFields chatRequest value at hField
      cases value with
      | object fields =>
        have hUnknown := of_decide_eq_true (List.mem_filter.mp hField).2
        rw [hName] at hUnknown
        exact hUnknown (by decide)
      | _ => cases hField

end Asking

/-! ## What is planned -/

section Planning

variable {E : AccessEnv} {cfg : AiProxyConfig} {body : String} {decoded : Decoded}
  {chat : ChatRequest} {selection : Selection} {plan : Plan}

/-- The endpoint of Gemini that a configuration fixes: one of its own, or one whose method stands
behind a question mark in the name of the model. -/
def fixedEndpoint (selection : Selection) : Option String :=
  if selection.provider = .gemini then
    match selection.config.endpointUrl with
    | some url => (parseEndpointUrl url).toOption.map UpstreamConfig.path
    | none =>
      if Text.contains '?' ("/v1beta/models/" ++ selection.model.modelName) then
        some ("/v1beta/models/" ++ selection.model.modelName)
      else none
  else none

/-- The stream mode of a request: that of the policy, but for a responses request that goes on as
it is. -/
def plannedMode (cfg : AiProxyConfig) (decoded : Decoded) (selection : Selection) : Bool :=
  if isResponsesPassThrough cfg selection then decoded.asked else cfg.streamMode decoded.asked

/-- What a plan says of streams. -/
structure Streams (cfg : AiProxyConfig) (decoded : Decoded) (plan : Plan) : Prop where
  mode : plan.streamMode = plannedMode cfg decoded plan.selection
  sent : plan.selection.provider.sentStream plan.upstream.path plan.request.body =
    ((fixedEndpoint plan.selection).map streamPath).getD (plannedMode cfg decoded plan.selection)
  protocol : plan.selection.provider = .gemini → plan.protocol = none

theorem fixedEndpoint_of_ne (h : selection.provider ≠ .gemini) : fixedEndpoint selection = none :=
  if_neg h

theorem sentStream_of_ne {provider : Provider} (h : provider ≠ .gemini) (path : String)
    (sent : Json) : provider.sentStream path sent = streamFlag sent := by
  cases provider with
  | gemini => exact absurd rfl h
  | _ => rfl

theorem chooseModel_keeps {name : String} (h : chooseModel cfg decoded.chat = .ok (name, chat)) :
    chat.stream = decoded.chat.stream ∧ chat.extra = decoded.chat.extra := by
  unfold chooseModel at h
  by_cases hSource : cfg.modelSource = "request"
  · rw [if_pos hSource] at h
    by_cases hEmpty : decoded.chat.model = ""
    · rw [if_pos hEmpty] at h
      cases h
    · rw [if_neg hEmpty] at h
      cases h
      exact ⟨rfl, rfl⟩
  · rw [if_neg hSource] at h
    by_cases hName : cfg.effectiveModelName ≠ ""
    · rw [if_pos hName] at h
      cases h
      exact ⟨rfl, rfl⟩
    · rw [if_neg hName] at h
      by_cases hGiven : decoded.chat.model ≠ ""
      · rw [if_pos hGiven] at h
        cases h
        exact ⟨rfl, rfl⟩
      · rw [if_neg hGiven] at h
        cases h

theorem withPolicy_stream (cfg : AiProxyConfig) (chat : ChatRequest) :
    ((withPolicy cfg chat).stream == some true) = cfg.streamMode (chat.stream == some true) ∧
      (withPolicy cfg chat).extra = chat.extra := by
  unfold withPolicy AiProxyConfig.streamMode
  by_cases hAlways : cfg.responseStreaming = "always"
  · rw [if_pos hAlways, if_pos hAlways]
    exact ⟨rfl, rfl⟩
  · rw [if_neg hAlways, if_neg hAlways]
    by_cases hDeny : cfg.responseStreaming = "deny"
    · rw [if_pos hDeny, if_pos hDeny]
      exact ⟨rfl, rfl⟩
    · rw [if_neg hDeny, if_neg hDeny]
      exact ⟨rfl, rfl⟩

theorem streamPath_configureGemini {stream : Bool} {upstream : UpstreamConfig}
    (hProvider : selection.provider = .gemini)
    (h : configureGemini selection.model selection.config stream = .ok upstream) :
    streamPath upstream.path = ((fixedEndpoint selection).map streamPath).getD stream := by
  unfold configureGemini at h
  unfold fixedEndpoint
  rw [if_pos hProvider]
  cases hUrl : selection.config.endpointUrl with
  | some url =>
    rw [hUrl] at h
    obtain ⟨found, hFound, h⟩ := bind_eq_ok.mp h
    cases h
    dsimp only
    rw [hFound]
    rfl
  | none =>
    rw [hUrl] at h
    cases h
    dsimp only
    rw [streamPath_withKey]
    cases Text.contains '?' ("/v1beta/models/" ++ selection.model.modelName) <;> rfl

/-- A translated request asks for the stream that the policy prescribes. -/
theorem streams_translate (hExtra : ∀ field ∈ chat.extra, field.1 ≠ "stream")
    (hStream : chat.stream = decoded.chat.stream)
    (hResponses : isResponsesPassThrough cfg selection = false)
    (h : translate E cfg decoded chat selection = .ok plan) : Streams cfg decoded plan := by
  obtain ⟨upstream, hUpstream, h⟩ := bind_eq_ok.mp h
  cases h
  unfold configure at hUpstream
  rw [mapError_eq_ok] at hUpstream
  obtain ⟨hPolicy, hUnknown⟩ := withPolicy_stream cfg chat
  rw [← hUnknown] at hExtra
  have hAsked : cfg.streamMode (chat.stream == some true) = cfg.streamMode decoded.asked := by
    rw [hStream]
    rfl
  rw [hAsked] at hPolicy
  have hMode : plannedMode cfg decoded selection = cfg.streamMode decoded.asked := by
    unfold plannedMode
    rw [hResponses, if_neg Bool.false_ne_true]
  refine ⟨hAsked.trans hMode.symm, ?_, fun hGemini => ?_⟩
  · dsimp only
    rw [hMode]
    cases hProvider : selection.provider with
    | openai | openaiCompat =>
      rw [fixedEndpoint_of_ne (by rw [hProvider]; decide)]
      exact (streamFlag_openAiBody hExtra).trans hPolicy
    | anthropic =>
      rw [fixedEndpoint_of_ne (by rw [hProvider]; decide)]
      exact (streamFlag_anthropicBody E.J _).trans hPolicy
    | gemini =>
      rw [hProvider] at hUpstream
      rw [← hAsked]
      exact streamPath_configureGemini hProvider hUpstream
  · have hType := selection.registered
    rw [show selection.provider = .gemini from hGemini] at hType
    dsimp only
    unfold compressionProtocol
    rw [hType]
    rfl

theorem isSome_true_eq_getD (flag : Option Bool) : (flag == some true) = flag.getD false := by
  cases flag with
  | none => rfl
  | some value => cases value <;> rfl

theorem streams_responses (hReads : Reads E body decoded)
    (hResponses : isResponsesPassThrough cfg selection = true)
    (h : responsesPassThrough E body decoded selection = .ok plan) : Streams cfg decoded plan := by
  obtain ⟨value, hValue, h⟩ := bind_eq_ok.mp h
  obtain ⟨upstream, -, h⟩ := bind_eq_ok.mp h
  cases h
  obtain ⟨parsed, hParse, hObject, rfl⟩ := passThroughBody_eq_ok hValue
  have hProvider : selection.provider = .openai :=
    beq_iff_eq.mp (Bool.and_eq_true_iff.mp hResponses).2
  have hMode : plannedMode cfg decoded selection = decoded.asked := by
    unfold plannedMode
    rw [hResponses, if_pos rfl]
  refine ⟨?_, ?_, fun hGemini => absurd (hGemini.symm.trans hProvider) (by decide)⟩
  · dsimp only
    rw [hMode, hReads.stream]
    exact (isSome_true_eq_getD _).symm
  · dsimp only
    rw [hMode, fixedEndpoint_of_ne (by rw [hProvider]; decide), hProvider]
    change streamFlag _ = decoded.asked
    unfold streamFlag Ai.Decoded.asked
    rw [Json.get_setField_ne (by decide), hReads.asked parsed hParse hObject]

theorem streams_anthropic (hReads : Reads E body decoded)
    (hResponses : isResponsesPassThrough cfg selection = false)
    (hAnthropic : isAnthropicPassThrough cfg selection = true)
    (h : anthropicPassThrough E cfg body selection = .ok plan) : Streams cfg decoded plan := by
  obtain ⟨value, hValue, h⟩ := bind_eq_ok.mp h
  obtain ⟨upstream, -, h⟩ := bind_eq_ok.mp h
  cases h
  obtain ⟨parsed, hParse, hObject, rfl⟩ := passThroughBody_eq_ok hValue
  have hProvider : selection.provider = .anthropic :=
    beq_iff_eq.mp (Bool.and_eq_true_iff.mp hAnthropic).2
  have hMode : plannedMode cfg decoded selection = cfg.streamMode decoded.asked := by
    unfold plannedMode
    rw [hResponses, if_neg Bool.false_ne_true]
  have hRequested : (((parsed.setField "model" (.string selection.model.modelName)).get
      "stream").bind Json.asBool).getD false = decoded.asked := by
    rw [Json.get_setField_ne (by decide), ← hReads.asked parsed hParse hObject,
      ← isSome_true_eq_getD]
    rfl
  refine ⟨?_, ?_, fun hGemini => absurd (hGemini.symm.trans hProvider) (by decide)⟩
  · dsimp only
    rw [hMode, hRequested]
  · dsimp only
    rw [hMode, hRequested, fixedEndpoint_of_ne (by rw [hProvider]; decide), hProvider]
    change streamFlag _ = cfg.streamMode decoded.asked
    unfold streamFlag
    rw [Json.get_setField (by rw [Json.isObject_setField]; exact hObject), if_pos rfl]
    cases cfg.streamMode decoded.asked <;> rfl

theorem streams_of_prepare (hDecoded : decodeClient E cfg body = .ok (some decoded))
    (h : prepare E cfg body = .ok (some plan)) : Streams cfg decoded plan := by
  have hReads := reads_of_decodeClient hDecoded
  obtain ⟨found, hFound, h⟩ := bind_eq_ok.mp h
  rw [hDecoded] at hFound
  cases hFound
  obtain ⟨⟨name, chat⟩, hChat, h⟩ := bind_eq_ok.mp h
  obtain ⟨selection, -, h⟩ := bind_eq_ok.mp h
  obtain ⟨found, hPlan, h⟩ := bind_eq_ok.mp h
  cases h
  obtain ⟨hStream, hExtra⟩ := chooseModel_keeps hChat
  unfold RequestCtx.plan at hPlan
  cases hResponses : isResponsesPassThrough cfg selection with
  | true =>
    rw [hResponses, if_pos rfl] at hPlan
    exact streams_responses hReads hResponses hPlan
  | false =>
    rw [hResponses, if_neg Bool.false_ne_true] at hPlan
    cases hAnthropic : isAnthropicPassThrough cfg selection with
    | true =>
      rw [hAnthropic, if_pos rfl] at hPlan
      exact streams_anthropic hReads hResponses hAnthropic hPlan
    | false =>
      rw [hAnthropic, if_neg Bool.false_ne_true] at hPlan
      refine streams_translate (fun field hField => hReads.extra field ?_) ?_ hResponses hPlan
      · exact hExtra ▸ hField
      · exact hStream

end Planning

/-! ## What is sent -/

theorem SentBody.keeps_flag {plain : Json} {transform : Option CompressionBodyTransform}
    {sent : Option Json} (h : SentBody (some plain) transform sent) :
    ∃ value, sent = some value ∧ streamFlag value = streamFlag plain := by
  cases h with
  | same => exact ⟨plain, rfl, rfl⟩
  | withTool hPlain hRead _ =>
    cases hPlain
    refine ⟨_, rfl, ?_⟩
    unfold streamFlag
    rw [Json.get_setField_ne (by decide), Json.flag_of_erase hRead]

section Sending

variable {E : AccessEnv} {adapter : Option HeadroomProxyAdapter} {healthy : Bool}
  {cfg : AiProxyConfig} {ctx : RequestCtx} {body : String} {plan : Plan}

theorem Decision.sentStream {decoded : Decoded} {bodyBytes : Nat} {decided : RequestCtx}
    (hPrepare : prepare E cfg body = .ok (some plan)) (hStreams : Streams cfg decoded plan)
    (h : Decision E.J (adapter.map fun adapter => adapter.backend healthy) (ctx.setUpstream plan)
      (compressionInput plan bodyBytes) true decided) :
    ∃ path sent, decided.upstreamPath = some path ∧ decided.upstreamBody = some sent ∧
      plan.selection.provider.sentStream path sent =
        plan.selection.provider.sentStream plan.upstream.path plan.request.body := by
  cases h with
  | unasked _ | bypassed _ _ => exact ⟨_, _, rfl, rfl, rfl⟩
  | routed _ hProtocol hBackend hRoute hBody =>
    have hNotGemini : plan.selection.provider ≠ .gemini := by
      intro hGemini
      have hNone : (compressionInput plan bodyBytes).protocol = none := hStreams.protocol hGemini
      rw [hNone] at hProtocol
      cases hProtocol
    have hReadable := fun hTransform =>
      (body_of_route hPrepare hBackend hProtocol hRoute hTransform).1
    obtain ⟨sent, hSent, hFlag⟩ := (sentBody_of_bodyFor hReadable hBody).keeps_flag
    unfold install
    rw [foldl_pushControlHeader]
    refine ⟨_, sent, rfl, hSent, ?_⟩
    rw [sentStream_of_ne hNotGemini, sentStream_of_ne hNotGemini, hFlag]

theorem decision_of_access {backend : Option ContextCompressionBackend} {after : RequestCtx}
    (hBody : ctx.requestBody = some body) (hPrepare : prepare E cfg body = .ok (some plan))
    (hAccess : ctx.access E backend cfg = .ok after) (hSent : after.exit = none) :
    ∃ decided, Decision E.J backend (ctx.setUpstream plan)
      (compressionInput plan body.utf8ByteSize) true decided ∧ after = decided.store E plan := by
  by_cases hLarge : (cfg.maxRequestBodySize * 1024) % 2 ^ 64 < body.utf8ByteSize
  · unfold access at hAccess
    rw [hBody] at hAccess
    dsimp only at hAccess
    rw [if_pos hLarge] at hAccess
    cases hAccess
    cases hSent
  · rw [access_of_prepare hBody hLarge hPrepare] at hAccess
    obtain ⟨⟨goesOn, decided⟩, hApply, hAccess⟩ := bind_eq_ok.mp hAccess
    cases goesOn with
    | true =>
      cases hAccess
      exact ⟨decided, decision_of_apply hApply, rfl⟩
    | false =>
      cases hAccess
      cases decision_of_apply hApply with
      | refused reason hAsked hPolicy => cases hSent

end Sending

/-- A request leaves as the policy prescribes: in the stream mode of its state, and in what the
provider is asked for. -/
def Obeys (cfg : AiProxyConfig) (decoded : Decoded) (provider : Provider) (after : RequestCtx) :
    Prop :=
  ∃ state path sent, after.aiState = some state ∧ after.upstreamPath = some path ∧
    after.upstreamBody = some sent ∧
      state.setup.streamMode = cfg.streamMode decoded.asked ∧
        provider.sentStream path sent = cfg.streamMode decoded.asked

/-- The policy prescribes what the client of a responses request that goes on as it is asks for, and
what an endpoint that is fixed stands for. -/
structure Agrees (cfg : AiProxyConfig) (decoded : Decoded) (selection : Selection) : Prop where
  passThrough : isResponsesPassThrough cfg selection = true →
    cfg.streamMode decoded.asked = decoded.asked
  endpoint : ∀ path, fixedEndpoint selection = some path →
    streamPath path = cfg.streamMode decoded.asked

/-- The requests that leave as the policy prescribes are those where it agrees with what is not up
to it. -/
theorem stream_policy_iff (E : AccessEnv) (adapter : Option HeadroomProxyAdapter) (healthy : Bool)
    (cfg : AiProxyConfig) (ctx after : RequestCtx) (body : String) (decoded : Decoded) (plan : Plan)
    (hBody : ctx.requestBody = some body)
    (hDecoded : decodeClient E cfg body = .ok (some decoded))
    (hPrepare : prepare E cfg body = .ok (some plan))
    (hAccess : ctx.access E (adapter.map fun adapter => adapter.backend healthy) cfg = .ok after)
    (hSent : after.exit = none) :
    Obeys cfg decoded plan.selection.provider after ↔ Agrees cfg decoded plan.selection := by
  have hStreams := streams_of_prepare hDecoded hPrepare
  obtain ⟨decided, hDecision, rfl⟩ := decision_of_access hBody hPrepare hAccess hSent
  obtain ⟨path, sent, hPath, hValue, hAsked⟩ := hDecision.sentStream hPrepare hStreams
  rw [hStreams.sent] at hAsked
  have hObeys : Obeys cfg decoded plan.selection.provider (decided.store E plan) ↔
      plannedMode cfg decoded plan.selection = cfg.streamMode decoded.asked ∧
        ((fixedEndpoint plan.selection).map streamPath).getD
          (plannedMode cfg decoded plan.selection) = cfg.streamMode decoded.asked := by
    rw [← hAsked, ← hStreams.mode]
    constructor
    · rintro ⟨state, path', sent', hState, hPath', hValue', hMode, hFlag⟩
      cases hState
      cases hPath.symm.trans hPath'
      cases hValue.symm.trans hValue'
      exact ⟨hMode, hFlag⟩
    · rintro ⟨hMode, hFlag⟩
      exact ⟨_, path, sent, rfl, hPath, hValue, hMode, hFlag⟩
  rw [hObeys]
  constructor
  · rintro ⟨hMode, hFlag⟩
    refine ⟨fun hResponses => ?_, fun fixed hFixed => ?_⟩
    · unfold plannedMode at hMode
      rw [hResponses, if_pos rfl] at hMode
      exact hMode.symm
    · rw [hFixed] at hFlag
      exact hFlag
  · intro hAgrees
    have hMode : plannedMode cfg decoded plan.selection = cfg.streamMode decoded.asked := by
      unfold plannedMode
      cases hResponses : isResponsesPassThrough cfg plan.selection with
      | true => exact (hAgrees.passThrough hResponses).symm
      | false => rfl
    refine ⟨hMode, ?_⟩
    cases hFixed : fixedEndpoint plan.selection with
    | none => exact hMode
    | some fixed => exact hAgrees.endpoint fixed hFixed

/-- A policy that honours the client agrees with a responses request that goes on as it is. -/
theorem stream_policy_allow :
    ∃ after decoded, after.exit = none ∧ Obeys (sampleConfig "allow") decoded .openai after := by
  obtain ⟨decoded, plan, hDecoded, -, hPrepare, hSelection, hAccess⟩ := sample_access "allow"
  have hAgrees : Agrees (sampleConfig "allow") decoded plan.selection := by
    rw [hSelection]
    refine ⟨fun _ => rfl, fun path hPath => ?_⟩
    rw [fixedEndpoint_of_ne (by decide)] at hPath
    cases hPath
  have hObeys := (stream_policy_iff sampleEnv (some sampleAdapter) true (sampleConfig "allow")
    sampleCtx.unasked _ sampleText decoded plan rfl hDecoded hPrepare (hAccess _) rfl).mpr hAgrees
  rw [hSelection] at hObeys
  exact ⟨_, decoded, rfl, hObeys⟩

/-- A responses request without a flag goes to OpenAI without a stream under the policy `always`:
neither its state nor its body has one. -/
theorem stream_policy_ignored : ∃ after decoded,
      decodeClient sampleEnv (sampleConfig "always") sampleText = .ok (some decoded) ∧
      sampleCtx.unasked.access sampleEnv none (sampleConfig "always") = .ok after ∧
        after.exit = none ∧ (sampleConfig "always").streamMode decoded.asked = true ∧
          ¬ Obeys (sampleConfig "always") decoded .openai after := by
  obtain ⟨decoded, plan, hDecoded, hStream, hPrepare, hSelection, hAccess⟩ := sample_access "always"
  refine ⟨_, decoded, hDecoded, hAccess none, rfl, rfl, ?_⟩
  rintro ⟨state, path, sent, hState, -, -, hMode, -⟩
  cases hState
  have hPlanned := (streams_of_prepare hDecoded hPrepare).mode
  have hAsked : plannedMode (sampleConfig "always") decoded plan.selection = false := by
    rw [hSelection]
    change (decoded.chat.stream == some true) = false
    rw [hStream]
    rfl
  rw [hAsked] at hPlanned
  exact Bool.false_ne_true (hPlanned.symm.trans hMode)

end Ai.RequestCtx

end KongRust

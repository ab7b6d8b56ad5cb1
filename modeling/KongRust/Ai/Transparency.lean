import KongRust.Ai.Access

/-!
# Compression that does not apply

Where compression falls back to the provider, a request leaves either with the whole of a
compression route or as it would without one, less the headers of the compression proxy.
-/

namespace KongRust.Ai.RequestCtx

open KongRust KongRust.Proxy Requests Fallible

def unasked (ctx : RequestCtx) : RequestCtx := { ctx with compression := none }

/-- Apart from the target, the body and the headers for the upstream. -/
structure SameOtherwise (plain after : RequestCtx) : Prop where
  requestBody : after.requestBody = plain.requestBody
  forceHttp1 : after.upstreamForceHttp1 = plain.upstreamForceHttp1
  responseHeaders : after.responseHeadersToSet = plain.responseHeadersToSet
  exit : after.exit = plain.exit
  aiState : after.aiState = plain.aiState

/-- A request that leaves as another one does, less the headers of the compression proxy. -/
structure Untouched (plain after : RequestCtx) : Prop where
  host : after.upstreamTargetHost = plain.upstreamTargetHost
  port : after.upstreamTargetPort = plain.upstreamTargetPort
  scheme : after.upstreamScheme = plain.upstreamScheme
  path : after.upstreamPath = plain.upstreamPath
  body : after.upstreamBody = plain.upstreamBody
  headers : after.upstreamHeadersToSet =
    plain.upstreamHeadersToSet.filter fun header => !isHeadroom header.1
  removed : after.upstreamHeadersToRemove = plain.removedHeadroom

/-- The body that goes with a route: as it is without compression, or with the tool that the route
needs among its tools, and its floats as they are read. -/
inductive SentBody (plain : Option Json) :
    Option CompressionBodyTransform → Option Json → Prop where
  | same : SentBody plain none plain
  | withTool {value read : Json} {tools : List Json} (hPlain : plain = some value)
      (hRead : read.erase = value.erase)
      (hTools : (read.get "tools").getD (.array []) = .array tools) :
    SentBody plain (some .injectOpenAiResponsesCcrTool)
      (some (read.setField "tools" (.array (withCcrTool tools))))

/-- A request that leaves by a compression route: its target, its headers, none of which is
removed again, and the body that goes with it. -/
structure Routed (route : CompressionRoute) (plain after : RequestCtx) : Prop where
  host : after.upstreamTargetHost = some route.host
  port : after.upstreamTargetPort = some route.port
  scheme : after.upstreamScheme = some route.scheme
  path : after.upstreamPath = some route.path
  body : SentBody plain.upstreamBody route.bodyTransform after.upstreamBody
  headers : after.upstreamHeadersToSet =
    (plain.upstreamHeadersToSet.filter fun header => !isHeadroom header.1) ++ route.controlHeaders
  kept : ∀ header ∈ route.controlHeaders, ∀ name ∈ after.upstreamHeadersToRemove,
    eqIgnoreAsciiCase name header.1 = false

/-! ### What a decision leaves -/

theorem foldl_pushControlHeader (headers : List (String × String)) (ctx : RequestCtx) :
    headers.foldl pushControlHeader ctx =
      { ctx with
        upstreamHeadersToRemove := ctx.upstreamHeadersToRemove.filter fun candidate =>
          headers.all fun header => !eqIgnoreAsciiCase candidate header.1
        upstreamHeadersToSet := ctx.upstreamHeadersToSet ++ headers } := by
  induction headers generalizing ctx with
  | nil =>
    have hAll : ctx.upstreamHeadersToRemove.filter (fun _ => true) = ctx.upstreamHeadersToRemove :=
      List.filter_true _
    simp only [List.foldl_nil, List.all_nil, hAll, List.append_nil]
  | cons header headers ih =>
    rw [List.foldl_cons, ih]
    unfold pushControlHeader
    simp only [List.filter_filter, List.all_cons, List.append_assoc, List.singleton_append,
      Bool.and_comm]

theorem sentBody_of_bodyFor {J : JsonText} {value : Json} {sent : Option Json}
    {transform : Option CompressionBodyTransform}
    (hReadable : transform.isSome = true → value.Readable 127)
    (h : BodyFor J (some value) transform sent) : SentBody (some value) transform sent := by
  cases h with
  | same => exact .same
  | injected hInjected =>
    obtain ⟨read, tools, hParse, hTools, rfl⟩ := injectCcrTool_eq_some hInjected
    obtain ⟨found, hFound, hErase⟩ := J.reads (hReadable rfl)
    rw [hParse] at hFound
    cases hFound
    exact .withTool rfl hErase hTools

section Sending

variable {E : AccessEnv} {backend : Option ContextCompressionBackend} {ctx : RequestCtx}
  {bodyBytes : Nat} {plan : Plan}

theorem Decision.leaves {context : ContextCompressionContext} {decided : RequestCtx}
    (hAsked : ctx.compression = some context)
    (hReads : ∀ chosen protocol route, backend = some chosen → plan.protocol = some protocol →
      chosen.prepareRoute protocol (compressionInput plan bodyBytes).provider = .ok route →
        route.bodyTransform.isSome = true → plan.request.body.Readable 127)
    (h : Decision E.J backend (ctx.setUpstream plan) (compressionInput plan bodyBytes) true
      decided) :
    SameOtherwise ((ctx.unasked.setUpstream plan).store E plan) (decided.store E plan) ∧
      (Untouched ((ctx.unasked.setUpstream plan).store E plan) (decided.store E plan) ∨
        ∃ chosen protocol route, backend = some chosen ∧ plan.protocol = some protocol ∧
          chosen.prepareRoute protocol (compressionInput plan bodyBytes).provider = .ok route ∧
            Routed route ((ctx.unasked.setUpstream plan).store E plan)
              (decided.store E plan)) := by
  cases h with
  | unasked hNone =>
    rw [show (ctx.setUpstream plan).compression = ctx.compression from rfl, hAsked] at hNone
    cases hNone
  | bypassed reason _ => exact ⟨⟨rfl, rfl, rfl, rfl, rfl⟩, .inl ⟨rfl, rfl, rfl, rfl, rfl, rfl, rfl⟩⟩
  | routed _ hProtocol hBackend hRoute hBody =>
    have hSent := sentBody_of_bodyFor (hReads _ _ _ hBackend hProtocol hRoute) hBody
    unfold install
    rw [foldl_pushControlHeader]
    refine ⟨⟨rfl, rfl, rfl, rfl, rfl⟩, .inr ⟨_, _, _, hBackend, hProtocol, hRoute,
      ⟨rfl, rfl, rfl, rfl, hSent, rfl, fun header hHeader name hName => ?_⟩⟩⟩
    have hAll := List.all_eq_true.mp (List.mem_filter.mp hName).2 header hHeader
    rw [Bool.not_eq_true'] at hAll
    exact hAll

end Sending

/-! ### The body of a responses request -/

section Bodies

variable {E : AccessEnv} {cfg : AiProxyConfig} {body : String} {plan : Plan} {kind : String}
  {model : AiModel}

theorem passThroughBody_eq_ok {value : Json} (h : passThroughBody E kind body model = .ok value) :
    ∃ parsed, E.J.parse body = .ok parsed ∧ parsed.isObject = true ∧
      value = parsed.setField "model" (.string model.modelName) := by
  unfold passThroughBody at h
  cases hParse : E.J.parse body with
  | error message =>
    rw [hParse] at h
    cases h
  | ok parsed =>
    rw [hParse] at h
    dsimp only at h
    cases hObject : parsed.isObject with
    | false =>
      rw [hObject] at h
      cases h
    | true =>
      rw [hObject] at h
      cases h
      exact ⟨parsed, rfl, hObject, rfl⟩

variable {parsed : Json}

theorem passThroughBody_of_parse (hParse : E.J.parse body = .ok parsed)
    (hObject : parsed.isObject = true) :
    passThroughBody E kind body model =
      .ok (parsed.setField "model" (.string model.modelName)) := by
  unfold passThroughBody
  rw [hParse]
  dsimp only
  rw [hObject]
  rfl

theorem tools_of_decodeResponses {R : RequestLibraries} {request : ResponsesRequest}
    (h : decodeResponses R body = .ok request) (hParse : R.J.parse body = .ok parsed) {tools : Json}
    (hTools : parsed.get "tools" = some tools) : tools.asArray.isSome = true := by
  obtain ⟨⟨value, read⟩, hRead, -⟩ := bind_eq_ok.mp h
  obtain ⟨hValue, hCodec⟩ := fromStr_ok hRead
  rw [hParse] at hValue
  cases hValue
  have hStruct : responsesRequest.codec parsed = some read := by
    cases parsed with
    | object fields => exact hCodec
    | _ => cases hTools
  have hField := Serde.Struct.codec_given (by decide) hStruct
    (List.mem_cons_of_mem _ (List.mem_cons_of_mem _ (List.mem_cons_of_mem _ List.mem_cons_self)))
    hTools
  cases tools with
  | array items => rfl
  | _ => cases hField

/-- What is sent to the responses of OpenAI can take the tool. -/
theorem body_of_prepare (h : prepare E cfg body = .ok (some plan))
    (hProtocol : plan.protocol = some .openAiResponses) :
    plan.request.body.Readable 127 ∧ plan.request.body.isObject = true ∧
      ∀ tools, plan.request.body.get "tools" = some tools → tools.asArray.isSome = true := by
  obtain ⟨decoded, hDecoded, h⟩ := bind_eq_ok.mp h
  cases decoded with
  | none => cases h
  | some decoded =>
    obtain ⟨⟨modelName, chat⟩, -, h⟩ := bind_eq_ok.mp h
    obtain ⟨selection, -, h⟩ := bind_eq_ok.mp h
    obtain ⟨found, hPlan, h⟩ := bind_eq_ok.mp h
    cases h
    unfold RequestCtx.plan at hPlan
    cases hResponses : isResponsesPassThrough cfg selection with
    | true =>
      rw [hResponses, if_pos rfl] at hPlan
      have hRoute : cfg.isResponsesRoute = true := (Bool.and_eq_true_iff.mp hResponses).1
      obtain ⟨value, hValue, hPlan⟩ := bind_eq_ok.mp hPlan
      obtain ⟨upstream, -, hPlan⟩ := bind_eq_ok.mp hPlan
      cases hPlan
      obtain ⟨parsed, hParse, hObject, rfl⟩ := passThroughBody_eq_ok hValue
      unfold decodeClient AiProxyConfig.format at hDecoded
      rw [hRoute, if_pos rfl] at hDecoded
      obtain ⟨request, hRequest, -⟩ := bind_eq_ok.mp hDecoded
      rw [mapError_eq_ok] at hRequest
      refine ⟨(E.J.parse_readable hParse).setField (by trivial) _, ?_, fun tools hTools => ?_⟩
      · cases parsed with
        | object fields => rfl
        | _ => cases hObject
      · dsimp only at hTools
        rw [Json.get_setField_ne (by decide)] at hTools
        exact tools_of_decodeResponses hRequest hParse hTools
    | false =>
      rw [hResponses, if_neg Bool.false_ne_true] at hPlan
      cases hAnthropic : isAnthropicPassThrough cfg selection with
      | true =>
        rw [hAnthropic, if_pos rfl] at hPlan
        obtain ⟨value, -, hPlan⟩ := bind_eq_ok.mp hPlan
        obtain ⟨upstream, -, hPlan⟩ := bind_eq_ok.mp hPlan
        cases hPlan
        cases hProtocol
      | false =>
        rw [hAnthropic, if_neg Bool.false_ne_true] at hPlan
        obtain ⟨upstream, -, hPlan⟩ := bind_eq_ok.mp hPlan
        cases hPlan
        dsimp only [compressionProtocol] at hProtocol
        split at hProtocol
        · cases hProtocol
        · split at hProtocol
          · cases hProtocol
          · cases hProtocol

end Bodies

variable {E : AccessEnv} {cfg : AiProxyConfig} {body : String} {plan : Plan}

theorem body_of_route {adapter : Option HeadroomProxyAdapter} {healthy : Bool}
    {chosen : ContextCompressionBackend} {protocol : CompressionProtocol} {target : ProviderTarget}
    {route : CompressionRoute} (hPrepare : prepare E cfg body = .ok (some plan))
    (hBackend : (adapter.map fun adapter => adapter.backend healthy) = some chosen)
    (hProtocol : plan.protocol = some protocol)
    (hRoute : chosen.prepareRoute protocol target = .ok route)
    (hTransform : route.bodyTransform.isSome = true) :
    plan.request.body.Readable 127 ∧ plan.request.body.isObject = true ∧
      ∀ tools, plan.request.body.get "tools" = some tools → tools.asArray.isSome = true := by
  obtain ⟨used, -, rfl⟩ := Option.map_eq_some_iff.mp hBackend
  rw [HeadroomProxyAdapter.protocol_of_bodyTransform hRoute hTransform] at hProtocol
  exact body_of_prepare hPrepare hProtocol

theorem exists_decided {E : AccessEnv} {cfg : AiProxyConfig} {ctx : RequestCtx} {body : String}
    {plan : Plan} {context : ContextCompressionContext} (adapter : Option HeadroomProxyAdapter)
    (healthy : Bool) (bodyBytes : Nat) (hAsked : ctx.compression = some context)
    (hPolicy : context.policy.onUnavailable = .passThrough)
    (hPrepare : prepare E cfg body = .ok (some plan)) :
    ∃ decided, applyContextCompression E.J (adapter.map fun adapter => adapter.backend healthy)
      (ctx.setUpstream plan) (compressionInput plan bodyBytes) = .ok (true, decided) := by
  have hTransforms : ∃ goesOn decided,
      applyContextCompression E.J (adapter.map fun adapter => adapter.backend healthy)
        (ctx.setUpstream plan) (compressionInput plan bodyBytes) = .ok (goesOn, decided) := by
    apply exists_apply
    intro protocol chosen route hProtocol hBackend hRoute hTransform
    obtain ⟨hReadable, hObject, hTools⟩ :=
      body_of_route hPrepare hBackend hProtocol hRoute hTransform
    exact exists_injectCcrTool hReadable hObject hTools
  obtain ⟨goesOn, decided, hApply⟩ := hTransforms
  cases goesOn with
  | true => exact ⟨decided, hApply⟩
  | false =>
    cases decision_of_apply hApply with
    | refused reason hAsked' hReject =>
      rw [show (ctx.setUpstream plan).compression = ctx.compression from rfl, hAsked] at hAsked'
      cases hAsked'
      rw [hPolicy] at hReject
      cases hReject

/-! ### A request with and without compression -/

/-- The target that a request has been given. -/
structure HasTarget (ctx : RequestCtx) (target : ProviderTarget) : Prop where
  host : ctx.upstreamTargetHost = some target.host
  port : ctx.upstreamTargetPort = some target.port
  scheme : ctx.upstreamScheme = some target.scheme
  path : ctx.upstreamPath = some target.path

theorem access_of_prepare {backend : Option ContextCompressionBackend} {ctx : RequestCtx}
    (hBody : ctx.requestBody = some body)
    (hSmall : ¬ (cfg.maxRequestBodySize * 1024) % 2 ^ 64 < body.utf8ByteSize)
    (hPrepare : prepare E cfg body = .ok (some plan)) :
    ctx.access E backend cfg = ctx.send E backend body.utf8ByteSize plan := by
  unfold access
  split
  · rename_i hNone
    rw [hBody] at hNone
    cases hNone
  · rename_i found hFound
    cases hBody.symm.trans hFound
    rw [if_neg hSmall, hPrepare]
    rfl

/-- A request that the phase handles without compression is handled with it, and leaves the same
way: before compression is decided nothing differs but what asks for it, and after that the request
is untouched, or has all of the route that the proxy gives for its target. -/
theorem compression_transparent (E : AccessEnv) (adapter : Option HeadroomProxyAdapter)
    (healthy : Bool) (cfg : AiProxyConfig) (ctx plain : RequestCtx)
    (context : ContextCompressionContext) (hAsked : ctx.compression = some context)
    (hPolicy : context.policy.onUnavailable = .passThrough)
    (hPlain : ctx.unasked.access E (adapter.map fun adapter => adapter.backend healthy) cfg =
      .ok plain) :
    ∃ after, ctx.access E (adapter.map fun adapter => adapter.backend healthy) cfg = .ok after ∧
      SameOtherwise plain after ∧
        (after = { plain with compression := ctx.compression } ∨ Untouched plain after ∨
          ∃ used ∈ adapter, ∃ protocol target route, plain.HasTarget target ∧
            (used.backend healthy).prepareRoute protocol target = .ok route ∧
              Routed route plain after) := by
  unfold access at hPlain ⊢
  rw [show ctx.unasked.requestBody = ctx.requestBody from rfl] at hPlain
  cases hBody : ctx.requestBody with
  | none =>
    rw [hBody] at hPlain
    cases hPlain
  | some body =>
    rw [hBody] at hPlain
    dsimp only at hPlain ⊢
    by_cases hLarge : (cfg.maxRequestBodySize * 1024) % 2 ^ 64 < body.utf8ByteSize
    · rw [if_pos hLarge] at hPlain ⊢
      cases hPlain
      exact ⟨_, rfl, ⟨rfl, rfl, rfl, rfl, rfl⟩, .inl rfl⟩
    · rw [if_neg hLarge] at hPlain ⊢
      obtain ⟨prepared, hPrepare, hPlain⟩ := bind_eq_ok.mp hPlain
      rw [hPrepare]
      cases prepared with
      | none =>
        cases hPlain
        exact ⟨_, rfl, ⟨rfl, rfl, rfl, rfl, rfl⟩, .inl rfl⟩
      | some plan =>
        cases hPlain
        obtain ⟨decided, hApply⟩ := exists_decided adapter healthy body.utf8ByteSize hAsked hPolicy
          hPrepare
        obtain ⟨hSame, hLeaves⟩ := (decision_of_apply hApply).leaves hAsked
          fun chosen protocol route hBackend hProtocol hRoute hTransform =>
            (body_of_route hPrepare hBackend hProtocol hRoute hTransform).1
        refine ⟨decided.store E plan, ?_, hSame, .inr (hLeaves.imp_right ?_)⟩
        · change ctx.send E _ _ plan = _
          unfold send
          rw [hApply]
          rfl
        · rintro ⟨chosen, protocol, route, hBackend, -, hRoute, hRouted⟩
          obtain ⟨used, hUsed, rfl⟩ := Option.map_eq_some_iff.mp hBackend
          exact ⟨used, hUsed, protocol, _, route, ⟨rfl, rfl, rfl, rfl⟩, hRoute, hRouted⟩

/-! ### A request to the responses of OpenAI -/

def sampleSelection : Selection where
  provider := .openai
  model := ⟨1, "gpt", "gpt-4o", 0, 1, none, true⟩
  config := ⟨1, "openai", "openai", none, .object [], true⟩
  registered := rfl

def sampleEnv : AccessEnv where
  J := .compact
  refusal _ := ""
  toLowercase := id
  repeatedField _ _ := none
  choose _ _ _ := .ok sampleSelection
  countPrompt _ _ := 0
  countBody _ _ _ := 4000
  responseId := "resp"
  errorId := "error"

variable (responseStreaming : String)

def sampleConfig (responseStreaming : String) : AiProxyConfig :=
  ⟨.simple "gpt-4o", none, "config", "llm/v1/responses", "openai", none, responseStreaming, 128⟩

def sampleBody : Json := .ofFields [("input", .string "hello"), ("model", .string "gpt-4o")]

def sampleText : String := JsonText.compact.print sampleBody

def sampleCtx : RequestCtx where
  requestBody := some sampleText
  requestHeaders := [("X-Headroom-Stack", "client")]
  upstreamTargetHost := none
  upstreamTargetPort := none
  upstreamScheme := none
  upstreamPath := none
  upstreamBody := none
  upstreamHeadersToSet := []
  upstreamHeadersToRemove := []
  upstreamForceHttp1 := false
  responseHeadersToSet := []
  exit := none
  compression := some ⟨⟨2000, 4194304, .passThrough⟩, ⟨.pending, .pending, none, false⟩⟩
  aiState := none
  lifecycle := ⟨"request", none, none⟩

def sampleAdapter : HeadroomProxyAdapter :=
  ⟨⟨"http", some "127.0.0.1", some 8787, "/"⟩, .localStore⟩

/-- How the sample goes under a policy, where nothing asks for compression. -/
theorem sample_access : ∃ decoded plan,
      decodeClient sampleEnv (sampleConfig responseStreaming) sampleText = .ok (some decoded) ∧
        decoded.chat.stream = none ∧
        prepare sampleEnv (sampleConfig responseStreaming) sampleText = .ok (some plan) ∧
        plan.selection = sampleSelection ∧
        ∀ backend, sampleCtx.unasked.access sampleEnv backend (sampleConfig responseStreaming) =
          .ok ((sampleCtx.unasked.setUpstream plan).store sampleEnv plan) := by
  have hPlain : sampleBody.Plain 127 := by simp [sampleBody]
  have hParse : sampleEnv.J.parse sampleText = .ok sampleBody := JsonText.compact.parse_print hPlain
  obtain ⟨decoded, hDecode, hStream⟩ : ∃ decoded, decodeClient sampleEnv
      (sampleConfig responseStreaming) sampleText = .ok (some decoded) ∧
        decoded.chat.stream = none :=
    ⟨_, bind_eq_ok.mpr ⟨_, mapError_eq_ok.mpr (bind_eq_ok.mpr
      ⟨_, fromStr_of_parse rfl hParse rfl, rfl⟩), rfl⟩, rfl⟩
  have hValue : passThroughBody sampleEnv "v1/responses" sampleText sampleSelection.model =
      .ok (sampleBody.setField "model" (.string "gpt-4o")) :=
    passThroughBody_of_parse hParse rfl
  obtain ⟨plan, hPrepare, hSelection⟩ : ∃ plan, prepare sampleEnv
      (sampleConfig responseStreaming) sampleText = .ok (some plan) ∧
        plan.selection = sampleSelection :=
    ⟨_, bind_eq_ok.mpr ⟨_, hDecode, bind_eq_ok.mpr ⟨_, rfl,
      bind_eq_ok.mpr ⟨_, rfl, bind_eq_ok.mpr ⟨_, bind_eq_ok.mpr ⟨_, hValue, rfl⟩, rfl⟩⟩⟩⟩, rfl⟩
  have hSize : sampleText.utf8ByteSize ≤ 128 * 1024 := by decide
  have hLimit : (sampleConfig responseStreaming).maxRequestBodySize = 128 := rfl
  have hSmall : ¬ ((sampleConfig responseStreaming).maxRequestBodySize * 1024) % 2 ^ 64 <
      sampleText.utf8ByteSize := by
    rw [hLimit]
    omega
  refine ⟨decoded, plan, hDecode, hStream, hPrepare, hSelection, fun backend => ?_⟩
  rw [access_of_prepare rfl hSmall hPrepare]
  rfl

theorem compression_transparent_sample : ∃ after, sampleCtx.access sampleEnv
      (Option.map (fun adapter => adapter.backend true) (some sampleAdapter))
        (sampleConfig "allow") = .ok after ∧ after.exit = none := by
  obtain ⟨_, plan, -, -, -, -, hAccess⟩ := sample_access "allow"
  obtain ⟨after, hAfter, hSame, -⟩ := compression_transparent sampleEnv (some sampleAdapter) true
    (sampleConfig "allow") sampleCtx _ _ rfl rfl (hAccess _)
  exact ⟨after, hAfter, hSame.exit⟩

end KongRust.Ai.RequestCtx

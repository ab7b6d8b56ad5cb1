import KongRust.Enforcement.Quota

/-!
# The settlements of one request

A request after its access phase: the compensator and the finalizer run in any order and any
number of times, their deadlines may cut them off while they wait, and settlements that were sent
may reach the store late. All of them settle with one command, the first one that was prepared.
-/

namespace KongRust.Enforcement.Quota

open RateLimit Orchestration Remote

/-! ## Journeys -/

/-- A request after its access phase. -/
structure Journey (σ : Type) where
  ctx : RequestCtx
  wire : Wire σ
  /-- The compensator has been started. -/
  aborted : Bool
  /-- The compensator has returned without an error. -/
  compensated : Bool
  /-- The finalizer has been started. -/
  finalizing : Bool
  /-- The finalizer has returned without an error. -/
  finalized : Bool

inductive Act (σ : Type) where
  | compensate (link : Link σ RateLimitStoreError) (cut : Bool)
  | finalize (link : Link σ RateLimitStoreError) (cut : Bool)
  /-- The `n`-th settlement that was sent reaches the store, once more or for the first time. -/
  | late (link : Link σ RateLimitStoreError) (n : Nat)
  /-- The request goes on. -/
  | proceeds (ctx : RequestCtx)

def succeeded (outcome : Option (Except LifecycleHookError Unit)) : Bool :=
  outcome.elim false Except.isOk

section

variable {σ : Type} (store : RateLimitStore σ) (runtime : Runtime)
  (link : Link σ RateLimitStoreError)

/-- A settlement reaches the store without anybody waiting for it. -/
def lateSettlement (link : Link σ RateLimitStoreError) (command : SettleCommand) (wire : Wire σ) :
    Wire σ :=
  let before := link.others wire.session.sent wire.session.state
  { wire with
    session := ⟨(store.callSettle command before).2, wire.session.sent + 1⟩
    handled := wire.handled ++ [handle store command before] }

def Journey.step (journey : Journey σ) : Act σ → Journey σ
  | .compensate link cut =>
    let result := compensateBeforeResponse store link runtime cut journey.ctx journey.wire
    { journey with
      ctx := result.2.1
      wire := result.2.2
      aborted := true
      compensated := journey.compensated || succeeded result.1 }
  | .finalize link cut =>
    let result := finalize store link runtime cut journey.ctx journey.wire
    { journey with
      ctx := result.2.1
      wire := result.2.2
      finalizing := true
      finalized := journey.finalized || succeeded result.1 }
  | .late link n =>
    journey.wire.sent[n]?.elim journey fun command =>
      { journey with wire := lateSettlement store link command journey.wire }
  | .proceeds ctx => { journey with ctx := ctx }

def Journey.run (journey : Journey σ) (acts : List (Act σ)) : Journey σ :=
  acts.foldl (Journey.step store runtime) journey

def Journey.enters (link : Link σ RateLimitStoreError) (cfg : AiRateLimitConfig)
    (answers : BudgetAnswers) (ctx : RequestCtx) (s : σ) : Journey σ :=
  let result := accessRuntime store link runtime cfg answers ctx ⟨⟨s, 0⟩, [], []⟩
  ⟨result.2.1, result.2.2, false, false, false, false⟩

end

def AiRateLimitRequestContext.emit (emitted : Bool) (request : AiRateLimitRequestContext) :
    AiRateLimitRequestContext :=
  { request with headersEmitted := emitted }

/-- The rest of the code leaves the identity of the request and the settlement of its quota
alone, and the rest of the world leaves its entry in the store alone. -/
def Act.Fits {σ : Type} (entry : Entries σ) (ctx : RequestCtx) : Act σ → Prop
  | .compensate link _ => Leaves link entry ctx.requestId
  | .finalize link _ => Leaves link entry ctx.requestId
  | .late link _ => Leaves link entry ctx.requestId
  | .proceeds ctx' => ctx'.requestId = ctx.requestId ∧
      ∃ emitted, ctx'.quota = ctx.quota.map (AiRateLimitRequestContext.emit emitted)

section

variable {σ : Type} (store : RateLimitStore σ) (runtime : Runtime)

/-- Every act of a run meets a condition on the journey before it. -/
def Follows (condition : Journey σ → Act σ → Prop) : Journey σ → List (Act σ) → Prop
  | _, [] => True
  | journey, act :: acts =>
    condition journey act ∧ Follows condition (journey.step store runtime act) acts

variable {store runtime} {condition : Journey σ → Act σ → Prop} {journey : Journey σ}

theorem Follows.invariant {invariant : Journey σ → Prop}
    (hStep : ∀ journey act, invariant journey → condition journey act →
      invariant (journey.step store runtime act)) {acts : List (Act σ)}
    (h : Follows store runtime condition journey acts) (hStart : invariant journey) :
    invariant (journey.run store runtime acts) := by
  induction acts generalizing journey with
  | nil => exact hStart
  | cons act acts ih => exact ih h.2 (hStep journey act hStart h.1)

theorem Follows.append {first rest : List (Act σ)}
    (h : Follows store runtime condition journey (first ++ rest)) :
    Follows store runtime condition journey first ∧
      Follows store runtime condition (journey.run store runtime first) rest := by
  induction first generalizing journey with
  | nil => exact ⟨trivial, h⟩
  | cons act first ih =>
    obtain ⟨hAct, hRest⟩ := h
    obtain ⟨hFirst, hLast⟩ := ih hRest
    exact ⟨⟨hAct, hFirst⟩, hLast⟩

theorem Journey.run_append (journey : Journey σ) (first rest : List (Act σ)) :
    journey.run store runtime (first ++ rest) =
      (journey.run store runtime first).run store runtime rest :=
  List.foldl_append

end

/-! ## The context during a settlement -/

def RequestCtx.pinned (ctx : RequestCtx) : Option SettleCommand :=
  ctx.quota.bind AiRateLimitRequestContext.settlementCommand

/-- The request has nothing to settle. -/
structure Idle {σ : Type} (ctx : RequestCtx) (wire : Wire σ) : Prop where
  notRequired : ∀ request, ctx.quota = some request →
    request.settlement = .notRequired ∧ request.settlementCommand = none
  sent : wire.sent = []
  handled : wire.handled = []

/-- The request holds a reservation. -/
structure Held {σ : Type} (entry : Entries σ) (ctx : RequestCtx) (wire : Wire σ)
    (request : AiRateLimitRequestContext) (token : ReservationEnvelope) : Prop where
  quota : ctx.quota = some request
  reservation : request.reservation = some token
  requestId : token.requestId = ctx.requestId
  required : request.settlement ≠ .notRequired
  command : ∀ command, request.settlementCommand = some command →
    command.reservation = token ∧ command.operationId = settlementOperationId ctx.requestId
  agrees : Wire.Agrees entry token request.settlementCommand wire
  settled : request.settlement = .settled → ∃ command, request.settlementCommand = some command ∧
    wire.charges entry token = [SettleCommand.payload command]

/-- What the settlement of a request does not touch. -/
structure SameRequest (request request' : AiRateLimitRequestContext) : Prop where
  reservation : request'.reservation = request.reservation
  reserved : request'.reserved = request.reserved
  pinned : ∀ command, request.settlementCommand = some command →
    request'.settlementCommand = some command

theorem SameRequest.refl (request : AiRateLimitRequestContext) : SameRequest request request :=
  ⟨rfl, rfl, fun _ h => h⟩

/-- What the charge depends on besides the context of the quota. -/
structure SameFacts (ctx ctx' : RequestCtx) : Prop where
  requestId : ctx'.requestId = ctx.requestId
  attempted : ctx'.upstreamAttempted = ctx.upstreamAttempted
  observed : observedTotalTokens ctx' = observedTotalTokens ctx

theorem SameFacts.refl (ctx : RequestCtx) : SameFacts ctx ctx := ⟨rfl, rfl, rfl⟩

/-- What a hook makes of the context after an answer of the store. -/
structure Marks (ctx : RequestCtx) (request : AiRateLimitRequestContext)
    (settlement : QuotaSettlementState) (ctx' : RequestCtx) : Prop where
  facts : SameFacts ctx ctx'
  quota : ∃ request', ctx'.quota = some request' ∧ request'.settlement = settlement ∧
    request'.reservation = request.reservation ∧ request'.reserved = request.reserved ∧
      request'.settlementCommand = request.settlementCommand

section Marks

variable {ctx : RequestCtx} {request : AiRateLimitRequestContext}

section

variable (hQuota : ctx.quota = some request)
include hQuota

theorem recordSettlementResult_marks (result : SettlementResult) :
    Marks ctx request .settled (recordSettlementResult ctx result) := by
  refine ⟨⟨rfl, rfl, rfl⟩, ?_⟩
  simp [recordSettlementResult, hQuota]

theorem retryLater_marks :
    Marks ctx request .retryRequired (retryLater ctx) := by
  refine ⟨⟨rfl, rfl, rfl⟩, ?_⟩
  simp [retryLater, hQuota]

theorem hideQuota_marks (kind : RateLimitStoreErrorKind) :
    Marks ctx request .retryRequired (hideQuota ctx kind) := by
  unfold hideQuota
  dsimp only
  split
  · refine ⟨⟨rfl, rfl, rfl⟩, ?_⟩
    simp [clearQuotaHeaders, hQuota]
  · refine ⟨⟨rfl, rfl, rfl⟩, ?_⟩
    simp [RequestCtx.rejectQuotaBackend, RequestCtx.reject, clearQuotaHeaders, hQuota]

end

end Marks

/-! ## The hooks -/

theorem agrees_pin {σ : Type} {entry : Entries σ} {token : ReservationEnvelope} {wire : Wire σ}
    (h : Wire.Agrees entry token none wire) (pin : Option SettleCommand) :
    Wire.Agrees entry token pin wire := by
  refine ⟨fun command hCommand => ?_, ?_, h.unopposed⟩
  · have hNone := h.sent command hCommand
    cases hNone
  · rcases h.accounted with hOpen | ⟨command, hNone, _⟩
    · exact .inl hOpen
    · cases hNone

section Hooks

variable {σ : Type} {store : RateLimitStore σ} {entry : Entries σ}
  {link : Link σ RateLimitStoreError} {runtime : Runtime} {ctx : RequestCtx} {wire : Wire σ}
  {request : AiRateLimitRequestContext} {token : ReservationEnvelope}

/-- The command of a request that prepares its settlement with this charge. -/
def settlementOf (ctx : RequestCtx) (token : ReservationEnvelope) (charge : QuotaCharge) :
    SettleCommand :=
  ⟨settlementOperationId ctx.requestId, token, charge⟩

theorem Held.pinned (h : Held entry ctx wire request token) :
    ctx.pinned = request.settlementCommand := by
  rw [RequestCtx.pinned, h.quota]
  rfl

/-- What the preparation of a settlement does: nothing if the quota is settled, and otherwise the
command is pinned, the one that was pinned before if there is one. -/
theorem Held.prepares (h : Held entry ctx wire request token)
    (charge : AiRateLimitRequestContext → QuotaCharge) :
    request.settlement = .settled ∧ prepareSettlement charge ctx = (none, ctx) ∨
    ∃ command ctx' request', prepareSettlement charge ctx = (some command, ctx') ∧
      Held entry ctx' wire request' token ∧ request'.settlementCommand = some command ∧
      (request.settlement ≠ .settled ∧ request'.settlement ≠ .settled) ∧
      SameRequest request request' ∧ SameFacts ctx ctx' ∧
      command = request.settlementCommand.getD (settlementOf ctx token (charge request)) := by
  unfold prepareSettlement
  rw [h.quota]
  dsimp only
  by_cases hSettled : request.settlement = .settled
  · rw [if_pos (.inr hSettled)]
    exact .inl ⟨hSettled, rfl⟩
  · right
    have hOpen : ¬ (request.settlement = .notRequired ∨ request.settlement = .settled) :=
      not_or.mpr ⟨h.required, hSettled⟩
    rw [if_neg hOpen]
    cases hCommand : request.settlementCommand with
    | some command =>
      exact ⟨command, ctx, request, rfl, h, hCommand, ⟨hSettled, hSettled⟩, .refl _, .refl _, rfl⟩
    | none =>
      have hAgrees := h.agrees
      rw [hCommand] at hAgrees
      rw [h.reservation]
      refine ⟨settlementOf ctx token (charge request), _, _, rfl,
        ⟨rfl, rfl, h.requestId, h.required, ?_, agrees_pin hAgrees _, ?_⟩, rfl,
        ⟨hSettled, hSettled⟩, ⟨h.reservation.symm, rfl, ?_⟩, ⟨rfl, rfl, rfl⟩, rfl⟩
      · intro command hPinned
        obtain rfl := Option.some.inj hPinned
        exact ⟨rfl, rfl⟩
      · exact fun hDone => absurd hDone hSettled
      · intro command hPinned
        rw [hCommand] at hPinned
        cases hPinned

variable {wire' : Wire σ} {ctx' : RequestCtx}

theorem Held.marks (h : Held entry ctx wire request token) {settlement : QuotaSettlementState}
    (hMarks : Marks ctx request settlement ctx') (hRequired : settlement ≠ .notRequired)
    (hAgrees : Wire.Agrees entry token request.settlementCommand wire')
    (hSettled : settlement = .settled → ∃ command, request.settlementCommand = some command ∧
      wire'.charges entry token = [SettleCommand.payload command]) :
    ∃ request', Held entry ctx' wire' request' token ∧ request'.settlement = settlement ∧
      SameRequest request request' ∧
        request'.settlementCommand = request.settlementCommand := by
  obtain ⟨request', hQuota, rfl, hReservation, hReserved, hCommand⟩ := hMarks.quota
  refine ⟨request', ⟨hQuota, hReservation.trans h.reservation, ?_, hRequired, ?_, ?_, ?_⟩, rfl,
    ⟨hReservation, hReserved, ?_⟩, hCommand⟩
  · rw [hMarks.facts.requestId]
    exact h.requestId
  · rw [hCommand, hMarks.facts.requestId]
    exact h.command
  · rw [hCommand]
    exact hAgrees
  · rw [hCommand]
    exact hSettled
  · rw [hCommand]
    exact fun _ hPinned => hPinned

/-- What a hook leaves behind. -/
structure Settling (entry : Entries σ) (ctx : RequestCtx) (request : AiRateLimitRequestContext)
    (token : ReservationEnvelope) (charge : QuotaCharge)
    (result : Option (Except LifecycleHookError Unit) × RequestCtx × Wire σ) : Prop where
  facts : SameFacts ctx result.2.1
  held : ∃ request', Held entry result.2.1 result.2.2 request' token ∧
    SameRequest request request' ∧
    request'.settlementCommand =
      some (request.settlementCommand.getD (settlementOf ctx token charge)) ∧
    (request.settlement = .settled ∨ succeeded result.1 = true → request'.settlement = .settled)

theorem SameFacts.trans {ctx ctx'' : RequestCtx} (h : SameFacts ctx ctx')
    (h' : SameFacts ctx' ctx'') : SameFacts ctx ctx'' :=
  ⟨h'.requestId.trans h.requestId, h'.attempted.trans h.attempted, h'.observed.trans h.observed⟩

theorem SameRequest.trans {a b c : AiRateLimitRequestContext} (h : SameRequest a b)
    (h' : SameRequest b c) : SameRequest a c :=
  ⟨h'.reservation.trans h.reservation, h'.reserved.trans h.reserved,
    fun command hPinned => h'.pinned command (h.pinned command hPinned)⟩

variable {fail : RequestCtx → RateLimitStoreError → RequestCtx}

/-- What is left behind by a hook that has its command, after the answer of the store. -/
theorem Held.answers (h : Held entry ctx wire request token) {command : SettleCommand}
    (hPin : request.settlementCommand = some command) (hOpen : request.settlement ≠ .settled)
    (hFail : ∀ error, Marks ctx request .retryRequired (fail ctx error)) (cut : Bool)
    {answer : Except RateLimitStoreError SettlementResult}
    (hAgrees : Wire.Agrees entry token request.settlementCommand wire')
    (hAnswered : ∀ told, answer = .ok told →
      wire'.charges entry token = [SettleCommand.payload command]) :
    Settling entry ctx request token command.finalCharge (settleAnswer fail cut ctx wire' answer) := by
  have hPinned : ∀ charge, request.settlementCommand =
      some (request.settlementCommand.getD (settlementOf ctx token charge)) := by
    intro charge
    rw [hPin]
    rfl
  unfold settleAnswer
  cases cut with
  | true =>
    refine ⟨.refl ctx, request, ⟨h.quota, h.reservation, h.requestId, h.required, h.command, hAgrees,
      fun hDone => absurd hDone hOpen⟩, .refl request, hPinned _, ?_⟩
    rintro (hSettled | hFalse)
    · exact absurd hSettled hOpen
    · cases hFalse
  | false =>
    cases answer with
    | ok told =>
      have hMarks := recordSettlementResult_marks h.quota told
      obtain ⟨request', h', hSettled, hSame, hPin'⟩ := h.marks hMarks (by decide) hAgrees
        fun _ => ⟨command, hPin, hAnswered told rfl⟩
      exact ⟨hMarks.facts, request', h', hSame, hPin'.trans (hPinned _), fun _ => hSettled⟩
    | error error =>
      have hMarks := hFail error
      obtain ⟨request', h', hRetry, hSame, hPin'⟩ := h.marks hMarks (by decide) hAgrees
        fun hDone => by cases hDone
      refine ⟨hMarks.facts, request', h', hSame, hPin'.trans (hPinned _), ?_⟩
      rintro (hSettled | hFalse)
      · exact absurd hSettled hOpen
      · cases hFalse

/-- **A hook settles with the pinned command.** -/
theorem Held.settleHook (hStore : Accountable store entry) (hLink : Leaves link entry ctx.requestId)
    (h : Held entry ctx wire request token) (charge : AiRateLimitRequestContext → QuotaCharge)
    (hFail : ∀ ctx request error, ctx.quota = some request →
      Marks ctx request .retryRequired (fail ctx error)) (cut : Bool) :
    Settling entry ctx request token (charge request)
      (Quota.settleHook store link runtime (prepareSettlement charge) fail cut ctx wire) := by
  unfold Quota.settleHook
  rcases h.prepares charge with ⟨hSettled, hNone⟩ |
      ⟨command, ctx', request', hPrepared, h', hPin, hOpen, hSame, hFacts, hCommand⟩
  · rw [hNone]
    obtain ⟨command, hPin, _⟩ := h.settled hSettled
    refine ⟨.refl ctx, request, h, .refl request, ?_, fun _ => hSettled⟩
    rw [hPin]
    rfl
  · rw [hPrepared]
    dsimp only
    split
    · refine ⟨hFacts, request', h', hSame, hPin.trans (congrArg some hCommand), ?_⟩
      rintro (hSettled | hFalse)
      · exact absurd hSettled hOpen.1
      · cases hFalse
    · obtain ⟨rfl, hOperation⟩ := h'.command command hPin
      have hLink' : Leaves link entry command.reservation.requestId := by
        rw [h.requestId]
        exact hLink
      obtain ⟨hAgrees, hAnswered⟩ := Wire.settle_ensures hStore hLink' hPin wire h'.agrees
      obtain ⟨hAfter, request'', h'', hSame', hPin', hDone⟩ := h'.answers hPin hOpen.2
        (fun error => hFail ctx' request' error h'.quota) cut hAgrees hAnswered
      refine ⟨hFacts.trans hAfter, request'', h'', hSame.trans hSame', ?_, ?_⟩
      · rw [hPin', hPin, ← hCommand]
        rfl
      · rintro (hSettled | hSucceeded)
        · exact absurd hSettled hOpen.1
        · exact hDone (.inr hSucceeded)

end Hooks

/-! ## The access phase -/

/-- The subject of the request and its limits, by what the configuration limits. -/
inductive SubjectFor (cfg : AiRateLimitConfig) (ctx : RequestCtx) :
    RateLimitSubject → QuotaLimits → Prop
  | virtualKey {auth : AiAuthContext} (hMode : cfg.limitBy = "virtual_key")
      (hAuth : ctx.auth = some auth) :
      SubjectFor cfg ctx (.virtualKey auth.virtualKeyId) ⟨auth.policy.rpmLimit, auth.policy.tpmLimit⟩
  | global (hMode : cfg.limitBy = "global") : SubjectFor cfg ctx .global cfg.limits
  | route {routeId : Uuid} (hMode : cfg.limitBy = "route") (hRoute : ctx.routeId = some routeId) :
      SubjectFor cfg ctx (.route routeId) cfg.limits
  | consumer (hMode : cfg.limitBy = "consumer") :
      SubjectFor cfg ctx (.consumer ctx.consumerId) cfg.limits

section Access

variable {σ : Type} {store : RateLimitStore σ} {entry : Entries σ}
  {link : Link σ RateLimitStoreError} {runtime : Runtime} {cfg : AiRateLimitConfig}
  {answers : BudgetAnswers} {ctx ctx' : RequestCtx} {wire wire' : Wire σ}

/-- The store holds a reservation of the request for the subject, and the context knows it. -/
structure Admitted (entry : Entries σ) (runtime : Runtime) (subject : RateLimitSubject)
    (limits : QuotaLimits) (ctx ctx' : RequestCtx) (wire' : Wire σ)
    (request : AiRateLimitRequestContext) (token : ReservationEnvelope) : Prop where
  held : Held entry ctx' wire' request token
  reserved : request.reserved = reserved runtime limits ctx
  unprepared : request.settlementCommand = none
  recorded : ∃ deploymentNamespace decision, runtime.quota = some deploymentNamespace ∧
    entry (RateLimitKey.new deploymentNamespace subject) ctx.requestId wire'.session.state =
      some ⟨decision, none⟩ ∧ Grants decision token ∧
    token.key = RateLimitKey.new deploymentNamespace subject ∧
    token.requestId = ctx.requestId ∧ token.reserved = Quota.reserved runtime limits ctx ∧
    token.limitsAtAdmission = limits

/-- How the access phase ends. -/
inductive Access (entry : Entries σ) (runtime : Runtime) (cfg : AiRateLimitConfig)
    (ctx : RequestCtx) : Except KongError Unit → RequestCtx → Wire σ → Prop
  | failed {error : KongError} {ctx' : RequestCtx} {wire' : Wire σ} (hIdle : Idle ctx' wire') :
      Access entry runtime cfg ctx (.error error) ctx' wire'
  | refused {ctx' : RequestCtx} {wire' : Wire σ} (hIdle : Idle ctx' wire')
      (hShort : ctx'.shortCircuited = true) : Access entry runtime cfg ctx (.ok ()) ctx' wire'
  | unlimited {ctx' : RequestCtx} {wire' : Wire σ} {subject : RateLimitSubject}
      (hIdle : Idle ctx' wire') (hSubject : SubjectFor cfg ctx subject ⟨none, none⟩) :
      Access entry runtime cfg ctx (.ok ()) ctx' wire'
  | admitted {ctx' : RequestCtx} {wire' : Wire σ} {subject : RateLimitSubject}
      {limits : QuotaLimits} {request : AiRateLimitRequestContext} {token : ReservationEnvelope}
      (hSubject : SubjectFor cfg ctx subject limits)
      (hAdmitted : Admitted entry runtime subject limits ctx ctx' wire' request token) :
      Access entry runtime cfg ctx (.ok ()) ctx' wire'

/-- A request that has not begun with its quota. -/
structure Untouched (ctx : RequestCtx) (wire : Wire σ) : Prop where
  quota : ctx.quota = none
  sent : wire.sent = []
  handled : wire.handled = []

theorem Untouched.idle (h : Untouched ctx wire) : Idle ctx wire := by
  refine ⟨fun request hRequest => ?_, h.sent, h.handled⟩
  rw [h.quota] at hRequest
  cases hRequest

theorem Untouched.reject (h : Untouched ctx wire) (protocol : AiClientProtocol) (status : Nat)
    (code message : String) : Idle (ctx.reject protocol status code message) wire :=
  Untouched.idle ⟨h.quota, h.sent, h.handled⟩

variable {mode : AiRateLimitMode} {protocol : AiClientProtocol} {subject : RateLimitSubject}
  {limits : QuotaLimits} {request : AiRateLimitRequestContext}

theorem subjectOf_error (h : subjectOf cfg mode protocol ctx = .error ctx')
    (hStart : Untouched ctx wire) : Idle ctx' wire ∧ ctx'.shortCircuited = true := by
  unfold subjectOf at h
  split at h
  · split at h
    · cases h
      exact ⟨hStart.reject _ _ _ _, rfl⟩
    · split at h
      · cases h
        exact ⟨hStart.reject _ _ _ _, rfl⟩
      · cases h
  · cases h
  · split at h
    · cases h
      exact ⟨hStart.reject _ _ _ _, rfl⟩
    · cases h
  · cases h

theorem parse_eq_some {value : String} (h : AiRateLimitMode.parse value = some mode) :
    value = match mode with
      | .global => "global"
      | .route => "route"
      | .consumer => "consumer"
      | .virtualKey => "virtual_key" := by
  unfold AiRateLimitMode.parse at h
  split at h
  · obtain rfl := Option.some.inj h
    assumption
  · split at h
    · obtain rfl := Option.some.inj h
      assumption
    · split at h
      · obtain rfl := Option.some.inj h
        assumption
      · split at h
        · obtain rfl := Option.some.inj h
          assumption
        · cases h

theorem subjectOf_ok {auth : Option AiAuthContext}
    (hMode : AiRateLimitMode.parse cfg.limitBy = some mode)
    (h : subjectOf cfg mode protocol ctx = .ok (subject, limits, auth)) :
    SubjectFor cfg ctx subject limits := by
  have hText := parse_eq_some hMode
  unfold subjectOf at h
  split at h
  · split at h
    · cases h
    · split at h
      · cases h
      · rename_i hAuth
        cases h
        exact .virtualKey hText hAuth
  · cases h
    exact .global hText
  · split at h
    · cases h
    · rename_i hRoute
      cases h
      exact .route hText hRoute
  · cases h
    exact .consumer hText

theorem inspectBudget_cases {auth : AiAuthContext} (hStart : Untouched ctx wire)
    {outcome : BudgetInspectionOutcome}
    (h : inspectBudgetBeforeQuota answers auth protocol ctx = (outcome, ctx')) :
    (outcome = .rejected ∧ Idle ctx' wire ∧ ctx'.shortCircuited = true) ∨
      (outcome ≠ .rejected ∧ ∃ inspected, ctx' = { ctx with budgetInspected := inspected }) := by
  unfold inspectBudgetBeforeQuota at h
  split at h
  · cases h
    exact .inr ⟨by decide, ctx.budgetInspected, rfl⟩
  · split at h
    · cases h
      exact .inl ⟨rfl, hStart.reject _ _ _ _, rfl⟩
    · split at h
      · cases h
        exact .inl ⟨rfl, hStart.reject _ _ _ _, rfl⟩
      · split at h
        · cases h
          exact .inr ⟨by decide, some auth.virtualKeyId, rfl⟩
        · cases h
          exact .inr ⟨by decide, ctx.budgetInspected, rfl⟩
        · cases h
          exact .inr ⟨by decide, ctx.budgetInspected, rfl⟩
        · split at h
          · cases h
            exact .inr ⟨by decide, ctx.budgetInspected, rfl⟩
          · cases h
            exact .inl ⟨rfl, hStart.reject _ _ _ _, rfl⟩

variable (store link runtime) in
/-- A request whose budget is exhausted ends here, whatever the store says. -/
theorem exhausted_refuses (hStart : Untouched ctx wire) (protocol : AiClientProtocol)
    (subject : RateLimitSubject) (limits : QuotaLimits) :
    let result := exhausted store link runtime protocol subject limits ctx wire
    Idle result.1 result.2 ∧ result.1.shortCircuited = true := by
  intro result
  have hCall : ∀ query, ((client store link).callInspect query wire).2.sent = [] ∧
      ((client store link).callInspect query wire).2.handled = [] :=
    fun query => ⟨hStart.sent, hStart.handled⟩
  revert result
  unfold exhausted
  dsimp only
  split
  · exact ⟨hStart.reject _ _ _ _, rfl⟩
  · split
    · exact ⟨hStart.reject _ _ _ _, rfl⟩
    · rename_i deploymentNamespace hNamespace
      have hWire := hCall (.current (RateLimitKey.new deploymentNamespace subject) minute limits)
      generalize (client store link).callInspect
        (.current (RateLimitKey.new deploymentNamespace subject) minute limits) wire = result at hWire ⊢
      obtain ⟨answer, wire'⟩ := result
      have hAfter : Untouched ctx wire' := ⟨hStart.quota, hWire.1, hWire.2⟩
      split
      · rename_i snapshot wire'' hAnswer
        obtain ⟨_, rfl⟩ := Prod.mk.inj hAnswer
        refine ⟨⟨fun request hRequest => ?_, hAfter.sent, hAfter.handled⟩, rfl⟩
        obtain rfl := Option.some.inj hRequest
        exact ⟨rfl, rfl⟩
      · rename_i hAnswer
        obtain ⟨_, rfl⟩ := Prod.mk.inj hAnswer
        exact ⟨hAfter.reject _ _ _ _, rfl⟩
      · rename_i hAnswer
        obtain ⟨_, rfl⟩ := Prod.mk.inj hAnswer
        exact ⟨hAfter.reject _ _ _ _, rfl⟩

theorem refuseOver_idle (hQuota : ctx.quota = some request)
    (hSettlement : request.settlement = .notRequired) (hCommand : request.settlementCommand = none)
    (hSent : wire.sent = []) (hHandled : wire.handled = []) (mode : AiRateLimitMode)
    (protocol : AiClientProtocol) (reason : ExceededDimension) :
    Idle (refuseOver cfg mode protocol reason ctx) wire ∧
      (refuseOver cfg mode protocol reason ctx).shortCircuited = true := by
  have hReject : ∀ status code message, Idle (ctx.reject protocol status code message) wire ∧
        (ctx.reject protocol status code message).shortCircuited = true := by
    intro status code message
    refine ⟨⟨fun found hFound => ?_, hSent, hHandled⟩, rfl⟩
    obtain rfl := Option.mem_unique hQuota hFound
    exact ⟨hSettlement, hCommand⟩
  unfold refuseOver
  split
  · cases reason with
    | tokens | requests | requestsAndTokens => exact hReject _ _ _
  · exact hReject _ _ _

variable (runtime cfg) in
/-- An admission ends the request, or the store holds its reservation. -/
theorem admission_cases (hStore : Accountable store entry) (hStart : Untouched ctx wire)
    (hLink : Leaves link entry ctx.requestId)
    (hFresh : ∀ key, entry key ctx.requestId wire.session.state = none) (mode : AiRateLimitMode)
    (protocol : AiClientProtocol) (subject : RateLimitSubject) (limits : QuotaLimits) :
    let result := admission store link runtime cfg mode protocol subject limits ctx wire
    (Idle result.1 result.2 ∧ result.1.shortCircuited = true) ∨ ∃ request token,
        Admitted entry runtime subject limits ctx result.1 result.2 request token := by
  intro result
  revert result
  unfold admission
  split
  · exact .inl ⟨hStart.reject _ _ _ _, rfl⟩
  · rename_i deploymentNamespace hNamespace
    dsimp only
    have hAdmitting : Wire.Admitting entry (admitCommand runtime
        (RateLimitKey.new deploymentNamespace subject) limits ctx) wire := by
      refine ⟨hStart.sent, hStart.handled, fun recorded hRecorded => ?_⟩
      have hNone := hFresh (RateLimitKey.new deploymentNamespace subject)
      have hNever := hNone.symm.trans hRecorded
      cases hNever
    obtain ⟨hAfter, hAnswered⟩ := Wire.admit_ensures hStore hLink wire hAdmitting
    generalize Wire.admit store link (admitCommand runtime
      (RateLimitKey.new deploymentNamespace subject) limits ctx) wire = outcome
      at hAfter hAnswered ⊢
    obtain ⟨answer, wire'⟩ := outcome
    split
    · rename_i token snapshot replayed wire'' hAnswer
      obtain ⟨rfl, rfl⟩ := Prod.mk.inj hAnswer
      obtain ⟨decision, hRecorded, hSame, hAnswers⟩ := hAnswered _ rfl
      have hGrants : Grants decision token := hSame.grants.mp ⟨snapshot, replayed, rfl⟩
      obtain ⟨hKey, hRequest, hReserved, hLimits⟩ := hAnswers token hGrants
      refine .inr ⟨_, token, ⟨⟨rfl, rfl, hRequest, by simp [AiRateLimitRequestContext.allowed],
        fun command hPinned => ?_, ⟨?_, .inl ⟨?_, ?_⟩, ?_⟩, fun hSettled => ?_⟩, rfl, rfl,
        ⟨deploymentNamespace, decision, hNamespace, hRecorded, hGrants, hKey, hRequest, hReserved,
          hLimits⟩⟩⟩
      · cases hPinned
      · intro command hSent
        rw [show wire'.sent = [] from hAfter.sent] at hSent
        cases hSent
      · rw [Wire.charges, show wire'.handled = [] from hAfter.handled]
        rfl
      · rw [hKey, hRequest, show entry _ _ _ = some ⟨decision, none⟩ from hRecorded]
        exact charged_of_grants hGrants none
      · intro handling hHandling
        rw [show wire'.handled = [] from hAfter.handled] at hHandling
        cases hHandling
      · cases hSettled
    · rename_i reason snapshot replayed wire'' hAnswer
      obtain ⟨_, rfl⟩ := Prod.mk.inj hAnswer
      exact .inl (refuseOver_idle rfl rfl rfl hAfter.sent hAfter.handled _ _ _)
    · rename_i error wire'' hAnswer
      obtain ⟨_, rfl⟩ := Prod.mk.inj hAnswer
      have hUntouched : Untouched ctx wire' := ⟨hStart.quota, hAfter.sent, hAfter.handled⟩
      exact .inl ⟨hUntouched.reject _ _ _ _, rfl⟩

theorem Admitted.of_inspected {inspected : Option Uuid} {token : ReservationEnvelope}
    (h : Admitted entry runtime subject limits { ctx with budgetInspected := inspected } ctx' wire'
      request token) : Admitted entry runtime subject limits ctx ctx' wire' request token :=
  ⟨h.held, h.reserved, h.unprepared, h.recorded⟩

variable (answers) in
/-- **Access.** Every branch of the access phase ends in one of four ways. -/
theorem accessRuntime_access (hStore : Accountable store entry)
    (hLink : Leaves link entry ctx.requestId) (hStart : Untouched ctx wire)
    (hFresh : ∀ key, entry key ctx.requestId wire.session.state = none) :
    let result := accessRuntime store link runtime cfg answers ctx wire
    Access entry runtime cfg ctx result.1 result.2.1 result.2.2 := by
  intro result
  revert result
  unfold accessRuntime
  dsimp only
  split
  · exact .failed hStart.idle
  · rename_i mode hMode
    split
    · exact .refused (hStart.reject _ _ _ _) rfl
    · exact .refused (hStart.reject _ _ _ _) rfl
    · split
      · rename_i ctx' hSubject
        obtain ⟨hIdle, hShort⟩ := subjectOf_error hSubject hStart
        exact .refused hIdle hShort
      · rename_i subject limits budgetAuth hSubject
        have hFor := subjectOf_ok hMode hSubject
        -- what the inspection leaves: the end of the request, or a context to go on with
        have hInspected : ∀ inspection outcome ctx',
            (budgetAuth = none → inspection = (.continue_, ctx)) →
            (∀ auth, budgetAuth = some auth →
              inspection = inspectBudgetBeforeQuota answers auth ctx.protocol ctx) →
            inspection = (outcome, ctx') →
            (outcome = .rejected ∧ Idle ctx' wire ∧ ctx'.shortCircuited = true) ∨
              (outcome ≠ .rejected ∧
                ∃ inspected, ctx' = { ctx with budgetInspected := inspected }) := by
          intro inspection outcome ctx' hNone hSome hOutcome
          cases budgetAuth with
          | some auth =>
            rw [hSome auth rfl] at hOutcome
            exact inspectBudget_cases hStart hOutcome
          | none =>
            rw [hNone rfl] at hOutcome
            cases hOutcome
            exact .inr ⟨by decide, ctx.budgetInspected, rfl⟩
        split
        · rename_i ctx' hOutcome
          rcases hInspected _ _ _ (fun h => by subst h; rfl)
              (fun _ h => by subst h; rfl) hOutcome with ⟨_, hIdle, hShort⟩ | ⟨hOther, _⟩
          · exact .refused hIdle hShort
          · exact absurd rfl hOther
        · rename_i ctx' hOutcome
          rcases hInspected _ _ _ (fun h => by subst h; rfl)
              (fun _ h => by subst h; rfl) hOutcome with ⟨hOther, _⟩ | ⟨_, inspected, rfl⟩
          · cases hOther
          · have hStart' : Untouched { ctx with budgetInspected := inspected } wire :=
              ⟨hStart.quota, hStart.sent, hStart.handled⟩
            obtain ⟨hIdle, hShort⟩ :=
              exhausted_refuses store link runtime hStart' ctx.protocol subject limits
            exact .refused hIdle hShort
        · rename_i ctx' hOutcome
          rcases hInspected _ _ _ (fun h => by subst h; rfl)
              (fun _ h => by subst h; rfl) hOutcome with ⟨hOther, _⟩ | ⟨_, inspected, rfl⟩
          · cases hOther
          · have hStart' : Untouched { ctx with budgetInspected := inspected } wire :=
              ⟨hStart.quota, hStart.sent, hStart.handled⟩
            split
            · rename_i hUnlimited
              obtain ⟨requests, tokens⟩ := limits
              simp only [QuotaLimits.unlimited, Bool.and_eq_true, Option.isNone_iff_eq_none]
                at hUnlimited
              obtain ⟨rfl, rfl⟩ := hUnlimited
              exact .unlimited hStart'.idle hFor
            · rcases admission_cases runtime cfg hStore hStart' hLink hFresh mode ctx.protocol
                subject limits with ⟨hIdle, hShort⟩ | ⟨request, token, hAdmitted⟩
              · exact .refused hIdle hShort
              · exact .admitted hFor hAdmitted.of_inspected

end Access

/-! ## Runs -/

section Runs

variable {σ : Type} {store : RateLimitStore σ} {entry : Entries σ}
  {link : Link σ RateLimitStoreError} {runtime : Runtime} {journey : Journey σ}

variable {wire : Wire σ} {ctx : RequestCtx} {request : AiRateLimitRequestContext}
  {token : ReservationEnvelope}

variable {command : SettleCommand} {ctx' : RequestCtx} {emitted : Bool}

theorem agrees_late (hStore : Accountable store entry) {pin : Option SettleCommand}
    (hLink : Leaves link entry command.reservation.requestId)
    (h : Wire.Agrees entry command.reservation pin wire) (hPin : pin = some command) :
    Wire.Agrees entry command.reservation pin (lateSettlement store link command wire) := by
  have hBefore := h.accounted.forgets (hLink wire.session.sent wire.session.state _)
  obtain ⟨hAfter, hAnswer⟩ := hBefore.handle hStore hPin
  refine ⟨h.sent, ?_, fun handling hHandling => ?_⟩
  · unfold lateSettlement
    dsimp only
    rw [Wire.charges_append]
    exact hAfter
  · rcases List.mem_append.mp hHandling with hOld | hNew
    · exact h.unopposed handling hOld
    · rw [List.mem_singleton.mp hNew]
      exact hAnswer

theorem Held.late (h : Held entry ctx wire request token) (hStore : Accountable store entry)
    (hLink : Leaves link entry ctx.requestId) (hSent : command ∈ wire.sent) :
    Held entry ctx (lateSettlement store link command wire) request token := by
  have hPin := h.agrees.sent command hSent
  obtain ⟨rfl, _⟩ := h.command command hPin
  have hLink' : Leaves link entry command.reservation.requestId := by
    rw [h.requestId]
    exact hLink
  have hAgrees := agrees_late hStore hLink' h.agrees hPin
  refine ⟨h.quota, h.reservation, h.requestId, h.required, h.command, hAgrees, fun hSettled => ?_⟩
  obtain ⟨pinned, hPinned, hCharges⟩ := h.settled hSettled
  refine ⟨pinned, hPinned, ?_⟩
  -- the charge is on the list already, and the list does not get longer than that
  have hLength := hAgrees.charges_le
  have hPrefix : ∃ more, (lateSettlement store link command wire).charges entry command.reservation =
      wire.charges entry command.reservation ++ more := ⟨_, Wire.charges_append _ _ _ _⟩
  obtain ⟨more, hMore⟩ := hPrefix
  rw [hMore, hCharges, List.length_append, List.length_singleton] at hLength
  have hEmpty : more = [] := List.length_eq_zero_iff.mp (by omega)
  rw [hMore, hCharges, hEmpty, List.append_nil]

theorem Held.proceeds (h : Held entry ctx wire request token) (hId : ctx'.requestId = ctx.requestId)
    (hQuota : ctx'.quota = ctx.quota.map (AiRateLimitRequestContext.emit emitted)) :
    Held entry ctx' wire (request.emit emitted) token := by
  refine ⟨by rw [hQuota, h.quota]; rfl, h.reservation, ?_, h.required, ?_, h.agrees, h.settled⟩
  · rw [hId]
    exact h.requestId
  · rw [hId]
    exact h.command

theorem Idle.prepares {ctx : RequestCtx} {wire : Wire σ} (h : Idle ctx wire)
    (charge : AiRateLimitRequestContext → QuotaCharge) :
    prepareSettlement charge ctx = (none, ctx) := by
  unfold prepareSettlement
  cases hQuota : ctx.quota with
  | none => rfl
  | some request =>
    dsimp only
    rw [if_pos (.inl (h.notRequired request hQuota).1)]

theorem Idle.settleHook (h : Idle ctx wire) (charge : AiRateLimitRequestContext → QuotaCharge)
    (fail : RequestCtx → RateLimitStoreError → RequestCtx) (cut : Bool) :
    Quota.settleHook store link runtime (prepareSettlement charge) fail cut ctx wire =
      (some (.ok ()), ctx, wire) := by
  unfold Quota.settleHook
  rw [h.prepares charge]

theorem Idle.proceeds (h : Idle ctx wire)
    (hQuota : ctx'.quota = ctx.quota.map (AiRateLimitRequestContext.emit emitted)) :
    Idle ctx' wire := by
  refine ⟨fun request hRequest => ?_, h.sent, h.handled⟩
  rw [hQuota] at hRequest
  obtain ⟨before, hBefore, rfl⟩ := Option.map_eq_some_iff.mp hRequest
  exact h.notRequired before hBefore

/-- The request has nothing to settle, or it holds a reservation. -/
def Journey.Sound (entry : Entries σ) (journey : Journey σ) : Prop :=
  Idle journey.ctx journey.wire ∨
    ∃ request token, Held entry journey.ctx journey.wire request token

def Plain (entry : Entries σ) (journey : Journey σ) (act : Act σ) : Prop :=
  act.Fits entry journey.ctx

variable (store runtime) in
theorem Journey.step_late (journey : Journey σ) (link : Link σ RateLimitStoreError) (n : Nat) :
    journey.step store runtime (.late link n) = journey ∨
      ∃ command ∈ journey.wire.sent, journey.step store runtime (.late link n) =
        { journey with wire := lateSettlement store link command journey.wire } := by
  cases hSent : journey.wire.sent[n]? with
  | none => exact .inl (by simp [Journey.step, hSent])
  | some command => exact .inr ⟨command, List.mem_of_getElem? hSent, by simp [Journey.step, hSent]⟩

variable {act : Act σ}

theorem Idle.step (h : Idle journey.ctx journey.wire) (hFits : act.Fits entry journey.ctx) :
    Idle (journey.step store runtime act).ctx (journey.step store runtime act).wire := by
  cases act with
  | compensate link cut =>
    have hHook : compensateBeforeResponse store link runtime cut journey.ctx journey.wire =
        (some (.ok ()), journey.ctx, journey.wire) := h.settleHook _ _ cut
    unfold Journey.step
    dsimp only
    rw [hHook]
    exact h
  | finalize link cut =>
    have hHook : finalize store link runtime cut journey.ctx journey.wire =
        (some (.ok ()), journey.ctx, journey.wire) := h.settleHook _ _ cut
    unfold Journey.step
    dsimp only
    rw [hHook]
    exact h
  | late link n =>
    rcases Journey.step_late store runtime journey link n with hSame | ⟨command, hSent, _⟩
    · rw [hSame]
      exact h
    · rw [h.sent] at hSent
      cases hSent
  | proceeds ctx => exact h.proceeds hFits.2.choose_spec

section

variable (h : Held entry ctx wire request token) (hStore : Accountable store entry)
  (hLink : Leaves link entry ctx.requestId) (cut : Bool)
include h hStore hLink

variable (runtime) in
theorem Held.compensates :
    Settling entry ctx request token ⟨0, 0⟩
      (compensateBeforeResponse store link runtime cut ctx wire) :=
  h.settleHook hStore hLink (fun _ => ⟨0, 0⟩) (fun _ _ error hQuota => hideQuota_marks hQuota error.kind)
    cut

variable (runtime) in
theorem Held.finalizes :
    Settling entry ctx request token (finalCharge ctx request)
      (finalize store link runtime cut ctx wire) :=
  h.settleHook hStore hLink (finalCharge ctx) (fun _ _ _ hQuota => retryLater_marks hQuota) cut

end

variable (runtime) in
theorem Held.step {request : AiRateLimitRequestContext} {token : ReservationEnvelope}
    (h : Held entry journey.ctx journey.wire request token) (hStore : Accountable store entry)
    (hFits : act.Fits entry journey.ctx) :
    ∃ request', Held entry (journey.step store runtime act).ctx
      (journey.step store runtime act).wire request' token ∧ SameRequest request request' := by
  cases act with
  | compensate link cut =>
    obtain ⟨request', h', hSame, _⟩ := (h.compensates runtime hStore hFits cut).held
    exact ⟨request', h', hSame⟩
  | finalize link cut =>
    obtain ⟨request', h', hSame, _⟩ := (h.finalizes runtime hStore hFits cut).held
    exact ⟨request', h', hSame⟩
  | late link n =>
    rcases Journey.step_late store runtime journey link n with hSame | ⟨command, hSent, hLate⟩
    · rw [hSame]
      exact ⟨request, h, .refl request⟩
    · rw [hLate]
      exact ⟨request, h.late hStore hFits hSent, .refl request⟩
  | proceeds ctx =>
    obtain ⟨hId, emitted, hQuota⟩ := hFits
    exact ⟨request.emit emitted, h.proceeds hId hQuota, rfl, rfl, fun _ hPinned => hPinned⟩

/-- A request is settled with one command, and the store hears of no other. -/
structure Settled (entry : Entries σ) (journey : Journey σ) : Prop where
  sent : ∀ command ∈ journey.wire.sent, journey.ctx.pinned = some command
  once : ∀ request token, journey.ctx.quota = some request → request.reservation = some token →
    (journey.wire.charges entry token).length ≤ 1
  unopposed : ∀ handling ∈ journey.wire.handled, handling.answer ≠ .error settlementConflict

theorem Journey.Sound.settled (h : journey.Sound entry) : Settled entry journey := by
  rcases h with h | ⟨request, token, h⟩
  · refine ⟨fun command hCommand => ?_, fun request token _ _ => ?_, fun handling hHandling => ?_⟩
    · rw [h.sent] at hCommand
      cases hCommand
    · rw [Wire.charges, h.handled]
      exact Nat.zero_le 1
    · rw [h.handled] at hHandling
      cases hHandling
  · refine ⟨fun command hCommand => ?_, fun found token' hFound hToken => ?_, h.agrees.unopposed⟩
    · rw [h.pinned]
      exact h.agrees.sent command hCommand
    · obtain rfl := Option.some.inj (h.quota.symm.trans hFound)
      obtain rfl := Option.some.inj (h.reservation.symm.trans hToken)
      exact h.agrees.charges_le

theorem Journey.Sound.step (h : journey.Sound entry) (hStore : Accountable store entry)
    (hFits : act.Fits entry journey.ctx) :
    (journey.step store runtime act).Sound entry ∧ ∀ command, journey.ctx.pinned = some command →
      (journey.step store runtime act).ctx.pinned = some command := by
  rcases h with h | ⟨request, token, h⟩
  · refine ⟨.inl (h.step hFits), fun command hPinned => ?_⟩
    rw [RequestCtx.pinned] at hPinned
    obtain ⟨request, hQuota, hCommand⟩ := Option.bind_eq_some_iff.mp hPinned
    rw [(h.notRequired request hQuota).2] at hCommand
    cases hCommand
  · obtain ⟨request', h', hSame⟩ := h.step runtime hStore hFits
    refine ⟨.inr ⟨request', token, h'⟩, fun command hPinned => ?_⟩
    rw [h.pinned] at hPinned
    rw [h'.pinned]
    exact hSame.pinned command hPinned

theorem Journey.enters_sound (hStore : Accountable store entry) {cfg : AiRateLimitConfig}
    {answers : BudgetAnswers} {ctx : RequestCtx} {s : σ} (hQuota : ctx.quota = none)
    (hFresh : ∀ key, entry key ctx.requestId s = none) (hLink : Leaves link entry ctx.requestId) :
    (Journey.enters store runtime link cfg answers ctx s).Sound entry := by
  have hAccess : Access entry runtime cfg ctx _ _ _ := accessRuntime_access answers hStore hLink
      (⟨hQuota, rfl, rfl⟩ : Untouched ctx (⟨⟨s, 0⟩, [], []⟩ : Wire σ)) hFresh
  unfold Journey.enters
  generalize accessRuntime store link runtime cfg answers ctx ⟨⟨s, 0⟩, [], []⟩ = result at hAccess ⊢
  obtain ⟨outcome, ctx', wire'⟩ := result
  cases hAccess with
  | failed hIdle | refused hIdle _ | unlimited hIdle _ => exact .inl hIdle
  | admitted _ hAdmitted => exact .inr ⟨_, _, hAdmitted.held⟩

end Runs

/-- **One settlement for each request.** A request whose id is not known to the store yet goes
through its access phase. Then its compensator and its finalizer run in any order and number, any
of them may be cut off, messages get lost or arrive late, and other requests use the store. All
settlements that are sent are the one that was pinned first, the store enters its charge at most
once, and none is refused because of another settlement. -/
theorem settlements_pinned {σ : Type} (store : RateLimitStore σ) (entry : Entries σ)
    (hStore : Accountable store entry) (runtime : Runtime) (link : Link σ RateLimitStoreError)
    (cfg : AiRateLimitConfig) (answers : BudgetAnswers) (ctx : RequestCtx) (s : σ)
    (hQuota : ctx.quota = none) (hFresh : ∀ key, entry key ctx.requestId s = none)
    (hLink : Leaves link entry ctx.requestId) (acts : List (Act σ))
    (hFits : Follows store runtime (Plain entry)
      (Journey.enters store runtime link cfg answers ctx s) acts) :
    let run := (Journey.enters store runtime link cfg answers ctx s).run store runtime
    Settled entry (run acts) ∧ ∀ first rest, acts = first ++ rest →
      ∀ command, (run first).ctx.pinned = some command →
        (run acts).ctx.pinned = some command := by
  intro run
  have hStart : (Journey.enters store runtime link cfg answers ctx s).Sound entry :=
    Journey.enters_sound hStore hQuota hFresh hLink
  have hSound : (run acts).Sound entry :=
    hFits.invariant (fun journey act h hAct => (h.step hStore hAct).1) hStart
  refine ⟨hSound.settled, ?_⟩
  rintro first rest rfl command hPinned
  obtain ⟨hFirst, hRest⟩ := hFits.append
  have hMiddle : (run first).Sound entry :=
    hFirst.invariant (fun journey act h hAct => (h.step hStore hAct).1) hStart
  have hKept := hRest.invariant
    (fun journey act (h : journey.Sound entry ∧ journey.ctx.pinned = some command) hAct =>
      ⟨(h.1.step hStore hAct).1, (h.1.step hStore hAct).2 command h.2⟩) ⟨hMiddle, hPinned⟩
  show (Journey.run store runtime _ (first ++ rest)).ctx.pinned = some command
  rw [Journey.run_append]
  exact hKept.2

/-! ## A run -/

def sampleReadings : Readings where
  clock n := ⟨n, n⟩
  ids n := ⟨10 * n + 1, 10 * n + 2⟩
  retryIds n := ⟨10 * n + 3, 10 * n + 4⟩

variable (delivery : Nat → Delivery)

/-- Another request is admitted while the first message is on its way. -/
def sampleLink (delivery : Nat → Delivery) : Link TimedStore RateLimitStoreError :=
  memoryLink (fun n => if n = 1 then
    [⟨.admission (sampleAdmission "b" 20) ⟨95, 96⟩ ⟨97, 98⟩, ⟨1, 1⟩⟩] else []) delivery

def sampleRuntime : Runtime := ⟨some "default", none⟩

def sampleConfig : AiRateLimitConfig := ⟨"global", some 100, some 10, 429, "AI rate limit exceeded"⟩

def sampleAnswers : BudgetAnswers := ⟨.ok (), .ok (), .ok .eligible⟩

/-- A request with a prompt of twenty bytes, five tokens as it is estimated. -/
def sampleCtx : RequestCtx where
  requestId := "a"
  upstreamAttempted := false
  shortCircuited := false
  exitStatus := none
  exitBody := none
  responseHeadersToSet := []
  responseHeadersToRemove := []
  routeId := none
  consumerId := none
  requestBody := some "\x7b\x22prompt\x22: \x22hello\x22\x7d"
  policy := none
  auth := none
  state := none
  fact := none
  budgetInspected := none
  quota := none

/-- The compensator is cut off after its settlement has been applied; the settlement arrives
once more, and the finalizer repeats it. -/
def sampleActs : List (Act TimedStore) :=
  [.compensate (sampleLink fun _ => .answerLost) true, .late (sampleLink fun _ => .delivered) 0,
    .finalize (sampleLink fun _ => .delivered) false]

def sampleJourney : Journey TimedStore :=
  Journey.enters sampleReadings.store sampleRuntime (sampleLink fun _ => .delivered) sampleConfig
    sampleAnswers sampleCtx (sampleStore, 0)

theorem sampleLink_leaves : Leaves (sampleLink delivery) memoryEntry "a" := by
  apply memoryLink_leaves
  intro n timed hTimed
  split at hTimed
  · rw [List.mem_singleton.mp hTimed]
    decide
  · cases hTimed

theorem sampleStore_fresh (key : RateLimitKey) (requestId : String) :
    memoryEntry key requestId (sampleStore, 0) = none := by
  have hNone : sampleStore.bucketAt key = none := rfl
  rw [memoryEntry, hNone]
  rfl

theorem settlements_pinned_sample :
    let journey := sampleJourney.run sampleReadings.store sampleRuntime sampleActs
    journey.wire.sent.length = 3 ∧ journey.wire.handled.length = 4 ∧
      journey.ctx.pinned = journey.wire.sent.head? ∧ Settled memoryEntry journey := by
  intro journey
  have hSettled : Settled memoryEntry journey ∧ _ :=
    settlements_pinned sampleReadings.store memoryEntry (memory_accountable sampleReadings)
      sampleRuntime (sampleLink fun _ => .delivered) sampleConfig sampleAnswers sampleCtx
      (sampleStore, 0) rfl (fun key => sampleStore_fresh key "a") (sampleLink_leaves _) sampleActs
      ⟨sampleLink_leaves _, sampleLink_leaves _, sampleLink_leaves _, trivial⟩
  exact ⟨by decide, by decide, by decide, hSettled.1⟩

end KongRust.Enforcement.Quota

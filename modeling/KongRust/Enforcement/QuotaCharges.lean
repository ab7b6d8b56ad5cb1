import KongRust.Enforcement.QuotaRuns

/-!
# What a request is charged

The order in which the proxy runs the hooks of a request: dispatch is aborted before the end of
the request, if at all, and once the finalizers run, nothing changes any more about what happened.
Then the charge on record is the one that is owed for what happened.
-/

namespace KongRust.Enforcement.Quota

open RateLimit Orchestration Remote

/-- What a request with this reservation owes: nothing if dispatch was aborted, a request without
tokens if the upstream was not attempted, and otherwise the tokens that were observed, or those
reserved. -/
def owed {σ : Type} (reserved : QuotaCharge) (journey : Journey σ) : QuotaCharge :=
  if journey.aborted then ⟨0, 0⟩
  else if journey.ctx.upstreamAttempted then
    ⟨1, (observedTotalTokens journey.ctx).getD reserved.tokens⟩
  else ⟨1, 0⟩

/-- The proxy compensates before it finalizes, and what happened is settled by then. -/
def Hosted {σ : Type} (entry : Entries σ) (journey : Journey σ) (act : Act σ) : Prop :=
  act.Fits entry journey.ctx ∧
    match act with
    | .compensate _ _ => journey.finalizing = false
    | .finalize _ _ => True
    | .late _ _ => True
    | .proceeds ctx => journey.finalizing = true → SameFacts journey.ctx ctx

section

variable {σ : Type} {store : RateLimitStore σ} {entry : Entries σ} {runtime : Runtime}
  {journey : Journey σ} {token : ReservationEnvelope} {reserved : QuotaCharge}

/-- A request with a reservation on its way: the pinned charge is the one owed. -/
structure Owing (entry : Entries σ) (token : ReservationEnvelope) (reserved : QuotaCharge)
    (journey : Journey σ) (request : AiRateLimitRequestContext) : Prop where
  held : Held entry journey.ctx journey.wire request token
  reservation : request.reserved = reserved
  charge : ∀ command, request.settlementCommand = some command →
    command.finalCharge = owed reserved journey ∧
      (journey.aborted = true ∨ journey.finalizing = true)
  pinned : journey.aborted = true → request.settlementCommand ≠ none
  settled : journey.finalized = true ∨ journey.compensated = true → request.settlement = .settled

variable {request : AiRateLimitRequestContext} {link : Link σ RateLimitStoreError} {cut : Bool}

theorem finalCharge_eq {ctx : RequestCtx} : finalCharge ctx request =
      if ctx.upstreamAttempted then ⟨1, (observedTotalTokens ctx).getD request.reserved.tokens⟩
      else ⟨1, 0⟩ :=
  rfl

theorem owed_congr {journey' : Journey σ} (hAborted : journey'.aborted = journey.aborted)
    (hFacts : journey.aborted = true ∨ SameFacts journey.ctx journey'.ctx) :
    owed reserved journey' = owed reserved journey := by
  unfold owed
  rw [hAborted]
  rcases hFacts with hAbort | hFacts
  · rw [if_pos hAbort, if_pos hAbort]
  · rw [hFacts.attempted, hFacts.observed]

section

variable (h : Owing entry token reserved journey request) (hStore : Accountable store entry)
include h hStore

theorem Owing.compensate (hHosted : Hosted entry journey (.compensate link cut)) :
    ∃ request', Owing entry token reserved
      (journey.step store runtime (.compensate link cut)) request' := by
  obtain ⟨hLink, hEarly⟩ := hHosted
  have hHook := h.held.compensates runtime hStore hLink cut
  obtain ⟨request', h', hSame, hPin, hSettled⟩ := hHook.held
  have hOwed : owed reserved (journey.step store runtime (.compensate link cut)) = ⟨0, 0⟩ :=
    if_pos rfl
  refine ⟨request', h', hSame.reserved.trans h.reservation, fun command hCommand => ?_, fun _ => ?_,
    fun hDone => hSettled ?_⟩
  · refine ⟨?_, .inl rfl⟩
    obtain rfl := Option.mem_unique hPin hCommand
    rw [hOwed]
    cases hBefore : request.settlementCommand with
    | none => rfl
    | some command =>
      -- a command pinned before: dispatch was aborted before
      obtain ⟨hCharge, hAborted | hFinalizing⟩ := h.charge command hBefore
      · exact hCharge.trans (if_pos hAborted)
      · rw [hEarly] at hFinalizing
        cases hFinalizing
  · rw [hPin]
    exact fun hNone => by cases hNone
  · rcases hDone with hFinalized | hCompensated
    · exact .inl (h.settled (.inl hFinalized))
    · rcases Bool.or_eq_true_iff.mp hCompensated with hBefore | hNow
      · exact .inl (h.settled (.inr hBefore))
      · exact .inr hNow

theorem Owing.finalize (hLink : Leaves link entry journey.ctx.requestId) :
    ∃ request', Owing entry token reserved
      (journey.step store runtime (.finalize link cut)) request' := by
  have hHook := h.held.finalizes runtime hStore hLink cut
  obtain ⟨request', h', hSame, hPin, hSettled⟩ := hHook.held
  have hOwed : owed reserved (journey.step store runtime (.finalize link cut)) =
      owed reserved journey := owed_congr rfl (.inr hHook.facts)
  refine ⟨request', h', hSame.reserved.trans h.reservation, fun command hCommand => ?_, fun _ => ?_,
    fun hDone => hSettled ?_⟩
  · refine ⟨?_, .inr rfl⟩
    obtain rfl := Option.mem_unique hPin hCommand
    rw [hOwed]
    cases hBefore : request.settlementCommand with
    | some command => exact (h.charge command hBefore).1
    | none =>
      have hGoesOn : ¬ journey.aborted = true := fun hAborted => h.pinned hAborted hBefore
      show finalCharge journey.ctx request = owed reserved journey
      rw [finalCharge_eq, owed, if_neg hGoesOn, h.reservation]
  · rw [hPin]
    exact fun hNone => by cases hNone
  · rcases hDone with hFinalized | hCompensated
    · rcases Bool.or_eq_true_iff.mp hFinalized with hBefore | hNow
      · exact .inl (h.settled (.inl hBefore))
      · exact .inr hNow
    · exact .inl (h.settled (.inr hCompensated))

theorem Owing.step {act : Act σ} (hHosted : Hosted entry journey act) :
    ∃ request', Owing entry token reserved (journey.step store runtime act) request' := by
  cases act with
  | compensate link cut => exact h.compensate hStore hHosted
  | finalize link cut => exact h.finalize hStore hHosted.1
  | late link n =>
    rcases Journey.step_late store runtime journey link n with hSame | ⟨command, hSent, hLate⟩
    · rw [hSame]
      exact ⟨request, h⟩
    · rw [hLate]
      exact ⟨request, h.held.late hStore hHosted.1 hSent, h.reservation, h.charge, h.pinned, h.settled⟩
  | proceeds ctx =>
    obtain ⟨⟨hId, emitted, hQuota⟩, hLater⟩ := hHosted
    refine ⟨request.emit emitted, h.held.proceeds hId hQuota, h.reservation, fun command hCommand => ?_,
      h.pinned, h.settled⟩
    obtain ⟨hCharge, hStage⟩ := h.charge command hCommand
    have hOwed : owed reserved (journey.step store runtime (.proceeds ctx)) =
        owed reserved journey := owed_congr rfl (hStage.imp id hLater)
    exact ⟨hCharge.trans hOwed.symm, hStage⟩

end

theorem Owing.charges (h : Owing entry token reserved journey request)
    (hDone : journey.finalized = true ∨ journey.compensated = true) :
    journey.wire.charges entry token =
      [⟨settlementOperationId journey.ctx.requestId, owed reserved journey⟩] := by
  obtain ⟨command, hPinned, hCharges⟩ := h.held.settled (h.settled hDone)
  obtain ⟨_, hOperation⟩ := h.held.command command hPinned
  rw [hCharges, SettleCommand.payload, hOperation, (h.charge command hPinned).1]

end

/-- **Quota end to end.** A request whose id is not known to the store yet goes through its access
phase, and that ends without an error and without a response. Then its subject has no limits, or
the store holds a reservation of one request and the estimated tokens for exactly this subject.
In the second case, whatever becomes of the request and of the messages: once the finalizer has
returned without an error, and the compensator too if dispatch was aborted, the store has
entered one charge for the reservation, and that is the charge owed. -/
theorem quota_end_to_end {σ : Type} (store : RateLimitStore σ) (entry : Entries σ)
    (hStore : Accountable store entry) (runtime : Runtime) (link : Link σ RateLimitStoreError)
    (cfg : AiRateLimitConfig) (answers : BudgetAnswers) (ctx : RequestCtx) (s : σ)
    (hQuota : ctx.quota = none) (hFresh : ∀ key, entry key ctx.requestId s = none)
    (hLink : Leaves link entry ctx.requestId)
    (hOk : (accessRuntime store link runtime cfg answers ctx ⟨⟨s, 0⟩, [], []⟩).1 = .ok ())
    (hGoesOn : (Journey.enters store runtime link cfg answers ctx s).ctx.shortCircuited = false) :
    let start := Journey.enters store runtime link cfg answers ctx s
    ∃ subject limits, SubjectFor cfg ctx subject limits ∧
      ((limits.requests = none ∧ limits.tokens = none) ∨
        ∃ deploymentNamespace decision token, runtime.quota = some deploymentNamespace ∧
          entry (RateLimitKey.new deploymentNamespace subject) ctx.requestId
            start.wire.session.state = some ⟨decision, none⟩ ∧
          Grants decision token ∧ token.key = RateLimitKey.new deploymentNamespace subject ∧
          token.requestId = ctx.requestId ∧ token.limitsAtAdmission = limits ∧
          token.reserved = ⟨1, if limits.tokens.isSome then
            computeEstimatedPromptTokens runtime ctx else 0⟩ ∧
          ∀ acts, Follows store runtime (Hosted entry) start acts →
            (start.run store runtime acts).finalized = true →
            ((start.run store runtime acts).aborted = true →
              (start.run store runtime acts).compensated = true) →
            (start.run store runtime acts).wire.charges entry token =
              [⟨settlementOperationId ctx.requestId,
                owed token.reserved (start.run store runtime acts)⟩]) := by
  intro start
  have hAccess : Access entry runtime cfg ctx _ _ _ := accessRuntime_access answers hStore hLink
      (⟨hQuota, rfl, rfl⟩ : Untouched ctx (⟨⟨s, 0⟩, [], []⟩ : Wire σ)) hFresh
  rw [hOk] at hAccess
  generalize hOutcome : (Except.ok () : Except KongError Unit) = outcome at hAccess
  generalize hCtx : (accessRuntime store link runtime cfg answers ctx ⟨⟨s, 0⟩, [], []⟩).2.1 = ctx'
    at hAccess
  generalize hWire : (accessRuntime store link runtime cfg answers ctx ⟨⟨s, 0⟩, [], []⟩).2.2 = wire'
    at hAccess
  have hStart : start = ⟨ctx', wire', false, false, false, false⟩ := by
    rw [← hCtx, ← hWire]
    rfl
  cases hAccess with
  | failed hIdle => cases hOutcome
  | refused hIdle hShort =>
    rw [← hCtx] at hShort
    have hNever := hShort.symm.trans hGoesOn
    cases hNever
  | @unlimited _ _ subject hIdle hSubject => exact ⟨subject, _, hSubject, .inl ⟨rfl, rfl⟩⟩
  | @admitted _ _ subject limits request token hSubject hAdmitted =>
    obtain ⟨deploymentNamespace, decision, hNamespace, hRecorded, hGrants, hKey, hId, hReserved,
      hLimits⟩ := hAdmitted.recorded
    refine ⟨subject, limits, hSubject, .inr ⟨deploymentNamespace, decision, token, hNamespace, ?_,
      hGrants, hKey, hId, hLimits, hReserved, fun acts hFollows hFinalized _ => ?_⟩⟩
    · rw [hStart]
      exact hRecorded
    · have hOwing : ∃ request, Owing entry token token.reserved start request := by
        rw [hStart]
        refine ⟨request, hAdmitted.held, hAdmitted.reserved.trans hReserved.symm, ?_, ?_, ?_⟩
        · rw [hAdmitted.unprepared]
          exact fun command hCommand => by cases hCommand
        · exact fun hAborted => by cases hAborted
        · rintro (hFalse | hFalse)
          · cases hFalse
          · cases hFalse
      obtain ⟨request', h'⟩ := hFollows.invariant
        (fun journey act (h : ∃ request, Owing entry token token.reserved journey request) hAct =>
          h.elim fun _ hOwing => hOwing.step hStore hAct) hOwing
      have hSameId : (start.run store runtime acts).ctx.requestId = ctx.requestId :=
        h'.held.requestId.symm.trans hId
      rw [h'.charges (.inl hFinalized), hSameId]

/-- The upstream is attempted and reports seven tokens; the answer to the settlement is lost. -/
def sampleServed : List (Act TimedStore) :=
  [.proceeds { sampleJourney.ctx with upstreamAttempted := true, fact := some (some 7) },
    .finalize (sampleLink fun n => if n = 1 then .answerLost else .delivered) false]

theorem sampleServed_hosted :
    Follows sampleReadings.store sampleRuntime (Hosted memoryEntry) sampleJourney sampleServed := by
  refine ⟨⟨⟨rfl, false, rfl⟩, fun hFinalizing => ?_⟩, ⟨sampleLink_leaves _, trivial⟩, trivial⟩
  exact absurd hFinalizing (by decide)

theorem quota_end_to_end_sample :
    ∃ token, (sampleJourney.run sampleReadings.store sampleRuntime sampleServed).wire.charges
      memoryEntry token = [⟨"quota-settle:v1:a", ⟨1, 7⟩⟩] := by
  obtain ⟨subject, limits, hSubject, hUnlimited | ⟨_, _, token, _, _, _, _, _, _, _, hCharges⟩⟩ :=
    quota_end_to_end sampleReadings.store memoryEntry (memory_accountable sampleReadings)
      sampleRuntime (sampleLink fun _ => .delivered) sampleConfig sampleAnswers sampleCtx
      (sampleStore, 0) rfl (fun key => sampleStore_fresh key "a") (sampleLink_leaves _)
      (by decide) (by decide)
  · cases hSubject with
    | virtualKey hMode => exact absurd hMode (by decide)
    | global hMode => exact absurd hUnlimited.1 (by decide)
    | route hMode => exact absurd hMode (by decide)
    | consumer hMode => exact absurd hMode (by decide)
  · refine ⟨token, ?_⟩
    have hFinal : (sampleJourney.run sampleReadings.store sampleRuntime
      sampleServed).finalized = true := by decide
    have hOwed : owed token.reserved (sampleJourney.run sampleReadings.store sampleRuntime
        sampleServed) = ⟨1, 7⟩ := rfl
    rw [show sampleJourney = Journey.enters _ _ _ _ _ _ _ from rfl] at hFinal hOwed ⊢
    have hServed := hCharges sampleServed sampleServed_hosted hFinal
      fun hAborted => absurd hAborted (by decide)
    rw [hServed, hOwed]
    decide

end KongRust.Enforcement.Quota

import KongRust.Foundation.Serde
import KongRust.Proxy.Lifecycle

/-!
# Dispatch hooks

`run_dispatch_hooks`: the hooks before a request goes to its upstream, and the handlers that
compensate when it may not go. A hook and a handler change the request and the world as they like,
however they end.
-/

namespace KongRust.Proxy

/-! ## The request -/

/-- The extension with the format of a failure. -/
inductive DispatchFailureResponseFormat where
  | generic
  | openAi
  | anthropic
  deriving DecidableEq

structure RequestCtx where
  lifecycle : RequestLifecycle
  shortCircuited : Bool
  exitStatus : Option Nat
  exitBody : Option String
  exitHeaders : Option (List (String × String))
  upstreamDispatchForbidden : Bool
  failureFormat : Option DispatchFailureResponseFormat

def RequestCtx.forbidUpstreamDispatch (ctx : RequestCtx) : RequestCtx :=
  { ctx with upstreamDispatchForbidden := true }

structure DispatchFailureResponse where
  status : Nat
  code : String
  message : String

inductive DispatchFailurePolicy where
  | continue
  | failClosed (response : DispatchFailureResponse)

inductive DispatchAbortKind where
  | error
  | timeout
  | panic
  | explicit
  deriving DecidableEq

structure DispatchAbortCause where
  hookName : String
  kind : DispatchAbortKind

/-- How a hook or a handler ends. -/
inductive Outcome where
  | success
  | error
  | panic
  | timeout
  deriving DecidableEq

def Outcome.failureKind : Outcome → Option DispatchAbortKind
  | .success => none
  | .error => some .error
  | .panic => some .panic
  | .timeout => some .timeout

/-- What a hook does to the world and the request, up to where it ends. -/
structure Hook (W : Type) where
  name : String
  failurePolicy : DispatchFailurePolicy
  beforeUpstreamDispatch : W → RequestCtx → Outcome × W × RequestCtx

structure AbortHandler (W : Type) where
  name : String
  compensateBeforeResponse : DispatchAbortCause → W → RequestCtx → Outcome × W × RequestCtx

/-! ## The response to a failure -/

section Response

-- `Value::to_string`.
variable (jsonText : Json → String)

def errorType (status : Nat) : String :=
  if status = 401 then "invalid_request_error"
  else if status = 403 then "insufficient_quota"
  else if status = 429 then "rate_limit_error"
  else if 500 ≤ status ∧ status ≤ 599 then "server_error"
  else "gateway_error"

/-- The body of a failure in the format of the request. -/
def failureBody (ctx : RequestCtx) (response : DispatchFailureResponse) : Json :=
  match ctx.failureFormat.getD .generic with
  | .generic => .ofFields [("error", .ofFields
      [("code", .string response.code), ("message", .string response.message)])]
  | .openAi => .ofFields [("error", .ofFields
      [("message", .string response.message), ("type", .string (errorType response.status)),
        ("param", .null), ("code", .string response.code)])]
  | .anthropic => .ofFields [("type", .string "error"),
      ("error", .ofFields
        [("type", .string response.code), ("message", .string response.message)]),
      ("request_id", .string ctx.lifecycle.requestId)]

/-- `set_dispatch_failure_response`. -/
def setDispatchFailureResponse (ctx : RequestCtx) (response : DispatchFailureResponse) :
    RequestCtx :=
  { ctx with
    shortCircuited := true
    exitStatus := some response.status
    exitBody := some (jsonText (failureBody ctx response)) }

end Response

/-! ## The hooks -/

abbrev Abort := DispatchAbortCause × DispatchFailureResponse

def forbiddenResponse : DispatchFailureResponse :=
  ⟨503, "upstream_dispatch_forbidden", "Upstream dispatch unavailable"⟩

section Hooks

variable {W : Type}

/-- What follows from the end of a hook: its own failure, and what it did to the request. -/
def settleHook (hook : Hook W) (outcome : Outcome) (abort : Option Abort) (ctx : RequestCtx) :
    Option Abort × RequestCtx :=
  let (abort, ctx) :=
    match outcome.failureKind, hook.failurePolicy with
    | some kind, .failClosed response =>
      (abort.or (some (⟨hook.name, kind⟩, response)), ctx.forbidUpstreamDispatch)
    | _, _ => (abort, ctx)
  if ctx.shortCircuited || ctx.upstreamDispatchForbidden then
    let response :=
      match hook.failurePolicy with
      | .failClosed response => response
      | .continue => forbiddenResponse
    (abort.or (some (⟨hook.name, .explicit⟩, response)), ctx.forbidUpstreamDispatch)
  else (abort, ctx)

/-- The state of the loop over the hooks. -/
structure Hooked (W : Type) where
  abort : Option Abort
  world : W
  ctx : RequestCtx

def runHook (state : Hooked W) (hook : Hook W) : Hooked W :=
  let (outcome, world, ctx) := hook.beforeUpstreamDispatch state.world state.ctx
  let (abort, ctx) := settleHook hook outcome state.abort ctx
  ⟨abort, world, ctx⟩

def runHooks (hooks : List (Hook W)) (state : Hooked W) : Hooked W := hooks.foldl runHook state

def runHandlers (cause : DispatchAbortCause) :
    List (AbortHandler W) → W × RequestCtx → W × RequestCtx
  | [], state => state
  | handler :: handlers, (world, ctx) =>
    let (_, world, ctx) := handler.compensateBeforeResponse cause world ctx
    runHandlers cause handlers (world, ctx)

/-- Whether the request may go to its upstream, and what the hooks and handlers have done. -/
structure Dispatched (W : Type) where
  proceeds : Bool
  world : W
  ctx : RequestCtx

end Hooks

section Run

variable {W : Type} (jsonText : Json → String)

def rootFailure (response : DispatchFailureResponse) (ctx : RequestCtx) : RequestCtx :=
  if ctx.shortCircuited then ctx else setDispatchFailureResponse jsonText ctx response

/-- `run_dispatch_hooks`. -/
def runDispatchHooks (hooks : List (Hook W)) (handlers : List (AbortHandler W)) (world : W)
    (ctx : RequestCtx) : Dispatched W :=
  let hooked := runHooks hooks ⟨none, world, ctx⟩
  match hooked.abort with
  | none => ⟨!hooked.ctx.upstreamDispatchForbidden, hooked.world, hooked.ctx⟩
  | some (cause, response) =>
    let root := rootFailure jsonText response hooked.ctx.forbidUpstreamDispatch
    let (world, ctx) := runHandlers cause handlers (hooked.world, root)
    { proceeds := false
      world := world
      ctx :=
        { ctx with
          shortCircuited := true
          exitStatus := root.exitStatus
          exitBody := root.exitBody
          exitHeaders := root.exitHeaders
          lifecycle := ctx.lifecycle.markGatewayError .upstream "request_dispatch_hook" } }

end Run

/-! ## The first failure -/

section Failures

variable {W : Type}

def Hook.response (hook : Hook W) : DispatchFailureResponse :=
  match hook.failurePolicy with
  | .failClosed response => response
  | .continue => forbiddenResponse

/-- A hook fails: it is fail-closed and does not end well, or it forbids the dispatch. -/
def Hook.fails (hook : Hook W) (outcome : Outcome) (ctx : RequestCtx) : Bool :=
  (match hook.failurePolicy with
    | .failClosed _ => outcome != .success
    | .continue => false) || ctx.shortCircuited || ctx.upstreamDispatchForbidden

/-- The first hook that fails: the world and the request as it leaves them, the hooks that come
after it, and the response that it has. -/
structure Failure (W : Type) where
  world : W
  ctx : RequestCtx
  later : List (Hook W)
  response : DispatchFailureResponse

def firstFailure : List (Hook W) → W → RequestCtx → Option (Failure W)
  | [], _, _ => none
  | hook :: hooks, world, ctx =>
    let (outcome, world, ctx) := hook.beforeUpstreamDispatch world ctx
    if hook.fails outcome ctx then some ⟨world, ctx, hooks, hook.response⟩
    else firstFailure hooks world ctx

/-- What a hook writes, with the dispatch forbidden where it fails. -/
def Hook.consult (state : W × RequestCtx) (hook : Hook W) : W × RequestCtx :=
  let (outcome, world, ctx) := hook.beforeUpstreamDispatch state.1 state.2
  (world, if hook.fails outcome ctx then ctx.forbidUpstreamDispatch else ctx)

/-- What the hooks write, one after the other. -/
def consulted (hooks : List (Hook W)) (state : W × RequestCtx) : W × RequestCtx :=
  hooks.foldl Hook.consult state

/-- What the handlers write, one after the other. -/
def compensated (cause : DispatchAbortCause) (handlers : List (AbortHandler W))
    (state : W × RequestCtx) : W × RequestCtx :=
  handlers.foldl (fun state handler =>
    (handler.compensateBeforeResponse cause state.1 state.2).2) state

variable {hook : Hook W} {outcome : Outcome}

theorem settleHook_of_fails {ctx : RequestCtx} (h : hook.fails outcome ctx) (abort : Option Abort) :
    ∃ cause, settleHook hook outcome abort ctx =
      (some (abort.getD (cause, hook.response)), ctx.forbidUpstreamDispatch) := by
  obtain ⟨name, policy, run⟩ := hook
  unfold settleHook
  cases policy with
  | failClosed response =>
    cases hKind : outcome.failureKind with
    | none =>
      have hCtx : ctx.shortCircuited || ctx.upstreamDispatchForbidden := by
        cases outcome with
        | success => exact h
        | _ => cases hKind
      exact ⟨⟨name, .explicit⟩, by cases abort <;> simp [Hook.response, hCtx]⟩
    | some kind =>
      refine ⟨⟨name, kind⟩, ?_⟩
      cases abort <;> simp [Hook.response, RequestCtx.forbidUpstreamDispatch]
  | «continue» =>
    have hCtx : ctx.shortCircuited || ctx.upstreamDispatchForbidden := h
    exact ⟨⟨name, .explicit⟩, by
      cases outcome <;> cases abort <;> simp [Outcome.failureKind, Hook.response, hCtx]⟩

theorem settleHook_of_not_fails {abort : Option Abort} {ctx : RequestCtx}
    (h : hook.fails outcome ctx = false) : settleHook hook outcome abort ctx = (abort, ctx) := by
  obtain ⟨name, policy, run⟩ := hook
  unfold settleHook
  cases policy with
  | failClosed response =>
    cases outcome with
    | success =>
      have hCtx : (ctx.shortCircuited || ctx.upstreamDispatchForbidden) = false := h
      simp [Outcome.failureKind, hCtx]
    | _ => cases h
  | «continue» =>
    have hCtx : (ctx.shortCircuited || ctx.upstreamDispatchForbidden) = false := h
    cases outcome <;> simp [Outcome.failureKind, hCtx]

/-- One turn of the loop writes what the hook writes, and keeps the cause that it has. -/
theorem runHook_eq (state : Hooked W) (hook : Hook W) :
    ((runHook state hook).world, (runHook state hook).ctx) =
        hook.consult (state.world, state.ctx) ∧
      ∀ abort, state.abort = some abort → (runHook state hook).abort = some abort := by
  unfold runHook Hook.consult
  obtain ⟨outcome, world, ctx⟩ := hook.beforeUpstreamDispatch state.world state.ctx
  dsimp only
  cases hFails : hook.fails outcome ctx with
  | false =>
    rw [settleHook_of_not_fails hFails]
    exact ⟨rfl, fun abort h => h⟩
  | true =>
    obtain ⟨cause, hSettled⟩ := settleHook_of_fails hFails state.abort
    rw [hSettled]
    refine ⟨rfl, fun abort h => ?_⟩
    rw [h, Option.getD_some]

variable {hooks : List (Hook W)} {state : Hooked W}

/-- Every hook is called once, in order, whatever has failed before. -/
theorem runHooks_consulted : ((runHooks hooks state).world, (runHooks hooks state).ctx) =
    consulted hooks (state.world, state.ctx) := by
  induction hooks generalizing state with
  | nil => rfl
  | cons hook hooks ih =>
    rw [consulted, List.foldl_cons, ← (runHook_eq state hook).1]
    exact ih

theorem runHooks_abort {abort : Abort} (h : state.abort = some abort) :
    (runHooks hooks state).abort = some abort := by
  induction hooks generalizing state with
  | nil => exact h
  | cons hook hooks ih => exact ih ((runHook_eq state hook).2 abort h)

theorem runHandlers_compensated {cause : DispatchAbortCause} {handlers : List (AbortHandler W)}
    {state : W × RequestCtx} :
    runHandlers cause handlers state = compensated cause handlers state := by
  induction handlers generalizing state with
  | nil => rfl
  | cons handler handlers ih => exact ih

variable {world : W} {ctx : RequestCtx} {failure : Failure W}

/-- From the first failure on, the loop has its cause and goes on with the later hooks. -/
theorem runHooks_failure (h : firstFailure hooks world ctx = some failure) :
    ∃ cause, runHooks hooks ⟨none, world, ctx⟩ = runHooks failure.later
      ⟨some (cause, failure.response), failure.world, failure.ctx.forbidUpstreamDispatch⟩ := by
  induction hooks generalizing world ctx with
  | nil => cases h
  | cons hook hooks ih =>
    rw [firstFailure] at h
    rw [runHooks, List.foldl_cons, runHook]
    generalize hook.beforeUpstreamDispatch world ctx = called at h ⊢
    obtain ⟨outcome, world', ctx'⟩ := called
    dsimp only at h ⊢
    cases hFails : hook.fails outcome ctx' with
    | false =>
      rw [hFails, if_neg Bool.false_ne_true] at h
      rw [settleHook_of_not_fails hFails]
      exact ih h
    | true =>
      rw [hFails, if_pos rfl] at h
      cases h
      obtain ⟨cause, hSettled⟩ := settleHook_of_fails hFails none
      rw [hSettled]
      exact ⟨cause, rfl⟩

end Failures

/-! ## What a failure is answered with -/

/-- The response that is written for a request that does not go on. -/
def RequestCtx.exit (ctx : RequestCtx) :
    Option Nat × Option String × Option (List (String × String)) :=
  (ctx.exitStatus, ctx.exitBody, ctx.exitHeaders)

section Answers

variable {W : Type} (jsonText : Json → String)

/-- A request that a hook has failed is answered with what was written to it, or else with the
response of the hook. -/
def RequestCtx.answer (ctx : RequestCtx) (response : DispatchFailureResponse) :
    Option Nat × Option String × Option (List (String × String)) :=
  if ctx.shortCircuited then ctx.exit
  else (some response.status, some (jsonText (failureBody ctx response)), ctx.exitHeaders)

/-- Nothing goes upstream, and every hook and then every handler is called once, in order, on what
the one before it left. -/
structure Contained (hooks : List (Hook W)) (handlers : List (AbortHandler W)) (world : W)
    (ctx : RequestCtx) (failure : Failure W) (dispatched : Dispatched W) : Prop where
  refused : dispatched.proceeds = false
  called : ∃ cause, dispatched.world = (compensated cause handlers
    ((consulted hooks (world, ctx)).1, rootFailure jsonText failure.response
      (consulted hooks (world, ctx)).2.forbidUpstreamDispatch)).1

/-- The response, too, is that of the first failure. -/
structure Safe (hooks : List (Hook W)) (handlers : List (AbortHandler W)) (world : W)
    (ctx : RequestCtx) (failure : Failure W) (dispatched : Dispatched W) : Prop
    extends Contained jsonText hooks handlers world ctx failure dispatched where
  exit : dispatched.ctx.exit = failure.ctx.answer jsonText failure.response

/-- What is written after the first failure leaves the response to it as it is: the one that was
written, or else what the one that is to be written depends on. -/
def Undisturbed (response : DispatchFailureResponse) (first last : RequestCtx) : Prop :=
  let written := fun ctx : RequestCtx =>
    (some response.status, some (jsonText (failureBody ctx response)), ctx.exitHeaders)
  match first.shortCircuited, last.shortCircuited with
  | true, true => last.exit = first.exit
  | true, false => written last = first.exit
  | false, true => last.exit = written first
  | false, false => last.exitHeaders = first.exitHeaders ∧
    jsonText (failureBody last response) = jsonText (failureBody first response)

theorem undisturbed_iff {response : DispatchFailureResponse} {first last : RequestCtx} :
    Undisturbed jsonText response first last ↔
      last.answer jsonText response = first.answer jsonText response := by
  unfold Undisturbed RequestCtx.answer
  cases hFirst : first.shortCircuited <;> cases hLast : last.shortCircuited <;> simp [and_comm]

theorem rootFailure_exit (response : DispatchFailureResponse) (ctx : RequestCtx) :
    (rootFailure jsonText response ctx.forbidUpstreamDispatch).exit =
      ctx.answer jsonText response := by
  unfold rootFailure RequestCtx.answer
  cases hShort : ctx.shortCircuited <;>
    simp [RequestCtx.forbidUpstreamDispatch, hShort, RequestCtx.exit, setDispatchFailureResponse,
      failureBody]

/-- After a failure nothing goes upstream and every hook and handler is called once; the response is
that of the first failure if and only if what the later hooks write leaves it alone. -/
theorem safe_iff {hooks : List (Hook W)} {handlers : List (AbortHandler W)} {world : W}
    {ctx : RequestCtx} {failure : Failure W} (h : firstFailure hooks world ctx = some failure) :
    Contained jsonText hooks handlers world ctx failure
        (runDispatchHooks jsonText hooks handlers world ctx) ∧
      (Safe jsonText hooks handlers world ctx failure
          (runDispatchHooks jsonText hooks handlers world ctx) ↔
        Undisturbed jsonText failure.response failure.ctx (consulted failure.later
          (failure.world, failure.ctx.forbidUpstreamDispatch)).2) := by
  obtain ⟨cause, hRun⟩ := runHooks_failure h
  have hAll : ((runHooks hooks ⟨none, world, ctx⟩).world, (runHooks hooks ⟨none, world, ctx⟩).ctx) =
      consulted hooks (world, ctx) := runHooks_consulted
  let failed : Hooked W :=
    ⟨some (cause, failure.response), failure.world, failure.ctx.forbidUpstreamDispatch⟩
  have hLater : ((runHooks failure.later failed).world, (runHooks failure.later failed).ctx) =
      consulted failure.later (failure.world, failure.ctx.forbidUpstreamDispatch) :=
    runHooks_consulted
  have hAbort : (runHooks hooks ⟨none, world, ctx⟩).abort = some (cause, failure.response) := by
    rw [hRun]
    exact runHooks_abort rfl
  have hContained : Contained jsonText hooks handlers world ctx failure
      (runDispatchHooks jsonText hooks handlers world ctx) := by
    unfold runDispatchHooks
    dsimp only
    rw [hAbort]
    refine ⟨rfl, cause, ?_⟩
    rw [← hAll, ← runHandlers_compensated]
  have hExit : (runDispatchHooks jsonText hooks handlers world ctx).ctx.exit =
      (consulted failure.later (failure.world, failure.ctx.forbidUpstreamDispatch)).2.answer
        jsonText failure.response := by
    rw [← hLater, ← hRun, ← rootFailure_exit]
    unfold runDispatchHooks
    dsimp only
    rw [hAbort]
    rfl
  refine ⟨hContained, ?_⟩
  rw [undisturbed_iff, ← hExit]
  exact ⟨fun hSafe => hSafe.exit, fun hSame => ⟨hContained, hSame⟩⟩

end Answers

/-! ## A later hook that answers -/

namespace LaterAnswer

def jsonText (_ : Json) : String := "unavailable"

def ctx : RequestCtx := ⟨⟨"r", none, none⟩, false, none, none, none, false, none⟩

def budget : Hook (List String) where
  name := "ai-budget-dispatch"
  failurePolicy := .failClosed ⟨503, "budget_unavailable", "budget unavailable"⟩
  beforeUpstreamDispatch world ctx := (.error, world ++ ["budget"], ctx)

def denial : Hook (List String) where
  name := "denial"
  failurePolicy := .continue
  beforeUpstreamDispatch world ctx :=
    (.success, world,
      { ctx with shortCircuited := true, exitStatus := some 403, exitBody := some "denied" })

/-- The first failure is 503, but the later hook's 403 is answered. -/
theorem denial_answered :
    (runDispatchHooks jsonText [budget, denial] [] [] ctx).ctx.exitStatus = some 403 ∧
      ∃ failure, firstFailure [budget, denial] [] ctx = some failure ∧
        ¬ Safe jsonText [budget, denial] [] [] ctx failure
          (runDispatchHooks jsonText [budget, denial] [] [] ctx) := by
  refine ⟨rfl, _, rfl, fun hSafe => ?_⟩
  have hStatus : some 403 = some 503 := congrArg Prod.fst hSafe.exit
  exact absurd hStatus (by decide)

def audit : Hook (List String) where
  name := "audit"
  failurePolicy := .continue
  beforeUpstreamDispatch world ctx := (.timeout, world ++ ["audit"], ctx)

/-- It writes a response of its own, which is not kept. -/
def release : AbortHandler (List String) where
  name := "release"
  compensateBeforeResponse _ world ctx :=
    (.success, world ++ ["release"], { ctx with exitStatus := some 500 })

/-- A failure that no later hook disturbs. -/
theorem audited_is_safe :
    (runDispatchHooks jsonText [budget, audit] [release] [] ctx).world =
        ["budget", "audit", "release"] ∧
      ∃ failure, firstFailure [budget, audit] [] ctx = some failure ∧
        Safe jsonText [budget, audit] [release] [] ctx failure
          (runDispatchHooks jsonText [budget, audit] [release] [] ctx) :=
  ⟨rfl, _, rfl, (safe_iff jsonText rfl).2.mpr ⟨rfl, rfl⟩⟩

end LaterAnswer

end KongRust.Proxy

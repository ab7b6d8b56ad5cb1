import KongRust.Proxy.Dispatch

/-!
# The phases of a plugin chain

`execute_phase` and `execute_body_filter`: the loop over the plugins of a request. A handler does to
the request and the world what it likes, but changes the hint about the end of the request only by
marking.
-/

namespace KongRust.Proxy

/-! ## The hint about the end of a request -/

def LifecyclePhase.ofPhase : Phase → LifecyclePhase
  | .initWorker => .initialization
  | .certificate => .certificate
  | .rewrite => .rewrite
  | .access => .access
  | .response => .response
  | .headerFilter => .headerFilter
  | .bodyFilter => .bodyFilter
  | .log => .logging

namespace RequestLifecycle

variable (lifecycle : RequestLifecycle)

def mark (lifecycle : RequestLifecycle) (hints : List RequestTerminationHint) : RequestLifecycle :=
  hints.foldl setTerminationHint lifecycle

end RequestLifecycle

def noteHint (current : Option RequestTerminationHint) (hint : RequestTerminationHint) :
    Option RequestTerminationHint :=
  match current with
  | some current => if current.priority < hint.priority then some hint else some current
  | none => some hint

theorem setTerminationHint_hint (lifecycle : RequestLifecycle) (hint : RequestTerminationHint) :
    (lifecycle.setTerminationHint hint).terminationHint =
      noteHint lifecycle.terminationHint hint := by
  unfold RequestLifecycle.setTerminationHint noteHint
  cases hCurrent : lifecycle.terminationHint with
  | none => rfl
  | some current =>
    dsimp only
    split
    · rfl
    · exact hCurrent

theorem mark_hint (hints : List RequestTerminationHint) (lifecycle : RequestLifecycle) :
    (lifecycle.mark hints).terminationHint = hints.foldl noteHint lifecycle.terminationHint := by
  unfold RequestLifecycle.mark
  induction hints generalizing lifecycle with
  | nil => rfl
  | cons hint hints ih =>
    rw [List.foldl_cons, List.foldl_cons, ih, setTerminationHint_hint]

def Strongest (marks : List RequestTerminationHint) (hint : RequestTerminationHint) : Prop :=
  ∃ before after, marks = before ++ hint :: after ∧
    (∀ other ∈ before, other.priority < hint.priority) ∧
    ∀ other ∈ after, other.priority ≤ hint.priority

theorem foldl_noteHint_some (marks : List RequestTerminationHint) (first : RequestTerminationHint) :
    ∃ hint, marks.foldl noteHint (some first) = some hint ∧ Strongest (first :: marks) hint := by
  induction marks using List.reverseRecOn with
  | nil => exact ⟨first, rfl, [], [], rfl, by simp, by simp⟩
  | append_singleton marks last ih =>
    obtain ⟨hint, hFold, before, after, hMarks, hBefore, hAfter⟩ := ih
    rw [List.foldl_append, hFold]
    by_cases hLast : hint.priority < last.priority
    · refine ⟨last, if_pos hLast, first :: marks, [], rfl, fun other hOther => ?_, by simp⟩
      rw [hMarks] at hOther
      obtain hFront | hRest := List.mem_append.mp hOther
      · exact (hBefore other hFront).trans hLast
      · obtain rfl | hBack := List.mem_cons.mp hRest
        · exact hLast
        · exact (hAfter other hBack).trans_lt hLast
    · refine ⟨hint, if_neg hLast, before, after ++ [last], ?_, hBefore, fun other hOther => ?_⟩
      · rw [← List.cons_append, hMarks, List.append_assoc, List.cons_append]
      · obtain hBack | hNew := List.mem_append.mp hOther
        · exact hAfter other hBack
        · rw [List.mem_singleton.mp hNew]
          omega

theorem foldl_noteHint_none (marks : List RequestTerminationHint) :
    (marks = [] ∧ marks.foldl noteHint none = none) ∨
      ∃ hint, marks.foldl noteHint none = some hint ∧ Strongest marks hint := by
  cases marks with
  | nil => exact .inl ⟨rfl, rfl⟩
  | cons first marks => exact .inr (foldl_noteHint_some marks first)

/-! ## Plugins -/

structure PluginConfig where
  name : String
  config : Json

/-- How a handler leaves a request: `ctx` holds all but the hint, and `marks` what it marked. -/
structure Handled (W : Type) where
  result : Except String Unit
  world : W
  ctx : RequestCtx
  marks : List RequestTerminationHint

structure PluginHandler (W : Type) where
  priority : Int
  initWorker : PluginConfig → W → Except String Unit × W
  certificate : PluginConfig → W → RequestCtx → Handled W
  rewrite : PluginConfig → W → RequestCtx → Handled W
  access : PluginConfig → W → RequestCtx → Handled W
  response : PluginConfig → W → RequestCtx → Handled W
  headerFilter : PluginConfig → W → RequestCtx → Handled W
  bodyFilter : PluginConfig → W → RequestCtx → Option (List UInt8) → Bool →
    Handled W × Option (List UInt8)
  log : PluginConfig → W → RequestCtx → Handled W

structure ResolvedPlugin (W : Type) where
  handler : PluginHandler W
  config : PluginConfig
  pluginId : Uuid
  routeId : Option Uuid
  serviceId : Option Uuid
  consumerId : Option Uuid

/-- `KongError::PluginError`. -/
structure PluginError where
  pluginName : String
  message : String

/-- A request in its phases. -/
structure PhaseRun (W : Type) where
  world : W
  body : Option (List UInt8)
  ctx : RequestCtx

section Executor

variable {W : Type}

def Handled.leave (handled : Handled W) (before : RequestCtx) : RequestCtx :=
  { handled.ctx with
    lifecycle := RequestLifecycle.mark
      { handled.ctx.lifecycle with terminationHint := before.lifecycle.terminationHint }
      handled.marks }

/-- The handler of a phase, which leaves the body alone. -/
def ResolvedPlugin.call (plugin : ResolvedPlugin W) (phase : Phase) (world : W)
    (ctx : RequestCtx) : Handled W :=
  match phase with
  | .initWorker =>
    let (result, world) := plugin.handler.initWorker plugin.config world
    ⟨result, world, ctx, []⟩
  | .certificate => plugin.handler.certificate plugin.config world ctx
  | .rewrite => plugin.handler.rewrite plugin.config world ctx
  | .access => plugin.handler.access plugin.config world ctx
  | .response => plugin.handler.response plugin.config world ctx
  | .headerFilter => plugin.handler.headerFilter plugin.config world ctx
  -- `body_filter` needs the body, so `execute_body_filter` is used instead
  | .bodyFilter => ⟨.ok (), world, ctx, []⟩
  | .log => plugin.handler.log plugin.config world ctx

variable (validatePluginConfig : String → Json → Except String Unit)

def failureMarks (phase : Phase) (name : String) : List RequestTerminationHint :=
  if phase ≠ .log then [.gatewayError (.ofPhase phase) name] else []

def RequestCtx.mark (ctx : RequestCtx) (hints : List RequestTerminationHint) : RequestCtx :=
  { ctx with lifecycle := ctx.lifecycle.mark hints }

/-- One turn of either loop, with the call of the plugin's handler. -/
def visitPlugin (phase : Phase)
    (call : W → RequestCtx → Option (List UInt8) → Handled W × Option (List UInt8))
    (config : PluginConfig) (run : PhaseRun W) : Option PluginError × PhaseRun W :=
  match validatePluginConfig config.name config.config with
  | .error error =>
    (some ⟨config.name, "invalid plugin config: " ++ error⟩,
      { run with ctx := run.ctx.mark (failureMarks phase config.name) })
  | .ok () =>
    let (handled, body) := call run.world run.ctx run.body
    let ctx := handled.leave run.ctx
    match handled.result with
    | .error e =>
      (some ⟨config.name, e⟩, ⟨handled.world, body, ctx.mark (failureMarks phase config.name)⟩)
    | .ok () =>
      if !run.ctx.shortCircuited && ctx.shortCircuited &&
          decide (ctx.lifecycle.terminationHint = run.ctx.lifecycle.terminationHint) then
        (none, ⟨handled.world, body, ctx.mark [.policyRejected phase config.name]⟩)
      else (none, ⟨handled.world, body, ctx⟩)

/-- The loop over the plugins; where `breaks`, it ends when the request is short-circuited. -/
def runChain (breaks : Bool)
    (visit : ResolvedPlugin W → PhaseRun W → Option PluginError × PhaseRun W) :
    List (ResolvedPlugin W) → PhaseRun W → Option PluginError × PhaseRun W
  | [], run => (none, run)
  | plugin :: plugins, run =>
    if run.ctx.shortCircuited && breaks then (none, run)
    else
      match visit plugin run with
      | (some error, run) => (some error, run)
      | (none, run) => runChain breaks visit plugins run

/-- The phases whose loop goes on in a request that is short-circuited. -/
def Phase.alwaysRuns : Phase → Bool
  | .log | .headerFilter | .bodyFilter => true
  | _ => false

def executePhase (plugins : List (ResolvedPlugin W)) (phase : Phase) (run : PhaseRun W) :
    Option PluginError × PhaseRun W :=
  runChain (!phase.alwaysRuns) (fun plugin run =>
    visitPlugin validatePluginConfig phase
      (fun world ctx body => (plugin.call phase world ctx, body)) plugin.config run)
    plugins run

def executeBodyFilter (plugins : List (ResolvedPlugin W)) (endOfStream : Bool) (run : PhaseRun W) :
    Option PluginError × PhaseRun W :=
  runChain true (fun plugin run =>
    visitPlugin validatePluginConfig .bodyFilter
      (fun world ctx body => plugin.handler.bodyFilter plugin.config world ctx body endOfStream)
      plugin.config run)
    plugins run

/-! ## Turns -/

/-- A call of the executor in the life of a request. -/
inductive PhaseCall (W : Type) where
  | execute (plugins : List (ResolvedPlugin W)) (phase : Phase)
  | bodyFilter (plugins : List (ResolvedPlugin W)) (endOfStream : Bool)

namespace PhaseCall

def plugins : PhaseCall W → List (ResolvedPlugin W)
  | .execute plugins _ | .bodyFilter plugins _ => plugins

def name : PhaseCall W → Phase
  | .execute _ phase => phase
  | .bodyFilter _ _ => .bodyFilter

/-- A short-circuited request ends the loop. -/
def breaks : PhaseCall W → Bool
  | .execute _ phase => !phase.alwaysRuns
  | .bodyFilter _ _ => true

/-- What the handler of a plugin makes of a request. -/
def handle (plugin : ResolvedPlugin W) (run : PhaseRun W) :
    PhaseCall W → Handled W × Option (List UInt8)
  | .execute _ phase => (plugin.call phase run.world run.ctx, run.body)
  | .bodyFilter _ endOfStream =>
    plugin.handler.bodyFilter plugin.config run.world run.ctx run.body endOfStream

variable (call : PhaseCall W)

/-- The turn of a plugin: its configuration is refused, or its handler is called and leaves world,
body and request; with what is marked. -/
inductive Turned (call : PhaseCall W) (plugin : ResolvedPlugin W) (run : PhaseRun W) :
    Option PluginError → PhaseRun W → List RequestTerminationHint → Prop
  | refused {error : String}
      (hConfig : validatePluginConfig plugin.config.name plugin.config.config = .error error) :
      Turned call plugin run (some ⟨plugin.config.name, "invalid plugin config: " ++ error⟩)
        { run with ctx := run.ctx.mark (failureMarks call.name plugin.config.name) }
        (failureMarks call.name plugin.config.name)
  | failed {handled : Handled W} {body : Option (List UInt8)} {e : String}
      (hConfig : validatePluginConfig plugin.config.name plugin.config.config = .ok ())
      (hCall : call.handle plugin run = (handled, body)) (hResult : handled.result = .error e) :
      Turned call plugin run (some ⟨plugin.config.name, e⟩)
        ⟨handled.world, body,
          (handled.leave run.ctx).mark (failureMarks call.name plugin.config.name)⟩
        (handled.marks ++ failureMarks call.name plugin.config.name)
  | rejected {handled : Handled W} {body : Option (List UInt8)}
      (hConfig : validatePluginConfig plugin.config.name plugin.config.config = .ok ())
      (hCall : call.handle plugin run = (handled, body)) (hResult : handled.result = .ok ())
      (hOpen : run.ctx.shortCircuited = false) (hClosed : handled.ctx.shortCircuited = true)
      (hHint : (handled.leave run.ctx).lifecycle.terminationHint =
        run.ctx.lifecycle.terminationHint) :
      Turned call plugin run none
        ⟨handled.world, body,
          (handled.leave run.ctx).mark [.policyRejected call.name plugin.config.name]⟩
        (handled.marks ++ [.policyRejected call.name plugin.config.name])
  | passed {handled : Handled W} {body : Option (List UInt8)}
      (hConfig : validatePluginConfig plugin.config.name plugin.config.config = .ok ())
      (hCall : call.handle plugin run = (handled, body)) (hResult : handled.result = .ok ())
      (hHint : run.ctx.shortCircuited = false → handled.ctx.shortCircuited = true →
        (handled.leave run.ctx).lifecycle.terminationHint ≠ run.ctx.lifecycle.terminationHint) :
      Turned call plugin run none ⟨handled.world, body, handled.leave run.ctx⟩ handled.marks

/-- The plugins take their turns, each once and on what the one before it left. Only the last may
fail or, where that ends the loop, short-circuit. -/
inductive Turns (call : PhaseCall W) : List (ResolvedPlugin W) → PhaseRun W →
    Option PluginError → PhaseRun W → List RequestTerminationHint → Prop
  | nil {run : PhaseRun W} : Turns call [] run none run []
  | last {plugin : ResolvedPlugin W} {run run' : PhaseRun W} {error : Option PluginError}
      {marks : List RequestTerminationHint}
      (hTurn : call.Turned validatePluginConfig plugin run error run' marks) :
      Turns call [plugin] run error run' marks
  | next {plugin : ResolvedPlugin W} {plugins : List (ResolvedPlugin W)}
      {run next run' : PhaseRun W} {error : Option PluginError}
      {marks others : List RequestTerminationHint}
      (hTurn : call.Turned validatePluginConfig plugin run none next marks)
      (hOpen : call.breaks = true → next.ctx.shortCircuited = false)
      (hRest : Turns call plugins next error run' others) :
      Turns call (plugin :: plugins) run error run' (marks ++ others)

/-- A call gives the plugins at the front of the chain their turns, all of them or up to one that
ends it. -/
structure Ran (call : PhaseCall W) (run : PhaseRun W) (error : Option PluginError)
    (run' : PhaseRun W) (front : List (ResolvedPlugin W)) (marks : List RequestTerminationHint) :
    Prop where
  inOrder : front <+: call.plugins
  turns : call.Turns validatePluginConfig front run error run' marks
  stopped : front ≠ call.plugins →
    error ≠ none ∨ call.breaks = true ∧ run'.ctx.shortCircuited = true

end PhaseCall

/-- The calls of a request, with all that is marked in them. -/
inductive PhaseRun.Lives : PhaseRun W → List (PhaseCall W) → PhaseRun W →
    List RequestTerminationHint → Prop
  | nil {run : PhaseRun W} : Lives run [] run []
  | cons {call : PhaseCall W} {calls : List (PhaseCall W)} {run next run' : PhaseRun W}
      {error : Option PluginError} {front : List (ResolvedPlugin W)}
      {marks others : List RequestTerminationHint}
      (hRan : call.Ran validatePluginConfig run error next front marks)
      (hRest : Lives next calls run' others) : Lives run (call :: calls) run' (marks ++ others)

def PhaseRun.perform (run : PhaseRun W) : PhaseCall W → Option PluginError × PhaseRun W
  | .execute plugins phase => executePhase validatePluginConfig plugins phase run
  | .bodyFilter plugins endOfStream =>
    executeBodyFilter validatePluginConfig plugins endOfStream run

def PhaseRun.performAll (run : PhaseRun W) (calls : List (PhaseCall W)) : PhaseRun W :=
  calls.foldl (fun run call => (run.perform validatePluginConfig call).2) run

/-! ## One turn -/

theorem mark_ctx_hint (ctx : RequestCtx) (hints : List RequestTerminationHint) :
    (ctx.mark hints).lifecycle.terminationHint =
      hints.foldl noteHint ctx.lifecycle.terminationHint :=
  mark_hint hints ctx.lifecycle

theorem leave_hint (handled : Handled W) (before : RequestCtx) :
    (handled.leave before).lifecycle.terminationHint =
      handled.marks.foldl noteHint before.lifecycle.terminationHint :=
  mark_hint handled.marks _

section Loop

variable {call : PhaseCall W} {plugin : ResolvedPlugin W} {plugins front : List (ResolvedPlugin W)}
  {run run' : PhaseRun W} {error : Option PluginError} {marks : List RequestTerminationHint}

theorem visitPlugin_turned (call : PhaseCall W) (plugin : ResolvedPlugin W) (run : PhaseRun W)
    {handle : W → RequestCtx → Option (List UInt8) → Handled W × Option (List UInt8)}
    (hHandle : handle run.world run.ctx run.body = call.handle plugin run) :
    ∃ marks, call.Turned validatePluginConfig plugin run
      (visitPlugin validatePluginConfig call.name handle plugin.config run).1
      (visitPlugin validatePluginConfig call.name handle plugin.config run).2 marks := by
  unfold visitPlugin
  rw [hHandle]
  cases hConfig : validatePluginConfig plugin.config.name plugin.config.config with
  | error error => exact ⟨_, .refused hConfig⟩
  | ok =>
    cases hCall : call.handle plugin run with
    | mk handled body =>
      dsimp only
      cases hResult : handled.result with
      | error e => exact ⟨_, .failed hConfig hCall hResult⟩
      | ok =>
        dsimp only
        split
        · next hRejected =>
          simp only [Bool.and_eq_true, Bool.not_eq_true', decide_eq_true_eq] at hRejected
          exact ⟨_, .rejected hConfig hCall hResult hRejected.1.1 hRejected.1.2 hRejected.2⟩
        · next hPassed =>
          refine ⟨_, .passed hConfig hCall hResult fun hOpen hClosed hHint => hPassed ?_⟩
          rw [hOpen, decide_eq_true hHint]
          exact congrArg (true && · && true) hClosed

theorem PhaseCall.Turned.hint (h : call.Turned validatePluginConfig plugin run error run' marks) :
    run'.ctx.lifecycle.terminationHint =
      marks.foldl noteHint run.ctx.lifecycle.terminationHint := by
  cases h with
  | refused => exact mark_ctx_hint _ _
  | failed | rejected => rw [mark_ctx_hint, leave_hint, List.foldl_append]
  | passed => exact leave_hint _ _

theorem PhaseCall.Turns.hint (h : call.Turns validatePluginConfig front run error run' marks) :
    run'.ctx.lifecycle.terminationHint =
      marks.foldl noteHint run.ctx.lifecycle.terminationHint := by
  induction h with
  | nil => rfl
  | last hTurn => exact hTurn.hint
  | next hTurn _ _ ih => rw [ih, hTurn.hint, List.foldl_append]

/-! ## One phase -/

theorem runChain_turns {visit : ResolvedPlugin W → PhaseRun W → Option PluginError × PhaseRun W}
    (hVisit : ∀ plugin run, ∃ marks, call.Turned validatePluginConfig plugin run
      (visit plugin run).1 (visit plugin run).2 marks)
    (plugins : List (ResolvedPlugin W)) (run : PhaseRun W) :
    ∃ front rest marks, plugins = front ++ rest ∧
      call.Turns validatePluginConfig front run (runChain call.breaks visit plugins run).1
        (runChain call.breaks visit plugins run).2 marks ∧
      (rest ≠ [] → (runChain call.breaks visit plugins run).1 ≠ none ∨ call.breaks = true ∧
        (runChain call.breaks visit plugins run).2.ctx.shortCircuited = true) := by
  induction plugins generalizing run with
  | nil => exact ⟨[], [], [], rfl, .nil, fun h => absurd rfl h⟩
  | cons plugin plugins ih =>
    unfold runChain
    by_cases hBreak : (run.ctx.shortCircuited && call.breaks) = true
    · rw [if_pos hBreak]
      rw [Bool.and_eq_true] at hBreak
      exact ⟨[], plugin :: plugins, [], rfl, .nil, fun _ => .inr hBreak.symm⟩
    · rw [if_neg hBreak]
      obtain ⟨marks, hTurn⟩ := hVisit plugin run
      generalize visit plugin run = answer at hTurn
      obtain ⟨error, next⟩ := answer
      cases error with
      | some failure =>
        exact ⟨[plugin], plugins, marks, rfl, .last hTurn, fun _ => .inl (Option.some_ne_none _)⟩
      | none =>
        by_cases hOpen : call.breaks = true → next.ctx.shortCircuited = false
        · obtain ⟨front, rest, others, hPlugins, hRest, hStopped⟩ := ih next
          exact ⟨plugin :: front, rest, _, congrArg (plugin :: ·) hPlugins,
            .next hTurn hOpen hRest, hStopped⟩
        · -- the turn has ended the loop, which breaks off where it would go on
          rw [Classical.not_imp, Bool.not_eq_false] at hOpen
          have hEnd : runChain call.breaks visit plugins next = (none, next) := by
            cases plugins with
            | nil => rfl
            | cons => exact if_pos (by rw [hOpen.1, hOpen.2]; rfl)
          dsimp only
          rw [hEnd]
          exact ⟨[plugin], plugins, marks, rfl, .last hTurn, fun _ => .inr hOpen⟩

/-- A call runs the handlers of its phase, from the front of the chain. -/
theorem perform_ran (call : PhaseCall W) (run : PhaseRun W) :
    ∃ front marks, call.Ran validatePluginConfig run (run.perform validatePluginConfig call).1
      (run.perform validatePluginConfig call).2 front marks := by
  have hCall : ∃ visit : ResolvedPlugin W → PhaseRun W → Option PluginError × PhaseRun W,
      run.perform validatePluginConfig call = runChain call.breaks visit call.plugins run ∧
      ∀ plugin run, ∃ marks, call.Turned validatePluginConfig plugin run (visit plugin run).1
        (visit plugin run).2 marks := by
    cases call with
    | execute plugins phase =>
      exact ⟨_, rfl, fun plugin run =>
        visitPlugin_turned validatePluginConfig (.execute plugins phase) plugin run rfl⟩
    | bodyFilter plugins endOfStream =>
      exact ⟨_, rfl, fun plugin run =>
        visitPlugin_turned validatePluginConfig (.bodyFilter plugins endOfStream) plugin run rfl⟩
  obtain ⟨visit, hRun, hVisit⟩ := hCall
  obtain ⟨front, rest, marks, hPlugins, hTurns, hStopped⟩ :=
    runChain_turns validatePluginConfig hVisit call.plugins run
  rw [hRun]
  refine ⟨front, marks, ⟨rest, hPlugins.symm⟩, hTurns, fun hFront => hStopped fun hRest => ?_⟩
  rw [hRest, List.append_nil] at hPlugins
  exact hFront hPlugins.symm

theorem performAll_lives (calls : List (PhaseCall W)) (run : PhaseRun W) :
    ∃ marks, run.Lives validatePluginConfig calls (run.performAll validatePluginConfig calls)
      marks := by
  induction calls generalizing run with
  | nil => exact ⟨[], .nil⟩
  | cons call calls ih =>
    obtain ⟨front, marks, hRan⟩ := perform_ran validatePluginConfig call run
    obtain ⟨others, hRest⟩ := ih (run.perform validatePluginConfig call).2
    exact ⟨_, .cons hRan hRest⟩

theorem PhaseRun.Lives.hint {calls : List (PhaseCall W)}
    (h : run.Lives validatePluginConfig calls run' marks) :
    run'.ctx.lifecycle.terminationHint =
      marks.foldl noteHint run.ctx.lifecycle.terminationHint := by
  induction h with
  | nil => rfl
  | cons hRan _ ih => rw [ih, hRan.turns.hint, List.foldl_append]

end Loop

/-- **Phases.** The handlers of the plugins are called from the front of the chain, in its order and
each once: in the request phases up to the first plugin that fails or short-circuits, in the
response phases and the log phase for the whole chain when no plugin fails and the body is not
filtered in a request that is short-circuited. The hint that remains is the first of the highest
priority. -/
theorem phases_run (plugins : List (ResolvedPlugin W)) (run : PhaseRun W) :
    (∀ phase, phase.alwaysRuns = false → ∃ front marks,
      (PhaseCall.execute plugins phase).Ran validatePluginConfig run
        (executePhase validatePluginConfig plugins phase run).1
        (executePhase validatePluginConfig plugins phase run).2 front marks) ∧
    (∀ phase, phase = .headerFilter ∨ phase = .log → ∃ front marks,
      (PhaseCall.execute plugins phase).Ran validatePluginConfig run
        (executePhase validatePluginConfig plugins phase run).1
        (executePhase validatePluginConfig plugins phase run).2 front marks ∧
      ((executePhase validatePluginConfig plugins phase run).1 = none → front = plugins)) ∧
    (∀ endOfStream, ∃ front marks,
      (PhaseCall.bodyFilter plugins endOfStream).Ran validatePluginConfig run
        (executeBodyFilter validatePluginConfig plugins endOfStream run).1
        (executeBodyFilter validatePluginConfig plugins endOfStream run).2 front marks ∧
      ((executeBodyFilter validatePluginConfig plugins endOfStream run).1 = none →
        (executeBodyFilter validatePluginConfig plugins endOfStream run).2.ctx.shortCircuited =
          false → front = plugins)) ∧
    (run.ctx.lifecycle.terminationHint = none → ∀ calls : List (PhaseCall W), ∃ marks,
      run.Lives validatePluginConfig calls (run.performAll validatePluginConfig calls) marks ∧
      ((marks = [] ∧
        (run.performAll validatePluginConfig calls).ctx.lifecycle.terminationHint = none) ∨
      ∃ hint, (run.performAll validatePluginConfig calls).ctx.lifecycle.terminationHint =
          some hint ∧ Strongest marks hint)) := by
  refine ⟨fun phase _ => perform_ran validatePluginConfig (.execute plugins phase) run,
    fun phase hPhase => ?_, fun endOfStream => ?_, fun hFresh calls => ?_⟩
  · obtain ⟨front, marks, hRan⟩ := perform_ran validatePluginConfig (.execute plugins phase) run
    refine ⟨front, marks, hRan, fun hError => ?_⟩
    by_contra hFront
    obtain hFailed | ⟨hBreaks, -⟩ := hRan.stopped hFront
    · exact hFailed hError
    · obtain rfl | rfl := hPhase <;> cases hBreaks
  · obtain ⟨front, marks, hRan⟩ :=
      perform_ran validatePluginConfig (.bodyFilter plugins endOfStream) run
    refine ⟨front, marks, hRan, fun hError hOpen => ?_⟩
    by_contra hFront
    obtain hFailed | ⟨-, hShort⟩ := hRan.stopped hFront
    · exact hFailed hError
    · exact Bool.false_ne_true (hOpen.symm.trans hShort)
  · obtain ⟨marks, hLives⟩ := performAll_lives validatePluginConfig calls run
    refine ⟨marks, hLives, ?_⟩
    rw [hLives.hint, hFresh]
    exact foldl_noteHint_none marks

end Executor

/-! ## Sample chains -/

def acceptAny : String → Json → Except String Unit := fun _ _ => .ok ()

/-- A handler that notes its plugin in the world, leaves the request as it is and ends as given. -/
def notingHandler (result : Except String Unit) : PluginHandler (List String) :=
  let note (config : PluginConfig) (world : List String) (ctx : RequestCtx) :=
    ⟨result, world ++ [config.name], ctx, []⟩
  { priority := 0
    initWorker := fun _ world => (.ok (), world)
    certificate := note
    rewrite := note
    access := note
    response := note
    headerFilter := note
    bodyFilter := fun config world ctx body _ => (note config world ctx, body)
    log := note }

def samplePlugin (name : String) (handler : PluginHandler (List String)) :
    ResolvedPlugin (List String) :=
  ⟨handler, ⟨name, .object []⟩, 1, none, none, none⟩

def notingPlugin : ResolvedPlugin (List String) := samplePlugin "cors" (notingHandler (.ok ()))

def failingPlugin : ResolvedPlugin (List String) :=
  samplePlugin "http-log" (notingHandler (.error "connection refused"))

/-- It answers the request when the headers of the response are filtered. -/
def rejectingPlugin : ResolvedPlugin (List String) := samplePlugin "request-termination"
  { notingHandler (.ok ()) with
    headerFilter := fun _ world ctx => ⟨.ok (), world, { ctx with shortCircuited := true }, []⟩ }

def sampleRun (shortCircuited : Bool) : PhaseRun (List String) where
  world := []
  body := none
  ctx := ⟨⟨"3f0d8b1c6a2e4f70a1b2c3d4e5f60718", none, none⟩, shortCircuited, none, none, none, false,
    none⟩

def sampleChain : List (ResolvedPlugin (List String)) := [notingPlugin, rejectingPlugin]

theorem phases_run_sample : (∃ front marks,
      (PhaseCall.execute [notingPlugin, failingPlugin, rejectingPlugin] .access).Ran acceptAny
        (sampleRun false) (some ⟨"http-log", "connection refused"⟩)
        { sampleRun false with
          world := ["cors", "http-log"]
          ctx := (sampleRun false).ctx.mark [.gatewayError .access "http-log"] } front marks) ∧
    (∃ front marks, (PhaseCall.execute sampleChain .log).Ran acceptAny (sampleRun true) none
        { sampleRun true with world := ["cors", "request-termination"] } front marks ∧
      front = sampleChain) ∧
    (∃ front marks, (PhaseCall.bodyFilter sampleChain true).Ran acceptAny (sampleRun false) none
        { sampleRun false with world := ["cors", "request-termination"] } front marks ∧
      front = sampleChain) ∧
    ∃ marks hint, (sampleRun false).Lives acceptAny [.execute [failingPlugin] .access]
      ((sampleRun false).performAll acceptAny [.execute [failingPlugin] .access]) marks ∧
      Strongest marks hint := by
  obtain ⟨hAccess, -, -, -⟩ :=
    phases_run acceptAny [notingPlugin, failingPlugin, rejectingPlugin] (sampleRun false)
  obtain ⟨-, -, hBody, -⟩ := phases_run acceptAny sampleChain (sampleRun false)
  obtain ⟨-, hLog, -, -⟩ := phases_run acceptAny sampleChain (sampleRun true)
  obtain ⟨-, -, -, hHint⟩ := phases_run acceptAny [failingPlugin] (sampleRun false)
  refine ⟨hAccess .access rfl, ?_, ?_, ?_⟩
  · obtain ⟨front, marks, hRan, hAll⟩ := hLog .log (.inr rfl)
    exact ⟨front, marks, hRan, hAll rfl⟩
  · obtain ⟨front, marks, hRan, hAll⟩ := hBody true
    exact ⟨front, marks, hRan, hAll rfl rfl⟩
  · obtain ⟨marks, hLives, ⟨-, hNone⟩ | ⟨hint, -, hStrongest⟩⟩ :=
      hHint rfl [.execute [failingPlugin] .access]
    · cases hNone
    · exact ⟨marks, hint, hLives, hStrongest⟩

/-- Two handlers note their plugin in the world, however they end. -/
def ResolvedPlugin.Notes (plugin : ResolvedPlugin (List String)) : Prop :=
  ∀ world ctx body endOfStream,
    (plugin.handler.log plugin.config world ctx).world = world ++ [plugin.config.name] ∧
    (plugin.handler.bodyFilter plugin.config world ctx body endOfStream).1.world =
      world ++ [plugin.config.name]

/-- A failure ends the log phase, a short-circuit the filters of the body, and the rejection by a
later phase replaces an earlier error. -/
theorem phases_cut_short : (¬ ∀ (plugins : List (ResolvedPlugin (List String))) run,
      (∀ plugin ∈ plugins, plugin.Notes) → (executePhase acceptAny plugins .log run).2.world =
        run.world ++ plugins.map (·.config.name)) ∧
    (¬ ∀ (plugins : List (ResolvedPlugin (List String))) run,
      (∀ plugin ∈ plugins, plugin.Notes) → (executeBodyFilter acceptAny plugins true run).2.world =
        run.world ++ plugins.map (·.config.name)) ∧
    ¬ ∀ (calls : List (PhaseCall (List String))) (run : PhaseRun (List String))
        (marks : List RequestTerminationHint),
      run.Lives acceptAny calls (run.performAll acceptAny calls) marks →
        run.ctx.lifecycle.terminationHint = none →
          (run.performAll acceptAny calls).ctx.lifecycle.terminationHint = marks.head? := by
  refine ⟨fun h => ?_, fun h => ?_, fun h => ?_⟩
  · have hLog := h [failingPlugin, notingPlugin] (sampleRun false) (by
      intro plugin hMem
      fin_cases hMem <;> exact fun _ _ _ _ => ⟨rfl, rfl⟩)
    exact absurd hLog (by decide)
  · have hBody := h [notingPlugin] (sampleRun true) (by
      intro plugin hMem
      fin_cases hMem
      exact fun _ _ _ _ => ⟨rfl, rfl⟩)
    exact absurd hBody (by decide)
  · have hLives : (sampleRun false).Lives acceptAny [.execute [failingPlugin] .access,
        .execute [rejectingPlugin] .headerFilter] _ _ :=
      .cons ⟨List.prefix_rfl, .last (.failed rfl rfl rfl), fun hAll => absurd rfl hAll⟩
        (.cons ⟨List.prefix_rfl, .last (.rejected rfl rfl rfl rfl rfl rfl),
          fun hAll => absurd rfl hAll⟩ .nil)
    have hCause := h _ _ _ hLives rfl
    cases hCause

end KongRust.Proxy

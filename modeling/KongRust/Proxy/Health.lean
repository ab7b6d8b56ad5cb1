import Mathlib.Data.List.AList
import Mathlib.Data.List.DropRight

/-!
# Passive health checks

The counters of a target and the events that move them (`kong-proxy/src/health.rs`). Counters are
`i32` and wrap around. The failure counters are called consecutive, and they are as long as no
event leaves a running one alone: a healthy status resets the HTTP failures only, and a failure of
one kind resets no other kind.
-/

namespace KongRust.Proxy

inductive HealthStatus where
  | healthy
  | unhealthy
  | dnsError
  deriving DecidableEq

structure TargetHealth where
  status : HealthStatus
  successes : Int32
  tcpFailures : Int32
  timeouts : Int32
  httpFailures : Int32
  deriving DecidableEq

def TargetHealth.default : TargetHealth := ⟨.healthy, 0, 0, 0, 0⟩

/-- The settings of the active checks are left out. -/
structure HealthCheckerConfig where
  healthySuccesses : Int32
  unhealthyTcpFailures : Int32
  unhealthyTimeouts : Int32
  unhealthyHttpFailures : Int32
  passiveHealthyStatuses : List Int32
  passiveUnhealthyStatuses : List Int32

/-- `status_code as i32`. -/
def statusOf (code : UInt16) : Int32 := code.toUInt32.toInt32

inductive HealthEvent where
  | success
  | httpStatus (code : UInt16)
  | tcpFailure
  | timeout

/-! ## What an event does to a target -/

/-- The closure of `report_success`. -/
def onSuccess (health : TargetHealth) (config : HealthCheckerConfig) : TargetHealth :=
  let counted : TargetHealth :=
    { health with
      successes := health.successes + 1
      tcpFailures := 0
      timeouts := 0
      httpFailures := 0 }
  if 0 < config.healthySuccesses ∧ config.healthySuccesses ≤ counted.successes then
    { counted with status := .healthy }
  else counted

/-- The closure of `report_http_status`. -/
def onHttpStatus (code : UInt16) (health : TargetHealth) (config : HealthCheckerConfig) :
    TargetHealth :=
  if statusOf code ∈ config.passiveUnhealthyStatuses then
    let counted : TargetHealth :=
      { health with httpFailures := health.httpFailures + 1, successes := 0 }
    if 0 < config.unhealthyHttpFailures ∧ config.unhealthyHttpFailures ≤ counted.httpFailures then
      { counted with status := .unhealthy }
    else counted
  else if statusOf code ∈ config.passiveHealthyStatuses then
    let counted : TargetHealth :=
      { health with successes := health.successes + 1, httpFailures := 0 }
    if 0 < config.healthySuccesses ∧ config.healthySuccesses ≤ counted.successes then
      { counted with status := .healthy }
    else counted
  else health

/-- The closure of `report_tcp_failure`. -/
def onTcpFailure (health : TargetHealth) (config : HealthCheckerConfig) : TargetHealth :=
  let counted : TargetHealth :=
    { health with tcpFailures := health.tcpFailures + 1, successes := 0 }
  if 0 < config.unhealthyTcpFailures ∧ config.unhealthyTcpFailures ≤ counted.tcpFailures then
    { counted with status := .unhealthy }
  else counted

/-- The closure of `report_timeout`. -/
def onTimeout (health : TargetHealth) (config : HealthCheckerConfig) : TargetHealth :=
  let counted : TargetHealth :=
    { health with timeouts := health.timeouts + 1, successes := 0 }
  if 0 < config.unhealthyTimeouts ∧ config.unhealthyTimeouts ≤ counted.timeouts then
    { counted with status := .unhealthy }
  else counted

def HealthEvent.apply : HealthEvent → TargetHealth → HealthCheckerConfig → TargetHealth
  | .success => onSuccess
  | .httpStatus code => onHttpStatus code
  | .tcpFailure => onTcpFailure
  | .timeout => onTimeout

/-! ## The checker -/

/-- Upstreams by name, and in each its targets by address. -/
structure HealthChecker where
  targets : AList fun _ : String => AList fun _ : String => TargetHealth
  configs : AList fun _ : String => HealthCheckerConfig

namespace HealthChecker

def new : HealthChecker := ⟨∅, ∅⟩

variable (checker : HealthChecker)

def registerUpstream (checker : HealthChecker) (upstreamName : String) (targetAddrs : List String)
    (config : HealthCheckerConfig) : HealthChecker where
  targets := checker.targets.insert upstreamName
    (targetAddrs.foldl (fun map addr => map.insert addr .default) ∅)
  configs := checker.configs.insert upstreamName config

variable (upstreamName targetAddr : String)

def health (checker : HealthChecker) (upstreamName targetAddr : String) : Option TargetHealth :=
  (checker.targets.lookup upstreamName).bind fun map => map.lookup targetAddr

def isHealthy (checker : HealthChecker) (upstreamName targetAddr : String) : Bool :=
  match checker.health upstreamName targetAddr with
  | some health => health.status = .healthy
  | none => true

def updateHealth (checker : HealthChecker) (upstreamName targetAddr : String)
    (f : TargetHealth → HealthCheckerConfig → TargetHealth) : HealthChecker :=
  match checker.configs.lookup upstreamName with
  | none => checker
  | some config =>
    match checker.targets.lookup upstreamName with
    | none => checker
    | some map =>
      match map.lookup targetAddr with
      | none => checker
      | some health =>
        { checker with
          targets := checker.targets.insert upstreamName
            (map.insert targetAddr (f health config)) }

end HealthChecker

/-- An event of a target of an upstream. -/
structure HealthReport where
  upstreamName : String
  targetAddr : String
  event : HealthEvent

def HealthChecker.report (checker : HealthChecker) (report : HealthReport) : HealthChecker :=
  checker.updateHealth report.upstreamName report.targetAddr report.event.apply

def HealthChecker.run (checker : HealthChecker) (reports : List HealthReport) : HealthChecker :=
  reports.foldl HealthChecker.report checker

def eventsOf (upstreamName targetAddr : String) (reports : List HealthReport) :
    List HealthEvent :=
  (reports.filter fun report =>
    report.upstreamName = upstreamName ∧ report.targetAddr = targetAddr).map HealthReport.event

def replay (config : HealthCheckerConfig) (health : TargetHealth) (events : List HealthEvent) :
    TargetHealth :=
  events.foldl (fun health event => event.apply health config) health

section Checker

variable {checker : HealthChecker} {upstreamName targetAddr : String}
  {config : HealthCheckerConfig}

theorem HealthChecker.configs_report (checker : HealthChecker) (report : HealthReport) :
    (checker.report report).configs = checker.configs := by
  unfold HealthChecker.report HealthChecker.updateHealth
  repeat' split
  all_goals rfl

/-- A report changes its own target and no other. -/
theorem HealthChecker.health_report (hConfig : checker.configs.lookup upstreamName = some config)
    (report : HealthReport) :
    (checker.report report).health upstreamName targetAddr =
      if report.upstreamName = upstreamName ∧ report.targetAddr = targetAddr then
        (checker.health upstreamName targetAddr).map fun health => report.event.apply health config
      else checker.health upstreamName targetAddr := by
  obtain ⟨upstream, addr, event⟩ := report
  unfold HealthChecker.report HealthChecker.updateHealth HealthChecker.health
  by_cases hUpstream : upstream = upstreamName
  · subst hUpstream
    simp only [hConfig]
    cases hMap : checker.targets.lookup upstream with
    | none => simp [hMap]
    | some map =>
      cases hHealth : map.lookup addr with
      | none =>
        by_cases hAddr : addr = targetAddr
        · subst hAddr
          simp [hMap, hHealth]
        · simp [hMap, hHealth, hAddr]
      | some health =>
        simp only [hHealth, AList.lookup_insert, Option.bind_some]
        by_cases hAddr : addr = targetAddr
        · subst hAddr
          simp [AList.lookup_insert, hHealth]
        · have hOther : targetAddr ≠ addr := fun h => hAddr h.symm
          rw [AList.lookup_insert_ne hOther, if_neg fun h => hAddr h.2]
  · have hOther : upstreamName ≠ upstream := fun h => hUpstream h.symm
    simp only [hUpstream, false_and, if_false]
    repeat' split
    all_goals first
      | rfl
      | simp [AList.lookup_insert_ne hOther]

theorem HealthChecker.health_run (hConfig : checker.configs.lookup upstreamName = some config)
    (reports : List HealthReport) :
    (checker.run reports).health upstreamName targetAddr =
      (checker.health upstreamName targetAddr).map fun health =>
        replay config health (eventsOf upstreamName targetAddr reports) := by
  induction reports generalizing checker with
  | nil => simp [HealthChecker.run, eventsOf, replay]
  | cons report reports ih =>
    have hKept : (checker.report report).configs.lookup upstreamName = some config := by
      rw [HealthChecker.configs_report]
      exact hConfig
    change ((checker.report report).run reports).health _ _ = _
    rw [ih hKept, HealthChecker.health_report hConfig]
    by_cases hSame : report.upstreamName = upstreamName ∧ report.targetAddr = targetAddr
    · simp [hSame, eventsOf, replay, Option.map_map, Function.comp_def]
    · simp [hSame, eventsOf]

variable {targetAddrs : List String}

theorem lookup_fresh (hMem : targetAddr ∈ targetAddrs) :
    (targetAddrs.foldl (fun map addr => map.insert addr .default)
      (∅ : AList fun _ : String => TargetHealth)).lookup targetAddr = some .default := by
  have hKept : ∀ (addrs : List String) (map : AList fun _ : String => TargetHealth),
      targetAddr ∈ addrs ∨ map.lookup targetAddr = some .default →
      (addrs.foldl (fun map addr => map.insert addr .default) map).lookup targetAddr =
        some .default := by
    intro addrs
    induction addrs with
    | nil =>
      intro map h
      rcases h with hMem | hMap
      · cases hMem
      · exact hMap
    | cons addr addrs ih =>
      intro map h
      apply ih
      by_cases hAddr : targetAddr = addr
      · right
        rw [hAddr, AList.lookup_insert]
      · rw [AList.lookup_insert_ne hAddr]
        rcases h with hMem | hMap
        · exact .inl ((List.mem_cons.mp hMem).resolve_left hAddr)
        · exact .inr hMap
  exact hKept targetAddrs ∅ (.inl hMem)

theorem HealthChecker.health_registerUpstream (checker : HealthChecker)
    (hMem : targetAddr ∈ targetAddrs) :
    (checker.registerUpstream upstreamName targetAddrs config).health upstreamName targetAddr =
      some .default := by
  unfold HealthChecker.health HealthChecker.registerUpstream
  simp only [AList.lookup_insert, Option.bind_some]
  exact lookup_fresh hMem

end Checker

/-! ## Kinds of events -/

inductive FailureKind where
  | tcp
  | timeout
  | http
  deriving DecidableEq

def TargetHealth.failures (health : TargetHealth) : FailureKind → Int32
  | .tcp => health.tcpFailures
  | .timeout => health.timeouts
  | .http => health.httpFailures

namespace HealthCheckerConfig

variable (config : HealthCheckerConfig)

def threshold : FailureKind → Int32
  | .tcp => config.unhealthyTcpFailures
  | .timeout => config.unhealthyTimeouts
  | .http => config.unhealthyHttpFailures

def failureKind : HealthEvent → Option FailureKind
  | .success => none
  | .httpStatus code => if statusOf code ∈ config.passiveUnhealthyStatuses then some .http else none
  | .tcpFailure => some .tcp
  | .timeout => some .timeout

def succeeds : HealthEvent → Bool
  | .success => true
  | .httpStatus code =>
    statusOf code ∉ config.passiveUnhealthyStatuses ∧ statusOf code ∈ config.passiveHealthyStatuses
  | _ => false

def resets (event : HealthEvent) (kind : FailureKind) : Bool :=
  match event with
  | .success => true
  | .httpStatus _ => config.succeeds event ∧ kind = .http
  | _ => false

end HealthCheckerConfig

section Steps

variable {config : HealthCheckerConfig} {health : TargetHealth} {event : HealthEvent}

open HealthEvent

theorem failures_apply (config : HealthCheckerConfig) (health : TargetHealth)
    (event : HealthEvent) (kind : FailureKind) :
    (event.apply health config).failures kind =
      if config.failureKind event = some kind then health.failures kind + 1
      else if config.resets event kind then 0
      else health.failures kind := by
  cases event with
  | success =>
    cases kind <;> unfold apply onSuccess <;> dsimp only <;> split <;> rfl
  | tcpFailure =>
    cases kind <;> unfold apply onTcpFailure <;> dsimp only <;> split <;> rfl
  | timeout =>
    cases kind <;> unfold apply onTimeout <;> dsimp only <;> split <;> rfl
  | httpStatus code =>
    unfold apply onHttpStatus HealthCheckerConfig.failureKind
      HealthCheckerConfig.resets HealthCheckerConfig.succeeds
    by_cases hUnhealthy : statusOf code ∈ config.passiveUnhealthyStatuses
    · simp only [hUnhealthy, if_true, not_true_eq_false, false_and, decide_false]
      cases kind <;> split <;> rfl
    · by_cases hHealthy : statusOf code ∈ config.passiveHealthyStatuses
      · simp only [hUnhealthy, hHealthy, if_true, if_false, not_false_eq_true, true_and]
        cases kind <;> split <;> rfl
      · simp [hUnhealthy, hHealthy]

theorem successes_apply (config : HealthCheckerConfig) (health : TargetHealth)
    (event : HealthEvent) :
    (event.apply health config).successes =
      if (config.failureKind event).isSome then 0
      else if config.succeeds event then health.successes + 1
      else health.successes := by
  cases event with
  | success => unfold apply onSuccess; dsimp only; split <;> rfl
  | tcpFailure => unfold apply onTcpFailure; dsimp only; split <;> rfl
  | timeout => unfold apply onTimeout; dsimp only; split <;> rfl
  | httpStatus code =>
    unfold apply onHttpStatus HealthCheckerConfig.failureKind HealthCheckerConfig.succeeds
    by_cases hUnhealthy : statusOf code ∈ config.passiveUnhealthyStatuses
    · simp only [hUnhealthy, if_true, Option.isSome_some]
      split <;> rfl
    · by_cases hHealthy : statusOf code ∈ config.passiveHealthyStatuses
      · simp only [hUnhealthy, hHealthy, if_true, if_false, Option.isSome_none, not_false_eq_true,
          and_self, decide_true, Bool.false_eq_true]
        split <;> rfl
      · simp [hUnhealthy, hHealthy]

/-- Only a failure whose counter has reached its threshold makes a target unhealthy. -/
theorem turns_unhealthy (hOld : health.status ≠ .unhealthy)
    (hNew : (event.apply health config).status = .unhealthy) :
    ∃ kind, config.failureKind event = some kind ∧ 0 < config.threshold kind ∧
      config.threshold kind ≤ (event.apply health config).failures kind := by
  cases event with
  | success =>
    unfold apply onSuccess at hNew
    dsimp only at hNew
    split at hNew
    · cases hNew
    · exact absurd hNew hOld
  | tcpFailure =>
    unfold apply onTcpFailure at hNew ⊢
    dsimp only at hNew ⊢
    split at hNew
    · next hReached =>
      rw [if_pos hReached]
      exact ⟨.tcp, rfl, hReached.1, hReached.2⟩
    · exact absurd hNew hOld
  | timeout =>
    unfold apply onTimeout at hNew ⊢
    dsimp only at hNew ⊢
    split at hNew
    · next hReached =>
      rw [if_pos hReached]
      exact ⟨.timeout, rfl, hReached.1, hReached.2⟩
    · exact absurd hNew hOld
  | httpStatus code =>
    unfold apply onHttpStatus at hNew ⊢
    by_cases hUnhealthy : statusOf code ∈ config.passiveUnhealthyStatuses
    · simp only [hUnhealthy, if_true] at hNew ⊢
      split at hNew
      · next hReached =>
        rw [if_pos hReached]
        exact ⟨.http, by simp [HealthCheckerConfig.failureKind, hUnhealthy], hReached.1, hReached.2⟩
      · exact absurd hNew hOld
    · simp only [hUnhealthy, if_false] at hNew
      split at hNew
      · split at hNew
        · cases hNew
        · exact absurd hNew hOld
      · exact absurd hNew hOld

/-- Only a success whose counter has reached the threshold makes a target healthy. -/
theorem turns_healthy (hOld : health.status ≠ .healthy)
    (hNew : (event.apply health config).status = .healthy) :
    0 < config.healthySuccesses ∧
      config.healthySuccesses ≤ (event.apply health config).successes := by
  cases event with
  | success =>
    unfold apply onSuccess at hNew ⊢
    dsimp only at hNew ⊢
    split at hNew
    · next hReached =>
      rw [if_pos hReached]
      exact hReached
    · exact absurd hNew hOld
  | tcpFailure =>
    unfold apply onTcpFailure at hNew
    dsimp only at hNew
    split at hNew
    · cases hNew
    · exact absurd hNew hOld
  | timeout =>
    unfold apply onTimeout at hNew
    dsimp only at hNew
    split at hNew
    · cases hNew
    · exact absurd hNew hOld
  | httpStatus code =>
    unfold apply onHttpStatus at hNew ⊢
    by_cases hUnhealthy : statusOf code ∈ config.passiveUnhealthyStatuses
    · simp only [hUnhealthy, if_true] at hNew
      split at hNew
      · cases hNew
      · exact absurd hNew hOld
    · by_cases hHealthy : statusOf code ∈ config.passiveHealthyStatuses
      · simp only [hUnhealthy, hHealthy, if_true, if_false] at hNew ⊢
        split at hNew
        · next hReached =>
          rw [if_pos hReached]
          exact hReached
        · exact absurd hNew hOld
      · simp only [hUnhealthy, hHealthy, if_false] at hNew
        exact absurd hNew hOld

end Steps

/-! ## Streaks -/

theorem toInt_succ_le (n : Int32) : (n + 1).toInt ≤ n.toInt + 1 := by
  have hOne : (1 : Int32).toInt = 1 := rfl
  have hLower := n.minValue_le_toInt
  have hMin : Int32.minValue.toInt = -2147483648 := rfl
  rw [Int32.toInt_add, hOne, Int.bmod_def]
  split <;> omega

def sinceFailure (config : HealthCheckerConfig) (events : List HealthEvent) : List HealthEvent :=
  events.rtakeWhile fun event => (config.failureKind event).isNone

def failureStreak (config : HealthCheckerConfig) (kind : FailureKind) (events : List HealthEvent) :
    List HealthEvent :=
  events.rtakeWhile fun event => config.failureKind event = some kind

/-- No event leaves a running failure counter alone: it is of its kind, or it resets it. -/
def LeavesNoCount (config : HealthCheckerConfig) (health : TargetHealth) (event : HealthEvent) :
    Prop :=
  ∀ kind, 0 < config.threshold kind →
    health.failures kind = 0 ∨ config.failureKind event = some kind ∨ config.resets event kind

def AllMeet (config : HealthCheckerConfig)
    (cond : HealthCheckerConfig → TargetHealth → HealthEvent → Prop) :
    TargetHealth → List HealthEvent → Prop
  | _, [] => True
  | health, event :: events =>
    cond config health event ∧ AllMeet config cond (event.apply health config) events

/-- A counter is at most as high as the streak that it stands for. -/
structure Consecutive (config : HealthCheckerConfig) (events : List HealthEvent)
    (health : TargetHealth) : Prop where
  failures : ∀ kind, 0 < config.threshold kind →
    (health.failures kind).toInt ≤ (failureStreak config kind events).length
  successes : health.successes.toInt ≤ ((sinceFailure config events).countP config.succeeds : Int)

section Invariant

variable {config : HealthCheckerConfig} {health : TargetHealth} {events : List HealthEvent}
  {event : HealthEvent}

theorem consecutive_default (config : HealthCheckerConfig) :
    Consecutive config [] .default where
  failures kind _ := by cases kind <;> exact Int.le_refl 0
  successes := Int.le_refl 0

variable {kind : FailureKind}

theorem length_failureStreak_concat (hKind : config.failureKind event = some kind) :
    (failureStreak config kind (events ++ [event])).length =
      (failureStreak config kind events).length + 1 := by
  unfold failureStreak
  rw [List.rtakeWhile_concat_pos _ _ _ (by simpa using hKind), List.length_append,
    List.length_singleton]

theorem countP_sinceFailure_concat (hNone : config.failureKind event = none) :
    (sinceFailure config (events ++ [event])).countP config.succeeds =
      (sinceFailure config events).countP config.succeeds +
        if config.succeeds event then 1 else 0 := by
  unfold sinceFailure
  rw [List.rtakeWhile_concat_pos _ _ _ (by simp [hNone]), List.countP_append, List.countP_singleton]

section

variable (h : Consecutive config events health)
include h

theorem Consecutive.successes_step :
    (event.apply health config).successes.toInt ≤
      ((sinceFailure config (events ++ [event])).countP config.succeeds : Int) := by
  have hOld := h.successes
  rw [successes_apply]
  cases hKind : config.failureKind event with
  | some kind =>
    rw [Option.isSome_some, if_pos rfl]
    exact Int.natCast_nonneg _
  | none =>
    rw [Option.isSome_none, if_neg Bool.false_ne_true, countP_sinceFailure_concat hKind]
    by_cases hSucceeds : config.succeeds event
    · rw [if_pos hSucceeds, if_pos hSucceeds]
      have hSucc := toInt_succ_le health.successes
      omega
    · rw [if_neg hSucceeds, if_neg hSucceeds]
      omega

theorem Consecutive.failures_step
    (hThreshold : 0 < config.threshold kind) (hKind : config.failureKind event = some kind) :
    ((event.apply health config).failures kind).toInt ≤
      (failureStreak config kind (events ++ [event])).length := by
  have hOld := h.failures kind hThreshold
  have hSucc := toInt_succ_le (health.failures kind)
  rw [failures_apply, if_pos hKind, length_failureStreak_concat hKind]
  omega

theorem Consecutive.step (hCond : LeavesNoCount config health event) :
    Consecutive config (events ++ [event]) (event.apply health config) where
  failures kind hThreshold := by
    by_cases hKind : config.failureKind event = some kind
    · exact h.failures_step hThreshold hKind
    · have hZero : (if config.resets event kind then 0 else health.failures kind) = 0 := by
        rcases hCond kind hThreshold with hIdle | hOwn | hReset
        · rw [hIdle, ite_self]
        · exact absurd hOwn hKind
        · rw [if_pos hReset]
      rw [failures_apply, if_neg hKind, hZero]
      exact Int.natCast_nonneg _
  successes := h.successes_step

theorem Consecutive.run {later : List HealthEvent}
    (hCond : AllMeet config LeavesNoCount health later) :
    Consecutive config (events ++ later) (replay config health later) := by
  induction later generalizing events health with
  | nil =>
    rw [List.append_nil]
    exact h
  | cons event later ih =>
    have hNext := ih (h.step hCond.1) hCond.2
    rw [List.append_assoc] at hNext
    exact hNext

end

end Invariant

/-! ## When a target turns -/

/-- A target that turned unhealthy saw as many failures of one kind in a row, and nothing else,
as the threshold of that kind; one that turned healthy saw as many successes with no failure in
between as the threshold of the successes. -/
structure Justified (config : HealthCheckerConfig) (events : List HealthEvent)
    (old new : HealthStatus) : Prop where
  unhealthy : old ≠ .unhealthy → new = .unhealthy → ∃ kind streak,
    0 < config.threshold kind ∧ streak <:+ events ∧
      (streak.length : Int) = (config.threshold kind).toInt ∧
      ∀ event ∈ streak, config.failureKind event = some kind
  healthy : old ≠ .healthy → new = .healthy → ∃ streak,
    0 < config.healthySuccesses ∧ streak <:+ events ∧
      (config.healthySuccesses.toInt ≤ (streak.countP config.succeeds : Int)) ∧
      ∀ event ∈ streak, config.failureKind event = none

theorem exists_suffix_of_length {α : Type*} {streak events : List α} {n : Nat}
    (hSuffix : streak <:+ events) (hLength : n ≤ streak.length) :
    ∃ last, last <:+ events ∧ last.length = n ∧ ∀ x ∈ last, x ∈ streak := by
  refine ⟨streak.drop (streak.length - n), (List.drop_suffix _ _).trans hSuffix, ?_, ?_⟩
  · rw [List.length_drop]
    omega
  · intro x hx
    exact List.mem_of_mem_drop hx

theorem Consecutive.justified {config : HealthCheckerConfig} {events : List HealthEvent}
    {health : TargetHealth} (h : Consecutive config events health) (event : HealthEvent) :
    Justified config (events ++ [event]) health.status (event.apply health config).status where
  unhealthy hWas hIs := by
    obtain ⟨kind, hKind, hThreshold, hReached⟩ := turns_unhealthy hWas hIs
    have hCount := h.failures_step hThreshold hKind
    have hPositive : 0 < (config.threshold kind).toInt := Int32.lt_iff_toInt_lt.mp hThreshold
    rw [Int32.le_iff_toInt_le] at hReached
    obtain ⟨last, hSuffix, hLength, hMem⟩ := exists_suffix_of_length
      (List.rtakeWhile_suffix (fun event => decide (config.failureKind event = some kind))
        (events ++ [event]))
      (show (config.threshold kind).toInt.toNat ≤
        (failureStreak config kind (events ++ [event])).length by omega)
    refine ⟨kind, last, hThreshold, hSuffix, by omega, fun event hEvent => ?_⟩
    simpa using List.mem_rtakeWhile_imp (hMem event hEvent)
  healthy hWas hIs := by
    obtain ⟨hThreshold, hReached⟩ := turns_healthy hWas hIs
    rw [Int32.le_iff_toInt_le] at hReached
    refine ⟨sinceFailure config (events ++ [event]), hThreshold, List.rtakeWhile_suffix _ _,
      Int.le_trans hReached h.successes_step, fun event hEvent => ?_⟩
    simpa using List.mem_rtakeWhile_imp hEvent

/-- **Health turns.** After any reports about the targets of a registered upstream, as long as no
event of a target left a running failure counter of that target alone: the next event of the
target makes it unhealthy only after as many failures of one kind in a row as the threshold of the
kind, and healthy only after the configured successes with no failure in between. -/
theorem turns_after_streak (checker : HealthChecker) (upstreamName targetAddr : String)
    (targetAddrs : List String) (config : HealthCheckerConfig) (hMem : targetAddr ∈ targetAddrs)
    (reports : List HealthReport)
    (hCond : AllMeet config LeavesNoCount .default (eventsOf upstreamName targetAddr reports))
    (event : HealthEvent) :
    ∃ old new : TargetHealth,
      ((checker.registerUpstream upstreamName targetAddrs config).run reports).health
        upstreamName targetAddr = some old ∧
      ((checker.registerUpstream upstreamName targetAddrs config).run
        (reports ++ [⟨upstreamName, targetAddr, event⟩])).health upstreamName targetAddr =
          some new ∧
      Justified config (eventsOf upstreamName targetAddr reports ++ [event]) old.status
        new.status := by
  have hConfig : (checker.registerUpstream upstreamName targetAddrs config).configs.lookup
      upstreamName = some config := AList.lookup_insert _
  have hStart : (checker.registerUpstream upstreamName targetAddrs config).health upstreamName
      targetAddr = some .default := checker.health_registerUpstream hMem
  have hStreaks := (consecutive_default config).run hCond
  refine ⟨_, _, ?_, ?_, hStreaks.justified event⟩
  · rw [HealthChecker.health_run hConfig, hStart]
    rfl
  · rw [HealthChecker.health_run hConfig, hStart]
    simp [eventsOf, replay]

/-- Two TCP failures in a row are tolerated once, two healthy statuses bring a target back. -/
def sampleConfig : HealthCheckerConfig where
  healthySuccesses := 2
  unhealthyTcpFailures := 2
  unhealthyTimeouts := 0
  unhealthyHttpFailures := 2
  passiveHealthyStatuses := [200, 302]
  passiveUnhealthyStatuses := [429, 500, 503]

def sampleReport (event : HealthEvent) : HealthReport := ⟨"pool", "10.0.0.1:80", event⟩

def sampleChecker : HealthChecker :=
  HealthChecker.new.registerUpstream "pool" ["10.0.0.1:80"] sampleConfig

theorem turns_after_streak_sample : ∃ old new : TargetHealth,
      (sampleChecker.run [sampleReport .tcpFailure]).health "pool" "10.0.0.1:80" = some old ∧
      (sampleChecker.run ([sampleReport .tcpFailure] ++ [sampleReport .tcpFailure])).health
        "pool" "10.0.0.1:80" = some new ∧
      Justified sampleConfig ([.tcpFailure] ++ [.tcpFailure]) old.status new.status :=
  turns_after_streak .new "pool" "10.0.0.1:80" ["10.0.0.1:80"] sampleConfig
    List.mem_cons_self [sampleReport .tcpFailure]
    ⟨fun kind _ => .inl (by cases kind <;> rfl), trivial⟩ .tcpFailure

/-- A healthy status between two TCP failures does not reset them: the second makes the target
unhealthy. -/
theorem healthy_status_keeps_tcp_failures :
    let reports := [sampleReport .tcpFailure, sampleReport (.httpStatus 200)]
    (sampleChecker.run reports).isHealthy "pool" "10.0.0.1:80" = true ∧
      (sampleChecker.run (reports ++ [sampleReport .tcpFailure])).isHealthy "pool"
        "10.0.0.1:80" = false ∧
      ¬ Justified sampleConfig [.tcpFailure, .httpStatus 200, .tcpFailure] .healthy .unhealthy := by
  refine ⟨by decide, by decide, fun h => ?_⟩
  obtain ⟨kind, streak, hThreshold, hSuffix, hLength, hKinds⟩ := h.unhealthy (by decide) rfl
  obtain ⟨front, hFront⟩ := hSuffix
  have hTwo : streak.length = 2 := by
    cases kind
    · have hTcp : (sampleConfig.threshold .tcp).toInt = 2 := rfl
      omega
    · exact absurd hThreshold (by decide)
    · have hHttp : (sampleConfig.threshold .http).toInt = 2 := rfl
      omega
  have hDrop : streak = [.httpStatus 200, .tcpFailure] := by
    have hLengths := congrArg List.length hFront
    simp only [List.length_append, List.length_cons, List.length_nil] at hLengths
    have hFrontLength : front.length = 1 := by omega
    have hRest : (front ++ streak).drop 1 = streak := List.drop_left' hFrontLength
    rw [← hRest, hFront]
    rfl
  have hFirst := hKinds (.httpStatus 200) (by rw [hDrop]; exact List.mem_cons_self)
  have hNone : sampleConfig.failureKind (.httpStatus 200) = none := rfl
  rw [hNone] at hFirst
  cases hFirst

end KongRust.Proxy

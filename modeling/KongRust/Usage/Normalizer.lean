import KongRust.Enforcement.Costs

/-!
# Merging token counts

Reports of the provider and estimates are merged field by field as they come
(`usage/normalizer.rs`). What comes out depends on the reports of each source in their order, not on
how the two are interleaved: `finish_feed` says it as a function of the two lists.
-/

namespace KongRust.Usage

open Enforcement (UsageSource)

inductive TokenFieldSource where
  | provider
  | estimated
  | mixed
  deriving DecidableEq

/-- A count of tokens, and where it comes from. -/
structure TokenField where
  value : Int
  source : TokenFieldSource
  derived : Bool
  deriving DecidableEq

/-- The kind of an observation, which is not read here, is left out. -/
structure UsageObservation where
  promptTokens : Option Int
  completionTokens : Option Int
  totalTokens : Option Int
  reasoningTokens : Option Int
  cacheReadInputTokens : Option Int
  cacheWriteInputTokens : Option Int
  deriving DecidableEq

structure NormalizedUsage where
  promptTokens : Option TokenField
  completionTokens : Option TokenField
  totalTokens : Option TokenField
  reasoningTokens : Option Int
  cacheReadInputTokens : Option Int
  cacheWriteInputTokens : Option Int
  source : UsageSource
  unavailableReasons : List String
  invalidProviderUsage : Bool
  deriving DecidableEq

structure UsageAccumulator where
  promptTokens : Option TokenField
  completionTokens : Option TokenField
  totalTokens : Option TokenField
  reasoningTokens : Option Int
  cacheReadInputTokens : Option Int
  cacheWriteInputTokens : Option Int
  invalid : Bool

def NormalizedUsage.unavailable (reasons : List String) (invalidProviderUsage : Bool) :
    NormalizedUsage :=
  ⟨none, none, none, none, none, none, .unavailable, reasons, invalidProviderUsage⟩

def UsageObservation.counts (observation : UsageObservation) : List (Option Int) :=
  [observation.promptTokens, observation.completionTokens, observation.totalTokens,
    observation.reasoningTokens, observation.cacheReadInputTokens,
    observation.cacheWriteInputTokens]

def UsageObservation.negative (observation : UsageObservation) : Bool :=
  observation.counts.any fun count => count.any fun value => value < 0

def mergeField (target : Option TokenField) (value : Option Int) (source : TokenFieldSource) :
    Option TokenField :=
  match value with
  | none => target
  | some value =>
    if source = .estimated ∧ target.any (fun current => current.source = .provider) then target
    else some ⟨value, source, false⟩

def mergeBreakdown (target value : Option Int) (source : TokenFieldSource) : Option Int :=
  if value.isSome ∧ (source = .provider ∨ target.isNone) then value else target

def combineSource (left right : TokenFieldSource) : TokenFieldSource :=
  if left = right then left else .mixed

def overallSource (fields : List (Option TokenField)) : UsageSource :=
  let sources := (fields.filterMap id).map (·.source)
  if sources.isEmpty then .unavailable
  else if .provider ∈ sources ∧ .estimated ∉ sources ∧ .mixed ∉ sources then .provider
  else if .provider ∉ sources ∧ .estimated ∈ sources ∧ .mixed ∉ sources then .estimated
  else .mixed

/-- `i64::checked_add`. -/
def checkedAddI64 (a b : Int) : Option Int :=
  if -2 ^ 63 ≤ a + b ∧ a + b < 2 ^ 63 then some (a + b) else none

/-- The reasons for a usage that nothing is known of, in the order of a `BTreeSet`. -/
def missingReasons (responseComplete : Bool) : List String :=
  ["estimation_unavailable"] ++ (if responseComplete then [] else ["incomplete_response"]) ++
    ["provider_usage_missing"]

namespace UsageAccumulator

def default : UsageAccumulator := ⟨none, none, none, none, none, none, false⟩

variable (acc : UsageAccumulator) (observation : UsageObservation)

def observe (acc : UsageAccumulator) (observation : UsageObservation)
    (source : TokenFieldSource) : UsageAccumulator :=
  if observation.negative then { acc with invalid := true }
  else
    { acc with
      promptTokens := mergeField acc.promptTokens observation.promptTokens source
      completionTokens := mergeField acc.completionTokens observation.completionTokens source
      totalTokens := mergeField acc.totalTokens observation.totalTokens source
      reasoningTokens := mergeBreakdown acc.reasoningTokens observation.reasoningTokens source
      cacheReadInputTokens :=
        mergeBreakdown acc.cacheReadInputTokens observation.cacheReadInputTokens source
      cacheWriteInputTokens :=
        mergeBreakdown acc.cacheWriteInputTokens observation.cacheWriteInputTokens source }

def observeProvider (acc : UsageAccumulator) (observation : UsageObservation) :
    UsageAccumulator := acc.observe observation .provider

def observeEstimated (acc : UsageAccumulator) (observation : UsageObservation) :
    UsageAccumulator := acc.observe observation .estimated

/-- The rest of `finish`, with the total that was reported or derived. -/
def finishWith (acc : UsageAccumulator) (responseComplete : Bool) (total : Option TokenField) :
    NormalizedUsage :=
  let source := overallSource [acc.promptTokens, acc.completionTokens, total]
  ⟨acc.promptTokens, acc.completionTokens, total, acc.reasoningTokens, acc.cacheReadInputTokens,
    acc.cacheWriteInputTokens, source,
    if source = .unavailable then missingReasons responseComplete else [], false⟩

def finish (acc : UsageAccumulator) (upstreamAttempted responseComplete : Bool) :
    NormalizedUsage :=
  if acc.invalid then .unavailable ["invalid_token_value"] upstreamAttempted
  else if upstreamAttempted = false then .unavailable ["not_attempted"] false
  else if acc.totalTokens.isNone then
    match acc.promptTokens, acc.completionTokens with
    | some prompt, some completion =>
      match checkedAddI64 prompt.value completion.value with
      | some value =>
        acc.finishWith responseComplete
          (some ⟨value, combineSource prompt.source completion.source, true⟩)
      | none => .unavailable ["invalid_token_value"] true
    | _, _ => acc.finishWith responseComplete none
  else acc.finishWith responseComplete acc.totalTokens

end UsageAccumulator

/-! ## Reports -/

inductive Report where
  | provider (observation : UsageObservation)
  | estimated (observation : UsageObservation)

variable (reports : List Report)

def providerReports (reports : List Report) : List UsageObservation :=
  reports.filterMap fun
    | .provider observation => some observation
    | .estimated _ => none

def estimates (reports : List Report) : List UsageObservation :=
  reports.filterMap fun
    | .provider _ => none
    | .estimated observation => some observation

def UsageAccumulator.observeReport (acc : UsageAccumulator) : Report → UsageAccumulator
  | .provider observation => acc.observeProvider observation
  | .estimated observation => acc.observeEstimated observation

def UsageAccumulator.feed (reports : List Report) : UsageAccumulator :=
  reports.foldl UsageAccumulator.observeReport .default

/-! ## What the reports of each source say -/

def lastCount (count : UsageObservation → Option Int) (observations : List UsageObservation) :
    Option Int := (observations.filterMap count).getLast?

def firstCount (count : UsageObservation → Option Int) (observations : List UsageObservation) :
    Option Int := (observations.filterMap count).head?

/-- The last value of the provider, and without one the last estimate. -/
def settledField (count : UsageObservation → Option Int)
    (reported estimated : List UsageObservation) : Option TokenField :=
  match lastCount count reported with
  | some value => some ⟨value, .provider, false⟩
  | none => (lastCount count estimated).map fun value => ⟨value, .estimated, false⟩

/-- The last value of the provider, and without one the first estimate. -/
def settledBreakdown (count : UsageObservation → Option Int)
    (reported estimated : List UsageObservation) : Option Int :=
  (lastCount count reported).or (firstCount count estimated)

def Poisoned (reported estimated : List UsageObservation) : Prop :=
  ∃ observation ∈ reported ++ estimated, observation.negative = true

instance (reported estimated : List UsageObservation) : Decidable (Poisoned reported estimated) :=
  inferInstanceAs (Decidable (∃ observation ∈ reported ++ estimated, _))

/-- The accumulator as the reports of each source make it. -/
def settled (reported estimated : List UsageObservation) : UsageAccumulator where
  promptTokens := settledField (·.promptTokens) reported estimated
  completionTokens := settledField (·.completionTokens) reported estimated
  totalTokens := settledField (·.totalTokens) reported estimated
  reasoningTokens := settledBreakdown (·.reasoningTokens) reported estimated
  cacheReadInputTokens := settledBreakdown (·.cacheReadInputTokens) reported estimated
  cacheWriteInputTokens := settledBreakdown (·.cacheWriteInputTokens) reported estimated
  invalid := false

/-- The settled total, and without one the sum of the settled counts of the two sides. -/
def settledTotal (reported estimated : List UsageObservation) : Option TokenField :=
  (settledField (·.totalTokens) reported estimated).or
    ((settledField (·.promptTokens) reported estimated).bind fun prompt =>
      (settledField (·.completionTokens) reported estimated).map fun completion =>
        ⟨prompt.value + completion.value,
          if prompt.source = completion.source then prompt.source else .mixed, true⟩)

/-- The total is a sum that is no `i64`. -/
def Overflows (reported estimated : List UsageObservation) : Prop :=
  ∃ total ∈ settledTotal reported estimated,
    total.derived = true ∧ ¬ (-2 ^ 63 ≤ total.value ∧ total.value < 2 ^ 63)

instance (reported estimated : List UsageObservation) :
    Decidable (Overflows reported estimated) :=
  inferInstanceAs (Decidable (∃ total ∈ settledTotal reported estimated, _))

/-- Where all the counts that there are come from. -/
def settledSource (fields : List TokenField) : UsageSource :=
  if fields = [] then .unavailable
  else if ∀ field ∈ fields, field.source = .provider then .provider
  else if ∀ field ∈ fields, field.source = .estimated then .estimated
  else .mixed

/-- A usage without counts, and why. -/
def withoutCounts (reason : String) (invalidProviderUsage : Bool) : NormalizedUsage where
  promptTokens := none
  completionTokens := none
  totalTokens := none
  reasoningTokens := none
  cacheReadInputTokens := none
  cacheWriteInputTokens := none
  source := .unavailable
  unavailableReasons := [reason]
  invalidProviderUsage

/-- A usage with counts, as the reports of each source make them. -/
def withCounts (reported estimated : List UsageObservation) (total : Option TokenField)
    (responseComplete : Bool) : NormalizedUsage :=
  let prompt := settledField (·.promptTokens) reported estimated
  let completion := settledField (·.completionTokens) reported estimated
  let source := settledSource ([prompt, completion, total].filterMap id)
  { promptTokens := prompt
    completionTokens := completion
    totalTokens := total
    reasoningTokens := settledBreakdown (·.reasoningTokens) reported estimated
    cacheReadInputTokens := settledBreakdown (·.cacheReadInputTokens) reported estimated
    cacheWriteInputTokens := settledBreakdown (·.cacheWriteInputTokens) reported estimated
    source
    unavailableReasons := if source = .unavailable then missingReasons responseComplete else []
    invalidProviderUsage := false }

def normalizedUsage (reported estimated : List UsageObservation)
    (upstreamAttempted responseComplete : Bool) : NormalizedUsage :=
  if Poisoned reported estimated then withoutCounts "invalid_token_value" upstreamAttempted
  else if upstreamAttempted = false then withoutCounts "not_attempted" false
  else if Overflows reported estimated then withoutCounts "invalid_token_value" true
  else withCounts reported estimated (settledTotal reported estimated) responseComplete

/-! ## One report more -/

section Append

variable (count : UsageObservation → Option Int) (observations : List UsageObservation)
  (observation : UsageObservation)

theorem lastCount_append : lastCount count (observations ++ [observation]) =
    (count observation).or (lastCount count observations) := by
  unfold lastCount
  rw [List.filterMap_append]
  cases hCount : count observation with
  | none | some value => simp [hCount]

theorem firstCount_append : firstCount count (observations ++ [observation]) =
    (firstCount count observations).or (count observation) := by
  unfold firstCount
  rw [List.filterMap_append, List.head?_append]
  cases hCount : count observation with
  | none | some value => simp [hCount]

variable (reported estimated : List UsageObservation)

theorem settledField_reported : settledField count (reported ++ [observation]) estimated =
    mergeField (settledField count reported estimated) (count observation) .provider := by
  unfold settledField
  rw [lastCount_append]
  cases hCount : count observation with
  | none => rfl
  | some value => simp [mergeField]

theorem settledField_estimated : settledField count reported (estimated ++ [observation]) =
    mergeField (settledField count reported estimated) (count observation) .estimated := by
  unfold settledField
  rw [lastCount_append]
  cases hReported : lastCount count reported with
  | some value =>
    cases hCount : count observation with
    | none => rfl
    | some other => simp [mergeField]
  | none =>
    cases hCount : count observation with
    | none => simp [mergeField]
    | some other => cases lastCount count estimated <;> simp [mergeField]

theorem settledBreakdown_reported : settledBreakdown count (reported ++ [observation]) estimated =
    mergeBreakdown (settledBreakdown count reported estimated) (count observation) .provider := by
  unfold settledBreakdown
  rw [lastCount_append]
  cases hCount : count observation with
  | none | some value => simp [mergeBreakdown]

theorem settledBreakdown_estimated : settledBreakdown count reported (estimated ++ [observation]) =
    mergeBreakdown (settledBreakdown count reported estimated) (count observation)
      .estimated := by
  unfold settledBreakdown
  rw [firstCount_append]
  cases hReported : lastCount count reported with
  | some value => simp [mergeBreakdown]
  | none =>
    cases hFirst : firstCount count estimated with
    | some value => simp [mergeBreakdown]
    | none => cases count observation <;> simp [mergeBreakdown]

variable {observation reported estimated}

theorem settled_reported (h : observation.negative = false) :
    settled (reported ++ [observation]) estimated =
      (settled reported estimated).observeProvider observation := by
  simp only [UsageAccumulator.observeProvider, UsageAccumulator.observe, h, Bool.false_eq_true,
    if_false, settled, settledField_reported, settledBreakdown_reported]

theorem settled_estimated (h : observation.negative = false) :
    settled reported (estimated ++ [observation]) =
      (settled reported estimated).observeEstimated observation := by
  simp only [UsageAccumulator.observeEstimated, UsageAccumulator.observe, h, Bool.false_eq_true,
    if_false, settled, settledField_estimated, settledBreakdown_estimated]

theorem poisoned_reported : Poisoned (reported ++ [observation]) estimated ↔
    Poisoned reported estimated ∨ observation.negative = true := by
  simp only [Poisoned, List.mem_append, List.mem_singleton]
  grind

theorem poisoned_estimated : Poisoned reported (estimated ++ [observation]) ↔
    Poisoned reported estimated ∨ observation.negative = true := by
  simp only [Poisoned, List.mem_append, List.mem_singleton]
  grind

end Append

/-! ## Runs -/

theorem invalid_observe (acc : UsageAccumulator) (observation : UsageObservation)
    (source : TokenFieldSource) : (acc.observe observation source).invalid =
      (acc.invalid || observation.negative) := by
  unfold UsageAccumulator.observe
  split
  · next hNegative => rw [hNegative, Bool.or_true]
  · next hValid =>
    have hCounts : observation.negative = false := by simpa using hValid
    rw [hCounts, Bool.or_false]

/-- A negative count poisons the accumulator, and otherwise it is what the reports of each source
make it. -/
theorem feed_spec :
    (Poisoned (providerReports reports) (estimates reports) →
      (UsageAccumulator.feed reports).invalid = true) ∧
    (¬ Poisoned (providerReports reports) (estimates reports) →
      UsageAccumulator.feed reports = settled (providerReports reports) (estimates reports)) := by
  induction reports using List.reverseRecOn with
  | nil =>
    refine ⟨?_, fun _ => rfl⟩
    rintro ⟨observation, hMem, _⟩
    cases hMem
  | append_singleton reports report ih =>
    have hFeed : UsageAccumulator.feed (reports ++ [report]) =
        (UsageAccumulator.feed reports).observeReport report := by
      rw [UsageAccumulator.feed, List.foldl_append]
      rfl
    rw [hFeed]
    cases report with
    | provider observation =>
      have hReported : providerReports (reports ++ [.provider observation]) =
          providerReports reports ++ [observation] := by
        rw [providerReports, List.filterMap_append]
        rfl
      have hEstimates : estimates (reports ++ [.provider observation]) = estimates reports := by
        rw [estimates, List.filterMap_append]
        exact List.append_nil _
      rw [hReported, hEstimates, poisoned_reported]
      constructor
      · intro hPoisoned
        change ((UsageAccumulator.feed reports).observe observation .provider).invalid = true
        rw [invalid_observe, Bool.or_eq_true]
        exact hPoisoned.imp_left ih.1
      · intro hValid
        obtain ⟨hBefore, hNegative⟩ := not_or.mp hValid
        rw [settled_reported (by simpa using hNegative), ← ih.2 hBefore]
        rfl
    | estimated observation =>
      have hReported : providerReports (reports ++ [.estimated observation]) =
          providerReports reports := by
        rw [providerReports, List.filterMap_append]
        exact List.append_nil _
      have hEstimates : estimates (reports ++ [.estimated observation]) =
          estimates reports ++ [observation] := by
        rw [estimates, List.filterMap_append]
        rfl
      rw [hReported, hEstimates, poisoned_estimated]
      constructor
      · intro hPoisoned
        change ((UsageAccumulator.feed reports).observe observation .estimated).invalid = true
        rw [invalid_observe, Bool.or_eq_true]
        exact hPoisoned.imp_left ih.1
      · intro hValid
        obtain ⟨hBefore, hNegative⟩ := not_or.mp hValid
        rw [settled_estimated (by simpa using hNegative), ← ih.2 hBefore]
        rfl

theorem finish_of_invalid {acc : UsageAccumulator} (h : acc.invalid = true)
    (upstreamAttempted responseComplete : Bool) :
    acc.finish upstreamAttempted responseComplete =
      .unavailable ["invalid_token_value"] upstreamAttempted := by
  rw [UsageAccumulator.finish, if_pos h]

theorem only_iff {fields : List TokenField} (hSome : fields ≠ []) (source : TokenFieldSource) :
    (∀ field ∈ fields, field.source = source) ↔ source ∈ fields.map (·.source) ∧
      ∀ other ≠ source, other ∉ fields.map (·.source) := by
  constructor
  · intro h
    obtain ⟨first, hFirst⟩ := List.exists_mem_of_ne_nil fields hSome
    refine ⟨List.mem_map.mpr ⟨first, hFirst, h first hFirst⟩, fun other hOther hMem => ?_⟩
    obtain ⟨field, hField, hSource⟩ := List.mem_map.mp hMem
    exact hOther (hSource.symm.trans (h field hField))
  · rintro ⟨-, hNone⟩ field hField
    by_contra hOther
    exact hNone field.source hOther (List.mem_map_of_mem hField)

theorem overallSource_eq (fields : List (Option TokenField)) :
    overallSource fields = settledSource (fields.filterMap id) := by
  unfold overallSource settledSource
  by_cases hNone : fields.filterMap id = []
  · rw [hNone]
    rfl
  · have hProvider := only_iff hNone .provider
    have hEstimated := only_iff hNone .estimated
    have hOthers (source : TokenFieldSource) (P : TokenFieldSource → Prop) :
        (∀ other ≠ source, P other) ↔ (source ≠ .provider → P .provider) ∧
          (source ≠ .estimated → P .estimated) ∧ (source ≠ .mixed → P .mixed) := by
      constructor
      · exact fun h => ⟨fun hNe => h _ hNe.symm, fun hNe => h _ hNe.symm, fun hNe => h _ hNe.symm⟩
      · rintro ⟨hP, hE, hM⟩ other hOther
        cases other with
        | provider => exact hP hOther.symm
        | estimated => exact hE hOther.symm
        | mixed => exact hM hOther.symm
    rw [hOthers] at hProvider hEstimated
    simp only [ne_eq, not_true_eq_false, false_imp_iff, reduceCtorEq, not_false_eq_true,
      true_imp_iff, true_and] at hProvider hEstimated
    simp only [List.isEmpty_map, List.isEmpty_iff, hNone, if_false, hProvider, hEstimated]
    grind

theorem settledField_not_derived {count : UsageObservation → Option Int}
    {reported estimated : List UsageObservation} {field : TokenField}
    (h : settledField count reported estimated = some field) : field.derived = false := by
  unfold settledField at h
  split at h
  · cases h
    rfl
  · obtain ⟨_, _, rfl⟩ := Option.map_eq_some_iff.mp h
    rfl

section Settled

variable {reported estimated : List UsageObservation} {responseComplete : Bool}

theorem finishWith_settled (total : Option TokenField) :
    (settled reported estimated).finishWith responseComplete total =
      withCounts reported estimated total responseComplete := by
  unfold UsageAccumulator.finishWith withCounts
  rw [overallSource_eq]
  rfl

theorem settledTotal_of_given {field : TokenField}
    (hTotal : settledField (·.totalTokens) reported estimated = some field) :
    settledTotal reported estimated = some field ∧ ¬ Overflows reported estimated := by
  have hSettled : settledTotal reported estimated = some field := by
    rw [settledTotal, hTotal, Option.some_or]
  refine ⟨hSettled, ?_⟩
  rintro ⟨total, hMem, hDerived, -⟩
  cases hSettled.symm.trans hMem
  cases hDerived.symm.trans (settledField_not_derived hTotal)

theorem settledTotal_of_none
    (hTotal : settledField (·.totalTokens) reported estimated = none) :
    settledTotal reported estimated =
      (settledField (·.promptTokens) reported estimated).bind fun prompt =>
        (settledField (·.completionTokens) reported estimated).map fun completion =>
          ⟨prompt.value + completion.value,
            if prompt.source = completion.source then prompt.source else .mixed, true⟩ := by
  rw [settledTotal, hTotal, Option.none_or]

theorem not_overflows_of_none (hSettled : settledTotal reported estimated = none) :
    ¬ Overflows reported estimated := by
  rintro ⟨_, hMem, -⟩
  cases hSettled.symm.trans hMem

/-- A sum is checked where there is no total, and both sides are counted. -/
theorem finish_settled (hValid : ¬ Poisoned reported estimated) (upstreamAttempted : Bool) :
    (settled reported estimated).finish upstreamAttempted responseComplete =
      normalizedUsage reported estimated upstreamAttempted responseComplete := by
  rw [normalizedUsage, if_neg hValid, UsageAccumulator.finish, if_neg (by simp [settled])]
  by_cases hAttempted : upstreamAttempted = false
  · rw [if_pos hAttempted, if_pos hAttempted]
    rfl
  · rw [if_neg hAttempted, if_neg hAttempted]
    simp only [finishWith_settled]
    change (if (settledField (·.totalTokens) reported estimated).isNone = true then
      match settledField (·.promptTokens) reported estimated,
        settledField (·.completionTokens) reported estimated with
      | some prompt, some completion => _
      | _, _ => _ else _) = _
    cases hTotal : settledField (·.totalTokens) reported estimated with
    | some total =>
      obtain ⟨hSettled, hFits⟩ := settledTotal_of_given hTotal
      rw [if_neg hFits, hSettled]
      exact congrArg (withCounts reported estimated · _) hTotal
    | none =>
      have hSettled := settledTotal_of_none hTotal
      rw [if_pos Option.isNone_none]
      cases hPrompt : settledField (·.promptTokens) reported estimated with
      | none =>
        rw [hPrompt, Option.bind_none] at hSettled
        rw [if_neg (not_overflows_of_none hSettled), hSettled]
      | some prompt =>
        cases hCompletion : settledField (·.completionTokens) reported estimated with
        | none =>
          rw [hPrompt, hCompletion, Option.bind_some, Option.map_none] at hSettled
          rw [if_neg (not_overflows_of_none hSettled), hSettled]
        | some completion =>
          rw [hPrompt, hCompletion, Option.bind_some, Option.map_some] at hSettled
          dsimp only
          unfold checkedAddI64
          by_cases hFits : -2 ^ 63 ≤ prompt.value + completion.value ∧
              prompt.value + completion.value < 2 ^ 63
          · rw [if_pos hFits, if_neg, hSettled]
            · rfl
            · rintro ⟨_, hMem, -, hNot⟩
              cases hSettled.symm.trans hMem
              exact hNot hFits
          · rw [if_neg hFits, if_pos ⟨_, hSettled, rfl, hFits⟩]
            rfl

theorem derived_total {upstreamAttempted : Bool} {total : TokenField}
    (h : (normalizedUsage reported estimated upstreamAttempted responseComplete).totalTokens =
      some total) (hDerived : total.derived = true) :
    lastCount (·.totalTokens) reported = none ∧
      ∃ prompt completion, settledField (·.promptTokens) reported estimated = some prompt ∧
        settledField (·.completionTokens) reported estimated = some completion ∧
        checkedAddI64 prompt.value completion.value = some total.value := by
  unfold normalizedUsage at h
  split at h
  · cases h
  · split at h
    · cases h
    · split at h
      · cases h
      · next hFits =>
        change settledTotal reported estimated = some total at h
        have hSum : -2 ^ 63 ≤ total.value ∧ total.value < 2 ^ 63 := by
          by_contra hNot
          exact hFits ⟨total, h, hDerived, hNot⟩
        cases hTotal : settledField (·.totalTokens) reported estimated with
        | some field =>
          cases (settledTotal_of_given hTotal).1.symm.trans h
          cases hDerived.symm.trans (settledField_not_derived hTotal)
        | none =>
          rw [settledTotal_of_none hTotal] at h
          obtain ⟨prompt, hPrompt, h⟩ := Option.bind_eq_some_iff.mp h
          obtain ⟨completion, hCompletion, rfl⟩ := Option.map_eq_some_iff.mp h
          refine ⟨?_, prompt, completion, hPrompt, hCompletion, if_pos hSum⟩
          unfold settledField at hTotal
          split at hTotal
          · cases hTotal
          · next hLast => exact hLast

end Settled

theorem finish_feed_eq (upstreamAttempted responseComplete : Bool) :
    (UsageAccumulator.feed reports).finish upstreamAttempted responseComplete =
      normalizedUsage (providerReports reports) (estimates reports) upstreamAttempted
        responseComplete := by
  obtain ⟨hInvalid, hSettled⟩ := feed_spec reports
  by_cases hPoisoned : Poisoned (providerReports reports) (estimates reports)
  · rw [normalizedUsage, if_pos hPoisoned]
    exact finish_of_invalid (hInvalid hPoisoned) _ _
  · rw [hSettled hPoisoned]
    exact finish_settled hPoisoned _

/-- However the reports are interleaved, the usage is that of the reports of each source: of the
provider's values the last one, else the estimates', all of it poisoned by a negative count. A total
is derived, by checked addition, only where the provider has reported none. -/
theorem finish_feed (reports : List Report) (upstreamAttempted responseComplete : Bool) :
    (UsageAccumulator.feed reports).finish upstreamAttempted responseComplete =
      normalizedUsage (providerReports reports) (estimates reports) upstreamAttempted
        responseComplete ∧
    (∀ other, providerReports other = providerReports reports →
      estimates other = estimates reports →
      (UsageAccumulator.feed other).finish upstreamAttempted responseComplete =
        (UsageAccumulator.feed reports).finish upstreamAttempted responseComplete) ∧
    ∀ total, ((UsageAccumulator.feed reports).finish upstreamAttempted
        responseComplete).totalTokens = some total → total.derived = true →
      lastCount (·.totalTokens) (providerReports reports) = none ∧
      ∃ prompt completion, settledField (·.promptTokens) (providerReports reports)
          (estimates reports) = some prompt ∧
        settledField (·.completionTokens) (providerReports reports) (estimates reports) =
          some completion ∧
        checkedAddI64 prompt.value completion.value = some total.value := by
  have hEq := finish_feed_eq reports upstreamAttempted responseComplete
  refine ⟨hEq, ?_, ?_⟩
  · intro other hReported hEstimated
    rw [hEq, finish_feed_eq other, hReported, hEstimated]
  · intro total hTotal hDerived
    rw [hEq] at hTotal
    exact derived_total hTotal hDerived

/-- A provider that comes late still counts: the estimate of the prompt gives way, and the total is
derived from the two values. -/
example : (UsageAccumulator.feed [.estimated ⟨some 9, some 5, none, none, none, none⟩,
    .provider ⟨some 10, none, none, none, none, none⟩]).finish true true =
    ⟨some ⟨10, .provider, false⟩, some ⟨5, .estimated, false⟩, some ⟨15, .mixed, true⟩, none, none,
      none, .mixed, [], false⟩ := by decide

end KongRust.Usage

import KongRust.Ai.Balancer

/-!
# Shares of one counter

Rules of a router, and candidate sets of a balancer, draw their numbers from one counter each. While
only one of them draws, its targets are hit by their weights; calls that take turns can leave a
target out.
-/

namespace KongRust.Ai

open ModelRouter

namespace ModelGroupBalancer

variable (balancer : ModelGroupBalancer)

/-- The candidates of a selection and the index of the selected one. -/
def pick (now : Nat) (promptTokens : Option UInt64) : Option (List AiModel × Nat) :=
  (balancer.tier now promptTokens).bind fun candidates =>
    (chooseCandidate (candidates.map ModelEntry.model) balancer.counter).map fun index =>
      (candidates.map ModelEntry.model, index)

/-- The indices that selections from these candidates take, one after the other. -/
def hits (balancer : ModelGroupBalancer) (models : List AiModel) :
    List (Nat × BalancerCall) → List Nat
  | [] => []
  | (now, .selectFor promptTokens) :: calls =>
    match balancer.pick now promptTokens with
    | some (candidates, index) =>
      if candidates = models then
        index :: hits (balancer.call now (.selectFor promptTokens)) models calls
      else hits (balancer.call now (.selectFor promptTokens)) models calls
    | none => hits (balancer.call now (.selectFor promptTokens)) models calls
  | (now, .reportSuccess modelId) :: calls =>
    hits (balancer.call now (.reportSuccess modelId)) models calls
  | (now, .reportFailure modelId status) :: calls =>
    hits (balancer.call now (.reportFailure modelId status)) models calls

def SelectsOnly (models : List AiModel) : ModelGroupBalancer → List (Nat × BalancerCall) → Prop
  | _, [] => True
  | balancer, (now, call) :: calls =>
    (∀ promptTokens, call = .selectFor promptTokens → ∀ candidates index,
      balancer.pick now promptTokens = some (candidates, index) → candidates = models) ∧
    SelectsOnly models (balancer.call now call) calls

variable {balancer : ModelGroupBalancer}

variable {now : Nat} {promptTokens : Option UInt64} {models : List AiModel}

/-- What is selected is the picked candidate, and it takes a number. -/
theorem selectFor_pick {index : Nat} (h : balancer.pick now promptTokens = some (models, index)) :
    (∃ model providerConfig, models[index]? = some model ∧
      (balancer.selectFor now promptTokens).1 = .ok (model, providerConfig)) ∧
    (balancer.selectFor now promptTokens).2.counter = balancer.counter + 1 := by
  unfold pick at h
  obtain ⟨candidates, hTier, hChosen⟩ := Option.bind_eq_some_iff.mp h
  obtain ⟨chosen, hIndex, hPair⟩ := Option.map_eq_some_iff.mp hChosen
  obtain ⟨rfl, rfl⟩ := Prod.mk.inj hPair
  have hEntries : balancer.entries.isEmpty = false := by
    by_contra hEmpty
    rw [Bool.not_eq_false, List.isEmpty_iff] at hEmpty
    have hNone : balancer.tier now promptTokens = none :=
      tier_none.mpr fun e hE => by simp [hEmpty] at hE
    rw [hTier] at hNone
    cases hNone
  have hNonempty : candidates.map ModelEntry.model ≠ [] := by
    obtain ⟨_, priority, _, _, hIs, _⟩ := List.findSome?_eq_some_iff.mp hTier
    dsimp only at hIs
    split at hIs
    · cases hIs
    · rename_i hSome
      rw [Option.some.injEq] at hIs
      rw [← hIs]
      simpa [List.isEmpty_iff] using hSome
  obtain ⟨found, hFound, hLt⟩ := chooseCandidate_lt hNonempty balancer.counter
  rw [hIndex, Option.some.injEq] at hFound
  subst hFound
  rw [List.length_map] at hLt
  unfold selectFor
  rw [hEntries, hTier, if_neg (by decide)]
  dsimp only
  rw [hIndex, Option.bind_some, List.getElem?_eq_getElem hLt]
  refine ⟨⟨candidates[chosen].model, candidates[chosen].providerConfig, ?_, rfl⟩, rfl⟩
  rw [List.getElem?_map, List.getElem?_eq_getElem hLt]
  rfl

theorem counter_of_pick_none (h : balancer.pick now promptTokens = none) :
    (balancer.selectFor now promptTokens).2.counter = balancer.counter := by
  unfold selectFor
  split
  · rfl
  · cases hTier : balancer.tier now promptTokens with
    | none => rfl
    | some candidates =>
      obtain ⟨_, priority, _, _, hIs, _⟩ := List.findSome?_eq_some_iff.mp hTier
      dsimp only at hIs
      split at hIs
      · cases hIs
      · rename_i hSome
        rw [Option.some.injEq] at hIs
        have hNonempty : candidates.map ModelEntry.model ≠ [] := by
          rw [← hIs]
          simpa [List.isEmpty_iff] using hSome
        obtain ⟨index, hIndex, -⟩ := chooseCandidate_lt hNonempty balancer.counter
        unfold pick at h
        rw [hTier, Option.bind_some, hIndex] at h
        cases h

/-- Calls that select only from some candidates give them consecutive numbers. -/
theorem hits_consecutive {calls : List (Nat × BalancerCall)}
    (hWeights : (modelWeights models).foldl gcd 0 ≠ 0) (hOnly : SelectsOnly models balancer calls) :
    (balancer.hits models calls).map some =
      (List.range (balancer.hits models calls).length).map fun n =>
        weightedRoundRobinIndex (modelWeights models)
          (balancer.counter + UInt64.ofNat n).toNat := by
  induction calls generalizing balancer with
  | nil => rfl
  | cons timed calls ih =>
    obtain ⟨now, call⟩ := timed
    obtain ⟨hHead, hTail⟩ := hOnly
    have hRest := ih hTail
    cases call with
    | reportSuccess modelId | reportFailure modelId status => exact hRest
    | selectFor promptTokens =>
      cases hPick : balancer.pick now promptTokens with
      | none =>
        have hCounter : (balancer.call now (.selectFor promptTokens)).counter = balancer.counter :=
          counter_of_pick_none hPick
        have hHits : balancer.hits models ((now, .selectFor promptTokens) :: calls) =
            (balancer.call now (.selectFor promptTokens)).hits models calls := by
          rw [hits, hPick]
        rw [hHits, hRest, hCounter]
      | some picked =>
        obtain ⟨candidates, index⟩ := picked
        have hModels := hHead promptTokens rfl candidates index hPick
        subst hModels
        have hCounter : (balancer.call now (.selectFor promptTokens)).counter =
            balancer.counter + 1 := (selectFor_pick hPick).2
        have hHits : balancer.hits candidates ((now, .selectFor promptTokens) :: calls) =
            index :: (balancer.call now (.selectFor promptTokens)).hits candidates calls := by
          rw [hits, hPick]
          simp only [if_true]
        have hIndex : weightedRoundRobinIndex (modelWeights candidates) balancer.counter.toNat =
            some index := by
          unfold pick at hPick
          obtain ⟨tier, -, hChosen⟩ := Option.bind_eq_some_iff.mp hPick
          obtain ⟨chosen, hChoice, hPair⟩ := Option.map_eq_some_iff.mp hChosen
          obtain ⟨hModels, rfl⟩ := Prod.mk.inj hPair
          rw [hModels] at hChoice
          unfold chooseCandidate at hChoice
          rw [if_neg] at hChoice
          · exact hChoice
          · intro hAll
            refine hWeights (divisor_eq_zero.mpr fun weight hWeight => ?_)
            simpa using List.all_eq_true.mp hAll weight hWeight
        rw [hHits, List.map_cons, hRest, hCounter]
        exact consecutive_cons _ hIndex

end ModelGroupBalancer

/-- Whenever the window of a rule or of a candidate set has its length and nobody else draws in it,
and the counter does not turn over in it, it hits every target by its reduced weight. -/
theorem selections_fair (router : ModelRouter) (balancer : ModelGroupBalancer) :
    (∀ (before window : List String) (k : Nat), ((router.run before).hits k window).length =
        (reducedWeights (targetWeights (router.targetsOf k))).sum →
      (router.Draws k → ∀ name ∈ window, ∀ other, router.ruleIndex name = some other →
        router.Draws other → other = k) →
      (router.Draws k → (router.run before).counter.toNat +
          (reducedWeights (targetWeights (router.targetsOf k))).sum ≤ 2 ^ 64 ∨
        (reducedWeights (targetWeights (router.targetsOf k))).sum ∣ 2 ^ 64) →
      Fair (targetWeights (router.targetsOf k)) ((router.run before).hits k window)) ∧
    ∀ (before window : List (Nat × BalancerCall)) (models : List AiModel),
      ((balancer.run before).hits models window).length =
        (reducedWeights (modelWeights models)).sum →
      ModelGroupBalancer.SelectsOnly models (balancer.run before) window →
      ((balancer.run before).counter.toNat + (reducedWeights (modelWeights models)).sum ≤ 2 ^ 64 ∨
        (reducedWeights (modelWeights models)).sum ∣ 2 ^ 64) →
      Fair (modelWeights models) ((balancer.run before).hits models window) := by
  constructor
  · intro before window k hLength hOnly hCounter
    have hRules := router.run_rules before
    have hTargets : (router.run before).targetsOf k = router.targetsOf k := by
      unfold targetsOf
      rw [hRules]
    have hDraws (rule : Nat) : (router.run before).Draws rule ↔ router.Draws rule := by
      unfold Draws targetsOf
      rw [hRules]
    have hIndex (name : String) : (router.run before).ruleIndex name = router.ruleIndex name := by
      unfold ruleIndex
      rw [hRules]
    rw [← hTargets] at hLength hCounter ⊢
    refine window_fair hLength ?_ fun hOwn => hCounter ((hDraws k).mp hOwn)
    intro hOwn name hName other hRule hOther
    rw [hIndex] at hRule
    exact hOnly ((hDraws k).mp hOwn) name hName other hRule ((hDraws other).mp hOther)
  · intro before window models hLength hOnly hCounter
    by_cases hWeights : (modelWeights models).foldl gcd 0 = 0
    · exact fair_of_zero (divisor_eq_zero.mp hWeights) hLength
    · have hHits := ModelGroupBalancer.hits_consecutive hWeights hOnly
      rw [hLength] at hHits
      exact fair_of_consecutive hWeights hHits hCounter

/-! ## Two rules that take turns -/

def sampleTarget (modelName : String) : ModelTargetConfig :=
  ⟨"openai", modelName, none, .null, 1⟩

/-- Two rules with two targets each, and one with a single target. -/
def sampleRouter : ModelRouter where
  rules := [⟨fun name => name == "a", "^a$", [sampleTarget "a0", sampleTarget "a1"]⟩,
    ⟨fun name => name == "b", "^b$", [sampleTarget "b0", sampleTarget "b1"]⟩,
    ⟨fun name => name == "c", "^c$", [sampleTarget "c0"]⟩]
  counter := 0

theorem reducedWeights_pair : reducedWeights [1, 1] = [1, 1] := by
  simp [reducedWeights, gcd_eq]

theorem weightedRoundRobinIndex_pair (sequence : Nat) :
    weightedRoundRobinIndex [1, 1] sequence = [0, 1][sequence % 2]? := by
  have hCycle : cycle [1, 1] = [0, 1] := by
    rw [cycle, reducedWeights_pair]
    decide
  rw [weightedRoundRobinIndex_eq (by simp [gcd_eq]), hCycle]
  rfl

/-- With another rule in between, one target gets all calls of a rule. -/
theorem turns_starve : ¬ ∀ (router : ModelRouter) (before window : List String) (k : Nat),
    ((router.run before).hits k window).length =
      (reducedWeights (targetWeights (router.targetsOf k))).sum →
    Fair (targetWeights (router.targetsOf k)) ((router.run before).hits k window) := by
  intro h
  have hHits : (sampleRouter.run []).hits 0 ["a", "b", "a"] = [0, 0] := by
    simp [run, hits, choose, ruleIndex,
      targetsOf, sampleRouter, chooseTarget, targetWeights, sampleTarget,
      List.findIdx?_cons, weightedRoundRobinIndex_pair]
  have hWeights : reducedWeights (targetWeights (sampleRouter.targetsOf 0)) = [1, 1] :=
    reducedWeights_pair
  have hFair := h sampleRouter [] ["a", "b", "a"] 0 (by rw [hHits, hWeights]; rfl) 0
  rw [hHits, hWeights] at hFair
  cases hFair

def sampleGroup : List AiModel :=
  [⟨1, "group", "gpt-4", 0, 1, none, true⟩, ⟨2, "group", "gpt-4", 0, 1, none, true⟩]

def sampleBalancer (counter : UInt64) : ModelGroupBalancer where
  entries := sampleGroup.map fun model => ⟨model, (sampleModel 1 0).2, .new⟩
  counter := counter

theorem sampleBalancer_pick (counter : UInt64) : (sampleBalancer counter).pick 0 none =
    ([0, 1][counter.toNat % 2]?).map fun index => (sampleGroup, index) := by
  have hTier : (sampleBalancer counter).tier 0 none = some (sampleBalancer counter).entries := rfl
  have hWeights : modelWeights sampleGroup = [1, 1] := rfl
  have hModels : (sampleBalancer counter).entries.map ModelEntry.model = sampleGroup := rfl
  unfold ModelGroupBalancer.pick
  rw [hTier, Option.bind_some, hModels, chooseCandidate, hWeights, if_neg (by decide),
    weightedRoundRobinIndex_pair]
  rfl

/-- Two calls with one of the single target between them, and two selections of a group. -/
theorem selections_fair_sample : Fair [1, 1] ((sampleRouter.run []).hits 0 ["a", "c", "a"]) ∧
      Fair [1, 1] (((sampleBalancer 0).run []).hits sampleGroup
        [(0, .selectFor none), (0, .selectFor none)]) := by
  have hHits : (sampleRouter.run []).hits 0 ["a", "c", "a"] = [0, 1] := by
    simp [run, hits, choose, ruleIndex,
      targetsOf, sampleRouter, chooseTarget, targetWeights, sampleTarget,
      List.findIdx?_cons, weightedRoundRobinIndex_pair]
  have hFirst : (sampleBalancer 0).pick 0 none = some (sampleGroup, 0) := sampleBalancer_pick 0
  have hSecond : (sampleBalancer 1).pick 0 none = some (sampleGroup, 1) := sampleBalancer_pick 1
  have hNext : (sampleBalancer 0).call 0 (.selectFor none) = sampleBalancer 1 := by
    have hEntries := selectFor_entries (sampleBalancer 0) 0 none
    have hCounter := (ModelGroupBalancer.selectFor_pick hFirst).2
    exact ModelGroupBalancer.ext hEntries hCounter
  have hPicks : ((sampleBalancer 0).run []).hits sampleGroup
      [(0, .selectFor none), (0, .selectFor none)] = [0, 1] := by
    simp [ModelGroupBalancer.run, ModelGroupBalancer.hits, hFirst, hNext, hSecond]
  have hSum : (reducedWeights [1, 1]).sum = 2 := by
    rw [reducedWeights_pair]
    rfl
  refine ⟨(selections_fair sampleRouter (sampleBalancer 0)).1 [] ["a", "c", "a"] 0 ?_ ?_ ?_,
    (selections_fair sampleRouter (sampleBalancer 0)).2 []
      [(0, .selectFor none), (0, .selectFor none)] sampleGroup ?_ ?_ ?_⟩
  · rw [hHits]
    exact hSum.symm
  · intro _ name hName other hRule hDraws
    rcases List.mem_cons.mp hName with rfl | hName
    · simpa [sampleRouter, ruleIndex, List.findIdx?_cons] using hRule.symm
    · rcases List.mem_cons.mp hName with rfl | hName
      · have hOther : other = 2 := by
          simpa [sampleRouter, ruleIndex, List.findIdx?_cons] using hRule.symm
        subst hOther
        exact absurd rfl hDraws.1
      · rw [List.mem_singleton.mp hName] at hRule
        simpa [sampleRouter, ruleIndex, List.findIdx?_cons] using hRule.symm
  · intro _
    exact .inr ⟨2 ^ 63, by change 2 ^ 64 = (reducedWeights [1, 1]).sum * 2 ^ 63; omega⟩
  · rw [hPicks]
    exact hSum.symm
  · refine ⟨?_, ?_, trivial⟩
    · intro promptTokens hCall candidates index hPick
      cases hCall
      rw [show (sampleBalancer 0).run [] = sampleBalancer 0 from rfl, hFirst] at hPick
      exact (Prod.mk.inj (Option.some.inj hPick)).1.symm
    · intro promptTokens hCall candidates index hPick
      cases hCall
      rw [show (sampleBalancer 0).run [] = sampleBalancer 0 from rfl, hNext, hSecond] at hPick
      exact (Prod.mk.inj (Option.some.inj hPick)).1.symm
  · exact .inr ⟨2 ^ 63, by change 2 ^ 64 = (reducedWeights [1, 1]).sum * 2 ^ 63; omega⟩

end KongRust.Ai

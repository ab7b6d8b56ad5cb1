import KongRust.Proxy.HashRing

/-!
# Refreshed rings

`update_targets` builds the ring with 10000 slots, whatever the slots of the upstream are. A
refreshed balancer selects as one built afresh when that leaves every target its number of nodes,
and in a few cases in which no ring is asked.
-/

namespace KongRust.Proxy

/-! ## The length of a ring -/

theorem length_ringNodes (H : Hashing) (targets : List BalancerTarget) (totalSlots : UInt64)
    (weight : Int32) : (ringNodes H targets totalSlots weight).length =
      (targets.map fun target => vnodes target totalSlots weight).sum := by
  unfold ringNodes
  rw [List.length_flatMap]
  simp only [List.length_map, List.length_range]
  have hZip : (targets.zipIdx.map fun entry => vnodes entry.1 totalSlots weight) =
      (targets.zipIdx.map Prod.fst).map fun target => vnodes target totalSlots weight := by
    rw [List.map_map]
    rfl
  rw [hZip, List.zipIdx_map_fst]

variable {target : BalancerTarget} {weight : Int32} {few many : UInt64}

theorem vnodes_eq {totalSlots : UInt64} (hWeight : 0 ≤ target.weight)
    (hSlots : totalSlots.toNat < 2 ^ 31) :
    vnodes target totalSlots weight =
      max (units target.weight * totalSlots.toNat / (asUsize weight).toNat) 1 := by
  have hUnits := units_eq hWeight
  have hHigh := toInt_lt target.weight
  have hProduct : units target.weight * totalSlots.toNat ≤ 2 ^ 31 * 2 ^ 31 :=
    Nat.mul_le_mul (by omega) (Nat.le_of_lt hSlots)
  rw [vnodes, UInt64.toNat_div, UInt64.toNat_mul, asUsize_toNat hWeight,
    Nat.mod_eq_of_lt (by omega)]

theorem vnodes_mono (hWeight : 0 ≤ target.weight) (hMany : many.toNat < 2 ^ 31)
    (h : few.toNat ≤ many.toNat) : vnodes target few weight ≤ vnodes target many weight := by
  rw [vnodes_eq hWeight (by omega), vnodes_eq hWeight hMany]
  exact max_le_max_right 1 (Nat.div_le_div_right (Nat.mul_le_mul_left _ h))

theorem sum_vnodes_lt {targets : List BalancerTarget} (hPos : ∀ target ∈ targets, 0 < target.weight)
    (hMany : many.toNat < 2 ^ 31) (h : few.toNat ≤ many.toNat)
    (hDiffer : ∃ target ∈ targets, vnodes target few weight ≠ vnodes target many weight) :
    (targets.map fun target => vnodes target few weight).sum <
      (targets.map fun target => vnodes target many weight).sum := by
  have hLe : ∀ target ∈ targets, vnodes target few weight ≤ vnodes target many weight :=
    fun target hTarget => vnodes_mono (Int32.le_of_lt (hPos target hTarget)) hMany h
  obtain ⟨target, hTarget, hNe⟩ := hDiffer
  apply List.sum_lt_sum _ _ hLe
  exact ⟨target, hTarget, Nat.lt_of_le_of_ne (hLe target hTarget) hNe⟩

namespace LoadBalancer

/-- These balancers select the same address for every key, whatever the health of the targets. -/
def SameSelection (H : Hashing) (lb other : LoadBalancer) : Prop :=
  ∀ (checker : Option HealthChecker) (hashKey : Option String),
    ({ lb with healthChecker := checker }.selectWithKey H hashKey).map Prod.fst =
      ({ other with healthChecker := checker }.selectWithKey H hashKey).map Prod.fst

/-- A balancer refreshed to the targets selects as one that is built with them does. -/
def RefreshEquals (upstream : Upstream) (others targets : List Target) : Prop :=
  ∀ (H : Hashing) (old refreshed fresh : LoadBalancer), new H upstream others = .ok old →
    old.updateTargets H targets = .ok refreshed → new H upstream targets = .ok fresh →
    SameSelection H refreshed fresh

/-- When 10000 slots give the targets the ring that the slots of the upstream give them, or one
that cannot be told from it. -/
def SameRing (upstream : Upstream) (targets : List Target) : Prop :=
  upstream.algorithm ≠ .consistentHashing ∨ upstream.slots < 0 ∨ totalWeight targets = 0 ∨
    (∀ a ∈ balancerTargets targets, ∀ b ∈ balancerTargets targets, a.address = b.address) ∨
    ∀ target ∈ balancerTargets targets, vnodes target (asUsize upstream.slots)
      (totalWeight targets) = vnodes target 10000 (totalWeight targets)

theorem SameSelection.refl (H : Hashing) (lb : LoadBalancer) : SameSelection H lb lb :=
  fun _ _ => rfl

theorem selectIndex_some (H : Hashing) (hashKey : Option String) (lb : LoadBalancer)
    (hAlgorithm : lb.algorithm = .consistentHashing) (hCovers : lb.Covers)
    (hHealthy : lb.getHealthyIndices ≠ []) :
    ∃ i, lb.selectIndex H hashKey = .ok (some i, lb.rrIndex) := by
  obtain ⟨i, _, _, hSelect⟩ : ∃ i ∈ lb.getHealthyIndices,
      lb.walk (lb.ringStart H hashKey) lb.getHealthyIndices = some i ∧
        lb.consistentHashSelect H hashKey lb.getHealthyIndices = .ok (some i, lb.rrIndex) :=
    consistentHashSelect_eq H hashKey hCovers hHealthy
  refine ⟨i, ?_⟩
  have hTargets : lb.targets.isEmpty = false :=
    List.isEmpty_eq_false_iff.mpr (List.ne_nil_of_mem (List.getElem_mem i.isLt))
  have hSome : lb.getHealthyIndices.isEmpty = false := List.isEmpty_eq_false_iff.mpr hHealthy
  simp only [selectIndex, hTargets, hSome, hAlgorithm, Bool.false_eq_true, if_false]
  exact hSelect

variable {H : Hashing} {hashKey : Option String} {lb : LoadBalancer} {node : HashRingNode}
  {choice : List UInt64 → Nat}

theorem selectIndex_ring (lb : LoadBalancer) (ring : List HashRingNode)
    (h : lb.getHealthyIndices = []) :
    { lb with hashRing := ring }.selectIndex H hashKey = lb.selectIndex H hashKey := by
  have hNone : lb.getHealthyIndices.isEmpty = true := List.isEmpty_iff.mpr h
  have hOther : { lb with hashRing := ring }.getHealthyIndices.isEmpty = true := hNone
  simp only [selectIndex, hNone, hOther, if_true]
  rfl

theorem selectWithKey_ring (lb : LoadBalancer) {ring : List HashRingNode}
    (hAlgorithm : lb.algorithm = .consistentHashing) (hCovers : lb.Covers)
    (hRing : { lb with hashRing := ring }.Covers)
    (hAddress : ∀ a ∈ lb.targets, ∀ b ∈ lb.targets, a.address = b.address) :
    ({ lb with hashRing := ring }.selectWithKey H hashKey).map Prod.fst =
      (lb.selectWithKey H hashKey).map Prod.fst := by
  by_cases hHealthy : lb.getHealthyIndices = []
  · rw [selectWithKey, selectWithKey, selectIndex_ring lb ring hHealthy]
    cases lb.selectIndex H hashKey with
    | error panic | ok selected => rfl
  · obtain ⟨i, hI⟩ := selectIndex_some H hashKey lb hAlgorithm hCovers hHealthy
    obtain ⟨j, hJ⟩ := selectIndex_some H hashKey { lb with hashRing := ring } hAlgorithm hRing
      hHealthy
    rw [selectWithKey, selectWithKey, hI, hJ]
    have hSame := hAddress _ (List.getElem_mem j.isLt) _ (List.getElem_mem i.isLt)
    exact congrArg (fun address => Except.ok (some address)) hSame

/-! ## When a refresh keeps the selection -/

theorem withCapacity_slots {slots : Int32} (h : slots < 0) :
    withCapacity 16 (asUsize slots) = .error .capacityOverflow := by
  have hInt := Int32.lt_iff_toInt_lt.mp h
  have hLow := Int32.le_toInt slots
  rw [show Int32.toInt 0 = 0 from rfl] at hInt
  have hWide : slots.toInt64.toInt = slots.toInt := Int32.toInt_toInt64 slots
  have hWord : ((asUsize slots).toNat : Int) = slots.toInt + 2 ^ 64 := by
    have hBits : slots.toInt64.toBitVec.toInt = slots.toInt := hWide
    have hNat : (asUsize slots).toNat = slots.toInt64.toBitVec.toNat := rfl
    rw [hNat, ← hBits]
    rw [BitVec.toInt_eq_toNat_cond] at hBits ⊢
    split at hBits <;> omega
  rw [withCapacity, if_pos (by omega)]

variable {upstream : Upstream} {others targets : List Target}

theorem refreshed_eq {old refreshed fresh : LoadBalancer}
    (hAlgorithm : upstream.algorithm = .consistentHashing) (hOld : new H upstream others = .ok old)
    (hRefreshed : old.updateTargets H targets = .ok refreshed)
    (hFresh : new H upstream targets = .ok fresh) : ∃ ring,
      buildHashRing H (balancerTargets targets) 10000 = .ok ring ∧
      buildHashRing H (balancerTargets targets) (asUsize upstream.slots) = .ok fresh.hashRing ∧
      fresh.algorithm = .consistentHashing ∧ fresh.targets = balancerTargets targets ∧
      refreshed = { fresh with hashRing := ring } := by
  obtain ⟨_, _, rfl⟩ := (new_eq_ok hAlgorithm).mp hOld
  obtain ⟨ring, hRing, rfl⟩ := (updateTargets_eq_ok hAlgorithm).mp hRefreshed
  obtain ⟨_, hFreshRing, rfl⟩ := (new_eq_ok hAlgorithm).mp hFresh
  exact ⟨ring, hRing, hFreshRing, hAlgorithm, rfl, rfl⟩

theorem refreshEquals_of_sameRing (h : SameRing upstream targets) :
    RefreshEquals upstream others targets := by
  intro H old refreshed fresh hOld hRefreshed hFresh
  by_cases hAlgorithm : upstream.algorithm = .consistentHashing
  · obtain ⟨ring, hRing, hFreshRing, hFreshAlgorithm, hTargets, rfl⟩ :=
      refreshed_eq hAlgorithm hOld hRefreshed hFresh
    have hSame : ring = fresh.hashRing → SameSelection H { fresh with hashRing := ring } fresh := by
      rintro rfl
      exact SameSelection.refl H fresh
    have hZero : balancerTargets targets = [] ∨ totalWeight targets = 0 →
        SameSelection H { fresh with hashRing := ring } fresh := by
      intro hZero
      rw [buildHashRing_of_zero hZero] at hRing hFreshRing
      cases hRing
      exact hSame (Except.ok.inj hFreshRing)
    by_cases hNone : balancerTargets targets = [] ∨ totalWeight targets = 0
    · exact hZero hNone
    · obtain ⟨hSome, hWeight⟩ := not_or.mp hNone
      obtain ⟨hCapacity, hFreshSorted⟩ := (buildHashRing_eq_ok hSome hWeight).mp hFreshRing
      obtain ⟨_, hSorted⟩ := (buildHashRing_eq_ok hSome hWeight).mp hRing
      rcases h with hOther | hNegative | hZeroWeight | hAddress | hVnodes
      · exact absurd hAlgorithm hOther
      · rw [withCapacity_slots hNegative] at hCapacity
        cases hCapacity
      · exact absurd hZeroWeight hWeight
      · intro checker hashKey
        have hCovers : ∀ nodes totalSlots, nodes =
            (ringNodes H (balancerTargets targets) totalSlots (totalWeight targets)).mergeSort
              (fun a b => a.hash ≤ b.hash) → { fresh with hashRing := nodes }.Covers := by
          rintro nodes totalSlots rfl i hI
          rw [hTargets] at hI
          obtain ⟨node, hNode, hIndex⟩ := mem_ringNodes H totalSlots (totalWeight targets) hI
          exact ⟨node, (List.mergeSort_perm _ _).mem_iff.mpr hNode, hIndex⟩
        have hFreshCovers := hCovers _ _ hFreshSorted
        have hRingCovers := hCovers _ _ hSorted
        have hOneAddress : ∀ a ∈ fresh.targets, ∀ b ∈ fresh.targets, a.address = b.address := by
          rw [hTargets]
          exact hAddress
        exact selectWithKey_ring { fresh with healthChecker := checker } hFreshAlgorithm
          hFreshCovers hRingCovers hOneAddress
      · apply hSame
        rw [hSorted, hFreshSorted]
        congr 1
        unfold ringNodes
        apply List.flatMap_congr
        intro entry hEntry
        have hTarget : entry.1 ∈ balancerTargets targets := List.fst_mem_of_mem_zipIdx hEntry
        have hCount := hVnodes entry.1 hTarget
        change vnodes entry.1 _ (weightSum _) = vnodes entry.1 _ (weightSum _) at hCount
        rw [hCount]
  · have hFreshEq : refreshed = fresh := by
      simp only [new, hAlgorithm, if_false, bind, Except.bind, pure, Except.pure,
        Except.ok.injEq] at hOld hFresh
      subst hOld hFresh
      simpa [updateTargets, hAlgorithm, bind, Except.bind, pure, Except.pure] using hRefreshed.symm
    rw [hFreshEq]
    exact SameSelection.refl H fresh

variable {i : Fin lb.targets.length}

theorem walk_start {healthyIndices : List (Fin lb.targets.length)} {start : Nat}
    (hNode : lb.hashRing[start]? = some node) (hIndex : i.val = node.targetIndex)
    (hI : i ∈ healthyIndices) : lb.walk start healthyIndices = some i := by
  obtain ⟨hStart, _⟩ := List.getElem?_eq_some_iff.mp hNode
  have hRange : List.range lb.hashRing.length =
      0 :: (List.range (lb.hashRing.length - 1)).map (· + 1) := by
    rw [← List.range_succ_eq_map, Nat.sub_add_cancel (by omega)]
  rw [walk, hRange, List.findSome?_cons, Nat.add_zero, Nat.mod_eq_of_lt hStart, hNode,
    Option.bind_some, find?_index.mpr ⟨hI, hIndex⟩]

theorem getHealthyIndices_none (h : lb.healthChecker = none) :
    lb.getHealthyIndices = List.finRange lb.targets.length := by
  rw [getHealthyIndices, List.filter_eq_self]
  intro i _
  rw [h]
  rfl

theorem selectIndex_choice (hAlgorithm : lb.algorithm = .consistentHashing)
    (hChecker : lb.healthChecker = none)
    (hNode : lb.hashRing[choice (lb.hashRing.map (·.hash))]? = some node) (hHash : node.hash = 0)
    (hIndex : i.val = node.targetIndex) :
    lb.selectIndex (constantHashing choice) none = .ok (some i, lb.rrIndex) := by
  have hTargets : lb.targets.isEmpty = false :=
    List.isEmpty_eq_false_iff.mpr (List.ne_nil_of_mem (List.getElem_mem i.isLt))
  have hAll : (List.finRange lb.targets.length).isEmpty = false :=
    List.isEmpty_eq_false_iff.mpr (List.ne_nil_of_mem (List.mem_finRange i))
  have hRing : lb.hashRing.isEmpty = false :=
    List.isEmpty_eq_false_iff.mpr (List.ne_nil_of_mem (List.mem_of_getElem? hNode))
  have hFound : (constantHashing choice).search.run (lb.hashRing.map (·.hash))
      ((constantHashing choice).computeHash "default") =
      .ok (choice (lb.hashRing.map (·.hash))) := by
    change (if (lb.hashRing.map (·.hash))[choice (lb.hashRing.map (·.hash))]? = some 0 then _
      else _) = _
    rw [List.getElem?_map, hNode, Option.map_some, hHash, if_pos rfl]
  have hStart : lb.ringStart (constantHashing choice) none =
      choice (lb.hashRing.map (·.hash)) := by
    rw [ringStart, Option.getD_none, hFound]
  have hWalk := walk_start hNode hIndex (List.mem_finRange i)
  simp only [selectIndex, getHealthyIndices_none hChecker, hTargets, hAll, hAlgorithm,
    consistentHashSelect, hRing, hStart, hWalk, Bool.false_eq_true, if_false]

theorem hash_constant {targets : List BalancerTarget} {totalSlots : UInt64} {weight : Int32}
    (h : node ∈ ringNodes (constantHashing choice) targets totalSlots weight) : node.hash = 0 := by
  obtain ⟨entry, _, hNode⟩ := List.mem_flatMap.mp h
  obtain ⟨_, _, rfl⟩ := List.mem_map.mp hNode
  rfl

/-- The ring when all hashes are equal, which does not depend on the search. -/
def flatRing (targets : List BalancerTarget) (totalSlots : UInt64) : List HashRingNode :=
  (ringNodes (constantHashing fun _ => 0) targets totalSlots
    (weightSum (targets.map (·.weight)))).mergeSort fun a b => a.hash ≤ b.hash

theorem flatRing_node {targets : List BalancerTarget} (totalSlots : UInt64) {i : Nat}
    (h : i < targets.length) : ∃ (p : Nat) (node : HashRingNode),
      (flatRing targets totalSlots)[p]? = some node ∧ node.hash = 0 ∧ i = node.targetIndex := by
  obtain ⟨node, hNode, hIndex⟩ := mem_ringNodes (constantHashing fun _ => 0)
    totalSlots (weightSum (targets.map (·.weight))) h
  have hMem : node ∈ flatRing targets totalSlots := by
    rw [flatRing]
    exact (List.mergeSort_perm _ _).mem_iff.mpr hNode
  obtain ⟨p, hAt⟩ := List.getElem?_of_mem hMem
  exact ⟨p, node, hAt, hash_constant hNode, hIndex.symm⟩

theorem length_flatRing (targets : List BalancerTarget) (totalSlots : UInt64) :
    (flatRing targets totalSlots).length = (targets.map fun target =>
      vnodes target totalSlots (weightSum (targets.map (·.weight)))).sum := by
  rw [flatRing, List.length_mergeSort, length_ringNodes]

/-- Rings of different length are told apart by a search that finds different nodes on them. -/
theorem not_refreshEquals (hAlgorithm : upstream.algorithm = .consistentHashing)
    (hSlots : ¬ upstream.slots < 0) (hWeight : totalWeight targets ≠ 0)
    {a b : BalancerTarget} (hA : a ∈ balancerTargets targets) (hB : b ∈ balancerTargets targets)
    (hAddress : a.address ≠ b.address)
    (hLength : (flatRing (balancerTargets targets) (asUsize upstream.slots)).length ≠
      (flatRing (balancerTargets targets) 10000).length) :
    ¬ RefreshEquals upstream others targets := by
  intro hEquals
  obtain ⟨i, hI, rfl⟩ := List.getElem_of_mem hA
  obtain ⟨j, hJ, rfl⟩ := List.getElem_of_mem hB
  obtain ⟨p, node, hNode, hHash, hIndex⟩ := flatRing_node (asUsize upstream.slots) hI
  obtain ⟨q, other, hOther, hOtherHash, hOtherIndex⟩ := flatRing_node 10000 hJ
  generalize hChoice : (fun keys : List UInt64 =>
    if keys.length = (flatRing (balancerTargets targets) (asUsize upstream.slots)).length then p
    else q) = choice
  have hSlotsNonneg := Int32.not_lt.mp hSlots
  have hTargets : balancerTargets targets ≠ [] := List.ne_nil_of_mem hA
  have hCapacity : withCapacity 16 (asUsize upstream.slots) = .ok () :=
    withCapacity_ok hSlotsNonneg (Nat.le_refl _)
  have hFreshRing : buildHashRing (constantHashing choice) (balancerTargets targets)
      (asUsize upstream.slots) =
        .ok (flatRing (balancerTargets targets) (asUsize upstream.slots)) :=
    (buildHashRing_eq_ok hTargets hWeight).mpr ⟨hCapacity, rfl⟩
  have hRing : buildHashRing (constantHashing choice) (balancerTargets targets) 10000 =
      .ok (flatRing (balancerTargets targets) 10000) :=
    (buildHashRing_eq_ok hTargets hWeight).mpr ⟨by decide, rfl⟩
  obtain ⟨old, hOld, hOldAlgorithm⟩ : ∃ old,
      new (constantHashing choice) upstream others = .ok old ∧
      old = { old with
        algorithm := upstream.algorithm, rrIndex := 0, upstreamName := upstream.name,
        healthChecker := none } := by
    by_cases hOthers : balancerTargets others = [] ∨ totalWeight others = 0
    · exact ⟨_, (new_eq_ok hAlgorithm).mpr ⟨[], buildHashRing_of_zero hOthers, rfl⟩, rfl⟩
    · obtain ⟨hSome, hSum⟩ := not_or.mp hOthers
      exact ⟨_, (new_eq_ok hAlgorithm).mpr
        ⟨_, (buildHashRing_eq_ok hSome hSum).mpr ⟨hCapacity, rfl⟩, rfl⟩, rfl⟩
  have hFresh := (new_eq_ok hAlgorithm).mpr ⟨_, hFreshRing, rfl⟩
  rw [hOldAlgorithm] at hOld
  have hRefreshed : { old with
      algorithm := upstream.algorithm, rrIndex := 0, upstreamName := upstream.name,
      healthChecker := none }.updateTargets (constantHashing choice) targets =
      .ok ⟨balancerTargets targets, upstream.algorithm, 0, upstream.name, none,
        flatRing (balancerTargets targets) 10000, (balancerTargets targets).map fun _ => 0⟩ :=
    (updateTargets_eq_ok hAlgorithm).mpr ⟨_, hRing, rfl⟩
  have hSame := hEquals _ _ _ _ hOld hRefreshed hFresh none none
  have hFreshIndex : (⟨balancerTargets targets, upstream.algorithm, 0, upstream.name, none,
      flatRing (balancerTargets targets) (asUsize upstream.slots),
      (balancerTargets targets).map fun _ => 0⟩ : LoadBalancer).selectIndex
        (constantHashing choice) none = .ok (some ⟨i, hI⟩, 0) := by
    apply selectIndex_choice hAlgorithm rfl _ hHash hIndex
    rw [← hChoice]
    simpa using hNode
  have hRefreshedIndex : (⟨balancerTargets targets, upstream.algorithm, 0, upstream.name, none,
      flatRing (balancerTargets targets) 10000,
      (balancerTargets targets).map fun _ => 0⟩ : LoadBalancer).selectIndex
        (constantHashing choice) none = .ok (some ⟨j, hJ⟩, 0) := by
    apply selectIndex_choice hAlgorithm rfl _ hOtherHash hOtherIndex
    rw [← hChoice]
    simpa [Ne.symm hLength] using hOther
  rw [selectWithKey, selectWithKey] at hSame
  dsimp only at hSame
  rw [hFreshIndex, hRefreshedIndex] at hSame
  exact hAddress (Option.some.inj (Except.ok.inj hSame)).symm

/-- A refresh keeps the selection, whatever the hash function, just if it keeps the ring. -/
theorem refreshEquals_iff (upstream : Upstream) (others targets : List Target) :
    RefreshEquals upstream others targets ↔ SameRing upstream targets := by
  constructor
  · intro hEquals
    by_contra hNot
    obtain ⟨hAlgorithm, hSlots, hWeight, hAddress, hVnodes⟩ :
        upstream.algorithm = .consistentHashing ∧ ¬ upstream.slots < 0 ∧ totalWeight targets ≠ 0 ∧
        (∃ a ∈ balancerTargets targets, ∃ b ∈ balancerTargets targets, a.address ≠ b.address) ∧
        ∃ target ∈ balancerTargets targets, vnodes target (asUsize upstream.slots)
          (totalWeight targets) ≠ vnodes target 10000 (totalWeight targets) := by
      unfold SameRing at hNot
      push Not at hNot
      obtain ⟨hAlgorithm, hSlots, hRest⟩ := hNot
      exact ⟨hAlgorithm, hSlots, hRest⟩
    obtain ⟨a, hA, b, hB, hNe⟩ := hAddress
    refine not_refreshEquals hAlgorithm hSlots hWeight hA hB hNe ?_ hEquals
    have hSlotsNonneg := Int32.not_lt.mp hSlots
    have hSlotsBound : (asUsize upstream.slots).toNat < 2 ^ 31 := by
      have hUnits := units_eq hSlotsNonneg
      have hHigh := toInt_lt upstream.slots
      rw [asUsize_toNat hSlotsNonneg]
      omega
    have hPos : ∀ target ∈ balancerTargets targets, 0 < target.weight :=
      fun target hTarget => balancerTargets_pos hTarget
    rw [length_flatRing, length_flatRing]
    rcases Nat.le_total (asUsize upstream.slots).toNat (UInt64.toNat 10000) with hFew | hMany
    · exact Nat.ne_of_lt (sum_vnodes_lt hPos (by decide) hFew hVnodes)
    · obtain ⟨target, hTarget, hDiffer⟩ := hVnodes
      exact Nat.ne_of_gt (sum_vnodes_lt hPos hSlotsBound hMany ⟨target, hTarget, hDiffer.symm⟩)
  · exact refreshEquals_of_sameRing

def sampleTargets : List Target := [⟨"10.0.0.1:80", 100⟩, ⟨"10.0.0.2:80", 100⟩]

/-- With 100 slots the ring is built anew with a hundred times the nodes. -/
theorem refreshEquals_slots :
    ¬ RefreshEquals sampleUpstream [⟨"10.0.0.9:80", 100⟩] sampleTargets := by
  apply not_refreshEquals (a := ⟨"10.0.0.1:80", 100⟩) (b := ⟨"10.0.0.2:80", 100⟩) rfl (by decide)
    (by decide) (by decide) (by decide) (by decide)
  rw [length_flatRing, length_flatRing]
  decide

end LoadBalancer

end KongRust.Proxy

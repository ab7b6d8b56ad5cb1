import KongRust.Proxy.Rotation

/-!
# Consistent hashing

The hash ring: a selection walks around it from the position of the key to the first node of a
healthy target. A target that goes unhealthy moves only its own keys, as long as there is a ring; a
sum of weights that wraps around to 0 leaves none.
-/

namespace KongRust.Proxy

/-! ## The walk -/

theorem findSome?_stable {α β : Type} {l : List α} {f g : α → Option β} {b : β}
    (h : l.findSome? f = some b) (hNone : ∀ a, f a = none → g a = none)
    (hKeep : ∀ a, f a = some b → g a = some b) : l.findSome? g = some b := by
  induction l with
  | nil => cases h
  | cons a l ih =>
    rw [List.findSome?_cons] at h ⊢
    cases hA : f a with
    | none =>
      rw [hA] at h
      rw [hNone a hA]
      exact ih h
    | some c =>
      rw [hA] at h
      cases h
      rw [hKeep a hA]

namespace LoadBalancer

variable {lb : LoadBalancer} {healthyIndices : List (Fin lb.targets.length)}

def Covers (lb : LoadBalancer) : Prop :=
  ∀ i < lb.targets.length, ∃ node ∈ lb.hashRing, node.targetIndex = i

variable {i : Fin lb.targets.length}

theorem find?_index {items : List (Fin lb.targets.length)} {n : Nat} :
    (items.find? fun j => j.val = n) = some i ↔ i ∈ items ∧ i.val = n := by
  constructor
  · intro h
    exact ⟨List.mem_of_find?_eq_some h, by simpa using List.find?_some h⟩
  · rintro ⟨hMem, hVal⟩
    cases hFind : items.find? fun j => decide (j.val = n) with
    | none =>
      have hNone := List.find?_eq_none.mp hFind i hMem
      simp [hVal] at hNone
    | some j =>
      have hJ := List.find?_some hFind
      have hSame : j = i := by
        apply Fin.ext
        rw [hVal]
        simpa using hJ
      rw [hSame]

theorem walk_some (hCovers : lb.Covers) (start : Nat) (h : healthyIndices ≠ []) :
    ∃ i ∈ healthyIndices, lb.walk start healthyIndices = some i := by
  obtain ⟨first, hFirst⟩ := List.exists_mem_of_ne_nil _ h
  obtain ⟨node, hNode, hIndex⟩ := hCovers first.val first.isLt
  obtain ⟨p, hP, rfl⟩ := List.getElem_of_mem hNode
  have hOffset : ∃ offset < lb.hashRing.length, (start + offset) % lb.hashRing.length = p := by
    refine ⟨(p + (lb.hashRing.length - start % lb.hashRing.length)) % lb.hashRing.length,
      Nat.mod_lt _ (by omega), ?_⟩
    have hLt : start % lb.hashRing.length < lb.hashRing.length := Nat.mod_lt _ (by omega)
    have hStart := Nat.mod_add_div start lb.hashRing.length
    rw [Nat.add_mod_mod]
    have hSum : start + (p + (lb.hashRing.length - start % lb.hashRing.length)) =
        p + lb.hashRing.length * (start / lb.hashRing.length + 1) := by
      rw [Nat.mul_add, Nat.mul_one]
      omega
    rw [hSum, Nat.add_mul_mod_self_left, Nat.mod_eq_of_lt hP]
  obtain ⟨offset, hIn, hAt⟩ := hOffset
  have hFound : (lb.walk start healthyIndices).isSome := by
    rw [walk, List.findSome?_isSome_iff]
    refine ⟨offset, List.mem_range.mpr hIn, ?_⟩
    rw [hAt, List.getElem?_eq_getElem hP, Option.bind_some, hIndex,
      (find?_index (i := first)).mpr ⟨hFirst, rfl⟩]
    rfl
  obtain ⟨i, hI⟩ := Option.isSome_iff_exists.mp hFound
  refine ⟨i, ?_, hI⟩
  obtain ⟨_, _, hBind⟩ := List.exists_of_findSome?_eq_some hI
  obtain ⟨_, _, hFind⟩ := Option.bind_eq_some_iff.mp hBind
  exact (find?_index.mp hFind).1

theorem walk_stable {still : List (Fin lb.targets.length)} {start : Nat}
    (h : lb.walk start healthyIndices = some i) (hStill : still ⊆ healthyIndices) (hI : i ∈ still) :
    lb.walk start still = some i := by
  apply findSome?_stable h
  · intro offset hNone
    cases hNode : lb.hashRing[(start + offset) % lb.hashRing.length]? with
    | none => rfl
    | some node =>
      rw [hNode, Option.bind_some] at hNone
      rw [Option.bind_some, List.find?_eq_none]
      intro j hJ
      exact List.find?_eq_none.mp hNone j (hStill hJ)
  · intro offset hSome
    obtain ⟨node, hNode, hFind⟩ := Option.bind_eq_some_iff.mp hSome
    rw [hNode, Option.bind_some]
    exact find?_index.mpr ⟨hI, (find?_index.mp hFind).2⟩

theorem consistentHashSelect_eq (H : Hashing) (hashKey : Option String)
    (hCovers : lb.Covers) (h : healthyIndices ≠ []) :
    ∃ i ∈ healthyIndices, lb.walk (lb.ringStart H hashKey) healthyIndices = some i ∧
      lb.consistentHashSelect H hashKey healthyIndices = .ok (some i, lb.rrIndex) := by
  obtain ⟨i, hI, hWalk⟩ := walk_some hCovers (lb.ringStart H hashKey) h
  refine ⟨i, hI, hWalk, ?_⟩
  have hRing : lb.hashRing.isEmpty = false := by
    obtain ⟨node, hNode, _⟩ := hCovers i.val i.isLt
    rw [List.isEmpty_eq_false_iff]
    exact List.ne_nil_of_mem hNode
  have hSome : healthyIndices.isEmpty = false := List.isEmpty_eq_false_iff.mpr h
  simp only [consistentHashSelect, hSome, hRing, Bool.false_eq_true, if_false, hWalk]

/-! ## Minimal disruption -/

def Selects (selected : Except Panic (Option (Fin lb.targets.length) × UInt64))
    (i : Fin lb.targets.length) : Prop :=
  selected.map Prod.fst = .ok (some i)

/-- Whenever there is a healthy target one is selected, and it stays selected while it stays
healthy, whatever others become unhealthy. -/
def MinimalDisruption (H : Hashing) (lb : LoadBalancer) : Prop :=
  ∀ (hashKey : Option String) (healthyIndices : List (Fin lb.targets.length)),
    healthyIndices ≠ [] → ∃ i ∈ healthyIndices,
      Selects (lb.consistentHashSelect H hashKey healthyIndices) i ∧
      ∀ still ⊆ healthyIndices, i ∈ still → Selects (lb.consistentHashSelect H hashKey still) i

theorem minimalDisruption_of_covers {H : Hashing} (hCovers : lb.Covers) :
    MinimalDisruption H lb := by
  intro hashKey healthyIndices hSome
  obtain ⟨i, hI, hWalk, hSelect⟩ := consistentHashSelect_eq H hashKey hCovers hSome
  refine ⟨i, hI, ?_, ?_⟩
  · rw [Selects, hSelect]
    rfl
  · intro still hStill hKept
    obtain ⟨j, _, hWalkStill, hSelectStill⟩ :=
      consistentHashSelect_eq H hashKey hCovers (List.ne_nil_of_mem hKept)
    rw [walk_stable hWalk hStill hKept] at hWalkStill
    cases hWalkStill
    rw [Selects, hSelectStill]
    rfl

/-! ## Which balancers have a ring -/

/-- A balancer of an upstream, built with targets or refreshed to them, at any point of its use. -/
inductive Built (H : Hashing) (upstream : Upstream) : List Target → LoadBalancer → Prop where
  | new {targets : List Target} {lb : LoadBalancer} (h : new H upstream targets = .ok lb) :
      Built H upstream targets lb
  | refreshed {old targets : List Target} {lb next : LoadBalancer} (hOld : Built H upstream old lb)
      (h : lb.updateTargets H targets = .ok next) : Built H upstream targets next
  | used {targets : List Target} {lb : LoadBalancer} (h : Built H upstream targets lb)
      (rrIndex : UInt64) (healthChecker : Option HealthChecker) (connectionCounts : List UInt64) :
      Built H upstream targets { lb with rrIndex, healthChecker, connectionCounts }

end LoadBalancer

/-- The sum of the weights that take part, as the source adds them. -/
def totalWeight (targets : List Target) : Int32 :=
  weightSum ((balancerTargets targets).map (·.weight))

variable {totalSlots : UInt64}

theorem buildHashRing_eq_ok {H : Hashing} {targets : List BalancerTarget} {ring : List HashRingNode}
    (hTargets : targets ≠ []) (hWeight : weightSum (targets.map (·.weight)) ≠ 0) :
    buildHashRing H targets totalSlots = .ok ring ↔ withCapacity 16 totalSlots = .ok () ∧
      ring = (ringNodes H targets totalSlots (weightSum (targets.map (·.weight)))).mergeSort
        fun a b => a.hash ≤ b.hash := by
  have hSome : targets.isEmpty = false := List.isEmpty_eq_false_iff.mpr hTargets
  simp only [buildHashRing, hSome, Bool.false_eq_true, if_false, hWeight]
  cases withCapacity 16 totalSlots with
  | error panic => simp [bind, Except.bind]
  | ok _ =>
    simp only [bind, Except.bind, pure, Except.pure, Except.ok.injEq, true_and]
    exact eq_comm

theorem buildHashRing_of_zero {H : Hashing} {targets : List BalancerTarget}
    (h : targets = [] ∨ weightSum (targets.map (·.weight)) = 0) :
    buildHashRing H targets totalSlots = .ok [] := by
  unfold buildHashRing
  rcases h with rfl | hZero
  · rfl
  · rw [if_pos hZero, ite_self]

theorem one_le_vnodes (target : BalancerTarget) (totalSlots : UInt64) (totalWeight : Int32) :
    1 ≤ vnodes target totalSlots totalWeight := le_max_right _ _

theorem mem_ringNodes (H : Hashing) {targets : List BalancerTarget} (totalSlots : UInt64)
    (weight : Int32) {i : Nat} (h : i < targets.length) :
    ∃ node ∈ ringNodes H targets totalSlots weight, node.targetIndex = i := by
  refine ⟨⟨H.computeHash (nodeKey targets[i] 0), i⟩, ?_, rfl⟩
  refine List.mem_flatMap.mpr ⟨(targets[i], i), ?_, ?_⟩
  · exact List.mem_zipIdx_iff_getElem?.mpr (List.getElem?_eq_getElem h)
  · exact List.mem_map.mpr ⟨0, List.mem_range.mpr (one_le_vnodes _ _ _), rfl⟩

theorem balancerTargets_pos {targets : List Target} {target : BalancerTarget}
    (h : target ∈ balancerTargets targets) : 0 < target.weight := by
  obtain ⟨given, hGiven, rfl⟩ := List.mem_map.mp h
  exact of_decide_eq_true (List.mem_filter.mp hGiven).2

namespace LoadBalancer

variable {H : Hashing} {upstream : Upstream} {targets : List Target} {lb : LoadBalancer}

theorem new_eq_ok (hAlgorithm : upstream.algorithm = .consistentHashing) :
    new H upstream targets = .ok lb ↔ ∃ ring,
      buildHashRing H (balancerTargets targets) (asUsize upstream.slots) = .ok ring ∧
      lb = ⟨balancerTargets targets, upstream.algorithm, 0, upstream.name, none, ring,
        (balancerTargets targets).map fun _ => 0⟩ := by
  simp only [new, hAlgorithm, if_true]
  cases buildHashRing H (balancerTargets targets) (asUsize upstream.slots) with
  | error panic => simp [bind, Except.bind]
  | ok ring =>
    simp only [bind, Except.bind, pure, Except.pure, Except.ok.injEq, exists_eq_left']
    exact eq_comm

theorem updateTargets_eq_ok {next : LoadBalancer} (hAlgorithm : lb.algorithm = .consistentHashing) :
    lb.updateTargets H targets = .ok next ↔ ∃ ring,
      buildHashRing H (balancerTargets targets) 10000 = .ok ring ∧
      next = { lb with
        targets := balancerTargets targets
        hashRing := ring
        connectionCounts := (balancerTargets targets).map fun _ => 0 } := by
  simp only [updateTargets, hAlgorithm, if_true]
  cases buildHashRing H (balancerTargets targets) 10000 with
  | error panic => simp [bind, Except.bind]
  | ok ring =>
    simp only [bind, Except.bind, pure, Except.pure, Except.ok.injEq, exists_eq_left']
    exact eq_comm

theorem Built.ring (hAlgorithm : upstream.algorithm = .consistentHashing)
    (h : Built H upstream targets lb) :
    lb.algorithm = .consistentHashing ∧ lb.targets = balancerTargets targets ∧
      ∃ totalSlots, buildHashRing H lb.targets totalSlots = .ok lb.hashRing := by
  induction h with
  | new hNew =>
    obtain ⟨ring, hRing, rfl⟩ := (new_eq_ok hAlgorithm).mp hNew
    exact ⟨hAlgorithm, rfl, _, hRing⟩
  | refreshed _ hUpdate ih =>
    obtain ⟨ring, hRing, rfl⟩ := (updateTargets_eq_ok ih.1).mp hUpdate
    exact ⟨ih.1, rfl, _, hRing⟩
  | used _ _ _ _ ih => exact ih

theorem Built.covers (hAlgorithm : upstream.algorithm = .consistentHashing)
    (h : Built H upstream targets lb)
    (hWeight : balancerTargets targets = [] ∨ totalWeight targets ≠ 0) : lb.Covers := by
  obtain ⟨_, hTargets, totalSlots, hRing⟩ := h.ring hAlgorithm
  intro i hI
  rw [hTargets] at hRing hI
  have hSome : balancerTargets targets ≠ [] := by
    intro hNone
    rw [hNone] at hI
    cases hI
  have hSum := hWeight.resolve_left hSome
  obtain ⟨_, hSorted⟩ := (buildHashRing_eq_ok hSome hSum).mp hRing
  obtain ⟨node, hNode, hIndex⟩ := mem_ringNodes H totalSlots
    (weightSum ((balancerTargets targets).map (·.weight))) hI
  refine ⟨node, ?_, hIndex⟩
  rw [hSorted]
  exact (List.mergeSort_perm _ _).mem_iff.mpr hNode

/-- Without a ring and with weights that add up to 0, all targets healthy means none selected. -/
theorem not_minimalDisruption (H : Hashing) (hTargets : lb.targets ≠ []) (hRing : lb.hashRing = [])
    (hPos : ∀ target ∈ lb.targets, 0 < target.weight)
    (hWeight : weightSum (lb.targets.map (·.weight)) = 0) : ¬ MinimalDisruption H lb := by
  intro hMinimal
  have hAll : List.finRange lb.targets.length ≠ [] := by
    rw [← List.length_pos_iff, List.length_finRange]
    exact List.length_pos_iff.mpr hTargets
  obtain ⟨i, _, hSelect, _⟩ := hMinimal none _ hAll
  have hNotOne : (List.finRange lb.targets.length).length ≠ 1 := by
    rw [List.length_finRange]
    intro hOne
    obtain ⟨target, hTarget⟩ := List.length_eq_one_iff.mp hOne
    have hSingle := hPos target (by rw [hTarget]; exact List.mem_singleton_self target)
    rw [hTarget, List.map_singleton, weightSum, List.foldl_cons, List.foldl_nil,
      Int32.zero_add] at hWeight
    rw [hWeight] at hSingle
    exact Int32.lt_irrefl hSingle
  have hWeights : ((List.finRange lb.targets.length).map fun i => lb.targets[i].weight) =
      lb.targets.map (·.weight) := by
    apply List.ext_getElem
    · simp
    · intro k _ _
      simp
  have hSome : (List.finRange lb.targets.length).isEmpty = false :=
    List.isEmpty_eq_false_iff.mpr hAll
  have hNone : lb.consistentHashSelect H none (List.finRange lb.targets.length) =
      .ok (none, lb.rrIndex) := by
    simp only [consistentHashSelect, hSome, hRing, List.isEmpty_nil, Bool.false_eq_true, if_false,
      if_true, weightedRoundRobin, hNotOne, hWeights, hWeight]
  rw [Selects, hNone] at hSelect
  cases hSelect

end LoadBalancer

/-! ## Searches -/

theorem countP_lt_of_sorted {keys : List UInt64} (hSorted : keys.Pairwise (· ≤ ·)) {key : UInt64}
    (hAbsent : key ∉ keys) :
    (∀ other ∈ keys.take (keys.countP (· < key)), other < key) ∧
      ∀ other ∈ keys.drop (keys.countP (· < key)), key < other := by
  induction keys with
  | nil => exact ⟨List.forall_mem_nil _, List.forall_mem_nil _⟩
  | cons first keys ih =>
    obtain ⟨hFirst, hRest⟩ := List.pairwise_cons.mp hSorted
    obtain ⟨hNe, hNotIn⟩ := not_or.mp fun h => hAbsent (List.mem_cons.mpr h)
    obtain ⟨hTake, hDrop⟩ := ih hRest hNotIn
    by_cases hLess : first < key
    · have hCount : (first :: keys).countP (· < key) = keys.countP (· < key) + 1 :=
        List.countP_cons_of_pos (decide_eq_true hLess)
      rw [hCount, List.take_succ_cons, List.drop_succ_cons]
      exact ⟨List.forall_mem_cons.mpr ⟨hLess, hTake⟩, hDrop⟩
    · have hGreater : ∀ other ∈ first :: keys, key < other := by
        have hKey : key < first := UInt64.lt_of_le_of_ne (UInt64.not_lt.mp hLess) hNe
        intro other hOther
        rcases List.mem_cons.mp hOther with rfl | hOther
        · exact hKey
        · exact UInt64.lt_of_lt_of_le hKey (hFirst other hOther)
      have hNone : (first :: keys).countP (· < key) = 0 := by
        rw [List.countP_eq_zero]
        intro other hOther
        simpa using UInt64.le_of_lt (hGreater other hOther)
      rw [hNone, List.take_zero, List.drop_zero]
      exact ⟨List.forall_mem_nil _, hGreater⟩

variable (choice : List UInt64 → Nat)

/-- A binary search may return any of the equal keys; this one has a choice for each list. -/
def BinarySearch.choosing (choice : List UInt64 → Nat) : BinarySearch where
  run keys key :=
    if keys[choice keys]? = some key then .ok (choice keys)
    else if key ∈ keys then .ok (keys.idxOf key)
    else .error (keys.countP (· < key))
  found := by
    intro keys key i _ h
    split at h
    · next hChoice =>
      cases h
      exact hChoice
    · split at h
      · next hIn =>
        cases h
        exact List.getElem?_idxOf hIn
      · cases h
  missing := by
    intro keys key i hSorted h
    split at h
    · cases h
    · split at h
      · cases h
      · next hAbsent =>
        cases h
        exact ⟨List.countP_le_length, countP_lt_of_sorted hSorted hAbsent⟩

def constantHashing (choice : List UInt64 → Nat) : Hashing :=
  ⟨fun _ => 0, BinarySearch.choosing choice⟩

namespace LoadBalancer

/-- In every balancer of these targets, a target that goes unhealthy moves only its own keys. -/
def KeepsKeys (H : Hashing) (upstream : Upstream) (targets : List Target) : Prop :=
  ∀ lb : LoadBalancer, Built H upstream targets lb → MinimalDisruption H lb

variable {H : Hashing} {upstream : Upstream} {targets : List Target}

theorem not_keepsKeys (hAlgorithm : upstream.algorithm = .consistentHashing)
    (hTargets : balancerTargets targets ≠ []) (hWeight : totalWeight targets = 0) :
    ¬ KeepsKeys H upstream targets := by
  intro hKeeps
  have hRing : buildHashRing H (balancerTargets targets) (asUsize upstream.slots) = .ok [] :=
    buildHashRing_of_zero (Or.inr hWeight)
  obtain ⟨lb, hNew, hLb⟩ : ∃ lb, new H upstream targets = .ok lb ∧
      lb.targets = balancerTargets targets ∧ lb.hashRing = [] :=
    ⟨_, (new_eq_ok hAlgorithm).mpr ⟨[], hRing, rfl⟩, rfl, rfl⟩
  apply not_minimalDisruption H ?_ ?_ ?_ ?_ (hKeeps lb (.new hNew))
  · rw [hLb.1]
    exact hTargets
  · exact hLb.2
  · rw [hLb.1]
    exact fun _ h => balancerTargets_pos h
  · rw [hLb.1]
    exact hWeight

theorem keepsKeys_iff (H : Hashing) (upstream : Upstream) (targets : List Target)
    (hAlgorithm : upstream.algorithm = .consistentHashing) :
    KeepsKeys H upstream targets ↔ balancerTargets targets = [] ∨ totalWeight targets ≠ 0 := by
  constructor
  · intro hKeeps
    by_contra hNot
    obtain ⟨hTargets, hWeight⟩ := not_or.mp hNot
    exact not_keepsKeys hAlgorithm hTargets (not_not.mp hWeight) hKeeps
  · intro hWeight lb hBuilt
    exact minimalDisruption_of_covers (hBuilt.covers hAlgorithm hWeight)

def sampleUpstream : Upstream := ⟨"backends", .consistentHashing, 100⟩

theorem keepsKeys_three : KeepsKeys (constantHashing fun _ => 0) sampleUpstream
    [⟨"10.0.0.1:80", 100⟩, ⟨"10.0.0.2:80", 0⟩, ⟨"10.0.0.3:80", 50⟩] :=
  (keepsKeys_iff _ sampleUpstream _ rfl).mpr (Or.inr (by decide))

/-- Three weights that add up to `2 ^ 32`. -/
def wrappingTargets : List Target :=
  [⟨"10.0.0.1:80", 2147483647⟩, ⟨"10.0.0.2:80", 2147483647⟩, ⟨"10.0.0.3:80", 2⟩]

theorem keepsKeys_wrapping :
    ¬ KeepsKeys (constantHashing fun _ => 0) sampleUpstream wrappingTargets :=
  not_keepsKeys rfl (by decide) (by decide)

end LoadBalancer

end KongRust.Proxy

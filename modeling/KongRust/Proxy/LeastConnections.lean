import KongRust.Proxy.Rotation

/-!
# Least connections

`least_connections_select`. The connections of a target go with its weight, but what is compared is
a quotient of integers: a hundred times the connections by the weight, rounded down. The targets
whose ratios fall into one quotient are not told apart, and the first of them is selected.
-/

namespace KongRust.Proxy

/-- A hundred times the connections, as a `usize`, by the weight. -/
def scaledLoad (connections : UInt64) (weight : Int32) : Nat :=
  connections.toNat * 100 % 2 ^ 64 / units weight

namespace LoadBalancer

variable (lb : LoadBalancer) (healthyIndices : List (Fin lb.targets.length))
  (i : Fin lb.targets.length)

def connections (i : Fin lb.targets.length) : UInt64 := lb.connectionCounts.getD i 0

/-- The connections of the first target by its weight are at most those of the other by its. -/
def LightOver (i j : Fin lb.targets.length) : Prop :=
  (lb.connections i).toNat * units (lb.targets.get j).weight ≤
    (lb.connections j).toNat * units (lb.targets.get i).weight

/-- A target of least ratio among the healthy ones. -/
def Lightest (i : Fin lb.targets.length) : Prop :=
  i ∈ healthyIndices ∧ ∀ j ∈ healthyIndices, lb.LightOver i j

/-- A target is compared before another one: its quotient is less, or the same and it is first. -/
def Precedes (i j : Fin lb.targets.length) : Prop :=
  scaledLoad (lb.connections i) (lb.targets.get i).weight <
      scaledLoad (lb.connections j) (lb.targets.get j).weight ∨
    scaledLoad (lb.connections i) (lb.targets.get i).weight =
        scaledLoad (lb.connections j) (lb.targets.get j).weight ∧
      healthyIndices.idxOf i < healthyIndices.idxOf j

variable {lb healthyIndices}

theorem effectiveConnections_toNat {i : Fin lb.targets.length} (h : 0 < (lb.targets.get i).weight) :
    (lb.effectiveConnections i).toNat = scaledLoad (lb.connections i) (lb.targets.get i).weight := by
  change 0 < lb.targets[i].weight at h
  rw [effectiveConnections, if_pos h, UInt64.toNat_div, UInt64.toNat_mul,
    asUsize_toNat (Int32.le_of_lt h)]
  rfl

theorem leastConnectionsSelect_eq_argmin : lb.leastConnectionsSelect healthyIndices =
    healthyIndices.argmin fun i => (lb.effectiveConnections i).toNat := by
  cases healthyIndices with
  | nil => rfl
  | cons first rest =>
    have hFold : ∀ i, some (rest.foldl (fun least i =>
        if lb.effectiveConnections i < least.1 then (lb.effectiveConnections i, i) else least)
          (lb.effectiveConnections i, i)).2 =
        rest.foldl (List.argAux fun i j =>
          (lb.effectiveConnections i).toNat < (lb.effectiveConnections j).toNat) (some i) := by
      induction rest with
      | nil => exact fun i => rfl
      | cons next rest ih =>
        intro i
        simp only [List.foldl_cons, List.argAux, UInt64.lt_iff_toNat_lt] at ih ⊢
        split
        · exact ih next
        · exact ih i
    have hFirst : (if lb.effectiveConnections first < UInt64.ofNat (2 ^ 64 - 1) then
        (lb.effectiveConnections first, first) else (UInt64.ofNat (2 ^ 64 - 1), first)) =
          (lb.effectiveConnections first, first) := by
      split
      · rfl
      · rename_i hMax
        have hLt := (lb.effectiveConnections first).toNat_lt
        rw [UInt64.lt_iff_toNat_lt, UInt64.toNat_ofNat'] at hMax
        have hSame : UInt64.ofNat (2 ^ 64 - 1) = lb.effectiveConnections first :=
          UInt64.toNat_inj.mp (by rw [UInt64.toNat_ofNat']; omega)
        rw [hSame]
    refine Eq.trans ?_ (hFold first)
    rw [leastConnectionsSelect, List.head?_cons, Option.map_some, List.foldl_cons, hFirst]

/-- The selected target is one of least ratio if and only if one of these is compared before every
target of greater ratio. -/
theorem least_connections_iff (hWeights : ∀ i, 0 < (lb.targets.get i).weight) :
    (∃ i, lb.leastConnectionsSelect healthyIndices = some i ∧ lb.Lightest healthyIndices i) ↔
      ∃ i, lb.Lightest healthyIndices i ∧ ∀ j ∈ healthyIndices,
        ¬ lb.Lightest healthyIndices j → lb.Precedes healthyIndices i j := by
  rw [leastConnectionsSelect_eq_argmin]
  simp only [List.argmin_eq_some_iff, effectiveConnections_toNat (hWeights _)]
  constructor
  · rintro ⟨i, ⟨-, hLeast, hFirst⟩, hLightest⟩
    refine ⟨i, hLightest, fun j hJ hHeavy => ?_⟩
    rcases (hLeast j hJ).lt_or_eq with hLt | hEq
    · exact .inl hLt
    · refine .inr ⟨hEq, lt_of_le_of_ne (hFirst j hJ hEq.ge) fun hSame => hHeavy ?_⟩
      rwa [← (List.idxOf_inj hLightest.1).mp hSame]
  · rintro ⟨i, hLightest, hPrecedes⟩
    obtain ⟨s, hSelected⟩ : ∃ s, s ∈ healthyIndices.argmin fun i =>
        scaledLoad (lb.connections i) (lb.targets.get i).weight := by
      refine Option.ne_none_iff_exists'.mp fun hNone => ?_
      rw [List.argmin_eq_none.mp hNone] at hLightest
      exact List.not_mem_nil hLightest.1
    obtain ⟨hS, hLeast, hFirst⟩ := List.mem_argmin_iff.mp hSelected
    refine ⟨s, ⟨hS, hLeast, hFirst⟩, ?_⟩
    by_contra hHeavy
    rcases hPrecedes s hS hHeavy with hLt | ⟨hEq, hBefore⟩
    · exact absurd (hLeast i hLightest.1) (not_le.mpr hLt)
    · exact absurd (hFirst i hLightest.1 hEq.le) (not_le.mpr hBefore)

/-- One connection on a weight of 300 and none on a weight of 1 both come to a quotient of 0. -/
def sampleConnections : LoadBalancer :=
  ⟨[⟨"10.0.0.1:80", 300⟩, ⟨"10.0.0.2:80", 1⟩], .leastConnections, 0, "up", none, [], [1, 0]⟩

theorem quotient_hides_connection :
    (∀ i : Fin sampleConnections.targets.length, 0 < sampleConnections.targets[i].weight) ∧
      ¬ ∃ i, sampleConnections.leastConnectionsSelect (List.finRange _) = some i ∧
        sampleConnections.Lightest (List.finRange _) i := by
  refine ⟨by decide, ?_⟩
  rintro ⟨i, hSelected, hLightest⟩
  cases hSelected
  exact absurd (hLightest.2 ⟨1, by decide⟩ (List.mem_finRange _)) (by unfold LightOver; decide)

/-- The same targets under loads that the quotient tells apart, 233 and 0. -/
def separatedConnections : LoadBalancer := { sampleConnections with connectionCounts := [700, 0] }

theorem least_connections_sample :
    ∃ i, separatedConnections.leastConnectionsSelect [⟨0, by decide⟩, ⟨1, by decide⟩] = some i ∧
      separatedConnections.Lightest [⟨0, by decide⟩, ⟨1, by decide⟩] i := by
  have hIdle : separatedConnections.Lightest [⟨0, by decide⟩, ⟨1, by decide⟩] ⟨1, by decide⟩ := by
    refine ⟨by decide, ?_⟩
    unfold LightOver
    decide
  refine (least_connections_iff (by decide)).mpr ⟨_, hIdle, fun j hJ hHeavy => ?_⟩
  rcases List.mem_pair.mp hJ with rfl | rfl
  · exact .inl (by decide)
  · exact absurd hIdle hHeavy

end LoadBalancer

end KongRust.Proxy

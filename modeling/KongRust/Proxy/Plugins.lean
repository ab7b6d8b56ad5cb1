import KongRust.Foundation.Latest
import KongRust.Proxy.Phases

/-!
# The plugins of a request

`resolve_plugins`: which of the configured plugins a route and a service run, one for each name.
-/

namespace KongRust.Proxy

open Latest

structure Plugin where
  id : Uuid
  name : String
  config : Json
  route : Option Uuid
  service : Option Uuid
  consumer : Option Uuid
  wsId : Option Uuid
  enabled : Bool

def scopeMatches (scope given : Option Uuid) : Bool :=
  match scope with
  | some id => given = some id
  | none => true

def pluginMatches (plugin : Plugin) (routeId serviceId consumerId : Option Uuid) : Bool :=
  scopeMatches plugin.route routeId && scopeMatches plugin.service serviceId &&
    scopeMatches plugin.consumer consumerId

/-- The order of the triples `(has_consumer, has_route, has_service)`. -/
def Plugin.specificity (plugin : Plugin) : Nat :=
  4 * plugin.consumer.isSome.toNat + 2 * plugin.route.isSome.toNat + plugin.service.isSome.toNat

structure PluginRegistry (W : Type) where
  handlers : AList fun _ : String => PluginHandler W

section Resolve

variable {W : Type} (registry : PluginRegistry W)

def PluginRegistry.get (registry : PluginRegistry W) (name : String) : Option (PluginHandler W) :=
  registry.handlers.lookup name

def Plugin.resolved (plugin : Plugin) (handler : PluginHandler W) : ResolvedPlugin W :=
  ⟨handler, ⟨plugin.name, plugin.config⟩, plugin.id, plugin.route, plugin.service,
    plugin.consumer⟩

/-- The turn of the loop for one candidate: the entry that it inserts, if any. -/
def resolveCandidate (routeId serviceId consumerId : Option Uuid) (plugin : Plugin) :
    Option (String × ResolvedPlugin W) :=
  if pluginMatches plugin routeId serviceId consumerId then
    (registry.get plugin.name).map fun handler => (plugin.name, plugin.resolved handler)
  else none

variable (plugins : List Plugin)

/-- `resolve_plugins`. The order of plugins with handlers of one priority, which a `HashMap` leaves
open, is that of their insertion here. -/
def resolvePlugins (plugins : List Plugin) (routeId serviceId consumerId : Option Uuid) :
    List (ResolvedPlugin W) :=
  let candidates := sortByKey Plugin.specificity (plugins.filter Plugin.enabled)
  let resolved :=
    collect (candidates.filterMap (resolveCandidate registry routeId serviceId consumerId))
  (resolved.entries.map Sigma.snd).mergeSort fun a b =>
    decide (b.handler.priority ≤ a.handler.priority)

def ofName (name : String) (chain : List (ResolvedPlugin W)) : Option (ResolvedPlugin W) :=
  chain.find? fun plugin => plugin.config.name = name

theorem resolveCandidate_name {routeId serviceId consumerId : Option Uuid} {plugin : Plugin}
    {entry : String × ResolvedPlugin W}
    (h : resolveCandidate registry routeId serviceId consumerId plugin = some entry) :
    entry.2.config.name = entry.1 := by
  unfold resolveCandidate at h
  split at h
  · obtain ⟨handler, -, rfl⟩ := Option.map_eq_some_iff.mp h
    rfl
  · cases h

variable {name : String} {handler : PluginHandler W}

/-- The entries of one name. -/
theorem filter_resolveCandidate (candidates : List Plugin)
    (routeId serviceId consumerId : Option Uuid) (hHandler : registry.get name = some handler) :
    (candidates.filterMap (resolveCandidate registry routeId serviceId consumerId)).filter
        (fun entry => entry.1 = name) =
      (candidates.filter fun plugin => pluginMatches plugin routeId serviceId consumerId &&
        decide (plugin.name = name)).map fun plugin => (plugin.name, plugin.resolved handler) := by
  induction candidates with
  | nil => rfl
  | cons plugin candidates ih =>
    by_cases hMatches : pluginMatches plugin routeId serviceId consumerId = true
    · by_cases hName : plugin.name = name
      · have hEntry : resolveCandidate registry routeId serviceId consumerId plugin =
            some (plugin.name, plugin.resolved handler) := by
          rw [resolveCandidate, if_pos hMatches, hName, hHandler]
          rfl
        rw [List.filterMap_cons_some hEntry, List.filter_cons_of_pos (by simpa using hName),
          List.filter_cons_of_pos (by simp [hMatches, hName]), List.map_cons, ih]
      · rw [List.filter_cons_of_neg (by simp [hName]), ← ih]
        cases hEntry : resolveCandidate registry routeId serviceId consumerId plugin with
        | none => rw [List.filterMap_cons_none hEntry]
        | some entry =>
          have hKey : entry.1 = plugin.name := by
            rw [resolveCandidate, if_pos hMatches] at hEntry
            obtain ⟨other, -, rfl⟩ := Option.map_eq_some_iff.mp hEntry
            rfl
          rw [List.filterMap_cons_some hEntry,
            List.filter_cons_of_neg (by simpa [hKey] using hName)]
    · have hEntry : resolveCandidate registry routeId serviceId consumerId plugin = none :=
        if_neg hMatches
      rw [List.filterMap_cons_none hEntry, List.filter_cons_of_neg (by simp [hMatches]), ih]

theorem ofName_entries {resolved : AList fun _ : String => ResolvedPlugin W}
    (hNames : ∀ key entry, resolved.lookup key = some entry → entry.config.name = key)
    {chain : List (ResolvedPlugin W)} (hChain : chain.Perm (resolved.entries.map Sigma.snd))
    (name : String) : ofName name chain = resolved.lookup name := by
  have hMem (entry : ResolvedPlugin W) :
      entry ∈ chain ↔ resolved.lookup entry.config.name = some entry := by
    rw [hChain.mem_iff, List.mem_map]
    constructor
    · rintro ⟨⟨key, other⟩, hEntry, rfl⟩
      have hLookup : resolved.lookup key = some other := AList.mem_lookup_iff.mpr hEntry
      rw [hNames key other hLookup]
      exact hLookup
    · intro hLookup
      exact ⟨⟨entry.config.name, entry⟩, AList.mem_lookup_iff.mp hLookup, rfl⟩
  unfold ofName
  cases hFind : chain.find? (fun plugin => plugin.config.name = name) with
  | none =>
    cases hLookup : resolved.lookup name with
    | none => rfl
    | some entry =>
      have hName := hNames name entry hLookup
      rw [List.find?_eq_none] at hFind
      rw [← hName] at hLookup
      exact absurd (decide_eq_true hName) (hFind entry ((hMem entry).mpr hLookup))
  | some entry =>
    have hFound := List.find?_some hFind
    have hName := of_decide_eq_true hFound
    have hLookup := (hMem entry).mp (List.mem_of_find?_eq_some hFind)
    rw [hName] at hLookup
    exact hLookup.symm

theorem ofName_resolvePlugins (routeId serviceId consumerId : Option Uuid)
    (hHandler : registry.get name = some handler) :
    ofName name (resolvePlugins registry plugins routeId serviceId consumerId) =
      (((sortByKey Plugin.specificity (plugins.filter Plugin.enabled)).filter fun plugin =>
        pluginMatches plugin routeId serviceId consumerId &&
          decide (plugin.name = name)).getLast?).map fun plugin => plugin.resolved handler := by
  unfold resolvePlugins
  dsimp only
  rw [ofName_entries ?_ (List.mergeSort_perm _ _) name, lookup_collect,
    filter_resolveCandidate registry _ _ _ _ hHandler, List.getLast?_map, Option.map_map]
  · rfl
  · intro key entry hLookup
    rw [lookup_collect] at hLookup
    obtain ⟨pair, hPair, rfl⟩ := Option.map_eq_some_iff.mp hLookup
    have hMem := List.mem_filter.mp (List.mem_of_getLast? hPair)
    obtain ⟨plugin, -, hEntry⟩ := List.mem_filterMap.mp hMem.1
    rw [resolveCandidate_name registry hEntry]
    exact of_decide_eq_true hMem.2

end Resolve

/-! ## By scope -/

variable (plugins : List Plugin)

/-- The last enabled plugin of a name that has this scope and no consumer. -/
def lastScoped (plugins : List Plugin) (name : String) (route service : Option Uuid) :
    Option Plugin :=
  (plugins.filter fun plugin => plugin.enabled && decide (plugin.name = name) &&
    decide (plugin.consumer = none) && decide (plugin.route = route) &&
      decide (plugin.service = service)).getLast?

variable {given : Option Uuid}

theorem scopeMatches_iff {scope : Option Uuid} :
    scopeMatches scope given = true ↔ scope = none ∨ scope.isSome ∧ scope = given := by
  cases scope with
  | none => simp [scopeMatches]
  | some id => simp [scopeMatches, eq_comm]

variable {plugin : Plugin} {routeId serviceId : Option Uuid}

theorem pluginMatches_iff {consumerId : Option Uuid} :
    pluginMatches plugin routeId serviceId consumerId = true ↔
      (plugin.route = none ∨ plugin.route.isSome ∧ plugin.route = routeId) ∧
      (plugin.service = none ∨ plugin.service.isSome ∧ plugin.service = serviceId) ∧
      (plugin.consumer = none ∨ plugin.consumer.isSome ∧ plugin.consumer = consumerId) := by
  unfold pluginMatches
  rw [Bool.and_eq_true, Bool.and_eq_true, scopeMatches_iff, scopeMatches_iff, scopeMatches_iff,
    and_assoc]

theorem scope_eq_of_isSome {a b : Option Uuid} (hA : a = none ∨ a.isSome ∧ a = given)
    (hB : b = none ∨ b.isSome ∧ b = given) (h : a.isSome.toNat = b.isSome.toNat) : a = b := by
  obtain rfl | ⟨hSomeA, hEqA⟩ := hA
  · obtain rfl | ⟨hSomeB, -⟩ := hB
    · rfl
    · rw [hSomeB] at h
      cases h
  · obtain rfl | ⟨-, hEqB⟩ := hB
    · rw [hSomeA] at h
      cases h
    · rw [hEqA, hEqB]

theorem match_rank_iff {route service : Option Uuid}
    (hRoute : route = none ∨ route.isSome ∧ route = routeId)
    (hService : service = none ∨ service.isSome ∧ service = serviceId) :
    pluginMatches plugin routeId serviceId none = true ∧
        plugin.specificity = 2 * route.isSome.toNat + service.isSome.toNat ↔
      plugin.consumer = none ∧ plugin.route = route ∧ plugin.service = service := by
  rw [pluginMatches_iff]
  unfold Plugin.specificity
  constructor
  · rintro ⟨⟨hR, hS, hC⟩, hRank⟩
    have hConsumer : plugin.consumer = none := hC.elim id And.right
    rw [hConsumer, Option.isSome_none, Bool.toNat_false] at hRank
    have := Bool.toNat_le plugin.service.isSome
    have := Bool.toNat_le service.isSome
    exact ⟨hConsumer, scope_eq_of_isSome hR hRoute (by omega),
      scope_eq_of_isSome hS hService (by omega)⟩
  · rintro ⟨hC, rfl, rfl⟩
    rw [hC]
    exact ⟨⟨hRoute, hService, .inl rfl⟩, by simp⟩

theorem lastScoped_eq (name : String) (route service : Option Uuid) (p : Plugin → Bool)
    (h : ∀ plugin : Plugin, p plugin = true ↔ plugin.name = name ∧ plugin.consumer = none ∧
      plugin.route = route ∧ plugin.service = service) :
    ((plugins.filter Plugin.enabled).filter p).getLast? = lastScoped plugins name route service := by
  unfold lastScoped
  rw [List.filter_filter]
  congr 1
  refine List.filter_congr fun plugin _ => ?_
  rw [Bool.eq_iff_iff]
  simp only [Bool.and_eq_true, decide_eq_true_eq, h]
  tauto

/-- Without a consumer, the plugin that runs is the last one of the most specific scope. -/
theorem last_match (name : String) (route : Uuid) (service : Option Uuid) :
    ((sortByKey Plugin.specificity (plugins.filter Plugin.enabled)).filter fun plugin =>
        pluginMatches plugin (some route) service none && decide (plugin.name = name)).getLast? =
      (service.bind fun id => lastScoped plugins name (some route) (some id)).or
        ((lastScoped plugins name (some route) none).or
          ((service.bind fun id => lastScoped plugins name none (some id)).or
            (lastScoped plugins name none none))) := by
  have hRank (plugin : Plugin)
      (hMatch : (pluginMatches plugin (some route) service none && decide (plugin.name = name)) =
        true) : plugin.specificity < 4 := by
    rw [Bool.and_eq_true, pluginMatches_iff] at hMatch
    have hConsumer : plugin.consumer = none := hMatch.1.2.2.elim id And.right
    have := Bool.toNat_le plugin.route.isSome
    have := Bool.toNat_le plugin.service.isSome
    rw [Plugin.specificity, hConsumer, Option.isSome_none, Bool.toNat_false]
    omega
  have hFour (f : Nat → Option Plugin) : (List.range 4).reverse.findSome? f =
      (f 3).or ((f 2).or ((f 1).or (f 0))) := by
    have hRange : (List.range 4).reverse = [3, 2, 1, 0] := rfl
    rw [hRange]
    simp only [List.findSome?_cons, List.findSome?_nil]
    cases f 3 <;> cases f 2 <;> cases f 1 <;> cases f 0 <;> rfl
  rw [getLast?_sortByKey _ _ _ 4 fun plugin _ => hRank plugin, hFour]
  have hBucket (k : Nat) (r s : Option Uuid) (hR : r = none ∨ r.isSome ∧ r = some route)
      (hS : s = none ∨ s.isSome ∧ s = service)
      (hK : k = 2 * r.isSome.toNat + s.isSome.toNat) :
      ((plugins.filter Plugin.enabled).filter fun plugin =>
        (pluginMatches plugin (some route) service none && decide (plugin.name = name)) &&
          decide (plugin.specificity = k)).getLast? = lastScoped plugins name r s := by
    refine lastScoped_eq plugins name r s _ fun plugin => ?_
    rw [hK, Bool.and_eq_true, Bool.and_eq_true, decide_eq_true_eq, decide_eq_true_eq,
      ← match_rank_iff hR hS]
    tauto
  have hRoute := hBucket 2 (some route) none (.inr ⟨rfl, rfl⟩) (.inl rfl) rfl
  have hGlobal := hBucket 0 none none (.inl rfl) (.inl rfl) rfl
  have hNone (k : Nat) (r : Option Uuid) (hR : r = none ∨ r.isSome ∧ r = some route)
      (hK : k = 2 * r.isSome.toNat + 1) (hService : service = none) :
      ((plugins.filter Plugin.enabled).filter fun plugin =>
        (pluginMatches plugin (some route) service none && decide (plugin.name = name)) &&
          decide (plugin.specificity = k)).getLast? = none := by
    rw [List.getLast?_eq_none_iff, List.filter_eq_nil_iff]
    intro plugin _ hMatch
    rw [Bool.and_eq_true, Bool.and_eq_true, pluginMatches_iff] at hMatch
    obtain ⟨⟨⟨-, hS, hC⟩, -⟩, hRank⟩ := hMatch
    have hPlugin : plugin.service = none := hS.elim id fun h => h.2.trans hService
    have hConsumer : plugin.consumer = none := hC.elim id And.right
    have hEven := of_decide_eq_true hRank
    rw [Plugin.specificity, hConsumer, hPlugin, Option.isSome_none, Bool.toNat_false, hK] at hEven
    omega
  rw [hRoute, hGlobal]
  cases service with
  | none =>
    rw [hNone 3 (some route) (.inr ⟨rfl, rfl⟩) rfl rfl, hNone 1 none (.inl rfl) rfl rfl]
    rfl
  | some id =>
    rw [hBucket 3 (some route) (some id) (.inr ⟨rfl, rfl⟩) (.inr ⟨rfl, rfl⟩) rfl,
      hBucket 1 none (some id) (.inl rfl) (.inr ⟨rfl, rfl⟩) rfl]
    rfl

end KongRust.Proxy

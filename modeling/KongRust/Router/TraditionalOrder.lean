import KongRust.Foundation.Ranking
import KongRust.Router.Traditional

/-!
# The order of the traditional router

`findRouteUncached` scans categories of positions. `scanOrder` is the list of routes in the
order of that scan; it holds every HTTP route once, and it is sorted by falling
`precedence`. So the lookup answers with a matching route of the highest precedence, and
with nothing exactly when no route matches.
-/

namespace KongRust.Router.Traditional

open TraditionalRouter

/-! ## Precedence -/

abbrev SubPrecedence := Nat ×ₗ Nat ×ₗ Int ×ₗ Nat ×ₗ Int

abbrev Precedence := Nat ×ₗ Nat ×ₗ SubPrecedence

/-- The regex priority counts among routes with a regular-expression path only. -/
def regexRank {ρ : Type} (route : ProcessedRoute ρ) : Int :=
  if route.submatchWeight &&& SUB_HAS_REGEX_URI ≠ 0 then route.regexPriority else 0

def subPrecedence {ρ : Type} (route : ProcessedRoute ρ) : SubPrecedence :=
  toLex (route.submatchWeight, toLex (route.headerCount, toLex (regexRank route,
    toLex (route.maxUriLength, -route.createdAt))))

/-- Match weight, match rules, submatch weight, header count, regex priority, longest
prefix path, and age: the larger, the earlier a route is tried. -/
def precedence {ρ : Type} (route : ProcessedRoute ρ) : Precedence :=
  toLex (route.matchWeight, toLex (route.matchRules, subPrecedence route))

theorem sortRoutes_ne_gt_iff {ρ : Type} (a b : ProcessedRoute ρ) :
    sortRoutes a b ≠ .gt ↔ subPrecedence b ≤ subPrecedence a := by
  have hRegex : b.submatchWeight = a.submatchWeight → (if a.submatchWeight &&& SUB_HAS_REGEX_URI ≠ 0
        then compare b.regexPriority a.regexPriority else .eq) =
        compare (regexRank b) (regexRank a) := by
    intro hSub
    simp only [regexRank, hSub]
    split
    · rfl
    · simp
  have hAge : -b.createdAt ≤ -a.createdAt ↔ a.createdAt ≤ b.createdAt := by omega
  simp only [sortRoutes, subPrecedence, Ranking.then_ne_gt_iff, Prod.Lex.toLex_le_toLex, hAge]
  refine or_congr Iff.rfl (and_congr_right fun hSub => ?_)
  refine or_congr Iff.rfl (and_congr_right fun _ => ?_)
  rw [hRegex hSub, Ranking.then_ne_gt_iff, Ranking.then_ne_gt_iff, compare_le_iff_le]

theorem matchWeight_eq_of_matchRules_eq (S : TextServices) {a b : Route}
    (h : (processRoute S a).matchRules = (processRoute S b).matchRules) :
    (processRoute S a).matchWeight = (processRoute S b).matchWeight := by
  simp only [processRoute, ruleBit, weight] at h ⊢
  revert h
  generalize (configured a.hosts).isEmpty = a₁
  generalize (configured a.paths).isEmpty = a₂
  generalize (configured a.methods).isEmpty = a₃
  generalize (a.headers.getD ∅).entries.isEmpty = a₄
  generalize (configured a.snis).isEmpty = a₅
  generalize (configured b.hosts).isEmpty = b₁
  generalize (configured b.paths).isEmpty = b₂
  generalize (configured b.methods).isEmpty = b₃
  generalize (b.headers.getD ∅).entries.isEmpty = b₄
  generalize (configured b.snis).isEmpty = b₅
  revert a₁ a₂ a₃ a₄ a₅ b₁ b₂ b₃ b₄ b₅
  decide

/-! ## The scan -/

/-- The routes in the order in which `findRouteUncached` tries them. -/
def scanOrder {ρ : Type} (router : TraditionalRouter ρ) : List (ProcessedRoute ρ) :=
  router.categories.flatMap fun category => category.routes.filterMap (router.routes[·]?)

theorem findRouteUncached_eq (S : TextServices) (router : TraditionalRouter S.Regex)
    (ctx : RequestContext) (reqHost reqHostNoPort : String) :
    findRouteUncached S router ctx reqHost reqHostNoPort =
      ((scanOrder router).find? fun route => matchRoute S route ctx reqHost reqHostNoPort).map
        fun route => routeMatchOf S route ctx := by
  rw [← Ranking.findSome?_ite, scanOrder, ← Ranking.findSome?_flatMap]
  simp only [← Ranking.findSome?_filterMap]
  rw [findRouteUncached]
  congr 1
  funext category
  congr 1
  funext index
  cases router.routes[index]? <;> rfl

def processed (S : TextServices) (routes : List Route) : List (ProcessedRoute S.Regex) :=
  (routes.filter Route.isHttpRoute).map (processRoute S)

variable {S : TextServices} {routes : List Route} {ctx : RequestContext} {m : RouteMatch}

variable {route : ProcessedRoute S.Regex} {category : Category}

theorem mem_routes_new : route ∈ (new S routes).routes ↔ route ∈ processed S routes :=
  List.mem_insertionSort _

theorem pairwise_routes_new (S : TextServices) (routes : List Route) :
    (new S routes).routes.Pairwise fun a b => subPrecedence b ≤ subPrecedence a :=
  Ranking.pairwise_insertionSort_rank _ sortRoutes_ne_gt_iff _

theorem filterMap_valuesOf {ρ : Type} (routes : List (ProcessedRoute ρ)) (rules : Nat) :
    (Grouping.valuesOf (routes.zipIdx.map fun entry => (entry.1.matchRules, entry.2))
      rules).filterMap (routes[·]?) = routes.filter fun route => route.matchRules = rules := by
  have hEntry : ∀ entry ∈ routes.zipIdx.filter (fun entry => entry.1.matchRules = rules),
      routes[entry.2]? = some entry.1 := by
    intro entry hMem
    exact List.mem_zipIdx_iff_getElem?.mp (List.mem_filter.mp hMem).1
  calc _ = (routes.zipIdx.filter fun entry => entry.1.matchRules = rules).filterMap
        fun entry => routes[entry.2]? := by
        simp [Grouping.valuesOf, List.filter_map, List.filterMap_map, Function.comp_def]
    _ = (routes.zipIdx.filter fun entry => entry.1.matchRules = rules).map Prod.fst := by
        rw [← List.filterMap_eq_map]
        exact List.filterMap_congr hEntry
    _ = routes.filter fun route => route.matchRules = rules := by
        conv_rhs => rw [← List.zipIdx_map_fst 0 routes, List.filter_map]
        rfl

theorem mem_valuesOf {ρ : Type} {routes : List (ProcessedRoute ρ)} {rules index : Nat} :
    index ∈ Grouping.valuesOf (routes.zipIdx.map fun entry => (entry.1.matchRules, entry.2))
      rules ↔ ∃ route, routes[index]? = some route ∧ route.matchRules = rules := by
  simp only [Grouping.valuesOf, List.filter_map, List.map_map, List.mem_map, List.mem_filter,
    List.mem_zipIdx_iff_getElem?, Prod.exists, Function.comp_apply, decide_eq_true_eq]
  constructor
  · rintro ⟨route, i, ⟨hAt, hRules⟩, rfl⟩
    exact ⟨route, hAt, hRules⟩
  · rintro ⟨route, hAt, hRules⟩
    exact ⟨route, index, ⟨hAt, hRules⟩, rfl⟩

theorem categoryOf_of_mem {ρ : Type} {routes : List (ProcessedRoute ρ)} {entry : Nat × List Nat}
    (hEntry : entry ∈ categoryMap routes) :
    ∃ route ∈ routes, (categoryOf routes entry).matchRules = route.matchRules ∧
      (categoryOf routes entry).matchWeight = route.matchWeight ∧
      (categoryOf routes entry).routes.filterMap (routes[·]?) =
        routes.filter fun other => other.matchRules = route.matchRules := by
  obtain ⟨rules, positions⟩ := entry
  obtain ⟨hRules, rfl⟩ := Grouping.mem_group_iff.mp hEntry
  obtain ⟨pair, hPair, rfl⟩ := List.mem_map.mp hRules
  have hScan := filterMap_valuesOf routes pair.1
  have hFirst : pair.2 ∈ Grouping.valuesOf
      (routes.zipIdx.map fun entry => (entry.1.matchRules, entry.2)) pair.1 :=
    List.mem_map.mpr ⟨pair, List.mem_filter.mpr ⟨hPair, by simp⟩, rfl⟩
  -- the first position of the category gives its weight
  obtain ⟨head, tail, hList⟩ := List.exists_cons_of_ne_nil (List.ne_nil_of_mem hFirst)
  obtain ⟨route, hAt, hRoute⟩ := mem_valuesOf.mp (hList ▸ List.mem_cons_self : head ∈ _)
  refine ⟨route, List.mem_of_getElem? hAt, hRoute.symm, ?_, hRoute ▸ hScan⟩
  simp only [categoryOf, hList, List.head?_cons, Option.bind_some, hAt, Option.map_some,
    Option.getD_some]

theorem exists_of_mem_categories (hMem : category ∈ (new S routes).categories) :
    ∃ route ∈ (new S routes).routes,
      category.matchRules = route.matchRules ∧ category.matchWeight = route.matchWeight ∧
      category.routes.filterMap ((new S routes).routes[·]?) = (new S routes).routes.filter
          fun other => other.matchRules = route.matchRules := by
  obtain ⟨entry, hEntry, rfl⟩ := List.mem_map.mp ((List.mem_insertionSort _).mp hMem)
  exact categoryOf_of_mem hEntry

theorem exists_category (hMem : route ∈ (new S routes).routes) :
    ∃ category ∈ (new S routes).categories,
      category.matchRules = route.matchRules := by
  obtain ⟨index, hAt⟩ := List.mem_iff_getElem?.mp hMem
  have hPair : (route, index) ∈ (new S routes).routes.zipIdx := List.mem_zipIdx_iff_getElem?.mpr hAt
  have hKey : route.matchRules ∈ (categoryMap (new S routes).routes).map
      Prod.fst := by
    rw [categoryMap, Grouping.mem_keys_group, List.map_map]
    exact List.mem_map.mpr ⟨_, hPair, rfl⟩
  obtain ⟨entry, hEntry, hRules⟩ := List.mem_map.mp hKey
  exact ⟨_, (List.mem_insertionSort _).mpr (List.mem_map.mpr ⟨entry, hEntry, rfl⟩), hRules⟩

theorem mem_scanOrder_new : route ∈ scanOrder (new S routes) ↔ route ∈ processed S routes := by
  rw [← mem_routes_new, scanOrder, List.mem_flatMap]
  constructor
  · rintro ⟨category, hCategory, hMem⟩
    obtain ⟨_, _, _, _, hScan⟩ := exists_of_mem_categories hCategory
    rw [hScan] at hMem
    exact (List.mem_filter.mp hMem).1
  · intro hMem
    obtain ⟨category, hCategory, hRules⟩ := exists_category hMem
    obtain ⟨other, _, hOther, _, hScan⟩ := exists_of_mem_categories hCategory
    refine ⟨category, hCategory, ?_⟩
    rw [hScan]
    exact List.mem_filter.mpr ⟨hMem, by simp [← hRules, hOther]⟩

/-! ## The scan falls in precedence -/

def categoryRank (category : Category) : Nat ×ₗ Nat :=
  toLex (category.matchWeight, category.matchRules)

theorem sortCategories_ne_gt_iff (a b : Category) :
    sortCategories a b ≠ .gt ↔ categoryRank b ≤ categoryRank a := by
  rw [sortCategories, Ranking.then_ne_gt_iff, compare_le_iff_le, categoryRank, categoryRank,
    Prod.Lex.toLex_le_toLex]

theorem matchWeight_eq_of_mem
    {a b : ProcessedRoute S.Regex} (ha : a ∈ processed S routes) (hb : b ∈ processed S routes)
    (h : a.matchRules = b.matchRules) : a.matchWeight = b.matchWeight := by
  obtain ⟨_, _, rfl⟩ := List.mem_map.mp ha
  obtain ⟨_, _, rfl⟩ := List.mem_map.mp hb
  exact matchWeight_eq_of_matchRules_eq S h

theorem pairwise_categories_new (S : TextServices) (routes : List Route) :
    (new S routes).categories.Pairwise
      fun a b => categoryRank b < categoryRank a := by
  have hFalling := Ranking.pairwise_insertionSort_rank _ sortCategories_ne_gt_iff
    ((categoryMap (new S routes).routes).map (categoryOf (new S routes).routes))
  have hDistinct : ((new S routes).categories.map Category.matchRules).Nodup := by
    have hPerm := (List.perm_insertionSort (fun a b => sortCategories a b ≠ .gt)
      ((categoryMap (new S routes).routes).map
        (categoryOf (new S routes).routes))).map Category.matchRules
    refine hPerm.nodup_iff.mpr ?_
    rw [List.map_map]
    exact Grouping.nodup_group _
  refine (hFalling.and (List.pairwise_map.mp hDistinct)).imp ?_
  rintro a b ⟨hLe, hNe⟩
  refine lt_of_le_of_ne hLe fun hEq => hNe ?_
  exact (congrArg (fun rank => (ofLex rank).2) hEq).symm

theorem categoryRank_eq {representative : ProcessedRoute S.Regex}
    (hRep : representative ∈ (new S routes).routes)
    (hRules : category.matchRules = representative.matchRules)
    (hWeight : category.matchWeight = representative.matchWeight)
    (hMem : route ∈ (new S routes).routes.filter
      fun other => other.matchRules = representative.matchRules) :
    categoryRank category = toLex (route.matchWeight, route.matchRules) := by
  obtain ⟨hRoute, hSame⟩ := List.mem_filter.mp hMem
  have hSame : route.matchRules = representative.matchRules := of_decide_eq_true hSame
  rw [categoryRank, hRules, hWeight, hSame,
    matchWeight_eq_of_mem (mem_routes_new.mp hRoute) (mem_routes_new.mp hRep) hSame]

theorem precedence_le_of_rank_lt {ρ : Type} {a b : ProcessedRoute ρ}
    (h : (toLex (b.matchWeight, b.matchRules) : Nat ×ₗ Nat) <
      toLex (a.matchWeight, a.matchRules)) : precedence b ≤ precedence a := by
  simp only [precedence, Prod.Lex.toLex_le_toLex]
  rcases Prod.Lex.toLex_lt_toLex.mp h with hWeight | ⟨hWeight, hRules⟩
  · exact Or.inl hWeight
  · exact Or.inr ⟨hWeight, Or.inl hRules⟩

theorem pairwise_scanOrder_new (S : TextServices) (routes : List Route) :
    (scanOrder (new S routes)).Pairwise
      fun a b => precedence b ≤ precedence a := by
  rw [scanOrder, List.pairwise_flatMap]
  constructor
  · intro category hCategory
    obtain ⟨route, _, _, _, hScan⟩ := exists_of_mem_categories hCategory
    rw [hScan]
    refine ((pairwise_routes_new S routes).filter _).imp_of_mem ?_
    intro a b ha hb hSub
    obtain ⟨ha, haRules⟩ := List.mem_filter.mp ha
    obtain ⟨hb, hbRules⟩ := List.mem_filter.mp hb
    have hRules : b.matchRules = a.matchRules := by
      rw [of_decide_eq_true haRules, of_decide_eq_true hbRules]
    have hWeight := matchWeight_eq_of_mem (mem_routes_new.mp hb) (mem_routes_new.mp ha) hRules
    simp only [precedence, Prod.Lex.toLex_le_toLex, hRules, hWeight, hSub, and_self, or_true]
  · refine (pairwise_categories_new S routes).imp_of_mem ?_
    intro c d hc hd hRank a ha b hb
    obtain ⟨x, hx, hxRules, hxWeight, hxScan⟩ := exists_of_mem_categories hc
    obtain ⟨y, hy, hyRules, hyWeight, hyScan⟩ := exists_of_mem_categories hd
    rw [categoryRank_eq hx hxRules hxWeight (hxScan ▸ ha),
      categoryRank_eq hy hyRules hyWeight (hyScan ▸ hb)] at hRank
    exact precedence_le_of_rank_lt hRank

/-! ## What the lookup returns -/

def Matches (S : TextServices) (ctx : RequestContext) (route : Route) : Prop :=
  route.isHttpRoute ∧
    matchRoute S (processRoute S route) ctx (hostLower S ctx) (hostNoPort S ctx)

/-- The answer of `m` is that of a matching route of the highest precedence. -/
def BestMatch (S : TextServices) (routes : List Route) (ctx : RequestContext) (m : RouteMatch) :
    Prop :=
  ∃ route ∈ routes, Matches S ctx route ∧ m = routeMatchOf S (processRoute S route) ctx ∧
    ∀ other ∈ routes, Matches S ctx other →
      precedence (processRoute S other) ≤ precedence (processRoute S route)

/-- No two HTTP routes of the configuration have the same precedence. -/
def NoTies (S : TextServices) (routes : List Route) : Prop :=
  (routes.filter Route.isHttpRoute).Pairwise
    fun a b => precedence (processRoute S a) ≠ precedence (processRoute S b)

theorem mem_processed {p : ProcessedRoute S.Regex} :
    p ∈ processed S routes ↔ ∃ route ∈ routes, route.isHttpRoute ∧ processRoute S route = p := by
  simp only [processed, List.mem_map, List.mem_filter, and_assoc]

theorem bestMatch_of_uncached (h : uncached S (new S routes) ctx = some m) :
    BestMatch S routes ctx m := by
  rw [uncached, findRouteUncached_eq, Option.map_eq_some_iff] at h
  obtain ⟨found, hFind, rfl⟩ := h
  obtain ⟨route, hRoute, hHttp, rfl⟩ :=
    mem_processed.mp (mem_scanOrder_new.mp (List.mem_of_find?_eq_some hFind))
  have hMatch := List.find?_some hFind
  refine ⟨route, hRoute, ⟨hHttp, hMatch⟩, rfl, ?_⟩
  rintro other hOther ⟨hOtherHttp, hOtherMatch⟩
  have hMem : processRoute S other ∈ scanOrder (new S routes) :=
    mem_scanOrder_new.mpr (mem_processed.mpr ⟨other, hOther, hOtherHttp, rfl⟩)
  exact Ranking.rank_le_of_find?_eq_some (pairwise_scanOrder_new S routes) hFind _ hMem hOtherMatch

theorem uncached_eq_none_iff : uncached S (new S routes) ctx = none ↔
      ∀ route ∈ routes, ¬ Matches S ctx route := by
  rw [uncached, findRouteUncached_eq, Option.map_eq_none_iff, List.find?_eq_none]
  constructor
  · rintro h route hRoute ⟨hHttp, hMatch⟩
    exact h _ (mem_scanOrder_new.mpr (mem_processed.mpr ⟨route, hRoute, hHttp, rfl⟩)) hMatch
  · intro h p hp hMatch
    obtain ⟨route, hRoute, hHttp, rfl⟩ := mem_processed.mp (mem_scanOrder_new.mp hp)
    exact h route hRoute ⟨hHttp, hMatch⟩

theorem bestMatch_unique (hTies : NoTies S routes) {m' : RouteMatch} (h : BestMatch S routes ctx m)
    (h' : BestMatch S routes ctx m') : m = m' := by
  obtain ⟨route, hRoute, hMatch, rfl, hBest⟩ := h
  obtain ⟨other, hOther, hMatch', rfl, hBest'⟩ := h'
  have hSame : precedence (processRoute S route) = precedence (processRoute S other) :=
    le_antisymm (hBest' route hRoute hMatch) (hBest other hOther hMatch')
  by_cases hEq : route = other
  · rw [hEq]
  · have hSymm : Std.Symm fun a b : Route =>
        precedence (processRoute S a) ≠ precedence (processRoute S b) := ⟨fun _ _ h => h.symm⟩
    have hRoute : route ∈ routes.filter Route.isHttpRoute := List.mem_filter.mpr ⟨hRoute, hMatch.1⟩
    have hOther : other ∈ routes.filter Route.isHttpRoute := List.mem_filter.mpr ⟨hOther, hMatch'.1⟩
    exact absurd hSame (List.Pairwise.forall hTies hRoute hOther hEq)

theorem bestMatch_perm {routes' : List Route} (hPerm : routes'.Perm routes)
    (h : BestMatch S routes' ctx m) : BestMatch S routes ctx m := by
  obtain ⟨route, hRoute, hMatch, rfl, hBest⟩ := h
  exact ⟨route, hPerm.mem_iff.mp hRoute, hMatch, rfl,
    fun other hOther => hBest other (hPerm.mem_iff.mpr hOther)⟩

/-- **The order of the lookup.** The uncached lookup answers with a matching route of the
highest precedence and with nothing exactly when no route matches; when no two HTTP routes
tie, the answer does not depend on the order in which the routes are given. -/
theorem uncached_new_correct (S : TextServices) (routes : List Route) (ctx : RequestContext) :
    (∀ m, uncached S (TraditionalRouter.new S routes) ctx = some m → BestMatch S routes ctx m) ∧
    (uncached S (TraditionalRouter.new S routes) ctx = none ↔
      ∀ route ∈ routes, ¬ Matches S ctx route) ∧
    (NoTies S routes → ∀ routes' : List Route, routes'.Perm routes →
      uncached S (TraditionalRouter.new S routes') ctx =
        uncached S (TraditionalRouter.new S routes) ctx) := by
  refine ⟨fun m => bestMatch_of_uncached, uncached_eq_none_iff, ?_⟩
  intro hTies routes' hPerm
  cases hLeft : uncached S (new S routes') ctx with
  | none =>
    refine (uncached_eq_none_iff.mpr fun route hRoute => ?_).symm
    exact uncached_eq_none_iff.mp hLeft route (hPerm.mem_iff.mpr hRoute)
  | some m' =>
    cases hRight : uncached S (new S routes) ctx with
    | none =>
      obtain ⟨route, hRoute, hMatch, _⟩ := bestMatch_perm hPerm (bestMatch_of_uncached hLeft)
      exact absurd hMatch (uncached_eq_none_iff.mp hRight route hRoute)
    | some m =>
      rw [bestMatch_unique hTies (bestMatch_perm hPerm (bestMatch_of_uncached hLeft))
        (bestMatch_of_uncached hRight)]

/-- Two prefix routes, listed shortest first: the longer prefix is served either way. -/
theorem uncached_new_correct_prefixes :
    let short : Route := { Route.default 1 with paths := some ["/"] }
    let long : Route := { Route.default 2 with paths := some ["/api"] }
    let ctx := RequestContext.plain "GET" "http" "example.com" "/api/users"
    NoTies .ascii [short, long] ∧ uncached .ascii (new .ascii [long, short]) ctx =
        uncached .ascii (new .ascii [short, long]) ctx ∧
      (uncached .ascii (new .ascii [short, long]) ctx).map
        RouteMatch.routeId = some 2 := by
  intro short long ctx
  have hTies : NoTies .ascii [short, long] := by
    unfold NoTies
    decide
  refine ⟨hTies, ?_, by decide⟩
  exact (uncached_new_correct .ascii [short, long] ctx).2.2 hTies _ (List.Perm.swap _ _ _)

end KongRust.Router.Traditional

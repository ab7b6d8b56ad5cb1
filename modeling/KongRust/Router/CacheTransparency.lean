import KongRust.Foundation.Fallible
import KongRust.Router.Expressions
import KongRust.Router.TraditionalOrder

/-!
# When the route caches are transparent

Both routers memoise their lookup under a key that leaves out parts of the request. A cached
router answers like the plain lookup exactly when no route tells apart two requests of the
sequence that share a key.
-/

namespace KongRust.Router

/-! ## The traditional router -/

namespace Traditional

theorem findRoute_eq_lookup (S : TextServices) (router : TraditionalRouter S.Regex) :
    findRoute S router = Memo.lookup (cacheKey S) (uncached S router) := by
  funext cached ctx
  cases cached <;> rfl

/-- Whatever the cache keeps, a router built from these routes answers the requests as its
uncached lookup does. -/
def CacheTransparent (S : TextServices) (routes : List Route) (requests : List RequestContext) :
    Prop :=
  Memo.Transparent (cacheKey S) (findRoute S (TraditionalRouter.new S routes))
    (uncached S (TraditionalRouter.new S routes)) requests

/-- `match_route` on the host of the request. -/
def accepts (S : TextServices) (route : Route) (ctx : RequestContext) : Bool :=
  matchRoute S (processRoute S route) ctx (hostLower S ctx) (hostNoPort S ctx)

/-- A route treats two requests alike: it accepts both or neither, and if it accepts them,
with the same matched path and captures. -/
def Alike (S : TextServices) (route : Route) (ctx ctx' : RequestContext) : Prop :=
  accepts S route ctx = accepts S route ctx' ∧
    (accepts S route ctx → findMatchedPathAndCaptures S (processRoute S route) ctx.uri =
      findMatchedPathAndCaptures S (processRoute S route) ctx'.uri)

/-- No HTTP route tells apart two requests of the sequence that share a cache key. -/
def KeysSeparate (S : TextServices) (routes : List Route) (requests : List RequestContext) :
    Prop :=
  requests.Pairwise fun ctx ctx' => cacheKey S ctx = cacheKey S ctx' →
    ∀ route ∈ routes, route.isHttpRoute → Alike S route ctx ctx'

open TraditionalRouter

variable {S : TextServices} {ctx ctx' : RequestContext}

theorem uncached_eq_of_alike {routes : List Route}
    (h : ∀ route ∈ routes, route.isHttpRoute → Alike S route ctx ctx') :
    uncached S (new S routes) ctx =
      uncached S (new S routes) ctx' := by
  simp only [uncached, findRouteUncached_eq]
  have hScan : ∀ p ∈ scanOrder (new S routes),
      ∃ route ∈ routes, route.isHttpRoute ∧ processRoute S route = p :=
    fun p hp => mem_processed.mp (mem_scanOrder_new.mp hp)
  generalize scanOrder (new S routes) = scan at hScan
  induction scan with
  | nil => rfl
  | cons p scan ih =>
    obtain ⟨route, hRoute, hHttp, rfl⟩ := hScan p List.mem_cons_self
    obtain ⟨hSame, hPath⟩ := h route hRoute hHttp
    have ih := ih fun q hq => hScan q (List.mem_cons_of_mem _ hq)
    simp only [List.find?_cons]
    rw [show matchRoute S (processRoute S route) ctx (hostLower S ctx) (hostNoPort S ctx) =
      accepts S route ctx from rfl, show matchRoute S (processRoute S route) ctx'
      (hostLower S ctx') (hostNoPort S ctx') = accepts S route ctx' from rfl, ← hSame]
    cases hAccepts : accepts S route ctx with
    | false => exact ih
    | true => simp only [Option.map_some, routeMatchOf, hPath hAccepts]

variable {route : Route}

theorem uncached_singleton (hHttp : route.isHttpRoute) (ctx : RequestContext) :
    uncached S (new S [route]) ctx =
      if accepts S route ctx then some (routeMatchOf S (processRoute S route) ctx) else none := by
  have hMatches : Matches S ctx route ↔ accepts S route ctx := by simp [Matches, hHttp, accepts]
  cases hFound : uncached S (new S [route]) ctx with
  | none =>
    have hNot := uncached_eq_none_iff.mp hFound route (List.mem_singleton.mpr rfl)
    rw [if_neg fun hAccepts => hNot (hMatches.mpr hAccepts)]
  | some m =>
    obtain ⟨best, hBest, hMatch, rfl, _⟩ := bestMatch_of_uncached hFound
    obtain rfl := List.mem_singleton.mp hBest
    rw [if_pos (hMatches.mp hMatch)]

theorem alike_of_uncached_singleton (hHttp : route.isHttpRoute)
    (h : uncached S (new S [route]) ctx = uncached S (new S [route]) ctx') :
    Alike S route ctx ctx' := by
  rw [uncached_singleton hHttp, uncached_singleton hHttp] at h
  unfold Alike
  cases hLeft : accepts S route ctx with
  | false => cases hRight : accepts S route ctx' <;> simp [hLeft, hRight] at h ⊢
  | true =>
    cases hRight : accepts S route ctx' with
    | false => simp [hLeft, hRight] at h
    | true =>
      simp only [hLeft, hRight, if_true, Option.some.injEq, routeMatchOf, RouteMatch.mk.injEq,
        true_and] at h
      exact ⟨rfl, fun _ => Prod.ext h.1 h.2⟩

/-- **Transparency of the traditional router.** For every sequence of requests, the routers
built from routes of a given collection all answer through their cache as without it exactly
when no HTTP route of the collection tells apart two requests that share a cache key. -/
theorem traditional_cacheTransparent_iff (S : TextServices) (routes : List Route)
    (requests : List RequestContext) :
    (∀ routes', routes' ⊆ routes → CacheTransparent S routes' requests) ↔
      KeysSeparate S routes requests := by
  simp only [CacheTransparent, findRoute_eq_lookup, Memo.transparent_iff]
  constructor
  · intro h
    by_contra hNot
    obtain ⟨front, ctx, middle, ctx', rest, rfl, hBad⟩ := Memo.exists_split_of_not_pairwise hNot
    simp only [not_forall] at hBad
    obtain ⟨hKey, route, hRoute, hHttp, hApart⟩ := hBad
    have hPair := h [route] (by simpa using hRoute)
    have hEqual := Memo.pairwise_split hPair hKey
    exact hApart (alike_of_uncached_singleton hHttp hEqual)
  · intro h routes' hSub
    refine h.imp fun {ctx ctx'} hAlike hKey => uncached_eq_of_alike ?_
    exact fun route hRoute => hAlike hKey route (hSub hRoute)

/-- An HTTPS-only route, and the same request first over HTTP and then over HTTPS: the
second one gets the stored answer of the first. -/
theorem not_cacheTransparent_scheme : ¬ CacheTransparent .ascii
      [{ Route.default 1 with protocols := [.https], paths := some ["/"] }]
      [RequestContext.plain "GET" "http" "example.com" "/",
        RequestContext.plain "GET" "https" "example.com" "/"] := by
  rw [CacheTransparent, findRoute_eq_lookup, Memo.transparent_iff]
  decide

end Traditional

/-! ## The expressions router -/

namespace Expressions

theorem findRoute_eq_lookup (S : TextServices) (router : ExpressionsRouter S.Regex) :
    findRoute S router = Memo.lookup (cacheKey S) (findRouteUncached S router) := by
  funext cached ctx
  cases cached <;> rfl

/-- Whatever the cache keeps, the router built from these routes answers the requests as
its uncached evaluation does. -/
def CacheTransparent (S : TextServices) (routes : List Route) (requests : List RequestContext) :
    Prop :=
  ∀ router, ExpressionsRouter.new S routes = some router →
    Memo.Transparent (cacheKey S) (findRoute S router) (findRouteUncached S router) requests

def HasExpression (S : TextServices) (route : Route) (expression : CompiledExpression S.Regex) :
    Prop :=
  route.isHttpRoute ∧ ∃ text, route.expression = some text ∧
    parseExpression S text = .ok expression

/-- No expression tells apart two requests of the sequence that share a cache key. -/
def KeysSeparate (S : TextServices) (routes : List Route) (requests : List RequestContext) :
    Prop :=
  requests.Pairwise fun ctx ctx' => cacheKey S ctx = cacheKey S ctx' →
    ∀ route ∈ routes, ∀ expression, HasExpression S route expression →
      evaluate S expression ctx = evaluate S expression ctx'

variable {S : TextServices} {route : Route} {compiled : ExpressionRoute S.Regex}

theorem hasExpression_of_compileRoute (hHttp : route.isHttpRoute)
    (h : compileRoute S route = some (some compiled)) :
    HasExpression S route compiled.expression := by
  unfold compileRoute at h
  split at h
  · simp at h
  · rename_i text hText
    split at h
    · rename_i expression hParse
      simp only [Option.some.injEq] at h
      subst h
      exact ⟨hHttp, text, hText, hParse⟩
    · simp at h
    · simp at h

variable {router : ExpressionsRouter S.Regex}

theorem hasExpression_of_mem_new {routes : List Route}
    (hNew : ExpressionsRouter.new S routes = some router) (hMem : compiled ∈ router.routes) :
    ∃ route ∈ routes, HasExpression S route compiled.expression := by
  simp only [ExpressionsRouter.new, Option.pure_def, Option.bind_eq_bind, Option.bind_eq_some_iff,
    Option.some.injEq] at hNew
  obtain ⟨results, hResults, rfl⟩ := hNew
  obtain ⟨result, hResult, hCompiled⟩ := List.mem_filterMap.mp ((List.mem_insertionSort _).mp hMem)
  obtain ⟨route, hRoute, hCompile⟩ := Fallible.mem_of_mapM_eq_some hResults hResult
  obtain ⟨hRoute, hHttp⟩ := List.mem_filter.mp hRoute
  rw [show result = some compiled from hCompiled] at hCompile
  exact ⟨route, hRoute, hasExpression_of_compileRoute hHttp hCompile⟩

theorem findRouteUncached_eq_of_evaluate {ctx ctx' : RequestContext} (h : ∀ route ∈ router.routes,
      evaluate S route.expression ctx = evaluate S route.expression ctx') :
    findRouteUncached S router ctx = findRouteUncached S router ctx' := by
  simp only [findRouteUncached]
  congr 1
  exact List.find?_congr h

theorem new_singleton {expression : CompiledExpression S.Regex}
    (h : HasExpression S route expression) :
    ExpressionsRouter.new S [route] = some ⟨[expressionRouteOf S route expression]⟩ := by
  obtain ⟨hHttp, text, hText, hParse⟩ := h
  simp [ExpressionsRouter.new, hHttp, compileRoute, hText, hParse]

/-- **Transparency of the expressions router.** For every sequence of requests, the routers
built from routes of a given collection all answer through their cache as without it exactly
when no expression of the collection tells apart two requests that share a cache key. -/
theorem expressions_cacheTransparent_iff (S : TextServices) (routes : List Route)
    (requests : List RequestContext) :
    (∀ routes', routes' ⊆ routes → CacheTransparent S routes' requests) ↔
      KeysSeparate S routes requests := by
  simp only [CacheTransparent, findRoute_eq_lookup, Memo.transparent_iff]
  constructor
  · intro h
    by_contra hNot
    obtain ⟨front, ctx, middle, ctx', rest, rfl, hBad⟩ := Memo.exists_split_of_not_pairwise hNot
    simp only [not_forall] at hBad
    obtain ⟨hKey, route, hRoute, expression, hExpression, hApart⟩ := hBad
    have hPair := h [route] (by simpa using hRoute) _ (new_singleton hExpression)
    have hEqual := Memo.pairwise_split hPair hKey
    simp only [findRouteUncached, expressionRouteOf, List.find?_cons, List.find?_nil] at hEqual
    cases hLeft : evaluate S expression ctx <;> cases hRight : evaluate S expression ctx' <;>
      simp [hLeft, hRight] at hEqual hApart
  · intro h routes' hSub router hNew
    refine h.imp fun {ctx ctx'} hAlike hKey => findRouteUncached_eq_of_evaluate ?_
    intro compiled hCompiled
    obtain ⟨route, hRoute, hExpression⟩ := hasExpression_of_mem_new hNew hCompiled
    exact hAlike hKey route (hSub hRoute) _ hExpression

/-- A route on a request header, and the same request first without and then with the
header: the second one gets the stored answer of the first. -/
theorem not_cacheTransparent_header : ¬ CacheTransparent .ascii
      [{ Route.default 1 with expression := some "http.headers.x-version == \"2\"" }]
      [RequestContext.plain "GET" "http" "example.com" "/",
        { RequestContext.plain "GET" "http" "example.com" "/" with
          headers := AList.insert "x-version" "2" ∅ }] := by
  intro h
  have hPair := h ⟨[expressionRouteOf .ascii
    { Route.default 1 with expression := some "http.headers.x-version == \"2\"" }
    (.eq (.httpHeader "x-version") "2")]⟩ rfl
  rw [findRoute_eq_lookup, Memo.transparent_iff] at hPair
  revert hPair
  decide

end Expressions

end KongRust.Router

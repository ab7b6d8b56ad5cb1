import Mathlib.Data.List.Sort
import KongRust.Foundation.Grouping
import KongRust.Foundation.Memo
import KongRust.Router.Types

/-!
# The traditional router

`processRoute` turns a stored route into the form used for matching, `TraditionalRouter.new` sorts
the processed routes and groups them into categories by their match rules, and
`findRouteUncached` scans the categories from the highest match weight on. `findRoute`
puts a cache in front of that scan.
-/

namespace KongRust.Router.Traditional

open KongRust.Text

def MATCH_HOST : Nat := 0x40
def MATCH_HEADER : Nat := 0x20
def MATCH_URI : Nat := 0x10
def MATCH_METHOD : Nat := 0x08
def MATCH_SNI : Nat := 0x04

def SUB_HAS_REGEX_URI : Nat := 0x01
def SUB_PLAIN_HOSTS_ONLY : Nat := 0x02

/-- The conditions on one request header. -/
structure HeaderMatcher (ρ : Type) where
  name : String
  values : List String
  regexPattern : Option ρ

/-- A route prepared for matching. `methods` and `snis` are the key sets of the maps of
the source, whose values are always `true`. -/
structure ProcessedRoute (ρ : Type) where
  routeId : Uuid
  serviceId : Option Uuid
  name : Option String
  matchWeight : Nat
  submatchWeight : Nat
  matchRules : Nat
  plainHosts : List String
  wildcardHosts : List (String × ρ)
  prefixPaths : List String
  regexPaths : List (String × ρ)
  maxUriLength : Nat
  methods : List String
  headers : List (HeaderMatcher ρ)
  headerCount : Nat
  snis : List String
  regexPriority : Int
  createdAt : Int
  stripPath : Bool
  preserveHost : Bool
  pathHandling : PathHandling
  protocols : List String
  requestBuffering : Bool
  responseBuffering : Bool

/-! ## Route processing -/

section Process

variable (S : TextServices)

/-- The values of an optional list column; an empty list configures nothing. -/
def configured {α : Type} (column : Option (List α)) : List α := column.getD []

def weight {α : Type} (column : List α) : Nat := if column.isEmpty then 0 else 1

def ruleBit {α : Type} (bit : Nat) (column : List α) : Nat := if column.isEmpty then 0 else bit

def isWildcard (host : String) : Bool := Text.contains '*' host

def plainHostsOf (hosts : List String) : List String :=
  (hosts.map S.toLowercase).filter fun host => !isWildcard host

/-- Every wildcard host becomes an anchored regular expression; one that does not compile
is dropped. -/
def wildcardHostsOf (hosts : List String) : List (String × S.Regex) :=
  ((hosts.map S.toLowercase).filter isWildcard).filterMap fun host =>
    (S.compile ("^" ++ Text.replace '*' ".+" (Text.replace '.' "\\." host) ++ "$")).toOption.map
      fun regex => (host, regex)

def regexPatternOf (path : String) : Option String := Text.stripPrefix "~" path

def regexPathsOf (paths : List String) : List (String × S.Regex) :=
  (paths.filterMap regexPatternOf).filterMap fun pattern =>
    (S.compile pattern).toOption.map fun regex => (pattern, regex)

def prefixPathsOf (paths : List String) : List String :=
  (paths.filter fun path => (regexPatternOf path).isNone).insertionSort
    fun a b => Text.len b ≤ Text.len a

def maxUriLengthOf (paths : List String) : Nat :=
  (paths.filter fun path => (regexPatternOf path).isNone).foldl
    (fun longest path => max longest (Text.len path)) 0

def submatchWeightOf (hosts paths : List String) : Nat :=
  (if !hosts.isEmpty && hosts.all (fun host => !isWildcard (S.toLowercase host))
    then SUB_PLAIN_HOSTS_ONLY else 0) |||
  (if paths.any fun path => (regexPatternOf path).isSome then SUB_HAS_REGEX_URI else 0)

/-- The values of one header: `~*` marks a regular expression, and the last one given is
the one that counts. -/
def headerMatcherOf (name : String) (values : List String) : HeaderMatcher S.Regex where
  name := S.toLowercase name
  values := (values.filter fun value => (Text.stripPrefix "~*" value).isNone).map S.toLowercase
  regexPattern := ((values.filterMap (Text.stripPrefix "~*")).getLast?).bind fun pattern =>
    (S.compile pattern).toOption

/-- `process_route`. -/
def processRoute (route : Route) : ProcessedRoute S.Regex :=
  let hosts := configured route.hosts
  let paths := configured route.paths
  let methods := configured route.methods
  let headers := (route.headers.getD ∅).entries
  let snis := configured route.snis
  { routeId := route.id
    serviceId := route.service
    name := route.name
    matchWeight := weight hosts + weight paths + weight methods + weight headers + weight snis
    submatchWeight := submatchWeightOf S hosts paths
    matchRules := ruleBit MATCH_HOST hosts ||| ruleBit MATCH_URI paths |||
      ruleBit MATCH_METHOD methods ||| ruleBit MATCH_HEADER headers ||| ruleBit MATCH_SNI snis
    plainHosts := plainHostsOf S hosts
    wildcardHosts := wildcardHostsOf S hosts
    prefixPaths := prefixPathsOf paths
    regexPaths := regexPathsOf S paths
    maxUriLength := maxUriLengthOf paths
    methods := methods.map S.toUppercase
    headers := headers.map fun entry => headerMatcherOf S entry.1 entry.2
    headerCount := headers.length
    snis := snis.map (Text.trimEndMatches '.')
    regexPriority := route.regexPriority
    createdAt := route.createdAt
    stripPath := route.stripPath
    preserveHost := route.preserveHost
    pathHandling := route.pathHandling
    protocols := route.protocols.map Protocol.toText
    requestBuffering := route.requestBuffering
    responseBuffering := route.responseBuffering }

end Process

/-! ## Construction -/

/-- `sort_routes`: the routes of one category, best first. -/
def sortRoutes {ρ : Type} (a b : ProcessedRoute ρ) : Ordering :=
  (compare b.submatchWeight a.submatchWeight).then <|
  (compare b.headerCount a.headerCount).then <|
  (if a.submatchWeight &&& SUB_HAS_REGEX_URI ≠ 0
    then compare b.regexPriority a.regexPriority else .eq).then <|
  (compare b.maxUriLength a.maxUriLength).then <|
  compare a.createdAt b.createdAt

/-- The routes that share a set of match rules, by their positions in the sorted list. -/
structure Category where
  matchRules : Nat
  matchWeight : Nat
  routes : List Nat

structure TraditionalRouter (ρ : Type) where
  routes : List (ProcessedRoute ρ)
  categories : List Category

def categoryMap {ρ : Type} (routes : List (ProcessedRoute ρ)) : List (Nat × List Nat) :=
  Grouping.group (routes.zipIdx.map fun entry => (entry.1.matchRules, entry.2))

def categoryOf {ρ : Type} (routes : List (ProcessedRoute ρ)) (entry : Nat × List Nat) :
    Category where
  matchRules := entry.1
  matchWeight := ((entry.2.head?.bind (routes[·]?)).map ProcessedRoute.matchWeight).getD 0
  routes := entry.2

def sortCategories (a b : Category) : Ordering :=
  (compare b.matchWeight a.matchWeight).then (compare b.matchRules a.matchRules)

/-- `TraditionalRouter::new`. -/
def TraditionalRouter.new (S : TextServices) (routes : List Route) : TraditionalRouter S.Regex :=
  let processed := ((routes.filter Route.isHttpRoute).map (processRoute S)).insertionSort
    fun a b => sortRoutes a b ≠ .gt
  { routes := processed
    categories := ((categoryMap processed).map (categoryOf processed)).insertionSort
      fun a b => sortCategories a b ≠ .gt }

/-! ## Matching -/

section Match

variable (S : TextServices) (route : ProcessedRoute S.Regex)

def matchHost (route : ProcessedRoute S.Regex) (reqHost reqHostNoPort : String) : Bool :=
  route.plainHosts.contains reqHost || route.plainHosts.contains reqHostNoPort ||
    route.wildcardHosts.any fun entry =>
      S.isMatch entry.2 reqHost || S.isMatch entry.2 reqHostNoPort

/-- Every header matcher must accept the value of its header. -/
def matchHeaders (route : ProcessedRoute S.Regex) (reqHeaders : StringMap String) : Bool :=
  route.headers.all fun matcher =>
    match reqHeaders.lookup matcher.name with
    | none => false
    | some value =>
      matcher.values.contains (S.toLowercase value) ||
        match matcher.regexPattern with
        | some regex => S.isMatch regex (S.toLowercase value)
        | none => false

/-- The prefix test of `match_uri` and `find_matched_path_and_captures`. -/
def prefixMatches (reqUri path : String) : Bool :=
  reqUri == path || Text.startsWith reqUri (Text.trimEndMatches '/' path ++ "/") || path == "/"

def matchUri (route : ProcessedRoute S.Regex) (reqUri : String) : Bool :=
  (route.regexPaths.any fun entry => S.isMatch entry.2 reqUri) ||
    route.prefixPaths.any (prefixMatches reqUri)

/-- HTTP requests match every SNI condition; others need a listed server name. -/
def matchSni (route : ProcessedRoute S.Regex) (ctx : RequestContext) : Bool :=
  if ctx.scheme ≠ "http" ∧ ctx.scheme ≠ "https" then
    match ctx.sni with
    | some sni => route.snis.contains sni
    | none => false
  else true

def matchProtocol (route : ProcessedRoute S.Regex) (scheme : String) : Bool :=
  route.protocols.isEmpty || route.protocols.any fun p =>
    p == scheme || (p == "grpc" && scheme == "http") || (p == "grpcs" && scheme == "https") ||
      (p == "ws" && scheme == "http") || (p == "wss" && scheme == "https")

/-- `match_route`. -/
def matchRoute (route : ProcessedRoute S.Regex) (ctx : RequestContext)
    (reqHost reqHostNoPort : String) : Bool :=
  (route.matchRules &&& MATCH_HOST == 0 || matchHost S route reqHost reqHostNoPort) &&
  (route.matchRules &&& MATCH_HEADER == 0 || matchHeaders S route ctx.headers) &&
  (route.matchRules &&& MATCH_URI == 0 || matchUri S route ctx.uri) &&
  (route.matchRules &&& MATCH_METHOD == 0 || route.methods.contains (S.toUppercase ctx.method)) &&
  (route.matchRules &&& MATCH_SNI == 0 || matchSni S route ctx) &&
  matchProtocol S route ctx.scheme

/-- The groups after the whole match: the positional ones, and among them the named ones. -/
def uriCapturesOf (names groups : List (Option String)) : UriCaptures :=
  let present := (names.zip groups).tail.filterMap fun entry => entry.2.map fun v => (entry.1, v)
  { named := present.foldl
      (fun acc entry => match entry.1 with
        | some name => acc.insert name entry.2
        | none => acc) ∅
    unnamed := present.map Prod.snd }

/-- `find_matched_path_and_captures`: the text of the first regular expression that
captures, otherwise the longest prefix path. -/
def findMatchedPathAndCaptures (route : ProcessedRoute S.Regex) (reqUri : String) :
    Option String × UriCaptures :=
  match route.regexPaths.findSome? fun entry =>
      (S.captures entry.2 reqUri).map fun groups => (entry, groups) with
  | some ((pattern, regex), groups) =>
    (some ((groups.head?.join).getD pattern), uriCapturesOf (S.captureNames regex) groups)
  | none =>
    let best := (route.prefixPaths.filter (prefixMatches reqUri)).foldl
      (fun best path => match best with
        | none => some path
        | some b => if Text.len path > Text.len b then some path else some b) none
    (best, UriCaptures.default)

def routeMatchOf (route : ProcessedRoute S.Regex) (ctx : RequestContext) : RouteMatch :=
  let found := findMatchedPathAndCaptures S route ctx.uri
  { routeId := route.routeId
    serviceId := route.serviceId
    routeName := route.name
    stripPath := route.stripPath
    preserveHost := route.preserveHost
    pathHandling := route.pathHandling
    matchedPath := found.1
    protocols := route.protocols
    requestBuffering := route.requestBuffering
    responseBuffering := route.responseBuffering
    uriCaptures := found.2 }

variable (router : TraditionalRouter S.Regex)

/-- `find_route_uncached`: the first route of the first category that matches. -/
def findRouteUncached (router : TraditionalRouter S.Regex) (ctx : RequestContext)
    (reqHost reqHostNoPort : String) : Option RouteMatch :=
  router.categories.findSome? fun category =>
    category.routes.findSome? fun index =>
      match router.routes[index]? with
      | some route =>
        if matchRoute S route ctx reqHost reqHostNoPort then some (routeMatchOf S route ctx)
        else none
      | none => none

/-- The cache key: method, host without port, path, and the headers sorted by name. -/
def cacheKey (ctx : RequestContext) : String :=
  let sorted := ctx.headers.entries.insertionSort fun a b => a.1 ≤ b.1
  let headerPart := Text.join "&" (sorted.map fun entry => entry.1 ++ "=" ++ entry.2)
  ctx.method ++ "\x00" ++ hostNoPort S ctx ++ "\x00" ++ ctx.uri ++ "\x00" ++ headerPart

def uncached (router : TraditionalRouter S.Regex) (ctx : RequestContext) : Option RouteMatch :=
  findRouteUncached S router ctx (hostLower S ctx) (hostNoPort S ctx)

/-- `find_route`, given what the cache returns for the key of the request: the answer, and
the entry stored on a miss. -/
def findRoute (router : TraditionalRouter S.Regex) (cached : Option (Option RouteMatch))
    (ctx : RequestContext) : Option RouteMatch × Option (String × Option RouteMatch) :=
  match cached with
  | some result => (result, none)
  | none => (uncached S router ctx, some (cacheKey S ctx, uncached S router ctx))

end Match

end KongRust.Router.Traditional

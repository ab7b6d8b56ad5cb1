import KongRust.Foundation.Net
import KongRust.Foundation.Ranking
import KongRust.Foundation.Str
import KongRust.Router.Traditional

/-!
# The stream router

Routes of the L4 listeners are kept in the order of the number of dimensions that they specify,
and then of their age; the first one that matches answers. The order knows nothing of how an SNI
matched, and an entry whose address cannot be read is kept without it.
-/

namespace KongRust.Router.Stream

open Net Traditional

/-! ## Addresses and ports -/

structure CidrPort where
  ip : Option String
  port : Option (BitVec 16)

def IpAddr.width : IpAddr → Nat
  | .v4 _ => 32
  | .v6 _ => 128

/-- `parse_cidr`. -/
def parseCidr (cidr : String) : Option (IpAddr × Nat) :=
  match Text.find ['/'] cidr.toList with
  | some (address, length) => do
    let ip ← parseIpAddr address
    let length ← (Str.parseUnsigned 256 length).toOption
    some (ip, length)
  | none => (parseIpAddr cidr.toList).map fun ip => (ip, IpAddr.width ip)

/-- The comparison of `ip_in_cidr` within one family of addresses. -/
def bitsInCidr {w : Nat} (ip network : BitVec w) (length : Nat) : Bool :=
  if length = 0 then true
  else if w < length then false
  else
    let mask := BitVec.allOnes w <<< (w - length)
    ip &&& mask == network &&& mask

/-- `ip_in_cidr`. -/
def ipInCidr (ip network : IpAddr) (length : Nat) : Bool :=
  match ip, network with
  | .v4 ip, .v4 network => bitsInCidr ip network length
  | .v6 ip, .v6 network => bitsInCidr ip network length
  | _, _ => false

structure CidrPortMatcher where
  network : Option (IpAddr × Nat)
  port : Option (BitVec 16)

variable (entry : CidrPort)

def CidrPortMatcher.fromCidrPort (entry : CidrPort) : CidrPortMatcher where
  network := entry.ip.bind parseCidr
  port := entry.port

/-- `CidrPortMatcher::matches`. -/
def CidrPortMatcher.matchesPeer (matcher : CidrPortMatcher) (ip : Option IpAddr)
    (port : Option (BitVec 16)) : Bool :=
  (matcher.network.all fun network => ip.any (ipInCidr · network.1 network.2)) &&
    matcher.port.all fun expected => port == some expected

/-! ## Routes -/

/-- The columns of a route that the stream router reads as well. -/
structure StreamRoute extends Route where
  sources : Option (List CidrPort)
  destinations : Option (List CidrPort)

structure StreamRequestContext where
  sourceIp : Option IpAddr
  sourcePort : Option (BitVec 16)
  destIp : Option IpAddr
  destPort : Option (BitVec 16)
  sni : Option String

structure StreamRouteMatch where
  routeId : Uuid
  serviceId : Option Uuid
  routeName : Option String
  protocols : List Protocol

def MATCH_SNI : Nat := 0x08

def MATCH_SOURCE : Nat := 0x04

def MATCH_DEST : Nat := 0x02

structure ProcessedStreamRoute where
  routeId : Uuid
  serviceId : Option Uuid
  name : Option String
  protocols : List Protocol
  matchRules : Nat
  matchWeight : Nat
  snis : List String
  sources : List CidrPortMatcher
  destinations : List CidrPortMatcher
  createdAt : Int

def isStreamRoute (route : StreamRoute) : Bool :=
  route.protocols.any fun protocol =>
    protocol == .tcp || protocol == .tls || protocol == .tlsPassthrough

section Matching

variable (S : TextServices)

/-- `process_stream_route`, which drops no route. -/
def processStreamRoute (route : StreamRoute) : ProcessedStreamRoute :=
  let snis := (configured route.snis).map S.toLowercase
  let sources := (configured route.sources).map CidrPortMatcher.fromCidrPort
  let destinations := (configured route.destinations).map CidrPortMatcher.fromCidrPort
  { routeId := route.id
    serviceId := route.service
    name := route.name
    protocols := route.protocols
    matchRules := ruleBit MATCH_SNI snis ||| ruleBit MATCH_SOURCE sources |||
      ruleBit MATCH_DEST destinations
    matchWeight := weight snis + weight sources + weight destinations
    snis
    sources
    destinations
    createdAt := route.createdAt }

/-- `*.example.com` stands for the names whose part after the first dot is `example.com`. -/
def matchesWildcard (pattern sniLower : String) : Bool :=
  (Text.stripPrefix "*." pattern).any fun suffix =>
    (Text.find ['.'] sniLower.toList).any fun split => split.2 == suffix.toList

def matchSni (patterns : List String) (sni : String) : Bool :=
  patterns.any fun pattern =>
    pattern == S.toLowercase sni || matchesWildcard pattern (S.toLowercase sni)

def ProcessedStreamRoute.matchesSource (route : ProcessedStreamRoute)
    (ctx : StreamRequestContext) : Bool :=
  route.matchRules &&& MATCH_SOURCE == 0 ||
    route.sources.any (·.matchesPeer ctx.sourceIp ctx.sourcePort)

def ProcessedStreamRoute.matchesDest (route : ProcessedStreamRoute)
    (ctx : StreamRequestContext) : Bool :=
  route.matchRules &&& MATCH_DEST == 0 ||
    route.destinations.any (·.matchesPeer ctx.destIp ctx.destPort)

def matchRoute (route : ProcessedStreamRoute) (ctx : StreamRequestContext) : Bool :=
  (route.matchRules &&& MATCH_SNI == 0 || ctx.sni.any (matchSni S route.snis)) &&
    route.matchesSource ctx && route.matchesDest ctx

structure StreamRouter where
  routes : List ProcessedStreamRoute

def compareRoutes (a b : ProcessedStreamRoute) : Ordering :=
  (compare b.matchWeight a.matchWeight).then (compare a.createdAt b.createdAt)

variable (routes : List StreamRoute)

def streamRoutes (routes : List StreamRoute) : List ProcessedStreamRoute :=
  (routes.filter isStreamRoute).map (processStreamRoute S)

/-- `StreamRouter::new`. -/
def StreamRouter.new (routes : List StreamRoute) : StreamRouter where
  routes := (streamRoutes S routes).insertionSort fun a b => compareRoutes a b ≠ .gt

variable (router : StreamRouter)

/-- The route at which the loop of `find_route` stops. -/
def StreamRouter.firstMatch (router : StreamRouter) (ctx : StreamRequestContext) :
    Option ProcessedStreamRoute :=
  router.routes.find? (matchRoute S · ctx)

def StreamRouter.findRoute (router : StreamRouter) (ctx : StreamRequestContext) :
    Option StreamRouteMatch :=
  (router.firstMatch S ctx).map fun route =>
    { routeId := route.routeId
      serviceId := route.serviceId
      routeName := route.name
      protocols := route.protocols }

end Matching

/-! ## Networks -/

/-- An address lies in a network when it has the family and the first bits of it. -/
inductive Within : IpAddr → IpAddr × Nat → Prop
  | v4 {ip network : BitVec 32} {length : Nat} (hLength : length ≤ 32)
      (hBits : ∀ i < length, ip.getMsbD i = network.getMsbD i) :
      Within (.v4 ip) (.v4 network, length)
  | v6 {ip network : BitVec 128} {length : Nat} (hLength : length ≤ 128)
      (hBits : ∀ i < length, ip.getMsbD i = network.getMsbD i) :
      Within (.v6 ip) (.v6 network, length)

variable {w length : Nat}

theorem masked_eq_iff (hLength : length ≤ w) (a b : BitVec w) :
    a &&& BitVec.allOnes w <<< (w - length) = b &&& BitVec.allOnes w <<< (w - length) ↔
      ∀ i < length, a.getMsbD i = b.getMsbD i := by
  constructor
  · intro h i hi
    have hBit := congrArg (BitVec.getMsbD · i) h
    simpa [hi.trans_le hLength, show i + (w - length) < w by omega] using hBit
  · intro h
    refine BitVec.eq_of_getMsbD_eq fun i hi => ?_
    by_cases hIn : i < length
    · simp [h i hIn]
    · simp [show ¬ i + (w - length) < w by omega]

theorem bitsInCidr_iff (ip network : BitVec w) :
    bitsInCidr ip network length = true ↔
      length ≤ w ∧ ∀ i < length, ip.getMsbD i = network.getMsbD i := by
  unfold bitsInCidr
  split
  · next hZero => simp [hZero]
  · split
    · next hLong => simp [not_le.mpr hLong]
    · next hLength =>
      have hLength := not_lt.mp hLength
      simp only [beq_iff_eq, masked_eq_iff hLength, hLength, true_and]

theorem ipInCidr_iff (ip network : IpAddr) (length : Nat) :
    ipInCidr ip network length = true ↔ Within ip (network, length) := by
  cases ip with
  | v4 ip =>
    cases network with
    | v4 network =>
      refine (bitsInCidr_iff ip network).trans ⟨fun h => .v4 h.1 h.2, fun h => ?_⟩
      cases h with
      | v4 hLength hBits => exact ⟨hLength, hBits⟩
    | v6 network => exact iff_of_false (by simp [ipInCidr]) nofun
  | v6 ip =>
    cases network with
    | v4 network => exact iff_of_false (by simp [ipInCidr]) nofun
    | v6 network =>
      refine (bitsInCidr_iff ip network).trans ⟨fun h => .v6 h.1 h.2, fun h => ?_⟩
      cases h with
      | v6 hLength hBits => exact ⟨hLength, hBits⟩

/-! ## Entries -/

def CidrPort.PortAdmits (entry : CidrPort) (port : Option (BitVec 16)) : Prop :=
  ∀ expected, entry.port = some expected → port = some expected

/-- The connection comes from a port and an address that the entry names. -/
def CidrPort.Admits (entry : CidrPort) (ip : Option IpAddr) (port : Option (BitVec 16)) : Prop :=
  (∀ text, entry.ip = some text →
    ∃ peer network, ip = some peer ∧ parseCidr text = some network ∧ Within peer network) ∧
  entry.PortAdmits port

def CidrPort.Unreadable (entry : CidrPort) : Prop :=
  ∃ text, entry.ip = some text ∧ parseCidr text = none

variable {ip : Option IpAddr} {port : Option (BitVec 16)}

theorem matchesPeer_iff :
    (CidrPortMatcher.fromCidrPort entry).matchesPeer ip port = true ↔
      entry.Admits ip port ∨ entry.Unreadable ∧ entry.PortAdmits port := by
  obtain ⟨text, expected⟩ := entry
  have hPort : (expected.all fun expected => port == some expected) = true ↔
      (⟨text, expected⟩ : CidrPort).PortAdmits port := by
    cases expected <;> simp [CidrPort.PortAdmits]
  simp only [CidrPortMatcher.matchesPeer, CidrPortMatcher.fromCidrPort, Bool.and_eq_true, hPort,
    CidrPort.Admits, CidrPort.Unreadable, ← or_and_right]
  refine and_congr_left fun _ => ?_
  cases text with
  | none => simp
  | some text =>
    cases hText : parseCidr text with
    | none => simp [hText]
    | some network =>
      obtain ⟨network, length⟩ := network
      cases ip <;> simp [hText, ipInCidr_iff]

/-- A list of entries accepts a connection as it says. -/
def AsListed (accepts : Bool) (entries : List CidrPort) (ip : Option IpAddr)
    (port : Option (BitVec 16)) : Prop :=
  accepts = true ↔ ∃ entry ∈ entries, entry.Admits ip port

variable (entries : List CidrPort)

/-- No entry that lost its address lets a connection in that no entry names. -/
def Guarded (entries : List CidrPort) (ip : Option IpAddr) (port : Option (BitVec 16)) : Prop :=
  (∃ entry ∈ entries, entry.Unreadable ∧ entry.PortAdmits port) →
    ∃ entry ∈ entries, entry.Admits ip port

theorem asListed_any_iff :
    AsListed ((entries.map CidrPortMatcher.fromCidrPort).any (·.matchesPeer ip port)) entries ip
      port ↔ Guarded entries ip port := by
  have hAny : ((entries.map CidrPortMatcher.fromCidrPort).any (·.matchesPeer ip port)) = true ↔
      (∃ entry ∈ entries, entry.Admits ip port) ∨
        ∃ entry ∈ entries, entry.Unreadable ∧ entry.PortAdmits port := by
    simp only [List.any_map, List.any_eq_true, Function.comp_apply, matchesPeer_iff, and_or_left,
      exists_or]
  rw [AsListed, hAny, Guarded]
  exact ⟨fun h hLost => h.mp (.inr hLost), fun h => ⟨Or.rec id h, .inl⟩⟩

variable {route : StreamRoute}

theorem sourceBit {S : TextServices} :
    ((processStreamRoute S route).matchRules &&& MATCH_SOURCE == 0) =
      (configured route.sources).isEmpty := by
  simp only [processStreamRoute, ruleBit, List.isEmpty_map]
  cases (configured route.snis).isEmpty <;> cases (configured route.sources).isEmpty <;>
    cases (configured route.destinations).isEmpty <;> rfl

theorem destBit {S : TextServices} :
    ((processStreamRoute S route).matchRules &&& MATCH_DEST == 0) =
      (configured route.destinations).isEmpty := by
  simp only [processStreamRoute, ruleBit, List.isEmpty_map]
  cases (configured route.snis).isEmpty <;> cases (configured route.sources).isEmpty <;>
    cases (configured route.destinations).isEmpty <;> rfl

/-- **A dimension is as open as its entries**, or wider by those that lost their address. -/
theorem dimension_asListed_iff (S : TextServices) (route : StreamRoute) (first : CidrPort)
    (rest : List CidrPort) (ctx : StreamRequestContext) :
    (AsListed ((processStreamRoute S { route with sources := some (first :: rest) }).matchesSource
        ctx) (first :: rest) ctx.sourceIp ctx.sourcePort ↔
      Guarded (first :: rest) ctx.sourceIp ctx.sourcePort) ∧
    (AsListed ((processStreamRoute S { route with destinations := some (first :: rest) }).matchesDest
        ctx) (first :: rest) ctx.destIp ctx.destPort ↔
      Guarded (first :: rest) ctx.destIp ctx.destPort) := by
  rw [ProcessedStreamRoute.matchesSource, ProcessedStreamRoute.matchesDest, sourceBit, destBit]
  exact ⟨asListed_any_iff _, asListed_any_iff _⟩

/-- An entry for an address that cannot be read lets everyone in. -/
theorem unread_entry_admits : ∃ route : StreamRoute, ∃ ctx : StreamRequestContext,
    route.sources = some [⟨some "office", none⟩] ∧
      (processStreamRoute .ascii route).matchesSource ctx = true ∧
      ¬ CidrPort.Admits ⟨some "office", none⟩ ctx.sourceIp ctx.sourcePort := by
  have hUnread : parseCidr "office" = none := by decide +kernel
  refine ⟨{ Route.default 1 with sources := some [⟨some "office", none⟩], destinations := none },
    ⟨some (.v4 0x08080808), none, none, none, none⟩, rfl, ?_, ?_⟩
  · rw [ProcessedStreamRoute.matchesSource, sourceBit]
    simp [processStreamRoute, configured, CidrPortMatcher.fromCidrPort, hUnread,
      CidrPortMatcher.matchesPeer]
  · rintro ⟨hAddress, -⟩
    obtain ⟨_, _, -, hRead, -⟩ := hAddress _ rfl
    exact absurd (hUnread.symm.trans hRead) (by simp)

/-! ## Priorities -/

section Priorities

variable (S : TextServices) (ctx : StreamRequestContext)

def ExactSni (route : ProcessedStreamRoute) : Prop :=
  ∃ sni, ctx.sni = some sni ∧ S.toLowercase sni ∈ route.snis

/-- A matching route with SNIs of which only wildcards match. -/
def WildcardSni (route : ProcessedStreamRoute) : Prop :=
  route.snis ≠ [] ∧ ¬ ExactSni S ctx route

variable (a b : ProcessedStreamRoute)

/-- The documented preference between matching routes. A matching route matches in all the
dimensions that it specifies, and `match_weight` counts them. -/
def Outranks (a b : ProcessedStreamRoute) : Prop :=
  ExactSni S ctx a ∧ WildcardSni S ctx b ∨
    ¬ (ExactSni S ctx b ∧ WildcardSni S ctx a) ∧
      (b.matchWeight < a.matchWeight ∨
        a.matchWeight = b.matchWeight ∧ a.createdAt < b.createdAt)

def rank (route : ProcessedStreamRoute) : Nat ×ₗ Int :=
  toLex (route.matchWeight, -route.createdAt)

/-- Of the matching routes, the first as given of those with the most dimensions and, among these,
of the greatest age. -/
def Leads (routes : List StreamRoute) (route : ProcessedStreamRoute) : Prop :=
  ∃ before after, streamRoutes S routes = before ++ route :: after ∧ matchRoute S route ctx ∧
    (∀ other ∈ before, matchRoute S other ctx → rank other < rank route) ∧
    ∀ other ∈ after, matchRoute S other ctx → rank other ≤ rank route

variable {routes : List StreamRoute} {route : ProcessedStreamRoute}

theorem compareRoutes_ne_gt_iff : compareRoutes a b ≠ .gt ↔ rank b ≤ rank a := by
  have hAge : -b.createdAt ≤ -a.createdAt ↔ a.createdAt ≤ b.createdAt := by omega
  rw [compareRoutes, Ranking.then_ne_gt_iff, compare_le_iff_le, rank, rank,
    Prod.Lex.toLex_le_toLex, hAge]

theorem firstMatch_eq_some_iff :
    (StreamRouter.new S routes).firstMatch S ctx = some route ↔ Leads S ctx routes route :=
  Ranking.find?_insertionSort_eq_some _ compareRoutes_ne_gt_iff

theorem Leads.rank_le (hLeads : Leads S ctx routes route) {other : ProcessedStreamRoute}
    (hOther : other ∈ streamRoutes S routes) (hMatch : matchRoute S other ctx) :
    rank other ≤ rank route := by
  obtain ⟨before, after, hRoutes, -, hBefore, hAfter⟩ := hLeads
  rw [hRoutes] at hOther
  rcases List.mem_append.mp hOther with hOther | hOther
  · exact (hBefore other hOther hMatch).le
  · rcases List.mem_cons.mp hOther with rfl | hOther
    · exact le_rfl
    · exact hAfter other hOther hMatch

/-- What the module documents: the answer is a matching route that none outranks, and there is
none exactly when no route matches. -/
def HighestPriority (routes : List StreamRoute) : Prop :=
  (∀ route, (StreamRouter.new S routes).firstMatch S ctx = some route →
    route ∈ streamRoutes S routes ∧ matchRoute S route ctx ∧
      ∀ other ∈ streamRoutes S routes, matchRoute S other ctx → ¬ Outranks S ctx other route) ∧
  ((StreamRouter.new S routes).findRoute S ctx = none ↔
    ∀ route ∈ streamRoutes S routes, ¬ matchRoute S route ctx)

theorem findRoute_eq_none_iff (routes : List StreamRoute) :
    (StreamRouter.new S routes).findRoute S ctx = none ↔
      ∀ route ∈ streamRoutes S routes, ¬ matchRoute S route ctx := by
  simp [StreamRouter.findRoute, StreamRouter.firstMatch, StreamRouter.new]

/-- **The answer has the highest priority** exactly when a match by wildcard leads only where no
route matches by exact name. -/
theorem highestPriority_iff (routes : List StreamRoute) : HighestPriority S ctx routes ↔
      ((∃ route ∈ streamRoutes S routes, matchRoute S route ctx ∧ ExactSni S ctx route) →
        ∀ route, Leads S ctx routes route → ¬ WildcardSni S ctx route) := by
  constructor
  · rintro ⟨hBest, -⟩ ⟨exact, hMem, hMatch, hExact⟩ route hLeads hWildcard
    obtain ⟨-, -, hTop⟩ := hBest route ((firstMatch_eq_some_iff S ctx).mpr hLeads)
    exact hTop exact hMem hMatch (.inl ⟨hExact, hWildcard⟩)
  · intro h
    refine ⟨fun route hFirst => ?_, findRoute_eq_none_iff S ctx routes⟩
    have hLeads := (firstMatch_eq_some_iff S ctx).mp hFirst
    obtain ⟨before, after, hRoutes, hMatches, -⟩ := id hLeads
    have hMem : route ∈ streamRoutes S routes := by
      rw [hRoutes]
      exact List.mem_append_right _ List.mem_cons_self
    refine ⟨hMem, hMatches, fun other hOther hMatch => ?_⟩
    rintro (⟨hExact, hWildcard⟩ | ⟨-, hBetter⟩)
    · exact h ⟨other, hOther, hMatch, hExact⟩ route hLeads hWildcard
    · have hRank := hLeads.rank_le S ctx hOther hMatch
      rw [rank, rank, Prod.Lex.toLex_le_toLex] at hRank
      simp only at hRank
      omega

end Priorities

/-- A route for one name, and one for every name of the domain and any source port of a list. -/
def contestedRoutes : List StreamRoute :=
  [{ Route.default 1 with
      protocols := [.tls], snis := some ["a.b"], sources := none, destinations := none },
    { Route.default 2 with
      protocols := [.tls]
      snis := some ["*.b"]
      sources := some [⟨none, none⟩]
      destinations := none }]

theorem wildcard_leads : ¬ HighestPriority .ascii ⟨none, none, none, none, some "a.b"⟩
    contestedRoutes := by
  rintro ⟨hBest, -⟩
  obtain ⟨-, -, hTop⟩ := hBest _ rfl
  refine hTop _ List.mem_cons_self rfl (.inl ⟨⟨"a.b", rfl, by decide⟩, by decide, ?_⟩)
  rintro ⟨sni, hSni, hMem⟩
  cases hSni
  exact absurd hMem (by decide)

end KongRust.Router.Stream

import KongRust.Router.CacheTransparency

/-!
# What a traditional route accepts

A route is compiled into lists of plain values, of wildcards and of regular expressions. What it
accepts is said here value by value: each configured dimension has a value that the request meets.
The code reads no SNI of a request over HTTP or HTTPS, and of the regular expressions of one header
it keeps the last one only.
-/

namespace KongRust.Router.Traditional

open KongRust.Text TraditionalRouter

section Values

variable (S : TextServices)

/-- The text of a pattern compiles to a regular expression that accepts a text. -/
def PatternAccepts (pattern text : String) : Prop :=
  ∃ regex, S.compile pattern = .ok regex ∧ S.isMatch regex text

/-- A wildcard stands for at least one character. -/
def HostAccepts (host reqHost : String) : Prop :=
  if isWildcard (S.toLowercase host) then
    PatternAccepts S
      ("^" ++ Text.replace '*' ".+" (Text.replace '.' "\\." (S.toLowercase host)) ++ "$")
      reqHost
  else S.toLowercase host = reqHost

def PathAccepts (path reqUri : String) : Prop :=
  match regexPatternOf path with
  | some pattern => PatternAccepts S pattern reqUri
  | none => reqUri = path ∨ path = "/" ∨
    (Text.trimEndMatches '/' path ++ "/").toList <+: reqUri.toList

def HeaderAccepts (value given : String) : Prop :=
  match Text.stripPrefix "~*" value with
  | some pattern => PatternAccepts S pattern (S.toLowercase given)
  | none => S.toLowercase value = S.toLowercase given

def ProtocolAccepts (protocol : Protocol) (scheme : String) : Prop :=
  protocol.toText = scheme ∨ (protocol = .grpc ∨ protocol = .ws) ∧ scheme = "http" ∨
    (protocol = .grpcs ∨ protocol = .wss) ∧ scheme = "https"

/-- Some value meets the condition, unless no value is configured. -/
def SomeValue {α : Type} (values : List α) (Met : α → Prop) : Prop :=
  values = [] ∨ ∃ value ∈ values, Met value

variable (route : Route) (ctx : RequestContext)

/-- Some SNI of the route, if it has any, is that of the client. -/
def MeetsSnis : Prop :=
  SomeValue (configured route.snis) fun sni => ctx.sni = some (Text.trimEndMatches '.' sni)

/-- Each dimension other than the SNIs has a value that the request meets. -/
structure MeetsOthers : Prop where
  hosts : SomeValue (configured route.hosts) fun host =>
    HostAccepts S host (hostLower S ctx) ∨ HostAccepts S host (hostNoPort S ctx)
  headers : ∀ entry ∈ (route.headers.getD ∅).entries, ∃ given,
    ctx.headers.lookup (S.toLowercase entry.1) = some given ∧
      ∃ value ∈ entry.2, HeaderAccepts S value given
  paths : SomeValue (configured route.paths) (PathAccepts S · ctx.uri)
  methods : SomeValue (configured route.methods) (S.toUppercase · = S.toUppercase ctx.method)
  protocols : SomeValue route.protocols (ProtocolAccepts · ctx.scheme)

/-- Each dimension of the route has a value that the request meets. -/
structure Meets : Prop extends MeetsOthers S route ctx where
  snis : MeetsSnis route ctx

def IsWeb : Prop := ctx.scheme = "http" ∨ ctx.scheme = "https"

/-- No other regular expression of its header comes after this value, if it is one. -/
def IsKept (values : List String) (value : String) : Prop :=
  ∀ pattern, Text.stripPrefix "~*" value = some pattern →
    (values.filterMap (Text.stripPrefix "~*")).getLast? = some pattern

/-- Each header of the route has a plain value that the request meets, or meets its last regular
expression. -/
def MeetsKept : Prop :=
  ∀ entry ∈ (route.headers.getD ∅).entries, ∃ given,
    ctx.headers.lookup (S.toLowercase entry.1) = some given ∧
      ∃ value ∈ entry.2, HeaderAccepts S value given ∧ IsKept entry.2 value

end Values

section Dimensions

variable {S : TextServices} {route : Route} {ctx : RequestContext}

/-- A rule is set if and only if its dimension is configured. -/
theorem matchRules_processRoute (S : TextServices) (route : Route) :
    ((processRoute S route).matchRules &&& MATCH_HOST == 0) = (configured route.hosts).isEmpty ∧
    ((processRoute S route).matchRules &&& MATCH_HEADER == 0) =
      (route.headers.getD ∅).entries.isEmpty ∧
    ((processRoute S route).matchRules &&& MATCH_URI == 0) = (configured route.paths).isEmpty ∧
    ((processRoute S route).matchRules &&& MATCH_METHOD == 0) = (configured route.methods).isEmpty ∧
    ((processRoute S route).matchRules &&& MATCH_SNI == 0) = (configured route.snis).isEmpty := by
  simp only [processRoute, ruleBit]
  cases (configured route.hosts).isEmpty <;> cases (configured route.paths).isEmpty <;>
    cases (configured route.methods).isEmpty <;> cases (route.headers.getD ∅).entries.isEmpty <;>
    cases (configured route.snis).isEmpty <;> decide

theorem unless_empty_iff {α : Type} {values : List α} {met : Bool} {Met : α → Prop}
    (h : met ↔ ∃ value ∈ values, Met value) : (values.isEmpty || met) ↔ SomeValue values Met := by
  rw [Bool.or_eq_true, List.isEmpty_iff, h]
  rfl

theorem matchHost_iff {reqHost reqHostNoPort : String} :
    matchHost S (processRoute S route) reqHost reqHostNoPort ↔ ∃ host ∈ configured route.hosts,
        HostAccepts S host reqHost ∨ HostAccepts S host reqHostNoPort := by
  simp only [matchHost, processRoute, plainHostsOf, wildcardHostsOf, Bool.or_eq_true,
    List.contains_iff_mem, List.mem_filter, List.mem_map, List.any_eq_true, List.mem_filterMap,
    Option.map_eq_some_iff, Fallible.toOption_eq_some, HostAccepts, PatternAccepts]
  constructor
  · rintro ((⟨⟨host, hHost, rfl⟩, hPlain⟩ | ⟨⟨host, hHost, rfl⟩, hPlain⟩) |
      ⟨_, ⟨_, ⟨⟨host, hHost, rfl⟩, hWild⟩, regex, hCompile, rfl⟩, hMatch⟩)
    · exact ⟨host, hHost, .inl (by simp_all)⟩
    · exact ⟨host, hHost, .inr (by simp_all)⟩
    · refine ⟨host, hHost, hMatch.imp ?_ ?_⟩ <;>
        exact fun h => by rw [if_pos hWild]; exact ⟨regex, hCompile, h⟩
  · rintro ⟨host, hHost, hAccepts⟩
    by_cases hWild : isWildcard (S.toLowercase host)
    · simp only [if_pos hWild] at hAccepts
      rcases hAccepts with ⟨regex, hCompile, hMatch⟩ | ⟨regex, hCompile, hMatch⟩
      · exact .inr ⟨_, ⟨_, ⟨⟨host, hHost, rfl⟩, hWild⟩, regex, hCompile, rfl⟩, .inl hMatch⟩
      · exact .inr ⟨_, ⟨_, ⟨⟨host, hHost, rfl⟩, hWild⟩, regex, hCompile, rfl⟩, .inr hMatch⟩
    · simp only [if_neg hWild] at hAccepts
      rcases hAccepts with rfl | rfl
      · exact .inl (.inl ⟨⟨host, hHost, rfl⟩, by simpa using hWild⟩)
      · exact .inl (.inr ⟨⟨host, hHost, rfl⟩, by simpa using hWild⟩)

theorem prefixMatches_iff {reqUri path : String} : prefixMatches reqUri path ↔ reqUri = path ∨
    path = "/" ∨ (Text.trimEndMatches '/' path ++ "/").toList <+: reqUri.toList := by
  simp [prefixMatches, Text.startsWith, or_left_comm, or_comm]

theorem matchUri_iff {reqUri : String} : matchUri S (processRoute S route) reqUri ↔
    ∃ path ∈ configured route.paths, PathAccepts S path reqUri := by
  simp only [matchUri, processRoute, regexPathsOf, prefixPathsOf, Bool.or_eq_true,
    List.any_eq_true, List.mem_filterMap, Option.map_eq_some_iff, Fallible.toOption_eq_some,
    List.mem_insertionSort, List.mem_filter, PathAccepts, PatternAccepts, prefixMatches_iff]
  constructor
  · rintro (⟨_, ⟨pattern, ⟨path, hPath, hPattern⟩, regex, hCompile, rfl⟩, hMatch⟩ |
      ⟨path, ⟨hPath, hPlain⟩, hMatch⟩)
    · refine ⟨path, hPath, ?_⟩
      rw [hPattern]
      exact ⟨regex, hCompile, hMatch⟩
    · refine ⟨path, hPath, ?_⟩
      rw [Option.isNone_iff_eq_none.mp hPlain]
      exact hMatch
  · rintro ⟨path, hPath, hAccepts⟩
    cases hPattern : regexPatternOf path with
    | some pattern =>
      rw [hPattern] at hAccepts
      obtain ⟨regex, hCompile, hMatch⟩ := hAccepts
      exact .inl ⟨_, ⟨pattern, ⟨path, hPath, hPattern⟩, regex, hCompile, rfl⟩, hMatch⟩
    | none =>
      rw [hPattern] at hAccepts
      exact .inr ⟨path, ⟨hPath, by rw [hPattern]; rfl⟩, hAccepts⟩

theorem regexPattern_iff {name given : String} {values : List String} :
    (∃ regex, (headerMatcherOf S name values).regexPattern = some regex ∧ S.isMatch regex given) ↔
      ∃ value ∈ values, ∃ pattern, Text.stripPrefix "~*" value = some pattern ∧
        PatternAccepts S pattern given ∧ IsKept values value := by
  simp only [headerMatcherOf, Option.bind_eq_some_iff, Fallible.toOption_eq_some]
  constructor
  · rintro ⟨regex, ⟨pattern, hLast, hCompile⟩, hMatch⟩
    obtain ⟨value, hValue, hPattern⟩ := List.mem_filterMap.mp (List.mem_of_getLast? hLast)
    refine ⟨value, hValue, pattern, hPattern, ⟨regex, hCompile, hMatch⟩, fun other hOther => ?_⟩
    rw [hLast, ← hPattern, hOther]
  · rintro ⟨value, -, pattern, hPattern, ⟨regex, hCompile, hMatch⟩, hKept⟩
    exact ⟨regex, ⟨pattern, hKept pattern hPattern, hCompile⟩, hMatch⟩

theorem matchHeaders_iff :
    matchHeaders S (processRoute S route) ctx.headers ↔ MeetsKept S route ctx := by
  simp only [matchHeaders, processRoute, List.all_map, List.all_eq_true, Function.comp]
  refine forall₂_congr fun entry _ => ?_
  have hName : (headerMatcherOf S entry.1 entry.2).name = S.toLowercase entry.1 := rfl
  rw [hName]
  cases ctx.headers.lookup (S.toLowercase entry.1) with
  | none => simp
  | some given =>
    have hRegex : (∃ regex, (headerMatcherOf S entry.1 entry.2).regexPattern = some regex ∧
        S.isMatch regex (S.toLowercase given)) ↔ _ := regexPattern_iff
    have hPlain : (headerMatcherOf S entry.1 entry.2).values.contains (S.toLowercase given) ↔
        ∃ value ∈ entry.2, Text.stripPrefix "~*" value = none ∧
          S.toLowercase value = S.toLowercase given := by
      simp [headerMatcherOf, and_assoc]
    have hAccepts : (∃ value ∈ entry.2, HeaderAccepts S value given ∧ IsKept entry.2 value) ↔
        (headerMatcherOf S entry.1 entry.2).values.contains (S.toLowercase given) ∨
          ∃ regex, (headerMatcherOf S entry.1 entry.2).regexPattern = some regex ∧
            S.isMatch regex (S.toLowercase given) := by
      rw [hPlain, hRegex, ← exists_or]
      refine exists_congr fun value => ?_
      unfold HeaderAccepts IsKept
      cases Text.stripPrefix "~*" value <;> simp
    simp only [Option.some.injEq, exists_eq_left', hAccepts, Bool.or_eq_true]
    cases (headerMatcherOf S entry.1 entry.2).regexPattern <;> simp

theorem matchProtocol_iff {scheme : String} : matchProtocol S (processRoute S route) scheme ↔
    SomeValue route.protocols (ProtocolAccepts · scheme) := by
  simp only [matchProtocol, processRoute, SomeValue, Bool.or_eq_true, List.isEmpty_iff,
    List.map_eq_nil_iff, List.any_map, List.any_eq_true, Function.comp]
  refine or_congr_right (exists_congr fun protocol => and_congr_right fun _ => ?_)
  unfold ProtocolAccepts
  cases protocol <;> simp [Protocol.toText]

theorem matchSni_iff : ((configured route.snis).isEmpty || matchSni S (processRoute S route) ctx) ↔
    IsWeb ctx ∨ MeetsSnis route ctx := by
  unfold matchSni IsWeb
  split
  · rename_i hScheme
    simp only [hScheme, false_or]
    refine unless_empty_iff ?_
    cases ctx.sni <;> simp [processRoute, eq_comm]
  · rename_i hScheme
    simp only [Bool.or_true, true_iff]
    tauto

theorem MeetsKept.headers (h : MeetsKept S route ctx) :
    ∀ entry ∈ (route.headers.getD ∅).entries, ∃ given,
      ctx.headers.lookup (S.toLowercase entry.1) = some given ∧
        ∃ value ∈ entry.2, HeaderAccepts S value given := by
  intro entry hEntry
  obtain ⟨given, hGiven, value, hValue, hAccepts, -⟩ := h entry hEntry
  exact ⟨given, hGiven, value, hValue, hAccepts⟩

/-- What the code reads of a route: the SNIs not over HTTP or HTTPS, and of the regular expressions
of a header the last one. -/
theorem accepts_iff : accepts S route ctx ↔
    MeetsOthers S route ctx ∧ MeetsKept S route ctx ∧ (IsWeb ctx ∨ MeetsSnis route ctx) := by
  obtain ⟨hHost, hHeader, hUri, hMethod, hSni⟩ := matchRules_processRoute S route
  have hMethods : (processRoute S route).methods.contains (S.toUppercase ctx.method) ↔
      ∃ method ∈ configured route.methods, S.toUppercase method = S.toUppercase ctx.method := by
    simp [processRoute]
  have hHeaders : ((route.headers.getD ∅).entries.isEmpty ||
      matchHeaders S (processRoute S route) ctx.headers) ↔ MeetsKept S route ctx := by
    rw [Bool.or_eq_true, List.isEmpty_iff, matchHeaders_iff, or_iff_right_of_imp]
    intro hNone entry hEntry
    rw [hNone] at hEntry
    exact absurd hEntry List.not_mem_nil
  unfold accepts matchRoute
  rw [hHost, hHeader, hUri, hMethod, hSni]
  simp only [Bool.and_eq_true, unless_empty_iff matchHost_iff, hHeaders,
    unless_empty_iff matchUri_iff, unless_empty_iff hMethods, matchSni_iff, matchProtocol_iff]
  constructor
  · rintro ⟨⟨⟨⟨⟨hosts, kept⟩, paths⟩, methods⟩, snis⟩, protocols⟩
    exact ⟨⟨hosts, kept.headers, paths, methods, protocols⟩, kept, snis⟩
  · rintro ⟨⟨hosts, -, paths, methods, protocols⟩, kept, snis⟩
    exact ⟨⟨⟨⟨⟨hosts, kept⟩, paths⟩, methods⟩, snis⟩, protocols⟩

/-- A route accepts what meets each of its dimensions just if, for a request that meets the others,
the code reads the headers and the SNIs as they are: a request over HTTP or HTTPS meets the SNIs and
no header by a lost regular expression alone, or it misses both. -/
theorem accepts_iff_meets_iff (S : TextServices) (route : Route) (ctx : RequestContext) :
    (accepts S route ctx ↔ Meets S route ctx) ↔ (MeetsOthers S route ctx →
      (MeetsSnis route ctx → MeetsKept S route ctx) ∧
        (IsWeb ctx → MeetsKept S route ctx → MeetsSnis route ctx)) := by
  have hMeets : Meets S route ctx ↔ MeetsOthers S route ctx ∧ MeetsSnis route ctx :=
    ⟨fun h => ⟨h.toMeetsOthers, h.snis⟩, fun h => ⟨h.1, h.2⟩⟩
  rw [accepts_iff, hMeets]
  tauto

end Dimensions

/-! ## Samples -/

/-- Regular expressions that accept their own text. -/
def literalServices : TextServices :=
  ⟨id, id, String, .ok, fun regex text => regex == text, fun _ _ => none, fun _ => []⟩

def sampleHeaders (values : List String) : Route :=
  { Route.default 1 with headers := some (AList.singleton "x-env" values) }

def sampleRequest (scheme : String) : RequestContext :=
  ⟨"GET", "/", "a.example", scheme, AList.singleton "x-env" "blue", some "b.example"⟩

/-- HTTPS does not look at the SNI, and of two regular expressions the first is lost. -/
theorem sni_and_first_regex_unread :
    (accepts literalServices { Route.default 1 with snis := some ["a.example"] }
        (sampleRequest "https") ∧
      ¬ Meets literalServices { Route.default 1 with snis := some ["a.example"] }
        (sampleRequest "https")) ∧
    ¬ accepts literalServices (sampleHeaders ["~*blue", "~*green"]) (sampleRequest "https") ∧
      Meets literalServices (sampleHeaders ["~*blue", "~*green"]) (sampleRequest "https") := by
  refine ⟨⟨by decide, fun h => ?_⟩, by decide, ⟨⟨.inl rfl, ?_, .inl rfl, .inl rfl, ?_⟩, .inl rfl⟩⟩
  · have hUnmet : ∀ sni ∈ ["a.example"],
        (sampleRequest "https").sni ≠ some (Text.trimEndMatches '.' sni) := by decide
    rcases h.snis with hNone | ⟨sni, hSni, hMet⟩
    · cases hNone
    · exact hUnmet sni hSni hMet
  · intro entry hEntry
    rw [List.mem_singleton.mp hEntry]
    exact ⟨"blue", rfl, "~*blue", List.mem_cons_self, "blue", rfl, rfl⟩
  · exact .inr ⟨.https, by decide, .inl rfl⟩

end KongRust.Router.Traditional

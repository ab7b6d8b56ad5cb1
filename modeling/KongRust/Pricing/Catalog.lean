import Mathlib.Data.List.Sort
import KongRust.Foundation.Decimal
import KongRust.Foundation.Grouping
import KongRust.Foundation.Text

/-!
# The price catalog

The loader of the static price table and the lookup of an entry (`usage/pricing.rs`). An entry is
in force from its first instant up to its end, which is not included; an entry without an end is in
force at every later instant, the last one there is among them.
-/

namespace KongRust.Pricing

/-! ## Times -/

def MIN_UTC_NANOS : Int := -8334601228800000000000

def MAX_UTC_NANOS : Int := 8210266876799999999999

/-- `DateTime<Utc>`, in nanoseconds since 1970. -/
structure DateTime where
  nanos : Int
  inRange : MIN_UTC_NANOS ≤ nanos ∧ nanos ≤ MAX_UTC_NANOS
  deriving DecidableEq

namespace DateTime

def MAX_UTC : DateTime := ⟨MAX_UTC_NANOS, by decide⟩

instance : LE DateTime := ⟨fun a b => a.nanos ≤ b.nanos⟩

instance : LT DateTime := ⟨fun a b => a.nanos < b.nanos⟩

instance (a b : DateTime) : Decidable (a ≤ b) := inferInstanceAs (Decidable (a.nanos ≤ b.nanos))

instance (a b : DateTime) : Decidable (a < b) := inferInstanceAs (Decidable (a.nanos < b.nanos))

variable {a b : DateTime}

theorem le_def : a ≤ b ↔ a.nanos ≤ b.nanos := Iff.rfl

theorem lt_def : a < b ↔ a.nanos < b.nanos := Iff.rfl

theorem le_max (a : DateTime) : a ≤ MAX_UTC := a.inRange.2

theorem eq_max_of_not_lt (h : ¬ a < MAX_UTC) : a = MAX_UTC := by
  have hLe := a.le_max
  rw [le_def] at hLe
  rw [lt_def] at h
  obtain ⟨nanos, hRange⟩ := a
  have hNanos : nanos = MAX_UTC.nanos := by
    dsimp only at hLe h
    omega
  subst hNanos
  rfl

end DateTime

/-- `NaiveDate`, in days. -/
abbrev NaiveDate := Int

/-! ## Entries -/

structure PriceConditions where
  maxPromptTokens : Option Int
  deriving DecidableEq

structure PriceEntry where
  providerType : String
  modelIds : List String
  aliases : List String
  prefixes : List String
  input : Decimal
  output : Decimal
  effectiveFrom : DateTime
  effectiveTo : Option DateTime
  conditions : PriceConditions
  sourceUrl : String
  deriving DecidableEq

variable (entry : PriceEntry)

/-- The filter of `active_entries`. -/
def PriceEntry.active (entry : PriceEntry) (providerType : String) (startedAt : DateTime) : Bool :=
  entry.providerType = providerType ∧ entry.effectiveFrom ≤ startedAt ∧
    entry.effectiveTo.all fun effectiveTo => startedAt < effectiveTo

def PriceEntry.matchers (entry : PriceEntry) : List String :=
  entry.modelIds ++ entry.aliases ++ entry.prefixes

/-! ## The lookup -/

/-- One turn of the loop over the prefixes: a longer match replaces the one so far. -/
def considerPrefix (model : String) (entry : PriceEntry) (best : Option (PriceEntry × Nat))
    (pre : String) : Option (PriceEntry × Nat) :=
  if Text.startsWith model pre ∧ best.all fun current => current.2 < Text.len pre then
    some (entry, Text.len pre)
  else best

def prefixMatch (model : String) (active : List PriceEntry) : Option (PriceEntry × Nat) :=
  active.foldl (fun best entry => entry.prefixes.foldl (considerPrefix model entry) best) none

def findEntry (entries : List PriceEntry) (providerType model : String) (startedAt : DateTime) :
    Option PriceEntry :=
  let active := entries.filter fun entry => entry.active providerType startedAt
  match active.find? fun entry => model ∈ entry.modelIds with
  | some entry => some entry
  | none =>
    match active.find? fun entry => model ∈ entry.aliases with
    | some entry => some entry
    | none => (prefixMatch model active).map Prod.fst

/-! ## The check for conflicts -/

inductive MatcherKind where
  | id
  | alias
  | ofPrefix
  deriving DecidableEq

def MatcherKind.text : MatcherKind → String
  | .id => "id"
  | .alias => "alias"
  | .ofPrefix => "prefix"

def periodsOverlap (left right : PriceEntry) : Bool :=
  left.effectiveFrom < right.effectiveTo.getD DateTime.MAX_UTC ∧
    right.effectiveFrom < left.effectiveTo.getD DateTime.MAX_UTC

/-- What an entry adds to `matchers`. -/
def PriceEntry.keyed (entry : PriceEntry) :
    List ((String × String) × (MatcherKind × PriceEntry)) :=
  entry.modelIds.map (fun model => ((entry.providerType, model), (.id, entry))) ++
    entry.aliases.map (fun name => ((entry.providerType, name), (.alias, entry))) ++
    entry.prefixes.map (fun pre => ((entry.providerType, pre), (.ofPrefix, entry)))

/-- The order of the keys of a `BTreeMap`. -/
def keyLe (a b : String × String) : Bool := a.1 < b.1 ∨ (a.1 = b.1 ∧ a.2 ≤ b.2)

/-- The map of `validate_conflicts`, in the order of its keys. -/
def matcherGroups (entries : List PriceEntry) :
    List ((String × String) × List (MatcherKind × PriceEntry)) :=
  (Grouping.group (entries.flatMap PriceEntry.keyed)).mergeSort fun a b => keyLe a.1 b.1

def firstOverlap : List (MatcherKind × PriceEntry) → Option (MatcherKind × MatcherKind)
  | [] => none
  | (leftKind, left) :: rest =>
    match rest.find? fun right => periodsOverlap left right.2 with
    | some right => some (leftKind, right.1)
    | none => firstOverlap rest

def conflictText (key : String × String) (kinds : MatcherKind × MatcherKind) : String :=
  key.1 ++ " 的 " ++ kinds.1.text ++ "/" ++ kinds.2.text ++ " 匹配器 " ++ key.2 ++ " 在有效期内冲突"

def validateConflicts (entries : List PriceEntry) : Except String Unit :=
  match (matcherGroups entries).findSome? fun candidates =>
    (firstOverlap candidates.2).map (conflictText candidates.1) with
  | some conflict => .error conflict
  | none => .ok ()

/-! ## The loader -/

/-- The parsers of other libraries that the loader calls. -/
structure PriceLibrary (RawCatalog : Type) where
  /-- `serde_json::from_str`. -/
  catalogFromStr : String → Except String RawCatalog
  /-- `NaiveDate::parse_from_str` with `%Y-%m-%d`. -/
  dateFromStr : String → Except String NaiveDate
  /-- `Decimal::from_str`. -/
  decimalFromStr : String → Except String Decimal
  /-- `str::parse` of a `DateTime<Utc>`. -/
  dateTimeFromStr : String → Except String DateTime

structure RawPriceEntry where
  providerType : String
  modelIds : List String
  aliases : List String
  prefixes : List String
  inputUsdPerMillion : String
  outputUsdPerMillion : String
  effectiveFrom : DateTime
  effectiveTo : Option DateTime
  conditions : PriceConditions
  sourceUrl : String

structure RawCatalog where
  schemaVersion : UInt32
  catalogVersion : String
  snapshotDate : String
  entries : List RawPriceEntry

structure PriceCatalog where
  schemaVersion : UInt32
  catalogVersion : String
  snapshotDate : NaiveDate
  entries : List PriceEntry

/-- An entry that the built-in table has to have. -/
structure RequiredPriceSpec where
  providerType : String
  modelId : String
  aliases : List String
  input : String
  output : String
  effectiveFrom : String
  effectiveTo : Option String
  maxPromptTokens : Option Int
  sourceUrl : String

def SONNET_5_PRICE_SWITCH : String := "2026-09-01T00:00:00Z"

def FIRST_DAY : String := "2026-07-26T00:00:00Z"

def OPENAI_URL : String := "https://developers.openai.com/api/docs/models"

def ANTHROPIC_URL : String := "https://platform.claude.com/docs/en/about-claude/pricing"

def GEMINI_URL : String := "https://ai.google.dev/gemini-api/docs/pricing"

def REQUIRED_PRICE_SPECS : List RequiredPriceSpec := [
  ⟨"openai", "gpt-5.6-sol", ["gpt-5.6"], "5.000000000000", "30.000000000000", FIRST_DAY, none,
    some 272000, OPENAI_URL⟩,
  ⟨"openai", "gpt-5.6-terra", [], "2.500000000000", "15.000000000000", FIRST_DAY, none,
    some 272000, OPENAI_URL⟩,
  ⟨"openai", "gpt-5.6-luna", [], "1.000000000000", "6.000000000000", FIRST_DAY, none,
    some 272000, OPENAI_URL⟩,
  ⟨"anthropic", "claude-fable-5", [], "10.000000000000", "50.000000000000", FIRST_DAY, none, none,
    ANTHROPIC_URL⟩,
  ⟨"anthropic", "claude-opus-4-8", [], "5.000000000000", "25.000000000000", FIRST_DAY, none, none,
    ANTHROPIC_URL⟩,
  ⟨"anthropic", "claude-sonnet-5", [], "2.000000000000", "10.000000000000", FIRST_DAY,
    some SONNET_5_PRICE_SWITCH, none, ANTHROPIC_URL⟩,
  ⟨"anthropic", "claude-sonnet-5", [], "3.000000000000", "15.000000000000", SONNET_5_PRICE_SWITCH,
    none, none, ANTHROPIC_URL⟩,
  ⟨"anthropic", "claude-haiku-4-5-20251001", ["claude-haiku-4-5"], "1.000000000000",
    "5.000000000000", FIRST_DAY, none, none, ANTHROPIC_URL⟩,
  ⟨"gemini", "gemini-3.6-flash", [], "1.500000000000", "7.500000000000", FIRST_DAY, none, none,
    GEMINI_URL⟩,
  ⟨"gemini", "gemini-3.5-flash", [], "1.500000000000", "9.000000000000", FIRST_DAY, none, none,
    GEMINI_URL⟩,
  ⟨"gemini", "gemini-3.5-flash-lite", [], "0.300000000000", "2.500000000000", FIRST_DAY, none,
    none, GEMINI_URL⟩]

section Loader

variable (library : PriceLibrary RawCatalog)

def MAX_NUMERIC_28_12 : String := "9999999999999999.999999999999"

/-- `<=` of decimals: the numbers are compared, not their digits. -/
def decimalLe (a b : Decimal) : Bool := a.mantissa * 10 ^ b.scale ≤ b.mantissa * 10 ^ a.scale

/-- `==` of decimals. -/
def decimalEq (a b : Decimal) : Bool := decimalLe a b && decimalLe b a

def fitsNumeric2812 (value : Decimal) : Bool :=
  decimalLe Decimal.ZERO value && decide (value.scale ≤ 12) &&
    match library.decimalFromStr MAX_NUMERIC_28_12 with
    | .ok maximum => decimalLe value maximum
    | .error _ => false

def parseRate (value : String) : Except String Decimal := do
  let parsed ← (library.decimalFromStr value).mapError fun error =>
    "无效的 Decimal 价格 " ++ value ++ ": " ++ error
  if fitsNumeric2812 library parsed then return parsed
  else throw ("价格不在 NUMERIC(28,12) 范围内: " ++ value)

def trimmed (text : String) : List Char := Text.trim text.toList

/-- `eq_ignore_ascii_case` with a text in lower case. -/
def eqIgnoreAsciiCase (text lower : String) : Bool :=
  text.toList.map Char.toLower = lower.toList

def endsWith (text suffix : String) : Bool := suffix.toList.isSuffixOf text.toList

def validateMatchers (entry : RawPriceEntry) : Except String Unit := do
  if trimmed entry.providerType = [] then throw "provider_type 不能为空"
  if entry.modelIds = [] ∧ entry.aliases = [] ∧ entry.prefixes = [] then
    throw "每条价目至少需要一个模型匹配器"
  for name in entry.aliases do
    if Text.contains '*' name ∨ eqIgnoreAsciiCase name "latest" ∨ endsWith name "-latest" then
      throw ("不允许动态或 wildcard alias: " ++ name)
  if entry.prefixes.any (· = "") then throw "prefix 不能为空"

/-- One turn of the loop over the raw entries. -/
def loadEntry (raw : RawPriceEntry) : Except String PriceEntry := do
  validateMatchers raw
  if trimmed raw.sourceUrl = [] then throw "价目 source_url 不能为空"
  if raw.effectiveTo.any fun finish => finish ≤ raw.effectiveFrom then
    throw "价目 effective_to 必须晚于 effective_from"
  let input ← parseRate library raw.inputUsdPerMillion
  let output ← parseRate library raw.outputUsdPerMillion
  if raw.conditions.maxPromptTokens.any (· < 0) then throw "max_prompt_tokens 不能为负数"
  return ⟨raw.providerType, raw.modelIds, raw.aliases, raw.prefixes, input, output,
    raw.effectiveFrom, raw.effectiveTo, raw.conditions, raw.sourceUrl⟩

def parseRequiredTimestamp (value : String) : Except String DateTime :=
  (library.dateTimeFromStr value).mapError fun error =>
    "内置价表校验时间 " ++ value ++ " 无效: " ++ error

/-- `Debug` of an optional integer. -/
def debugOption : Option Int → String
  | none => "None"
  | some n => "Some(" ++ toString n ++ ")"

variable (required : RequiredPriceSpec)

def RequiredPriceSpec.label (required : RequiredPriceSpec) : String :=
  required.providerType ++ "/" ++ required.modelId

def RequiredPriceSpec.dated (required : RequiredPriceSpec) : String :=
  required.label ++ "@" ++ required.effectiveFrom

variable (entries : List PriceEntry)

/-- One turn of the loop over the required entries. -/
def validateRequired (entries : List PriceEntry) (required : RequiredPriceSpec) :
    Except String Unit := do
  let effectiveFrom ← parseRequiredTimestamp library required.effectiveFrom
  let effectiveTo ← required.effectiveTo.mapM (parseRequiredTimestamp library)
  let input ← parseRate library required.input
  let output ← parseRate library required.output
  match entries.find? fun entry => entry.providerType = required.providerType ∧
    required.modelId ∈ entry.modelIds ∧ entry.effectiveFrom = effectiveFrom with
  | none => throw ("内置价表缺少必需价目 " ++ required.dated)
  | some entry =>
    if !decimalEq entry.input input || !decimalEq entry.output output then
      throw ("内置价目 " ++ required.dated ++ " 单价必须为 input=" ++ required.input ++ "、output=" ++
        required.output)
    if entry.effectiveTo ≠ effectiveTo then
      throw ("内置价目 " ++ required.dated ++ " 的 effective_to 必须为 " ++
        required.effectiveTo.getD "null")
    if entry.conditions.maxPromptTokens ≠ required.maxPromptTokens then
      throw ("内置价目 " ++ required.dated ++ " 的 max_prompt_tokens 必须为 " ++
        debugOption required.maxPromptTokens)
    for name in required.aliases do
      if name ∉ entry.aliases then
        throw ("内置价目 " ++ required.label ++ " 缺少必需 alias " ++ name)
    if entry.prefixes ≠ [] then
      throw ("首版内置价目 " ++ required.label ++ " 不允许 prefix")
    if entry.sourceUrl ≠ required.sourceUrl then
      throw ("内置价目 " ++ required.label ++ " 的 source_url 必须为 " ++ required.sourceUrl)

def validateRequiredEntries (entries : List PriceEntry) : Except String Unit := do
  for required in REQUIRED_PRICE_SPECS do
    validateRequired library entries required
  let sonnet := entries.filter fun entry =>
    entry.providerType = "anthropic" ∧ "claude-sonnet-5" ∈ entry.modelIds
  match sonnet.mergeSort fun a b => a.effectiveFrom ≤ b.effectiveFrom with
  | [first, second] =>
    let switch ← parseRequiredTimestamp library SONNET_5_PRICE_SWITCH
    if first.effectiveTo ≠ some switch ∨ second.effectiveFrom ≠ switch ∨
        first.effectiveTo ≠ some second.effectiveFrom then
      throw ("claude-sonnet-5 必须在 " ++ SONNET_5_PRICE_SWITCH ++ " 无缝切换")
  | _ => throw "claude-sonnet-5 必须包含切换边界前后两条价目"

/-- `PriceCatalog::from_json`. -/
def fromJson (json : String) : Except String PriceCatalog := do
  let raw ← (library.catalogFromStr json).mapError fun error => "价表 JSON 无效: " ++ error
  if raw.schemaVersion ≠ 1 then
    throw ("不支持的价表 schema_version: " ++ toString raw.schemaVersion)
  if trimmed raw.catalogVersion = [] then throw "catalog_version 不能为空"
  let snapshotDate ← (library.dateFromStr raw.snapshotDate).mapError fun error =>
    "snapshot_date 无效: " ++ error
  if raw.entries = [] then throw "价表 entries 不能为空"
  let entries ← raw.entries.mapM (loadEntry library)
  validateConflicts entries
  validateRequiredEntries library entries
  return ⟨raw.schemaVersion, raw.catalogVersion, snapshotDate, entries⟩

end Loader

theorem validateConflicts_of_fromJson {library : PriceLibrary RawCatalog} {json : String}
    {catalog : PriceCatalog} (h : fromJson library json = .ok catalog) :
    validateConflicts catalog.entries = .ok () := by
  unfold fromJson at h
  simp only [bind, Except.bind, pure, Except.pure, throw, throwThe, MonadExceptOf.throw] at h
  repeat' split at h
  all_goals first
    | cases h; done
    | skip
  next hConflicts _ _ _ =>
    cases h
    exact hConflicts

/-! ## What the check finds -/

section Conflicts

variable {entries : List PriceEntry}

theorem firstOverlap_eq_none {candidates : List (MatcherKind × PriceEntry)} :
    firstOverlap candidates = none ↔
      candidates.Pairwise fun left right => periodsOverlap left.2 right.2 = false := by
  induction candidates with
  | nil => simp [firstOverlap]
  | cons left rest ih =>
    obtain ⟨leftKind, left⟩ := left
    unfold firstOverlap
    rw [List.pairwise_cons, ← ih]
    cases hFind : rest.find? fun right => periodsOverlap left right.2 with
    | some right =>
      have hOverlap := List.find?_some hFind
      have hMem := List.mem_of_find?_eq_some hFind
      simp only [reduceCtorEq, false_iff, not_and]
      intro hAll
      rw [hAll right hMem] at hOverlap
      cases hOverlap
    | none =>
      rw [List.find?_eq_none] at hFind
      simp only [Bool.not_eq_true] at hFind
      simp only [iff_and_self]
      exact fun _ => hFind

/-- A catalog is accepted when no two matchers of one provider and one text are in force at
once. -/
theorem validateConflicts_ok : validateConflicts entries = .ok () ↔
      (entries.flatMap PriceEntry.keyed).Pairwise fun left right =>
        left.1 = right.1 → periodsOverlap left.2.2 right.2.2 = false := by
  have hGroups : validateConflicts entries = .ok () ↔
      ∀ key candidates, (key, candidates) ∈ Grouping.group (entries.flatMap PriceEntry.keyed) →
        firstOverlap candidates = none := by
    unfold validateConflicts
    cases hFind : (matcherGroups entries).findSome? fun candidates =>
      (firstOverlap candidates.2).map (conflictText candidates.1) with
    | some conflict =>
      obtain ⟨candidates, hMem, hSome⟩ := List.exists_of_findSome?_eq_some hFind
      simp only [reduceCtorEq, false_iff, not_forall]
      refine ⟨candidates.1, candidates.2, List.mem_mergeSort.mp hMem, fun hNone => ?_⟩
      rw [hNone] at hSome
      cases hSome
    | none =>
      rw [List.findSome?_eq_none_iff] at hFind
      simp only [true_iff]
      intro key candidates hMem
      exact Option.map_eq_none_iff.mp (hFind (key, candidates) (List.mem_mergeSort.mpr hMem))
  rw [hGroups]
  generalize entries.flatMap PriceEntry.keyed = pairs
  have hValues : (∀ key candidates, (key, candidates) ∈ Grouping.group pairs →
      firstOverlap candidates = none) ↔ ∀ key, pairs.Pairwise fun left right =>
        left.1 = key → right.1 = key → periodsOverlap left.2.2 right.2.2 = false := by
    constructor
    · intro h key
      by_cases hKey : key ∈ pairs.map Prod.fst
      · have hNone := h key _ (Grouping.mem_group_iff.mpr ⟨hKey, rfl⟩)
        rw [firstOverlap_eq_none, Grouping.valuesOf, List.pairwise_map, List.pairwise_filter]
          at hNone
        simpa using hNone
      · refine List.pairwise_iff_getElem.mpr fun i j hi hj hij hLeft => ?_
        exact absurd (List.mem_map.mpr ⟨_, List.getElem_mem hi, hLeft⟩) hKey
    · intro h key candidates hMem
      obtain ⟨-, rfl⟩ := Grouping.mem_group_iff.mp hMem
      rw [firstOverlap_eq_none, Grouping.valuesOf, List.pairwise_map, List.pairwise_filter]
      simpa using h key
  rw [hValues]
  simp only [List.pairwise_iff_getElem]
  constructor
  · intro h i j hi hj hij hKey
    exact h _ i j hi hj hij rfl hKey.symm
  · intro h key i j hi hj hij hLeft hRight
    exact h i j hi hj hij (hLeft.trans hRight.symm)

theorem mem_keyed {entry : PriceEntry} {matcher : String} (h : matcher ∈ entry.matchers) :
    ∃ kind, ((entry.providerType, matcher), (kind, entry)) ∈ entry.keyed := by
  unfold PriceEntry.matchers at h
  unfold PriceEntry.keyed
  rcases List.mem_append.mp h with hFront | hPrefix
  · rcases List.mem_append.mp hFront with hId | hAlias
    · exact ⟨.id, by simp [hId]⟩
    · exact ⟨.alias, by simp [hAlias]⟩
  · exact ⟨.ofPrefix, by simp [hPrefix]⟩

theorem pairwise_of_validateConflicts (h : validateConflicts entries = .ok ()) :
    entries.Pairwise fun left right => left.providerType = right.providerType →
      ∀ matcher ∈ left.matchers, matcher ∈ right.matchers →
        periodsOverlap left right = false := by
  rw [validateConflicts_ok, List.pairwise_flatMap] at h
  refine h.2.imp fun hApart hProvider matcher hLeft hRight => ?_
  obtain ⟨leftKind, hLeft⟩ := mem_keyed hLeft
  obtain ⟨rightKind, hRight⟩ := mem_keyed hRight
  exact hApart _ hLeft _ hRight (by rw [hProvider])

end Conflicts

end KongRust.Pricing

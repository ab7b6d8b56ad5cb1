import KongRust.Admin.Listing

/-!
# Following the links

A link of the DAO leads to the top-level collection of its table, if there is one under that name.
Where the link of a list leads back to the same rows, the pages are these rows one after the other.
-/

namespace KongRust.Admin

open Storage (KongError)

/-! ## Texts that are read back -/

theorem encodeTagsParam_alphanum {s : String} (h : ∀ c ∈ s.toList, c.isAlphanum) :
    encodeTagsParam s = s := by
  have hSame : (s.toList.flatMap fun c =>
      if c ∈ ['/', ',', '-', '_', '.', '~'] ∨ c.isAlphanum then [c]
      else (String.utf8EncodeChar c).flatMap fun b =>
        ['%', hexDigit (b.toNat / 16), hexDigit (b.toNat % 16)]) =
      s.toList.flatMap fun c => [c] := by
    apply List.flatMap_congr
    intro c hC
    rw [if_pos (.inr (h c hC))]
  unfold encodeTagsParam
  rw [hSame, List.flatMap_singleton', String.ofList_toList]

variable {n : Nat}

theorem isDigit_repr : ∀ c ∈ n.repr.toList, c.isDigit := by
  intro c hC
  rw [Nat.toList_repr] at hC
  exact Nat.isDigit_of_mem_toDigits (by decide) (by decide) hC

theorem parseUsize_repr (h : n < 2 ^ 64) : parseUsize n.repr = some n := by
  have hSign : n.repr.toList.head? ≠ some '+' := by
    intro hHead
    have hPlus := isDigit_repr _ (List.mem_of_head? hHead)
    exact absurd hPlus (by decide)
  have hValue : Nat.ofDigitChars 10 n.repr.toList 0 = n := by
    rw [Nat.toList_repr, Nat.ofDigitChars_ten_toDigits]
  unfold parseUsize
  dsimp only
  rw [if_neg hSign, hValue, if_pos]
  refine ⟨?_, isDigit_repr, h⟩
  rw [Nat.toList_repr]
  exact Nat.toDigits_ne_nil

theorem encode_repr (n : Nat) : encodeTagsParam n.repr = n.repr := by
  apply encodeTagsParam_alphanum
  intro c hC
  simp [Char.isAlphanum, isDigit_repr c hC]

theorem encode_encodeOffset (id : Uuid) : encodeTagsParam (encodeOffset id) = encodeOffset id :=
  encodeTagsParam_alphanum (encodeOffset_alphanum id)

theorem utf8Size_of_alphanum {c : Char} (h : c.isAlphanum) : c.utf8Size = 1 := by
  rw [Char.utf8Size_eq_one_iff]
  simp only [Char.isAlphanum, Char.isAlpha, Char.isUpper, Char.isLower, Char.isDigit,
    Bool.or_eq_true, Bool.and_eq_true, decide_eq_true_eq, UInt32.le_iff_toNat_le] at h ⊢
  have hBounds : ('Z'.val).toNat = 90 ∧ ('z'.val).toNat = 122 ∧ ('9'.val).toNat = 57 ∧
      (127 : UInt32).toNat = 127 := by decide
  omega

theorem length_encodeOffset (id : Uuid) : 4 ≤ (encodeOffset id).toList.length := by
  have hBytes (a b c : String) : Text.asBytes (a ++ b ++ c) =
      Text.asBytes a ++ Text.asBytes b ++ Text.asBytes c := by
    simp [Text.asBytes, List.flatMap_append]
  have hEnds : (Text.asBytes "[\x22").length = 2 ∧ (Text.asBytes "\x22]").length = 2 := by decide
  have hSymbols := Base64.length_le_encodeSymbols
    ((Text.asBytes ("[\x22" ++ Uuid.text id ++ "\x22]")).map UInt8.toNat)
  rw [List.length_map, hBytes, List.length_append, List.length_append] at hSymbols
  unfold encodeOffset Base64.encode
  rw [String.toList_ofList, hBytes]
  omega

theorem validateOffset_token {params : ListParams} {id : Uuid}
    (h : params.offset = some (encodeOffset id)) : validateOffset params = .ok () := by
  have hAlphanum := encodeOffset_alphanum id
  have hLong := length_encodeOffset id
  have hLen : Text.len (encodeOffset id) = (encodeOffset id).toList.length := by
    rw [String.length_toList]
    exact Text.len_of_ascii fun c hC => utf8Size_of_alphanum (hAlphanum c hC)
  have hTrim : Text.trimEndMatches '=' (encodeOffset id) = encodeOffset id := by
    apply Text.trimEndMatches_of_not_mem
    intro hMem
    exact absurd (hAlphanum '=' hMem) (by decide)
  unfold validateOffset
  rw [h]
  dsimp only
  rw [hTrim, if_pos]
  exact ⟨by omega, fun c hC => .inl (hAlphanum c hC), by omega⟩

/-! ## Links -/

def linkTags (tags : Option String) : Option String := tags.filter fun tags => !tags.isEmpty

/-- The link of a table's DAO, with the tags that a response builder adds. -/
def tableLink (type : EntityType) (size : Nat) (tags : Option String) (id : Uuid) : String :=
  match linkTags tags with
  | some tags => nextUrl type size (encodeOffset id) ++ "&tags=" ++ encodeTagsParam tags
  | none => nextUrl type size (encodeOffset id)

def pathLink (path : String) (id : Uuid) : String :=
  Text.trimEndMatches '/' path ++ "?offset=" ++ encodeOffset id

/-- An answer with the rows of a query and the link to its next page. -/
def respond (link : Uuid → String) (found : Paging.Page Row Uuid) : Response :=
  ⟨found.data, found.offset.map link, found.offset.map encodeOffset⟩

def linked (size : Nat) (tags : Option String) (id : Uuid) : ListParams where
  size := if size ≠ 100 then some (toString size) else none
  offset := some (encodeOffset id)
  tags := linkTags tags
  customId := none
  username := none

def linkQuery (size : Nat) (tags : Option String) (id : Uuid) : List (String × String) :=
  ("offset", encodeOffset id) ::
    ((if size ≠ 100 then [("size", toString size)] else []) ++
      ((linkTags tags).map fun tags => ("tags", tags)).toList)

theorem buildPage_respond (type : EntityType) (size : Nat) (tags : Option String)
    (found : Paging.Page Row Uuid) :
    buildPageResponseWithTags (.ofQuery type size found) tags =
      respond (tableLink type size tags) found := by
  unfold buildPageResponseWithTags Page.ofQuery respond
  cases hOffset : found.offset with
  | none => rfl
  | some id =>
    cases tags with
    | none => rfl
    | some tags =>
      by_cases hEmpty : tags.isEmpty
      · simp [tableLink, linkTags, Option.filter, hEmpty]
      · simp [tableLink, linkTags, Option.filter, hEmpty]

theorem buildNested_respond (type : EntityType) (size : Nat) (path : String)
    (found : Paging.Page Row Uuid) :
    buildNestedPageResponse (.ofQuery type size found) (Text.trimEndMatches '/' path) =
      respond (pathLink path) found := by
  unfold buildNestedPageResponse Page.ofQuery respond
  cases hOffset : found.offset <;> rfl

theorem tableLink_eq (type : EntityType) (size : Nat) (tags : Option String) (id : Uuid) :
    tableLink type size tags id =
      "/" ++ type.tableName ++ "?" ++ queryText (linkQuery size tags id) := by
  have hDefault : PageParams.default.size = 100 := rfl
  unfold tableLink nextUrl linkQuery queryText
  rw [hDefault]
  cases linkTags tags with
  | none | some t =>
    by_cases hSize : size = 100
    · simp [hSize, Text.join, encode_encodeOffset, ← String.toList_inj]
    · simp [hSize, Text.join, encode_encodeOffset, encode_repr, ← String.toList_inj]

theorem pathLink_eq (path : String) (id : Uuid) : pathLink path id =
      Text.trimEndMatches '/' path ++ "?" ++ queryText (linkQuery 100 none id) := by
  simp [pathLink, linkQuery, linkTags, queryText, Text.join, encode_encodeOffset,
    ← String.toList_inj]

theorem linkQuery_names (size : Nat) (tags : Option String) (id : Uuid) :
    ∀ entry ∈ linkQuery size tags id, ∀ c ∈ entry.1.toList, c.isLower ∨ c = '_' := by
  have hNames : ["offset", "size", "tags"].all fun name => name.toList.all Char.isLower := by decide
  intro entry hEntry c hC
  have hName : entry.1 ∈ ["offset", "size", "tags"] := by
    unfold linkQuery at hEntry
    simp only [List.mem_cons, List.mem_append] at hEntry
    obtain rfl | hSize | hTags := hEntry
    · exact List.mem_cons_self
    · split at hSize
      · rw [List.mem_singleton.mp hSize]
        simp
      · cases hSize
    · obtain ⟨t, -, rfl⟩ := Option.map_eq_some_iff.mp (Option.mem_toList.mp hTags)
      simp
  exact .inl (List.all_eq_true.mp (List.all_eq_true.mp hNames _ hName) c hC)

theorem ofQuery_linkQuery (size : Nat) (tags : Option String) (id : Uuid) :
    ListParams.ofQuery (linkQuery size tags id) = some (linked size tags id) := by
  unfold linkQuery linked
  cases linkTags tags with
  | none | some t =>
    by_cases hSize : size = 100
    · simp [hSize, ListParams.ofQuery]
    · simp [hSize, ListParams.ofQuery]

theorem linked_size {size : Nat} (h : size ≤ 1000) (tags : Option String) (id : Uuid) :
    (linked size tags id).toPageParams.size = size := by
  unfold linked ListParams.toPageParams
  by_cases hSize : size = 100
  · simp [hSize]
  · have hParse : parseUsize size.repr = some size := parseUsize_repr (by omega)
    simp [hSize, hParse, h]

/-! ## Where a link leads -/

def EntityType.underOwnName : EntityType → Bool
  | .targets | .vaults | .keySets | .aiProviders | .aiModels | .aiVirtualKeys => false
  | _ => true

theorem lookup_tableName (type : EntityType) :
    topLevel.lookup type.tableName = if type.underOwnName then some type else none := by
  cases type <;> rfl

theorem routeOf_table (type : EntityType) :
    routeOf ("/" ++ type.tableName) = (topLevel.lookup type.tableName).map .top := by
  cases type <;> rfl

def tagParams (tags : Option String) : ListParams := ⟨none, none, linkTags tags, none, none⟩

def tagged (store : Store) (type : EntityType) (tags : Option String) : List Row :=
  (store type).filter ((tagParams tags).toPageParams.selects type)

theorem linkTags_idem (tags : Option String) : linkTags (linkTags tags) = linkTags tags := by
  unfold linkTags
  rw [Option.filter_filter]
  simp

section Serving

variable {library : OffsetLibrary} {targets : TargetLibrary} {store : Store}

theorem validateSize_linked (size : Nat) (h : size ≤ 1000) (tags : Option String) (id : Uuid) :
    validateSize (linked size tags id) = .ok () := by
  unfold validateSize linked
  by_cases hSize : size = 100
  · simp [hSize]
  · have hParse : parseUsize size.repr = some size := parseUsize_repr (by omega)
    simp [hSize, hParse]

variable {size : Nat} {type : EntityType} {tags : Option String}

theorem page_linked (hLibrary : library.Lawful) (type : EntityType) (hSize : size ≤ 1000)
    (tags : Option String) (id : Uuid) :
    page library store type (linked size tags id).toPageParams = .ok (.ofQuery type size
        (Paging.query Row.id (tagged store type tags) size (some id))) := by
  have hPage : page library store type (linked size tags id).toPageParams =
      .ok (.ofQuery type (linked size tags id).toPageParams.size (Paging.query Row.id
        (tagged store type tags) (linked size tags id).toPageParams.size (some id))) :=
    pageOf_token hLibrary rfl
  rw [linked_size hSize] at hPage
  exact hPage

/-- The answer to the link of a table that is served under its own name. -/
theorem list_linked (hLibrary : library.Lawful) {type : EntityType} {size : Nat}
    (hSize : size ≤ 1000) (tags : Option String) (id : Uuid) (path : String)
    (hTags : (tagParams tags).validateTags = .ok ()) :
    list library targets store (.top type) path (linked size tags id) =
      .ok (respond (tableLink type size tags)
        (Paging.query Row.id (tagged store type tags) size (some id))) := by
  have hPage : page library store type (linked size tags id).toPageParams = .ok _ :=
    page_linked hLibrary type hSize tags id
  have hValid : (linked size tags id).validateTags = .ok () := hTags
  have hOffset : validateOffset (linked size tags id) = .ok () := validateOffset_token rfl
  have hRespond := buildPage_respond type size (linkTags tags)
    (Paging.query Row.id (tagged store type tags) size (some id))
  have hLink : tableLink type size (linkTags tags) = tableLink type size tags := by
    funext other
    unfold tableLink
    rw [linkTags_idem]
  rw [hLink] at hRespond
  cases type with
  | consumers =>
    change listConsumers library store (linked size tags id) = _
    have hNoFilter : validateFilters (linked size tags id) = .ok () := rfl
    have hFilters : { (linked size tags id).toPageParams with
        filters := consumerFilters (linked size tags id) } =
          (linked size tags id).toPageParams := rfl
    unfold listConsumers
    simp only [bind, Except.bind, hNoFilter, hValid, hFilters, hPage, liftDao, Except.mapError]
    exact congrArg Except.ok hRespond
  | certificates =>
    change listCertificates library store (linked size tags id) = _
    unfold listCertificates
    simp only [bind, Except.bind, hValid, hPage, liftDao, Except.mapError]
    exact congrArg Except.ok hRespond
  | _ =>
    change doList library store _ (linked size tags id) = _
    unfold doList
    simp only [bind, Except.bind, hValid, hOffset, validateSize_linked size hSize, hPage, liftDao,
      Except.mapError]
    exact congrArg Except.ok hRespond

theorem get_tableLink (hTargets : targets.Lawful) (type : EntityType) (size : Nat)
    (tags : Option String) (id : Uuid) :
    get library targets store (tableLink type size tags id) =
      if type.underOwnName then
        list library targets store (.top type) ("/" ++ type.tableName) (linked size tags id)
      else .error .noRoute := by
  have hPlain : targets.read ("/" ++ type.tableName) = some ("/" ++ type.tableName, []) := by
    apply hTargets.plain
    · cases type <;> rfl
    · have hAll : ("/" ++ type.tableName).toList.all
          fun c => decide (c.isLower ∨ c = '_' ∨ c = '/') := by
        cases type <;> decide
      intro c hC
      exact of_decide_eq_true (List.all_eq_true.mp hAll c hC)
  have hNe : linkQuery size tags id ≠ [] := List.cons_ne_nil _ _
  have hRead := hTargets.query _ _ hPlain hNe (linkQuery_names size tags id)
  unfold get
  rw [tableLink_eq, hRead]
  dsimp only
  rw [routeOf_table, lookup_tableName]
  by_cases hName : type.underOwnName
  · rw [if_pos hName, if_pos hName, Option.map_some]
    dsimp only
    rw [ofQuery_linkQuery]
  · rw [if_neg hName, if_neg hName, Option.map_none]

theorem get_served (hLibrary : library.Lawful) (hTargets : targets.Lawful)
    (hName : type.underOwnName) (hSize : size ≤ 1000)
    (hTags : (tagParams tags).validateTags = .ok ()) (id : Uuid) :
    get library targets store (tableLink type size tags id) =
      .ok (respond (tableLink type size tags)
        (Paging.query Row.id (tagged store type tags) size (some id))) := by
  rw [get_tableLink hTargets, if_pos hName]
  exact list_linked hLibrary hSize tags id _ hTags

theorem get_missing (hTargets : targets.Lawful) (hName : ¬ type.underOwnName) (size : Nat)
    (tags : Option String) (id : Uuid) :
    get library targets store (tableLink type size tags id) = .error .noRoute := by
  rw [get_tableLink hTargets, if_neg hName]

theorem get_invalid (hTargets : targets.Lawful) (hSize : size ≤ 1000) {e : Refusal}
    (hTags : (tagParams tags).validateTags = .error e) (id : Uuid) :
    get library targets store (tableLink .snis size tags id) = .error e := by
  have hInvalid : (linked size tags id).validateTags = .error e := hTags
  have hOffset : validateOffset (linked size tags id) = .ok () := validateOffset_token rfl
  have hName : EntityType.snis.underOwnName := rfl
  rw [get_tableLink hTargets, if_pos hName]
  change doList library store .snis (linked size tags id) = _
  unfold doList
  simp only [bind, Except.bind, hInvalid, hOffset, validateSize_linked size hSize]

end Serving

/-! ## The rows of a collection -/

def Nested.type : Nested → EntityType
  | .serviceRoutes => .routes
  | .servicePlugins => .plugins
  | .routePlugins => .plugins
  | .consumerPlugins => .plugins
  | .upstreamTargets => .targets
  | .certificateSnis => .snis
  | .keySetKeys => .keys
  | .providerModels => .aiModels

def Nested.owner : Nested → EntityType
  | .serviceRoutes => .services
  | .servicePlugins => .services
  | .routePlugins => .routes
  | .consumerPlugins => .consumers
  | .upstreamTargets => .upstreams
  | .certificateSnis => .certificates
  | .keySetKeys => .keySets
  | .providerModels => .aiProviders

def Collection.type : Collection → EntityType
  | .top type => type
  | .nested kind _ => kind.type

section Collections

variable (library : OffsetLibrary) (targets : TargetLibrary) (store : Store)

def Nested.parentId (nested : Nested) (parent : String) : Option Uuid :=
  match nested with
  | .certificateSnis => Listing.resolveCertIdOrName library store (targets.segment parent)
  | nested => resolve library store nested.owner (targets.segment parent)

def Collection.rows : Collection → List Row
  | .top type => store type
  | .nested kind parent =>
    match kind.parentId library targets store parent with
    | some id => selectByForeignKey store kind.type kind.owner id
    | none => []

variable (collection : Collection) (params : ListParams)

/-- The parameters of a request with its filters: those of consumers are for their list only. -/
def Collection.pageParams (collection : Collection) (params : ListParams) : PageParams :=
  match collection with
  | .top .consumers => { params.toPageParams with filters := consumerFilters params }
  | _ => params.toPageParams

/-- The entities of a collection that match the filters of a request. -/
def Collection.matching (collection : Collection) (params : ListParams) : List Row :=
  (collection.rows library targets store).filter
    ((collection.pageParams params).selects collection.type)

/-- The rows that the first page is taken from: the nested lists read no filter. -/
def Collection.served (collection : Collection) (params : ListParams) : List Row :=
  match collection with
  | .top _ => collection.matching library targets store params
  | .nested _ _ => collection.rows library targets store

/-- The link of a page. -/
def Collection.link (collection : Collection) (path : String) (params : ListParams) :
    Uuid → String :=
  match collection with
  | .top type => tableLink type params.toPageParams.size params.tags
  | .nested .upstreamTargets _ => pathLink path
  | .nested .keySetKeys _ => pathLink path
  | .nested .certificateSnis _ => tableLink .snis params.toPageParams.size params.tags
  | .nested kind _ => tableLink kind.type params.toPageParams.size none

/-- The rows that the link of a page goes on with, if it is accepted. -/
def Collection.linkedRows (collection : Collection) (params : ListParams) : Option (List Row) :=
  match collection with
  | .top type => if type.underOwnName then some (tagged store type params.tags) else none
  | .nested .upstreamTargets _ => some (collection.rows library targets store)
  | .nested .keySetKeys _ => some (collection.rows library targets store)
  | .nested .certificateSnis _ =>
    if (tagParams params.tags).validateTags.isOk then some (tagged store .snis params.tags) else none
  | .nested .providerModels _ => none
  | .nested kind _ => some (store kind.type)

end Collections

section First

variable {library : OffsetLibrary} {targets : TargetLibrary} {store : Store}

theorem page_first (type : EntityType) {params : PageParams} (h : params.offset = none) :
    page library store type params = .ok (.ofQuery type params.size
      (Paging.query Row.id ((store type).filter (params.selects type)) params.size none)) :=
  pageOf_first h

variable {found : Page}

theorem nested_first {owner type : EntityType} {id : Option Uuid} {message : String}
    {params : ListParams} (hFirst : params.offset = none)
    (h : listNested library store owner type id message params = .ok found) :
    ∃ parent, id = some parent ∧ found = .ofQuery type params.toPageParams.size
      (Paging.query Row.id (selectByForeignKey store type owner parent) params.toPageParams.size
        none) := by
  unfold listNested at h
  cases id with
  | none => cases h
  | some parent =>
    have hPage : selectPageByForeignKey library store type owner parent params.toPageParams =
        .ok (.ofQuery type params.toPageParams.size (Paging.query Row.id
          (selectByForeignKey store type owner parent) params.toPageParams.size none)) :=
      pageOf_first hFirst
    dsimp only at h
    rw [hPage] at h
    cases h
    exact ⟨parent, rfl, rfl⟩

theorem bind_ok {ε α β : Type} {x : Except ε α} {f : α → Except ε β} {b : β}
    (h : x >>= f = .ok b) : ∃ a, x = .ok a ∧ f a = .ok b := by
  cases x with
  | error e => cases h
  | ok a => exact ⟨a, rfl, h⟩

theorem liftDao_ok {answer : Except KongError Page} (h : liftDao answer = .ok found) :
    answer = .ok found := by
  cases answer with
  | error e => cases h
  | ok page =>
    cases h
    rfl

variable {params : ListParams} {first : Response} {path : String}

theorem doList_ok {type : EntityType} (h : doList library store type params = .ok first) :
    ∃ found, page library store type params.toPageParams = .ok found ∧
      first = buildPageResponseWithTags found params.tags := by
  obtain ⟨-, -, h⟩ := bind_ok h
  obtain ⟨-, -, h⟩ := bind_ok h
  obtain ⟨-, -, h⟩ := bind_ok h
  obtain ⟨found, hPage, h⟩ := bind_ok h
  cases h
  exact ⟨found, liftDao_ok hPage, rfl⟩

theorem listCertificates_ok (h : listCertificates library store params = .ok first) :
    ∃ found, page library store .certificates params.toPageParams = .ok found ∧
      first = buildPageResponseWithTags found params.tags := by
  obtain ⟨-, -, h⟩ := bind_ok h
  obtain ⟨found, hPage, h⟩ := bind_ok h
  cases h
  exact ⟨found, liftDao_ok hPage, rfl⟩

theorem listConsumers_ok (h : listConsumers library store params = .ok first) :
    ∃ found, page library store .consumers
        { params.toPageParams with filters := consumerFilters params } = .ok found ∧
      first = buildPageResponseWithTags found params.tags := by
  obtain ⟨-, -, h⟩ := bind_ok h
  obtain ⟨-, -, h⟩ := bind_ok h
  obtain ⟨found, hPage, h⟩ := bind_ok h
  cases h
  exact ⟨found, liftDao_ok hPage, rfl⟩

variable {collection : Collection}

/-- What a first answer has: the rows served from the start, and the link of its collection; the
parent of a nested one is there. -/
theorem list_first {path : String} {params : ListParams} {first : Response}
    (hFirst : params.offset = none)
    (h : list library targets store collection path params = .ok first) :
    first = respond (collection.link path params)
      (Paging.query Row.id (collection.served library targets store params)
        params.toPageParams.size none) ∧
    ∀ kind parent, collection = .nested kind parent →
      ∃ id, kind.parentId library targets store parent = some id := by
  have hTop (type : EntityType) (pageParams : PageParams) (found : Page)
      (hOffset : pageParams.offset = none) (hSize : pageParams.size = params.toPageParams.size)
      (hPage : page library store type pageParams = .ok found) :
      buildPageResponseWithTags found params.tags =
        respond (tableLink type params.toPageParams.size params.tags)
          (Paging.query Row.id ((store type).filter (pageParams.selects type))
            params.toPageParams.size none) := by
    cases (page_first type hOffset).symm.trans hPage
    rw [hSize]
    exact buildPage_respond _ _ _ _
  cases collection with
  | top type =>
    refine ⟨?_, nofun⟩
    cases type with
    | consumers =>
      obtain ⟨found, hPage, rfl⟩ := listConsumers_ok h
      exact hTop _ _ found hFirst rfl hPage
    | certificates =>
      obtain ⟨found, hPage, rfl⟩ := listCertificates_ok h
      exact hTop _ _ found hFirst rfl hPage
    | _ =>
      obtain ⟨found, hPage, rfl⟩ := doList_ok h
      exact hTop _ _ found hFirst rfl hPage
  | nested kind parent =>
    have hNested (message : String) (found : Page) (build : Page → Response)
        (hBuild : ∀ query, build (.ofQuery kind.type params.toPageParams.size query) =
          respond (Collection.link (.nested kind parent) path params) query)
        (hPage : listNested library store kind.owner kind.type
          (kind.parentId library targets store parent) message params = .ok found) :
        build found = respond (Collection.link (.nested kind parent) path params)
          (Paging.query Row.id (Collection.served library targets store (.nested kind parent) params)
            params.toPageParams.size none) ∧
        ∀ other name, Collection.nested kind parent = .nested other name →
          ∃ id, other.parentId library targets store name = some id := by
      obtain ⟨id, hId, rfl⟩ := nested_first hFirst hPage
      have hServed : Collection.served library targets store (.nested kind parent) params =
          selectByForeignKey store kind.type kind.owner id := by
        change (match kind.parentId library targets store parent with
          | some id => selectByForeignKey store kind.type kind.owner id
          | none => []) = _
        rw [hId]
      rw [hServed]
      refine ⟨hBuild _, ?_⟩
      intro other name hSame
      cases hSame
      exact ⟨id, hId⟩
    cases kind with
    | upstreamTargets | keySetKeys =>
      obtain ⟨-, -, h⟩ := bind_ok h
      obtain ⟨found, hPage, h⟩ := bind_ok h
      cases h
      exact hNested _ found (fun page => buildNestedPageResponse page (Text.trimEndMatches '/' path))
        (fun _ => buildNested_respond _ _ _ _) hPage
    | certificateSnis =>
      obtain ⟨found, hPage, h⟩ := bind_ok h
      cases h
      exact hNested _ found (fun page => buildPageResponseWithTags page params.tags)
        (fun _ => buildPage_respond _ _ _ _) hPage
    | providerModels =>
      obtain ⟨found, hPage, h⟩ := bind_ok h
      cases h
      exact hNested _ found buildPageResponse (fun _ => buildPage_respond _ _ _ _) hPage
    | _ =>
      obtain ⟨-, -, h⟩ := bind_ok h
      obtain ⟨found, hPage, h⟩ := bind_ok h
      cases h
      exact hNested _ found buildPageResponse (fun _ => buildPage_respond _ _ _ _) hPage

theorem routeOf_trim (path : String) : routeOf (Text.trimEndMatches '/' path) = routeOf path := by
  unfold routeOf
  rw [Text.trimEndMatches_idem]

theorem pathLink_trim (path : String) : pathLink (Text.trimEndMatches '/' path) = pathLink path := by
  funext id
  unfold pathLink
  rw [Text.trimEndMatches_idem]

theorem tagged_none (type : EntityType) : tagged store type none = store type := by
  unfold tagged
  rw [List.filter_eq_self]
  intro row _
  rfl

theorem get_pathLink (hTargets : targets.Lawful) (hPath : targets.read path = some (path, []))
    (hRoute : routeOf path = some collection) (id : Uuid) :
    get library targets store (pathLink path id) =
      list library targets store collection (Text.trimEndMatches '/' path) (linked 100 none id) := by
  have hNe : Text.trimEndMatches '/' path ≠ "" := by
    intro hEmpty
    unfold routeOf at hRoute
    rw [hEmpty] at hRoute
    cases hRoute
  have hQuery : linkQuery 100 none id ≠ [] := List.cons_ne_nil _ _
  have hRead := hTargets.query _ _ (hTargets.trimmed path hPath hNe) hQuery
    (linkQuery_names 100 none id)
  unfold get
  rw [pathLink_eq, hRead]
  dsimp only
  rw [routeOf_trim, hRoute]
  dsimp only
  rw [ofQuery_linkQuery]

/-- The nested lists that keep their path go on with the rows of their parent. -/
theorem get_nested (hLibrary : library.Lawful) (hTargets : targets.Lawful) {kind : Nested}
    {parent : String} (hKind : kind = .upstreamTargets ∨ kind = .keySetKeys)
    (hPath : targets.read path = some (path, []))
    (hRoute : routeOf path = some (.nested kind parent)) {parentId : Uuid}
    (hParent : kind.parentId library targets store parent = some parentId) (id : Uuid) :
    get library targets store (pathLink path id) = .ok (respond (pathLink path) (Paging.query Row.id
        (Collection.rows library targets store (.nested kind parent)) 100 (some id))) := by
  have hRows : Collection.rows library targets store (.nested kind parent) =
      selectByForeignKey store kind.type kind.owner parentId := by
    change (match kind.parentId library targets store parent with
      | some id => selectByForeignKey store kind.type kind.owner id
      | none => []) = _
    rw [hParent]
  have hSize : (linked 100 none id).toPageParams.size = 100 := linked_size (by decide) none id
  have hPage (message : String) : listNested library store kind.owner kind.type (some parentId)
      message (linked 100 none id) = .ok (.ofQuery kind.type 100 (Paging.query Row.id
        (selectByForeignKey store kind.type kind.owner parentId) 100 (some id))) := by
    have hToken : pageOf library kind.type (selectByForeignKey store kind.type kind.owner parentId)
        (linked 100 none id).toPageParams =
          .ok (.ofQuery kind.type (linked 100 none id).toPageParams.size (Paging.query Row.id
            (selectByForeignKey store kind.type kind.owner parentId)
            (linked 100 none id).toPageParams.size (some id))) := pageOf_token hLibrary rfl
    rw [hSize] at hToken
    change liftDao (pageOf library kind.type _ (linked 100 none id).toPageParams) = _
    rw [hToken]
    rfl
  have hTags : (linked 100 none id).validateTags = .ok () := rfl
  have hBuild := buildNested_respond kind.type 100 (Text.trimEndMatches '/' path)
    (Paging.query Row.id (selectByForeignKey store kind.type kind.owner parentId) 100 (some id))
  rw [pathLink_trim] at hBuild
  rw [get_pathLink hTargets hPath hRoute, hRows, ← hBuild]
  rcases hKind with rfl | rfl
  · change listNestedTargets library store (targets.segment parent) _ (linked 100 none id) = _
    have hResolve : resolve library store .upstreams (targets.segment parent) = some parentId :=
      hParent
    unfold listNestedTargets
    have hTargetsPage : listNested library store .upstreams .targets (some parentId)
        "upstream not found" (linked 100 none id) = .ok _ := hPage _
    simp only [bind, Except.bind, hTags, hResolve]
    rw [hTargetsPage]
    rfl
  · change listNestedKeys library store (targets.segment parent) _ (linked 100 none id) = _
    have hResolve : resolve library store .keySets (targets.segment parent) = some parentId :=
      hParent
    unfold listNestedKeys
    have hKeysPage : listNested library store .keySets .keys (some parentId)
        "key_set not found" (linked 100 none id) = .ok _ := hPage _
    simp only [bind, Except.bind, hTags, hResolve]
    rw [hKeysPage]
    rfl

end First

end KongRust.Admin

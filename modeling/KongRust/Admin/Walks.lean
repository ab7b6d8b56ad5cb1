import KongRust.Admin.Links

/-!
# Lists from the first page to the last

The links of a list visit its collection where the first page has matching rows only and its link,
if it has one, leads to a list that goes on with the matching rows and no others.
-/

namespace KongRust.Admin

open Storage (KongError)
open Paging

section Follow

variable {library : OffsetLibrary} {targets : TargetLibrary} {store : Store} {response : Response}

theorem follow_end (h : response.next = none) (fuel : Nat) :
    follow library targets store fuel response = some response.data := by
  unfold follow
  rw [h]

variable {link : String}

theorem follow_link {next : Response} (h : response.next = some link)
    (hGet : get library targets store link = .ok next) (fuel : Nat) :
    follow library targets store (fuel + 1) response =
      (follow library targets store fuel next).map fun rows => response.data ++ rows := by
  conv_lhs => unfold follow
  rw [h]
  dsimp only
  rw [hGet]

theorem follow_refused {e : Refusal} (h : response.next = some link)
    (hGet : get library targets store link = .error e) (fuel : Nat) :
    follow library targets store fuel response = none := by
  cases fuel with
  | zero =>
    unfold follow
    rw [h]
  | succ fuel =>
    unfold follow
    rw [h]
    dsimp only
    rw [hGet]

variable {rows : List Row} {fuel : Nat}

/-- More fuel changes nothing. -/
theorem follow_mono (h : follow library targets store fuel response = some rows) :
    ∀ more, follow library targets store (fuel + more) response = some rows := by
  induction fuel generalizing response rows with
  | zero =>
    intro more
    cases hNext : response.next with
    | none =>
      rw [follow_end hNext] at h
      rw [follow_end hNext, h]
    | some link =>
      unfold follow at h
      rw [hNext] at h
      cases h
  | succ fuel ih =>
    intro more
    cases hNext : response.next with
    | none =>
      rw [follow_end hNext] at h
      rw [follow_end hNext, h]
    | some link =>
      cases hGet : get library targets store link with
      | error e =>
        rw [follow_refused hNext hGet] at h
        cases h
      | ok next =>
        rw [follow_link hNext hGet] at h
        obtain ⟨later, hLater, rfl⟩ := Option.map_eq_some_iff.mp h
        have hFuel : fuel + 1 + more = fuel + more + 1 := by omega
        rw [hFuel, follow_link hNext hGet, ih hLater more]
        rfl

theorem follow_unique {rows' : List Row} {fuel' : Nat}
    (h : follow library targets store fuel response = some rows)
    (h' : follow library targets store fuel' response = some rows') : rows = rows' := by
  have hLeft := follow_mono h fuel'
  have hRight := follow_mono h' fuel
  rw [Nat.add_comm] at hRight
  exact Option.mem_unique hLeft hRight

theorem follow_rest {link : Uuid → String} {size : Nat} (hSize : 0 < size)
    (hKeys : Distinct Row.id rows) (hGet : ∀ id, get library targets store (link id) =
      .ok (respond link (query Row.id rows size (some id)))) {offset : Option Uuid}
    (hFuel : (rest Row.id rows offset).length ≤ fuel) :
    follow library targets store fuel (respond link (query Row.id rows size offset)) =
      some (rest Row.id rows offset) := by
  induction fuel generalizing offset with
  | zero =>
    rw [query_of_le (Nat.le_trans hFuel (Nat.zero_le size))]
    exact follow_end rfl 0
  | succ fuel ih =>
    by_cases hLast : (rest Row.id rows offset).length ≤ size
    · rw [query_of_le hLast]
      exact follow_end rfl _
    · obtain ⟨row, -, hQuery, hNext⟩ := query_of_lt hKeys hSize (Nat.lt_of_not_le hLast)
      have hRest : (rest Row.id rows (some row.id)).length ≤ fuel := by
        rw [hNext, List.length_drop]
        omega
      rw [hQuery, follow_link rfl (hGet row.id), ih hRest, hNext, Option.map_some]
      exact congrArg some (List.take_append_drop size _)

end Follow

section Visits

variable (library : OffsetLibrary) (targets : TargetLibrary) (store : Store)
  (collection : Collection)

/-- Following the links from an answer until there is none, every link being accepted, visits every
matching entity of the collection once and no other entity. -/
def Visits (collection : Collection) (params : ListParams) (first : Response) : Prop :=
  ∃ fuel rows, follow library targets store fuel first = some rows ∧
    rows.Perm (collection.matching library targets store params)

def Collection.firstPage (collection : Collection) (params : ListParams) : List Row :=
  (Paging.rest Row.id (collection.served library targets store params) none).take
    params.toPageParams.size

/-- The first page has matching rows only; and there is no second one, or its link leads to a list
whose rows after the first page are matching ones. -/
def Followable (collection : Collection) (params : ListParams) : Prop :=
  (∀ row ∈ collection.firstPage library targets store params,
    row ∈ collection.matching library targets store params) ∧
  ((collection.served library targets store params).length ≤ params.toPageParams.size ∨
    ∃ rows, collection.linkedRows library targets store params = some rows ∧
      ∀ last ∈ (collection.firstPage library targets store params).getLast?, ∀ row ∈ rows,
        last.id < row.id → row ∈ collection.matching library targets store params)

end Visits

section Rows

variable {library : OffsetLibrary} {targets : TargetLibrary} {store : Store}
  {collection : Collection} {params : ListParams}

theorem rows_sublist : (collection.rows library targets store).Sublist (store collection.type) := by
  cases collection with
  | top type => exact List.Sublist.refl _
  | nested kind parent =>
    unfold Collection.rows Collection.type
    dsimp only
    cases kind.parentId library targets store parent with
    | none => exact List.nil_sublist _
    | some id => exact List.filter_sublist

theorem matching_sublist_rows : (collection.matching library targets store params).Sublist
    (collection.rows library targets store) := List.filter_sublist

theorem served_sublist : (collection.served library targets store params).Sublist
    (store collection.type) := by
  have hRows : (collection.rows library targets store).Sublist (store collection.type) :=
    rows_sublist
  cases collection with
  | top type => exact matching_sublist_rows.trans hRows
  | nested kind parent => exact hRows

variable {row : Row}

theorem matching_served (h : row ∈ collection.matching library targets store params) :
    row ∈ collection.served library targets store params := by
  cases collection with
  | top type => exact h
  | nested kind parent => exact matching_sublist_rows.subset h

variable {type : EntityType}

theorem selects_tags (filters : List (String × String))
    (h : { params.toPageParams with filters := filters }.selects type row) :
    (tagParams params.tags).toPageParams.selects type row := by
  unfold PageParams.selects at h ⊢
  obtain ⟨hTags, -⟩ := Bool.and_eq_true_iff.mp h
  rw [Bool.and_eq_true_iff]
  refine ⟨?_, rfl⟩
  cases hParams : params.tags with
  | none => rfl
  | some tags =>
    by_cases hEmpty : tags.isEmpty
    · simp [tagParams, linkTags, ListParams.toPageParams, Option.filter, hEmpty]
    · simpa [tagParams, linkTags, ListParams.toPageParams, Option.filter, hEmpty, hParams] using hTags

/-- The link of a page leaves out no matching row. -/
theorem matching_linked {rows : List Row}
    (hRows : collection.linkedRows library targets store params = some rows)
    (h : row ∈ collection.matching library targets store params) : row ∈ rows := by
  obtain ⟨hRow, hSelects⟩ := List.mem_filter.mp h
  cases collection with
  | top type =>
    change (if type.underOwnName then some (tagged store type params.tags) else none) = _ at hRows
    split at hRows
    · cases hRows
      refine List.mem_filter.mpr ⟨hRow, ?_⟩
      cases type with
      | consumers => exact selects_tags _ hSelects
      | _ => exact selects_tags [] hSelects
    · cases hRows
  | nested kind parent =>
    have hStored : row ∈ store kind.type := rows_sublist.subset hRow
    cases kind with
    | upstreamTargets | keySetKeys =>
      cases hRows
      exact hRow
    | providerModels => cases hRows
    | certificateSnis =>
      change (if (tagParams params.tags).validateTags.isOk then
        some (tagged store .snis params.tags) else none) = _ at hRows
      split at hRows
      · cases hRows
        exact List.mem_filter.mpr ⟨hStored, selects_tags [] hSelects⟩
      · cases hRows
    | _ =>
      cases hRows
      exact hStored

theorem tagged_sublist {tags : Option String} :
    (tagged store type tags).Sublist (store type) := List.filter_sublist

theorem linkedRows_sublist {rows : List Row}
    (hRows : collection.linkedRows library targets store params = some rows) :
    rows.Sublist (store collection.type) := by
  have hOwn : (collection.rows library targets store).Sublist (store collection.type) :=
    rows_sublist
  cases collection with
  | top type =>
    change (if type.underOwnName then some (tagged store type params.tags) else none) = _ at hRows
    split at hRows
    · cases hRows
      exact tagged_sublist
    · cases hRows
  | nested kind parent =>
    cases kind with
    | upstreamTargets | keySetKeys =>
      cases hRows
      exact hOwn
    | providerModels => cases hRows
    | certificateSnis =>
      change (if (tagParams params.tags).validateTags.isOk then
        some (tagged store .snis params.tags) else none) = _ at hRows
      split at hRows
      · cases hRows
        exact tagged_sublist
      · cases hRows
    | _ =>
      cases hRows
      exact List.Sublist.refl _

variable {rows rows' : List Row}

theorem distinct_of_sublist (h : Distinct Row.id rows) (hSub : rows'.Sublist rows) :
    Distinct Row.id rows' :=
  h.sublist (hSub.map Row.id)

variable {path : String} {first : Response}

theorem list_top_tags (h : list library targets store (.top type) path params = .ok first) :
    params.validateTags = .ok () := by
  cases type with
  | consumers =>
    obtain ⟨-, -, h⟩ := bind_ok h
    obtain ⟨_, hTags, -⟩ := bind_ok h
    exact hTags
  | certificates =>
    obtain ⟨_, hTags, -⟩ := bind_ok h
    exact hTags
  | _ =>
    obtain ⟨-, -, h⟩ := bind_ok h
    obtain ⟨-, -, h⟩ := bind_ok h
    obtain ⟨_, hTags, -⟩ := bind_ok h
    exact hTags

theorem tagParams_valid (h : params.validateTags = .ok ()) :
    (tagParams params.tags).validateTags = .ok () := by
  cases hParams : params.tags with
  | none => rfl
  | some tags =>
    by_cases hEmpty : tags.isEmpty
    · simp [tagParams, linkTags, ListParams.validateTags, Option.filter, hEmpty]
    · have hSame : (tagParams (some tags)).validateTags = params.validateTags := by
        simp [tagParams, linkTags, ListParams.validateTags, Option.filter, hEmpty, hParams]
      rw [hSame, h]

/-- A link is accepted and answers with the rows that it goes on with, or it is refused. -/
theorem get_link (hLibrary : library.Lawful) (hTargets : targets.Lawful)
    (hPath : targets.read path = some (path, [])) (hRoute : routeOf path = some collection)
    (hSize : 0 < params.toPageParams.size) (hFirst : params.offset = none)
    (hList : list library targets store collection path params = .ok first) :
    match collection.linkedRows library targets store params with
    | some rows => ∃ size, 0 < size ∧ ∀ id, get library targets store
        (collection.link path params id) = .ok (respond (collection.link path params)
          (query Row.id rows size (some id)))
    | none => ∀ id, ∃ e, get library targets store (collection.link path params id) = .error e := by
  have hMax : params.toPageParams.size ≤ 1000 := Nat.min_le_right _ _
  have hParent := (list_first hFirst hList).2
  cases collection with
  | top type =>
    have hTags := tagParams_valid (list_top_tags hList)
    change match (if type.underOwnName then some (tagged store type params.tags) else none) with
      | some rows | none => _
    by_cases hName : type.underOwnName
    · rw [if_pos hName]
      exact ⟨_, hSize, get_served hLibrary hTargets hName hMax hTags⟩
    · rw [if_neg hName]
      exact fun id => ⟨_, get_missing hTargets hName _ _ id⟩
  | nested kind parent =>
    have hServed (type : EntityType) (hName : type.underOwnName) :
        ∃ size, 0 < size ∧ ∀ id, get library targets store
          (tableLink type params.toPageParams.size none id) =
            .ok (respond (tableLink type params.toPageParams.size none)
              (query Row.id (store type) size (some id))) := by
      refine ⟨_, hSize, ?_⟩
      intro id
      rw [get_served hLibrary hTargets hName hMax rfl, tagged_none]
    cases kind with
    | upstreamTargets =>
      obtain ⟨id, hId⟩ := hParent _ _ rfl
      exact ⟨100, by decide, get_nested hLibrary hTargets (.inl rfl) hPath hRoute hId⟩
    | keySetKeys =>
      obtain ⟨id, hId⟩ := hParent _ _ rfl
      exact ⟨100, by decide, get_nested hLibrary hTargets (.inr rfl) hPath hRoute hId⟩
    | providerModels =>
      have hName : ¬ EntityType.aiModels.underOwnName := by decide
      intro id
      exact ⟨_, get_missing hTargets hName params.toPageParams.size none id⟩
    | certificateSnis =>
      change match (if (tagParams params.tags).validateTags.isOk then
        some (tagged store .snis params.tags) else none) with
        | some rows | none => _
      cases hTags : (tagParams params.tags).validateTags with
      | ok _ => exact ⟨_, hSize, get_served hLibrary hTargets rfl hMax hTags⟩
      | error e => exact fun id => ⟨e, get_invalid hTargets hMax hTags id⟩
    | serviceRoutes => exact hServed .routes rfl
    | servicePlugins | routePlugins | consumerPlugins => exact hServed .plugins rfl

theorem visited_nodup {served : List Row} {size : Nat} {last : Row}
    (hServed : Distinct Row.id served) (hRows : Distinct Row.id rows)
    (hLast : ((rest Row.id served none).take size).getLast? = some last) :
    ((rest Row.id served none).take size ++ rest Row.id rows (some last.id)).Nodup := by
  obtain ⟨front, hFront⟩ := List.getLast?_eq_some_iff.mp hLast
  have hOrder : (front ++ [last]).Pairwise fun a b : Row => a.id < b.id := by
    rw [← hFront]
    exact (rest_pairwise hServed none).sublist (List.take_sublist _ _)
  have hBelow : ∀ row ∈ front ++ [last], row.id ≤ last.id := by
    intro row hRow
    obtain hRow | hRow := List.mem_append.mp hRow
    · exact le_of_lt ((List.pairwise_append.mp hOrder).2.2 row hRow last (List.mem_singleton_self _))
    · rw [List.mem_singleton.mp hRow]
  have hWhole : ((front ++ [last]) ++ rest Row.id rows (some last.id)).Pairwise
      fun a b : Row => a.id < b.id := by
    refine List.pairwise_append.mpr ⟨hOrder, rest_pairwise hRows _, ?_⟩
    intro a hA b hB
    exact lt_of_le_of_lt (hBelow a hA) ((mem_rest.mp hB).2 _ rfl)
  rw [hFront]
  exact hWhole.imp fun hLt hEq => absurd (congrArg Row.id hEq) (ne_of_lt hLt)

theorem perm_iff_subset (h : rows.Nodup) (h' : rows'.Nodup) (hSub : ∀ row ∈ rows', row ∈ rows) :
    rows.Perm rows' ↔ ∀ row ∈ rows, row ∈ rows' := by
  rw [List.perm_ext_iff_of_nodup h h']
  constructor
  · intro hSame row hRow
    exact (hSame row).mp hRow
  · intro hAll row
    exact ⟨hAll row, hSub row⟩

theorem nodup_of_distinct (h : Distinct Row.id rows) : rows.Nodup :=
  List.Nodup.of_map _ h

end Rows

section Main

variable {library : OffsetLibrary} {targets : TargetLibrary} {store : Store}
  {collection : Collection} {params : ListParams}

theorem length_rest_served : (rest Row.id (collection.served library targets store params)
    none).length = (collection.served library targets store params).length :=
  (rest_perm _ _).length_eq

variable {tables : Tables} {link : Uuid → String} {first : Response}

theorem matching_nodup : (collection.matching library targets tables.rows params).Nodup :=
  nodup_of_distinct (distinct_of_sublist (tables.primaryKey collection.type)
    (matching_sublist_rows.trans rows_sublist))

theorem served_distinct : Distinct Row.id (collection.served library targets tables.rows params) :=
  distinct_of_sublist (tables.primaryKey collection.type) served_sublist

section

variable
  (hRespond : first = respond link (query Row.id
    (collection.served library targets tables.rows params) params.toPageParams.size none))
include hRespond

/-- A list with one page. -/
theorem visits_one_page
    (hOne : (collection.served library targets tables.rows params).length ≤
      params.toPageParams.size) :
    Visits library targets tables.rows collection params first ↔
      ∀ row ∈ collection.firstPage library targets tables.rows params,
        row ∈ collection.matching library targets tables.rows params := by
  have hRest : (rest Row.id (collection.served library targets tables.rows params)
      none).length ≤ params.toPageParams.size := by
    rw [length_rest_served]
    exact hOne
  have hPage : collection.firstPage library targets tables.rows params =
      rest Row.id (collection.served library targets tables.rows params) none :=
    List.take_of_length_le hRest
  have hAnswer (fuel : Nat) : follow library targets tables.rows fuel first =
      some (collection.firstPage library targets tables.rows params) := by
    rw [hRespond, query_of_le hRest, hPage]
    exact follow_end rfl fuel
  have hPerm : (collection.firstPage library targets tables.rows params).Perm
      (collection.matching library targets tables.rows params) ↔
        ∀ row ∈ collection.firstPage library targets tables.rows params,
          row ∈ collection.matching library targets tables.rows params := by
    rw [hPage]
    apply perm_iff_subset
    · exact (rest_perm _ _).nodup_iff.mpr (nodup_of_distinct served_distinct)
    · exact matching_nodup
    · intro row hRow
      exact (rest_perm _ _).mem_iff.mpr (matching_served hRow)
  rw [← hPerm]
  constructor
  · rintro ⟨fuel, rows, hFollow, hSame⟩
    rw [hAnswer] at hFollow
    cases hFollow
    exact hSame
  · intro hSame
    exact ⟨0, _, hAnswer 0, hSame⟩

/-- A list with a second page. -/
theorem visits_linked {rows : List Row} {size : Nat}
    (hMore : params.toPageParams.size <
      (collection.served library targets tables.rows params).length)
    (hFirstSize : 0 < params.toPageParams.size)
    (hRows : collection.linkedRows library targets tables.rows params = some rows)
    (hSize : 0 < size)
    (hGet : ∀ id, get library targets tables.rows (link id) =
      .ok (respond link (query Row.id rows size (some id)))) :
    Visits library targets tables.rows collection params first ↔
      (∀ row ∈ collection.firstPage library targets tables.rows params,
        row ∈ collection.matching library targets tables.rows params) ∧
      ∀ last ∈ (collection.firstPage library targets tables.rows params).getLast?, ∀ row ∈ rows,
        last.id < row.id → row ∈ collection.matching library targets tables.rows params := by
  have hRowsDistinct : Distinct Row.id rows :=
    distinct_of_sublist (tables.primaryKey collection.type) (linkedRows_sublist hRows)
  obtain ⟨last, hLast, hQuery, hNext⟩ := query_of_lt served_distinct hFirstSize
    (by rw [length_rest_served]; exact hMore)
  have hLinked : first.next = some (link last.id) := by
    rw [hRespond, hQuery]
    rfl
  have hData : first.data = collection.firstPage library targets tables.rows params := by
    rw [hRespond, hQuery]
    rfl
  have hAnswer : follow library targets tables.rows (rows.length + 1) first =
      some (collection.firstPage library targets tables.rows params ++
        rest Row.id rows (some last.id)) := by
    have hFuel : (rest Row.id rows (some last.id)).length ≤ rows.length := by
      rw [(rest_perm rows (some last.id)).length_eq]
      exact List.length_filter_le _ _
    rw [follow_link hLinked (hGet last.id), follow_rest hSize hRowsDistinct hGet hFuel, hData]
    rfl
  have hNodup : (collection.firstPage library targets tables.rows params ++
      rest Row.id rows (some last.id)).Nodup :=
    visited_nodup served_distinct hRowsDistinct hLast
  have hSub : ∀ row ∈ collection.matching library targets tables.rows params,
      row ∈ collection.firstPage library targets tables.rows params ++
        rest Row.id rows (some last.id) := by
    intro row hRow
    have hServedRow : row ∈ rest Row.id
        (collection.served library targets tables.rows params) none :=
      (rest_perm _ _).mem_iff.mpr (matching_served hRow)
    rw [← List.take_append_drop params.toPageParams.size (rest Row.id _ none)] at hServedRow
    obtain hPage | hLater := List.mem_append.mp hServedRow
    · exact List.mem_append_left _ hPage
    · rw [← hNext] at hLater
      exact List.mem_append_right _
        (mem_rest.mpr ⟨matching_linked hRows hRow, (mem_rest.mp hLater).2⟩)
  have hPerm := perm_iff_subset hNodup matching_nodup hSub
  have hLastPage : (collection.firstPage library targets tables.rows params).getLast? =
      some last := hLast
  constructor
  · rintro ⟨fuel, visited, hFollow, hSame⟩
    cases follow_unique hFollow hAnswer
    have hAll := hPerm.mp hSame
    refine ⟨fun row hRow => hAll row (List.mem_append_left _ hRow), ?_⟩
    intro other hOther row hRow hLt
    rw [hLastPage] at hOther
    cases hOther
    refine hAll row (List.mem_append_right _ (mem_rest.mpr ⟨hRow, ?_⟩))
    intro id hId
    cases hId
    exact hLt
  · rintro ⟨hPage, hLater⟩
    refine ⟨_, _, hAnswer, hPerm.mpr ?_⟩
    intro row hRow
    obtain hRow | hRow := List.mem_append.mp hRow
    · exact hPage row hRow
    · obtain ⟨hMem, hAfter⟩ := mem_rest.mp hRow
      exact hLater last hLastPage row hMem (hAfter last.id rfl)

end

/-- **Lists.** From a first answer with pages of at least one row, the links visit the collection
exactly if it is followable. -/
theorem visits_iff (library : OffsetLibrary) (hLibrary : library.Lawful) (targets : TargetLibrary)
    (hTargets : targets.Lawful) (tables : Tables) (collection : Collection) (path : String)
    (hPath : targets.read path = some (path, [])) (hRoute : routeOf path = some collection)
    (params : ListParams) (hFirst : params.offset = none) (hSize : 0 < params.toPageParams.size)
    (first : Response)
    (hList : list library targets tables.rows collection path params = .ok first) :
    Visits library targets tables.rows collection params first ↔
      Followable library targets tables.rows collection params := by
  obtain ⟨hRespond, -⟩ := list_first hFirst hList
  have hLink := get_link hLibrary hTargets hPath hRoute hSize hFirst hList
  unfold Followable
  by_cases hOne : (collection.served library targets tables.rows params).length ≤
      params.toPageParams.size
  · rw [visits_one_page hRespond hOne]
    exact ⟨fun hPage => ⟨hPage, .inl hOne⟩, And.left⟩
  · have hMore := Nat.lt_of_not_le hOne
    cases hRows : collection.linkedRows library targets tables.rows params with
    | some rows =>
      rw [hRows] at hLink
      obtain ⟨size, hLinkSize, hGet⟩ := hLink
      rw [visits_linked hRespond hMore hSize hRows hLinkSize hGet]
      constructor
      · rintro ⟨hPage, hLater⟩
        exact ⟨hPage, .inr ⟨rows, rfl, hLater⟩⟩
      · rintro ⟨hPage, hEither⟩
        obtain hFits | ⟨other, hOther, hLater⟩ := hEither
        · exact absurd hFits hOne
        · cases hOther
          exact ⟨hPage, hLater⟩
    | none =>
      rw [hRows] at hLink
      obtain ⟨last, -, hQuery, -⟩ := query_of_lt served_distinct hSize
        (by rw [length_rest_served]; exact hMore)
      obtain ⟨e, hGet⟩ := hLink last.id
      constructor
      · rintro ⟨fuel, rows, hFollow, -⟩
        have hNext : first.next = some (collection.link path params last.id) := by
          rw [hRespond, hQuery]
          rfl
        rw [follow_refused hNext hGet] at hFollow
        cases hFollow
      · rintro ⟨-, hFits | ⟨rows, hOther, -⟩⟩
        · exact absurd hFits hOne
        · cases hOther

end Main

/-! ## Lists at the top level -/

section TopLevel

variable {library : OffsetLibrary} {targets : TargetLibrary} {store : Store} {type : EntityType}
  {params : ListParams}

theorem selects_of_tags {row : Row} (hTags : params.validateTags = .ok ())
    (h : (tagParams params.tags).toPageParams.selects type row) :
    params.toPageParams.selects type row := by
  have hSame : (tagParams params.tags).tags = params.tags := by
    cases hParams : params.tags with
    | none => rfl
    | some tags =>
      have hNotEmpty : ¬ tags.isEmpty := by
        intro hEmpty
        unfold ListParams.validateTags at hTags
        rw [hParams] at hTags
        dsimp only at hTags
        rw [if_pos hEmpty] at hTags
        cases hTags
      simp [tagParams, linkTags, Option.filter, hNotEmpty]
  have hPage : (tagParams params.tags).toPageParams.selects type row =
      params.toPageParams.selects type row := by
    unfold PageParams.selects ListParams.toPageParams
    rw [hSame]
  rw [← hPage]
  exact h

theorem top_followable (hName : type.underOwnName) (hTags : params.validateTags = .ok ())
    (hFilters : type = .consumers → consumerFilters params = []) :
    Followable library targets store (.top type) params := by
  constructor
  · intro row hRow
    exact (rest_perm _ _).mem_iff.mp (List.mem_of_mem_take hRow)
  · refine .inr ⟨tagged store type params.tags, if_pos hName, ?_⟩
    intro last _ row hRow _
    obtain ⟨hStored, hTagged⟩ := List.mem_filter.mp hRow
    have hSelects := selects_of_tags hTags hTagged
    refine List.mem_filter.mpr ⟨hStored, ?_⟩
    cases type with
    | consumers =>
      change { params.toPageParams with filters := consumerFilters params }.selects .consumers row
      rw [hFilters rfl]
      exact hSelects
    | _ => exact hSelects

end TopLevel

/-! ## A server for samples -/

def hexUpper (c : Char) : Nat := if c.isDigit then c.toNat - 48 else c.toNat - 55

def percentBytes : List Char → List UInt8
  | '%' :: high :: low :: rest =>
    UInt8.ofNat (hexUpper high * 16 + hexUpper low) :: percentBytes rest
  | c :: rest => String.utf8EncodeChar c ++ percentBytes rest
  | [] => []

def readPair (entry : List Char) : String × String :=
  match Text.find ['='] entry with
  | some (name, value) =>
    (String.ofList name, (Text.fromUtf8 (percentBytes value)).getD (String.ofList value))
  | none => (String.ofList entry, "")

/-- It splits a target at its question mark and decodes the values. -/
def plainTargets : TargetLibrary where
  read target :=
    match Text.find ['?'] target.toList with
    | none => some (target, [])
    | some (path, query) => some (String.ofList path, (Text.split '&' query).map readPair)
  segment := id

theorem hexUpper_digit {b : UInt8} :
    UInt8.ofNat (hexUpper (hexDigit (b.toNat / 16)) * 16 + hexUpper (hexDigit (b.toNat % 16))) =
      b := by
  have hHex : ∀ v < 16, hexUpper (hexDigit v) = v := by decide
  have hByte := b.toNat_lt
  rw [hHex _ (by omega), hHex _ (by omega), Nat.div_add_mod']
  exact UInt8.ofNat_toNat

theorem percentBytes_hex (bytes : List UInt8) (rest : List Char) :
    percentBytes ((bytes.flatMap fun b =>
      ['%', hexDigit (b.toNat / 16), hexDigit (b.toNat % 16)]) ++ rest) =
      bytes ++ percentBytes rest := by
  induction bytes with
  | nil => rfl
  | cons b bytes ih =>
    rw [List.flatMap_cons, List.append_assoc]
    change UInt8.ofNat _ :: percentBytes _ = _
    rw [hexUpper_digit]
    exact congrArg (b :: ·) ih

theorem percentBytes_encode (s : String) :
    percentBytes (encodeTagsParam s).toList = Text.asBytes s := by
  unfold encodeTagsParam Text.asBytes
  rw [String.toList_ofList]
  induction s.toList with
  | nil => rfl
  | cons c cs ih =>
    rw [List.flatMap_cons, List.flatMap_cons]
    split
    next hSafe =>
      have hNe : c ≠ '%' := by
        rintro rfl
        exact absurd hSafe (by decide)
      rw [List.singleton_append, percentBytes, ih]
      exact fun _ _ _ hEq => absurd hEq hNe
    next => rw [percentBytes_hex, ih]

theorem encodeTagsParam_plain {s : String} : '&' ∉ (encodeTagsParam s).toList := by
  intro hMem
  unfold encodeTagsParam at hMem
  rw [String.toList_ofList] at hMem
  obtain ⟨d, -, hD⟩ := List.mem_flatMap.mp hMem
  split at hD
  next hSafe =>
    rw [← List.mem_singleton.mp hD] at hSafe
    exact absurd hSafe (by decide)
  next =>
    obtain ⟨b, -, hB⟩ := List.mem_flatMap.mp hD
    have hHex : ∀ v < 16, hexDigit v ≠ '&' := by decide
    have hByte := b.toNat_lt
    simp only [List.mem_cons, List.not_mem_nil, or_false] at hB
    rcases hB with hB | hB | hB
    · exact absurd hB (by decide)
    · exact hHex (b.toNat / 16) (by omega) hB.symm
    · exact hHex (b.toNat % 16) (by omega) hB.symm

variable {path : String}

theorem plainTargets_find {front rest : List Char} (h : path.toList = front ++ '?' :: rest)
    (hFront : '?' ∉ front) :
    plainTargets.read path =
      some (String.ofList front, (Text.split '&' rest).map readPair) := by
  change (match Text.find ['?'] path.toList with
    | none => some (path, [])
    | some (path, query) => some (String.ofList path, (Text.split '&' query).map readPair)) = _
  rw [h, Text.find_append hFront]

theorem plainTargets_read : plainTargets.read path = some (path, []) ↔ '?' ∉ path.toList := by
  constructor
  · intro hRead hMem
    obtain ⟨front, rest, hSplit, hFront⟩ := List.eq_append_cons_of_mem hMem
    rw [plainTargets_find hSplit hFront] at hRead
    have hPath := congrArg (fun answer : String × List (String × String) => answer.1.toList.length)
      (Option.some.inj hRead)
    dsimp only at hPath
    rw [String.toList_ofList, hSplit, List.length_append, List.length_cons] at hPath
    omega
  · intro hNone
    change (match Text.find ['?'] path.toList with
      | none => some (path, [])
      | some (path, query) => some (String.ofList path, (Text.split '&' query).map readPair)) = _
    rw [Text.find_of_not_mem hNone]

theorem readPair_entry {name value : String} (h : ∀ c ∈ name.toList, c.isLower ∨ c = '_') :
    readPair (name ++ "=" ++ encodeTagsParam value).toList = (name, value) := by
  have hName : '=' ∉ name.toList := by
    intro hMem
    exact absurd (h '=' hMem) (by decide)
  have hText : (name ++ "=" ++ encodeTagsParam value).toList =
      name.toList ++ '=' :: (encodeTagsParam value).toList := by
    simp
  unfold readPair
  rw [hText, Text.find_append hName]
  dsimp only
  rw [percentBytes_encode, Text.fromUtf8_asBytes, String.ofList_toList]
  rfl

theorem plainTargets_lawful : plainTargets.Lawful where
  plain := by
    intro path _ hPlain
    rw [plainTargets_read]
    intro hMem
    exact absurd (hPlain '?' hMem) (by decide)
  trimmed := by
    intro path hPath _
    rw [plainTargets_read] at hPath ⊢
    intro hMem
    apply hPath
    unfold Text.trimEndMatches at hMem
    rw [String.toList_ofList, List.mem_reverse] at hMem
    exact List.mem_reverse.mp ((List.dropWhile_sublist _).subset hMem)
  query := by
    intro path query hPath hNe hNames
    rw [plainTargets_read] at hPath
    have hText : (path ++ "?" ++ queryText query).toList =
        path.toList ++ '?' :: (queryText query).toList := by
      simp
    have hPieces : Text.split '&' (queryText query).toList =
        (query.map fun entry => entry.1 ++ "=" ++ encodeTagsParam entry.2).map String.toList := by
      apply Text.split_join
      · simpa using hNe
      · intro piece hPiece hMem
        obtain ⟨entry, hEntry, rfl⟩ := List.mem_map.mp hPiece
        simp only [String.toList_append, List.mem_append] at hMem
        rcases hMem with (hMem | hMem) | hMem
        · exact absurd (hNames entry hEntry '&' hMem) (by decide)
        · exact absurd hMem (by decide)
        · exact encodeTagsParam_plain hMem
    have hPairs : ((query.map fun entry => entry.1 ++ "=" ++ encodeTagsParam entry.2).map
        String.toList).map readPair = query := by
      rw [List.map_map, List.map_map]
      conv_rhs => rw [← List.map_id query]
      apply List.map_congr_left
      intro entry hEntry
      exact readPair_entry (hNames entry hEntry)
    rw [plainTargets_find hText hPath, hPieces, hPairs, String.ofList_toList]

/-- Two rows of one table. -/
def twoRows (type : EntityType) : Tables where
  rows := fun other =>
    if other = type then [⟨1, some "one", [], .object []⟩, ⟨2, some "two", [], .object []⟩] else []
  primaryKey := by
    intro other
    by_cases h : other = type
    · simp [h, Paging.Distinct]
    · simp [h, Paging.Distinct]

def onePerPage : ListParams := ⟨some (Nat.repr 1), none, none, none, none⟩

theorem onePerPage_parse : onePerPage.size.bind parseUsize = some 1 := by
  have hParse : parseUsize (Nat.repr 1) = some 1 := parseUsize_repr (n := 1) (by omega)
  unfold onePerPage
  rw [Option.bind_some, hParse]

theorem validateSize_ok {params : ListParams} {size : Nat}
    (h : params.size.bind parseUsize = some size) : validateSize params = .ok () := by
  unfold validateSize
  cases hSize : params.size with
  | none => rfl
  | some text =>
    rw [hSize, Option.bind_some] at h
    dsimp only
    rw [h]
    rfl

theorem toPageParams_size (params : ListParams) :
    params.toPageParams.size = min ((params.size.bind parseUsize).getD 100) 1000 := rfl

theorem onePerPage_size : onePerPage.toPageParams.size = 1 := by
  rw [toPageParams_size, onePerPage_parse, Option.getD_some]
  exact Nat.min_eq_left (by omega)

theorem onePerPage_pos : 0 < onePerPage.toPageParams.size := by
  rw [onePerPage_size]
  exact Nat.one_pos

theorem list_onePerPage (library : OffsetLibrary) (targets : TargetLibrary) (store : Store)
    {type : EntityType} (hConsumers : type ≠ .consumers) (hCertificates : type ≠ .certificates)
    (path : String) :
    list library targets store (.top type) path onePerPage =
      .ok (respond (tableLink type 1 none) (query Row.id
        ((store type).filter (onePerPage.toPageParams.selects type)) 1 none)) := by
  have hList : list library targets store (.top type) path onePerPage =
      doList library store type onePerPage := by
    cases type with
    | consumers => exact absurd rfl hConsumers
    | certificates => exact absurd rfl hCertificates
    | _ => rfl
  have hPage : page library store type onePerPage.toPageParams = .ok (.ofQuery type
      onePerPage.toPageParams.size (query Row.id
        ((store type).filter (onePerPage.toPageParams.selects type)) _ none)) :=
    page_first type rfl
  rw [hList, doList, validateSize_ok onePerPage_parse, hPage, onePerPage_size]
  exact congrArg Except.ok (buildPage_respond _ _ _ _)

theorem visits_iff_sample : ∃ first,
    list plainOffsets plainTargets (twoRows .services).rows (.top .services) "/services" onePerPage =
      .ok first ∧
    Visits plainOffsets plainTargets (twoRows .services).rows (.top .services) onePerPage first := by
  have hPath : plainTargets.read "/services" = some ("/services", []) :=
    plainTargets_read.mpr (by decide)
  have hList := list_onePerPage plainOffsets plainTargets (twoRows .services).rows
    (show EntityType.services ≠ .consumers from nofun) nofun "/services"
  refine ⟨_, hList, ?_⟩
  rw [visits_iff plainOffsets plainOffsets_lawful plainTargets plainTargets_lawful
    (twoRows .services) (.top .services) "/services" hPath rfl onePerPage rfl onePerPage_pos _
    hList]
  exact top_followable rfl rfl nofun

/-- The second page of the key sets is linked under the name of their table, where the server has
no route. -/
theorem key_sets_link_is_refused :
    ¬ ∀ (library : OffsetLibrary) (targets : TargetLibrary) (tables : Tables)
      (collection : Collection) (path : String) (params : ListParams) (first : Response),
      library.Lawful → targets.Lawful → targets.read path = some (path, []) →
        routeOf path = some collection → params.offset = none → 0 < params.toPageParams.size →
          list library targets tables.rows collection path params = .ok first →
            Visits library targets tables.rows collection params first := by
  intro h
  have hPath : plainTargets.read "/key-sets" = some ("/key-sets", []) :=
    plainTargets_read.mpr (by decide)
  have hList := list_onePerPage plainOffsets plainTargets (twoRows .keySets).rows
    (show EntityType.keySets ≠ .consumers from nofun) nofun "/key-sets"
  obtain ⟨fuel, rows, hFollow, -⟩ := h plainOffsets plainTargets (twoRows .keySets) (.top .keySets)
    "/key-sets" onePerPage _ plainOffsets_lawful plainTargets_lawful hPath rfl rfl onePerPage_pos
    hList
  have hName : ¬ EntityType.keySets.underOwnName := by decide
  have hRefused : get plainOffsets plainTargets (twoRows .keySets).rows
      (tableLink .keySets 1 none 1) = .error .noRoute :=
    get_missing plainTargets_lawful hName 1 none 1
  rw [follow_refused rfl hRefused] at hFollow
  cases hFollow

end KongRust.Admin

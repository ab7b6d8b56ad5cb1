import KongRust.Foundation.Grouping
import KongRust.Storage.Dbless

/-!
# What a load leaves behind

The maps of a store, by entity type, are those of the list under its name: the last entity of an
identifier, the last identifier of an endpoint key, and all identifiers of a foreign key in their
order. A load that fails leaves the lists in front of the first one that is none.
-/

namespace KongRust.Storage

open DblessStore

/-- What the three maps of a store say about an entity type. -/
@[ext]
structure EntityTables where
  entities : Option (Uuid → Option Json)
  endpointKeys : Option (String → Option Uuid)
  foreignKeys : Option (String → Option (Uuid → Option (List Uuid)))

def EntityTables.empty : EntityTables := ⟨none, none, none⟩

def lookups (tableFks : Map String (Map Uuid (List Uuid))) (field : String) :
    Option (Uuid → Option (List Uuid)) :=
  (tableFks.lookup field).map fun ids fk => ids.lookup fk

def DblessStore.tables (store : DblessStore) (tableName : String) : EntityTables where
  entities := (store.data.lookup tableName).map fun table id => table.lookup id
  endpointKeys := (store.endpointKeys.lookup tableName).map fun keys key => keys.lookup key
  foreignKeys := (store.foreignKeys.lookup tableName).map lookups

/-! ## Lists of entities -/

section Lists

variable (uuids : UuidLibrary)

def identifyAll (drawn : Nat) : List Json → List (Uuid × Json)
  | [] => []
  | entityJson :: items =>
    ((identify uuids drawn entityJson).1, (identify uuids drawn entityJson).2.1) ::
      identifyAll (identify uuids drawn entityJson).2.2 items

def drawnAfter (drawn : Nat) : List Json → Nat
  | [] => drawn
  | entityJson :: items => drawnAfter (identify uuids drawn entityJson).2.2 items

variable (tableName field : String)

def reference (tableName field : String) (entity : Json) : Option Uuid :=
  if field ∈ fkFields tableName then (entity.get field).bind (fkId uuids) else none

def references (tableName field : String) (entities : List (Uuid × Json)) :
    List (Uuid × Uuid) :=
  entities.filterMap fun entry =>
    (reference uuids tableName field entry.2).bind fun fk =>
      (extractUuid uuids entry.2 "id").map fun entityId => (fk, entityId)

/-- The index of some foreign keys; there is none without an entry. -/
def indexOf (refs : List (Uuid × Uuid)) : Option (Uuid → Option (List Uuid)) :=
  if refs = [] then none
  else some fun fk =>
    if Grouping.valuesOf refs fk = [] then none else some (Grouping.valuesOf refs fk)

/-- The maps of an entity type with these entities, one after the other. -/
def tablesOf (tableName endpointKey : String) (entities : List (Uuid × Json)) : EntityTables where
  entities := some fun id => (entities.findRev? fun entry => entry.1 == id).map Prod.snd
  endpointKeys := some fun key =>
    (entities.findRev? fun entry => endpointKeyOf endpointKey entry.2 == some key).map Prod.fst
  foreignKeys :=
    if entities.any fun entry => (extractUuid uuids entry.2 "id").isSome then
      some fun field => indexOf (references uuids tableName field entities)
    else none

/-- A list of a configuration, with its entities identified. -/
structure Listing where
  tableName : String
  endpointKey : String
  entities : List (Uuid × Json)

/-- The lists of a configuration in front of the first one that is none. -/
def listings (config : Json) : List (String × String) → Nat → List Listing
  | [], _ => []
  | (tableName, endpointKey) :: types, drawn =>
    match config.get tableName with
    | none => listings config types drawn
    | some entities =>
      match entities.asArray with
      | none => []
      | some items =>
        ⟨tableName, endpointKey, identifyAll uuids drawn items⟩ ::
          listings config types (drawnAfter uuids drawn items)

/-- The maps that a configuration declares, as far as its lists can be read. -/
def declared (config : Json) (drawn : Nat) (tableName : String) : EntityTables :=
  match (listings uuids config entityTypes drawn).find? fun listing =>
      listing.tableName == tableName with
  | some listing => tablesOf uuids listing.tableName listing.endpointKey listing.entities
  | none => .empty

end Lists

/-! ## One entity -/

section Steps

variable {uuids : UuidLibrary}

theorem findRev?_concat {α : Type} (p : α → Bool) (l : List α) (a : α) :
    (l ++ [a]).findRev? p = if p a then some a else l.findRev? p := by
  rw [List.findRev?_eq_find?_reverse, List.findRev?_eq_find?_reverse, List.reverse_append,
    List.reverse_singleton, List.singleton_append, List.find?_cons]
  cases p a <;> rfl

theorem references_concat (tableName field : String) (entities : List (Uuid × Json))
    (entry : Uuid × Json) :
    references uuids tableName field (entities ++ [entry]) =
      references uuids tableName field entities ++
        references uuids tableName field [entry] := by
  rw [references, List.filterMap_append]
  rfl

theorem fkFields_nodup (tableName : String) : (fkFields tableName).Nodup := by
  unfold fkFields
  split <;> simp

def Indexes (tableFks : Map String (Map Uuid (List Uuid)))
    (refs : String → List (Uuid × Uuid)) : Prop :=
  ∀ field, lookups tableFks field = indexOf (refs field)

theorem indexOf_concat (refs : List (Uuid × Uuid)) (fk entityId : Uuid) :
    indexOf (refs ++ [(fk, entityId)]) = some fun other =>
      if other = fk then some (((indexOf refs).bind fun ids => ids fk).getD [] ++ [entityId])
      else (indexOf refs).bind fun ids => ids other := by
  have hAt : ∀ other, Grouping.valuesOf (refs ++ [(fk, entityId)]) other =
      if other = fk then Grouping.valuesOf refs fk ++ [entityId]
      else Grouping.valuesOf refs other := by
    intro other
    rw [Grouping.valuesOf_append]
    by_cases hOther : other = fk
    · simp [Grouping.valuesOf, hOther]
    · simp [Grouping.valuesOf, hOther, Ne.symm hOther]
  have hOld : ∀ other, ((indexOf refs).bind fun ids => ids other) =
      if Grouping.valuesOf refs other = [] then none
      else some (Grouping.valuesOf refs other) := by
    intro other
    by_cases hNil : refs = []
    · simp [indexOf, hNil, Grouping.valuesOf]
    · simp [indexOf, hNil]
  unfold indexOf
  rw [if_neg (by simp)]
  refine congrArg some (funext fun other => ?_)
  change _ = if other = fk then some (((indexOf refs).bind fun ids => ids fk).getD [] ++ [entityId])
    else (indexOf refs).bind fun ids => ids other
  rw [hAt, hOld, hOld]
  by_cases hOther : other = fk
  · rw [if_pos hOther, if_pos hOther, if_neg (by simp)]
    by_cases hNone : Grouping.valuesOf refs fk = []
    · simp [hNone]
    · simp [hNone]
  · rw [if_neg hOther, if_neg hOther]

variable {tableFks : Map String (Map Uuid (List Uuid))} {refs : String → List (Uuid × Uuid)}

theorem Indexes.push (h : Indexes tableFks refs) (field : String) (fk entityId : Uuid) :
    Indexes (pushFk tableFks field fk entityId)
      (Function.update refs field (refs field ++ [(fk, entityId)])) := by
  intro other
  by_cases hOther : other = field
  · subst hOther
    rw [Function.update_self, indexOf_concat, ← h other]
    unfold lookups pushFk
    rw [AList.lookup_insert, Option.map_some]
    refine congrArg some (funext fun target => ?_)
    cases hIds : tableFks.lookup other with
    | none =>
      by_cases hTarget : target = fk
      · subst hTarget
        simp only [Option.getD_none, AList.lookup_insert, if_true, Option.map_none,
          Option.bind_none]
        rfl
      · simp only [Option.getD_none, AList.lookup_insert_ne hTarget, if_neg hTarget]
        rfl
    | some ids =>
      by_cases hTarget : target = fk
      · subst hTarget
        simp only [Option.getD_some, AList.lookup_insert, if_true, Option.map_some,
          Option.bind_some]
      · simp only [Option.getD_some, AList.lookup_insert_ne hTarget, if_neg hTarget,
          Option.map_some, Option.bind_some]
  · rw [Function.update_of_ne hOther, ← h other]
    unfold lookups pushFk
    rw [AList.lookup_insert_ne hOther]

variable {entityId : Uuid}

/-- A fold that indexes the foreign keys `fkOf` of some fields. -/
theorem Indexes.fold (fkOf : String → Option Uuid)
    {step : Map String (Map Uuid (List Uuid)) → String → Map String (Map Uuid (List Uuid))}
    (hNone : ∀ tableFks field, fkOf field = none → step tableFks field = tableFks)
    (hSome : ∀ tableFks field fk, fkOf field = some fk →
      step tableFks field = pushFk tableFks field fk entityId) {fields : List String}
    (hNodup : fields.Nodup) (h : Indexes tableFks refs) :
    Indexes (fields.foldl step tableFks) (fun field => refs field ++
      if field ∈ fields then ((fkOf field).map fun fk => (fk, entityId)).toList else []) := by
  induction fields generalizing tableFks refs with
  | nil => simpa using h
  | cons field fields ih =>
    obtain ⟨hField, hFields⟩ := List.nodup_cons.mp hNodup
    rw [List.foldl_cons]
    cases hFk : fkOf field with
    | none =>
      rw [hNone _ _ hFk]
      intro other
      rw [ih hFields h other]
      by_cases hOther : other = field
      · subst hOther
        simp [hField, hFk]
      · simp [hOther]
    | some fk =>
      rw [hSome _ _ _ hFk]
      intro other
      rw [ih hFields (h.push field fk entityId) other]
      by_cases hOther : other = field
      · subst hOther
        simp [hField, hFk]
      · simp [hOther]

variable {tableName other endpointKey : String} {loading : Loading}

variable {entities : List (Uuid × Json)} {store : DblessStore} {config : Json}

theorem references_nil
    (h : (entities.any fun entry => (extractUuid uuids entry.2 "id").isSome) = false)
    (field : String) : references uuids tableName field entities = [] := by
  rw [references, List.filterMap_eq_nil_iff]
  intro entry hEntry
  have hNone := List.any_eq_false.mp h entry hEntry
  rw [Bool.not_eq_true, Option.isSome_eq_false_iff, Option.isNone_iff_eq_none] at hNone
  rw [hNone]
  cases reference uuids tableName field entry.2 <;> rfl

theorem references_single {field : String} {entry : Uuid × Json}
    (hId : extractUuid uuids entry.2 "id" = some entityId) :
    references uuids tableName field [entry] = if field ∈ fkFields tableName then
      (((entry.2.get field).bind (fkId uuids)).map fun fk => (fk, entityId)).toList else [] := by
  unfold references reference
  rw [List.filterMap_cons, List.filterMap_nil, hId]
  by_cases hField : field ∈ fkFields tableName
  · rw [if_pos hField, if_pos hField]
    cases (entry.2.get field).bind (fkId uuids) <;> rfl
  · rw [if_neg hField, if_neg hField]
    rfl

variable {foreignKeys : Map String (Map String (Map Uuid (List Uuid)))}

/-- The foreign keys of an entity type after one more entity. -/
theorem buildFkIndex_tables {tableName endpointKey : String} {entities : List (Uuid × Json)}
    (entry : Uuid × Json) (h : (foreignKeys.lookup tableName).map lookups =
      (tablesOf uuids tableName endpointKey entities).foreignKeys) :
    ((buildFkIndex uuids foreignKeys tableName entry.2).lookup tableName).map lookups =
      (tablesOf uuids tableName endpointKey (entities ++ [entry])).foreignKeys := by
  unfold buildFkIndex
  cases hId : extractUuid uuids entry.2 "id" with
  | none =>
    have hRefs : ∀ field, references uuids tableName field [entry] = [] := by
      intro field
      exact references_nil (by simp [hId]) field
    simp only [tablesOf, List.any_append, references_concat, hRefs, List.append_nil, h,
      List.any_cons, List.any_nil, hId, Option.isSome_none, Bool.or_false]
  | some entityId =>
    have hStart : Indexes ((foreignKeys.lookup tableName).getD ∅)
        (fun field => references uuids tableName field entities) := by
      intro field
      unfold tablesOf at h
      cases hAny : entities.any fun entry => (extractUuid uuids entry.2 "id").isSome with
      | false =>
        simp only [hAny, Bool.false_eq_true, if_false, Option.map_eq_none_iff] at h
        simp only [h, references_nil hAny]
        rfl
      | true =>
        simp only [hAny, if_true] at h
        obtain ⟨tableFks, hTable, hLookups⟩ := Option.map_eq_some_iff.mp h
        rw [hTable]
        exact congrFun hLookups field
    have hAny : ((entities ++ [entry]).any fun entry =>
        (extractUuid uuids entry.2 "id").isSome) = true := by
      simp [hId]
    simp only [tablesOf, AList.lookup_insert, Option.map_some, hAny, if_true]
    refine congrArg some (funext fun field => ?_)
    rw [references_concat, references_single hId]
    refine Indexes.fold (fun field => (entry.2.get field).bind (fkId uuids)) ?_ ?_
      (fkFields_nodup tableName) hStart field
    · intro tableFks other hNone
      simp only [hNone]
    · intro tableFks other fk hSome
      simp only [hSome]

theorem buildFkIndex_other (entity : Json) (hOther : other ≠ tableName) :
    (buildFkIndex uuids foreignKeys tableName entity).lookup other =
      foreignKeys.lookup other := by
  unfold buildFkIndex
  split
  · rfl
  · rw [AList.lookup_insert_ne hOther]

/-- An entity is added to the maps of its type. -/
theorem loadEntity_tables (entityJson : Json)
    (h : loading.store.tables tableName = tablesOf uuids tableName endpointKey entities) :
    (loadEntity uuids tableName endpointKey loading entityJson).store.tables tableName =
      tablesOf uuids tableName endpointKey
        (entities ++ identifyAll uuids loading.drawn [entityJson]) := by
  obtain ⟨hEntities, hKeys, hFks⟩ := EntityTables.ext_iff.mp h
  obtain ⟨table, hTable, hTableAt⟩ := Option.map_eq_some_iff.mp hEntities
  obtain ⟨keys, hKey, hKeyAt⟩ := Option.map_eq_some_iff.mp hKeys
  have hEntry : identifyAll uuids loading.drawn [entityJson] =
      [((identify uuids loading.drawn entityJson).1,
        (identify uuids loading.drawn entityJson).2.1)] := rfl
  rw [hEntry]
  rcases hIdentify : identify uuids loading.drawn entityJson with ⟨id, entity, drawn⟩
  apply EntityTables.ext
  · simp only [tables, loadEntity, hIdentify, AList.lookup_insert, Option.map_some,
      hTable, Option.getD_some, tablesOf]
    refine congrArg some (funext fun other => ?_)
    rw [findRev?_concat]
    have hAt := congrFun hTableAt other
    by_cases hOther : other = id
    · subst hOther
      simp only [AList.lookup_insert, beq_self_eq_true, if_true, Option.map_some]
    · simp only [AList.lookup_insert_ne hOther, hAt, beq_iff_eq, Ne.symm hOther, if_false]
  · have hFind : (fun key => ((entities ++ [(id, entity)]).findRev? fun entry =>
        endpointKeyOf endpointKey entry.2 == some key).map Prod.fst) =
          fun key => if endpointKeyOf endpointKey entity = some key then some id
            else keys.lookup key := by
      funext key
      rw [findRev?_concat, congrFun hKeyAt key]
      by_cases hIs : endpointKeyOf endpointKey entity = some key <;> simp [hIs]
    simp only [tables, loadEntity, hIdentify, tablesOf, hFind]
    cases hOf : endpointKeyOf endpointKey entity with
    | none => simp [hKey]
    | some key =>
      simp only [AList.lookup_insert, Option.map_some, hKey, Option.getD_some]
      refine congrArg some (funext fun other => ?_)
      by_cases hOther : other = key
      · subst hOther
        simp only [AList.lookup_insert, if_true]
      · simp [AList.lookup_insert_ne hOther, Ne.symm hOther]
  · simp only [tables, loadEntity, hIdentify]
    exact buildFkIndex_tables (id, entity) hFks

theorem loadEntity_other (entityJson : Json) (hOther : other ≠ tableName) :
    (loadEntity uuids tableName endpointKey loading entityJson).store.tables other =
      loading.store.tables other := by
  apply EntityTables.ext
  · simp [tables, loadEntity, AList.lookup_insert_ne hOther]
  · simp only [tables, loadEntity]
    split
    · rw [AList.lookup_insert_ne hOther]
    · rfl
  · simp only [tables, loadEntity]
    rw [buildFkIndex_other _ hOther]

/-! ## A list, and all of them -/

variable {items : List Json}

theorem loadEntities_tables {tableName endpointKey : String} {entities : List (Uuid × Json)}
    {loading : Loading}
    (h : loading.store.tables tableName = tablesOf uuids tableName endpointKey entities) :
    (items.foldl (loadEntity uuids tableName endpointKey) loading).store.tables tableName =
      tablesOf uuids tableName endpointKey
        (entities ++ identifyAll uuids loading.drawn items) := by
  induction items generalizing entities loading with
  | nil => simpa [identifyAll] using h
  | cons entityJson items ih =>
    rw [List.foldl_cons, ih (loadEntity_tables entityJson h), List.append_assoc]
    rfl

theorem loadEntities_other {tableName endpointKey other : String} {loading : Loading}
    (hOther : other ≠ tableName) :
    (items.foldl (loadEntity uuids tableName endpointKey) loading).store.tables other =
      loading.store.tables other := by
  induction items generalizing loading with
  | nil => rfl
  | cons entityJson items ih => rw [List.foldl_cons, ih, loadEntity_other _ hOther]

theorem loadEntities_drawn {tableName endpointKey : String} {loading : Loading} :
    (items.foldl (loadEntity uuids tableName endpointKey) loading).drawn =
      drawnAfter uuids loading.drawn items := by
  induction items generalizing loading with
  | nil => rfl
  | cons entityJson items ih => rw [List.foldl_cons, ih]; rfl

theorem openTable_tables (h : store.tables tableName = .empty) :
    (openTable tableName store).tables tableName = tablesOf uuids tableName endpointKey [] := by
  obtain ⟨hEntities, hKeys, hFks⟩ := EntityTables.ext_iff.mp h
  have hData : store.data.lookup tableName = none := Option.map_eq_none_iff.mp hEntities
  have hEndpoint : store.endpointKeys.lookup tableName = none := Option.map_eq_none_iff.mp hKeys
  apply EntityTables.ext
  · simp only [tables, openTable, AList.lookup_insert, hData, tablesOf]
    rfl
  · simp only [tables, openTable, AList.lookup_insert, hEndpoint, tablesOf]
    rfl
  · simpa [tables, openTable, tablesOf, EntityTables.empty] using hFks

theorem openTable_other (hOther : other ≠ tableName) :
    (openTable tableName store).tables other = store.tables other := by
  simp [tables, openTable, AList.lookup_insert_ne hOther]

variable {types : List (String × String)} {drawn : Nat}

theorem mem_listings {config : Json} {listing : Listing}
    (h : listing ∈ listings uuids config types drawn) : listing.tableName ∈ types.map Prod.fst := by
  induction types generalizing drawn with
  | nil => simp [listings] at h
  | cons type types ih =>
    obtain ⟨tableName, endpointKey⟩ := type
    unfold listings at h
    split at h
    · exact List.mem_cons_of_mem _ (ih h)
    · split at h
      · cases h
      · rcases List.mem_cons.mp h with rfl | hMem
        · exact List.mem_cons_self
        · exact List.mem_cons_of_mem _ (ih hMem)

/-- A load gives the maps of an empty type the list of that type, and leaves the others. -/
theorem loadTables_tables {config : Json} {loading : Loading} (hNodup : (types.map Prod.fst).Nodup)
    (hEmpty : ∀ type ∈ types, loading.store.tables type.1 = .empty) (other : String) :
    (loadTables uuids config types loading).2.store.tables other =
      match (listings uuids config types loading.drawn).find? fun listing =>
          listing.tableName == other with
      | some listing => tablesOf uuids listing.tableName listing.endpointKey listing.entities
      | none => loading.store.tables other := by
  induction types generalizing loading with
  | nil => rfl
  | cons type types ih =>
    obtain ⟨tableName, endpointKey⟩ := type
    obtain ⟨hName, hNames⟩ := List.nodup_cons.mp hNodup
    obtain ⟨hType, hTypes⟩ := List.forall_mem_cons.mp hEmpty
    unfold loadTables listings
    cases hGet : config.get tableName with
    | none => exact ih hNames hTypes
    | some entities =>
      cases hItems : entities.asArray with
      | none => simp [hItems]
      | some items =>
        have hNe : ∀ type ∈ types, type.1 ≠ tableName := by
          intro type hMem hIs
          exact hName (List.mem_map.mpr ⟨type, hMem, hIs⟩)
        have hOpen : ∀ type ∈ types, (openTable tableName loading.store).tables type.1 =
            .empty := by
          intro type hMem
          rw [openTable_other (hNe type hMem), hTypes type hMem]
        have hLoaded : ∀ type ∈ types, (items.foldl (loadEntity uuids tableName endpointKey)
            ⟨openTable tableName loading.store, loading.drawn⟩).store.tables type.1 = .empty := by
          intro type hMem
          rw [loadEntities_other (hNe type hMem)]
          exact hOpen type hMem
        simp only [hItems]
        rw [ih hNames hLoaded, loadEntities_drawn, List.find?_cons]
        by_cases hOther : tableName = other
        · subst hOther
          have hNone : ((listings uuids config types
              (drawnAfter uuids loading.drawn items)).find? fun listing =>
                listing.tableName == tableName) = none := by
            rw [List.find?_eq_none]
            intro listing hMem hIs
            rw [beq_iff_eq] at hIs
            exact hName (hIs ▸ mem_listings hMem)
          simp only [hNone, beq_self_eq_true]
          rw [loadEntities_tables (openTable_tables hType)]
          rfl
        · simp only [beq_eq_false_iff_ne.mpr hOther]
          rw [loadEntities_other (Ne.symm hOther), openTable_other (Ne.symm hOther)]

theorem entityTypes_nodup : (entityTypes.map Prod.fst).Nodup := by
  decide

theorem loadTables_declared (tableName : String) :
    (loadTables uuids config entityTypes ⟨.new, drawn⟩).2.store.tables tableName =
      declared uuids config drawn tableName :=
  loadTables_tables entityTypes_nodup (fun _ _ => rfl) tableName

/-! ## A load that fails -/

theorem loadFromJson_refused {config : Json} {loading : Loading}
    (h : (¬ ∃ fields, config = .object fields) ∨ checkFormatVersion config ≠ .ok ()) :
    (loadFromJson uuids config loading).2 = loading := by
  cases config with
  | object fields =>
    have hVersion : checkFormatVersion (.object fields) ≠ .ok () :=
      h.resolve_left fun hNot => hNot ⟨fields, rfl⟩
    unfold loadFromJson
    cases hCheck : checkFormatVersion (.object fields) with
    | error e => simp only
    | ok _ => exact absurd hCheck hVersion
  | _ => rfl

theorem loadFromJson_declared (hObject : ∃ fields, config = .object fields)
    (hVersion : checkFormatVersion config = .ok ()) (tableName : String) :
    (loadFromJson uuids config loading).2.store.tables tableName =
      declared uuids config loading.drawn tableName := by
  obtain ⟨fields, rfl⟩ := hObject
  unfold loadFromJson
  simp only [hVersion]
  exact loadTables_declared tableName

end Steps

/-- A failed load leaves the store as it was if and only if it is refused before the store is
cleared, or the store had just the lists in front of the one that is none. -/
theorem failed_load_keeps_iff (uuids : UuidLibrary) (config : Json) (loading : Loading) :
    (∀ e, (loadFromJson uuids config loading).1 = .error e → ∀ tableName,
        (loadFromJson uuids config loading).2.store.tables tableName =
          loading.store.tables tableName) ↔
      (¬ ∃ fields, config = .object fields) ∨ checkFormatVersion config ≠ .ok () ∨
        Acceptable config ∨
        ∀ tableName, declared uuids config loading.drawn tableName =
          loading.store.tables tableName := by
  constructor
  · intro hKeeps
    by_cases hObject : ∃ fields, config = .object fields
    · by_cases hVersion : checkFormatVersion config = .ok ()
      · cases hResult : (loadFromJson uuids config loading).1 with
        | ok _ => exact .inr (.inr (.inl (loadFromJson_ok.mp hResult)))
        | error e =>
          refine .inr (.inr (.inr fun tableName => ?_))
          rw [← loadFromJson_declared hObject hVersion tableName]
          exact hKeeps e hResult tableName
      · exact .inr (.inl hVersion)
    · exact .inl hObject
  · intro hWhen e hError tableName
    rcases hWhen with hObject | hVersion | hAcceptable | hSame
    · rw [loadFromJson_refused (.inl hObject)]
    · rw [loadFromJson_refused (.inr hVersion)]
    · rw [loadFromJson_ok.mpr hAcceptable] at hError
      cases hError
    · by_cases hPassed : (∃ fields, config = .object fields) ∧ checkFormatVersion config = .ok ()
      · rw [loadFromJson_declared hPassed.1 hPassed.2, hSame]
      · rw [loadFromJson_refused (not_and_or.mp hPassed)]

def sampleUuids : UuidLibrary where
  parse text := if text = "00000000-0000-0000-0000-000000000001" then some 1 else none
  draw n := BitVec.ofNat 128 (n + 1)

def sampleConfig : Json :=
  .object [("services", .array [.object
    [("id", .string "00000000-0000-0000-0000-000000000001"), ("name", .string "a")]])]

def sampleReload : Json := .object [("services", .string "a")]

/-- A reload that fails has cleared the store. -/
theorem failed_load_clears : ¬ ∀ (uuids : UuidLibrary) (config : Json) (loading : Loading) e,
    (loadFromJson uuids config loading).1 = .error e → ∀ tableName,
      (loadFromJson uuids config loading).2.store.tables tableName =
        loading.store.tables tableName := by
  intro h
  have hSame := h sampleUuids sampleReload
    (loadFromJson sampleUuids sampleConfig ⟨.new, 0⟩).2 _ rfl "services"
  have hBefore : ((loadFromJson sampleUuids sampleConfig ⟨.new, 0⟩).2.store.tables
      "services").entities.isSome = true := rfl
  rw [← hSame] at hBefore
  cases hBefore

end KongRust.Storage

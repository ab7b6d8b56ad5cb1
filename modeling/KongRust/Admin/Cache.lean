import KongRust.Admin.Paging
import KongRust.Foundation.Str

/-!
# The entity cache

`KongCache` keeps the serialised entities under two keys, that of the identifier and that of the
endpoint key. Capacity and lifetime let moka drop an entry at any time. Beside the cache stands what
a reader expects of it: for each entity the version that was set last and not invalidated since.
-/

namespace KongRust.Admin

/-- What the cache reads of an entity; `value` is `serde_json::to_value(entity).ok()`. -/
structure CachedEntity where
  type : EntityType
  id : Uuid
  endpointKeyValue : Option String
  value : Option Json

inductive CacheEntry where
  | hit (value : Json)
  | miss

structure KongCache where
  cache : AList fun _ : String => CacheEntry

namespace KongCache

def new : KongCache := ⟨∅⟩

variable (kong : KongCache) (key : String)

def get (kong : KongCache) (key : String) : Option (Option Json) :=
  match kong.cache.lookup key with
  | some (.hit value) => some (some value)
  | some .miss => some none
  | none => none

def set (kong : KongCache) (key : String) (value : Json) : KongCache :=
  ⟨kong.cache.insert key (.hit value)⟩

def invalidate (kong : KongCache) (key : String) : KongCache := ⟨kong.cache.erase key⟩

/-- `T::cache_key_prefix()` is the name of the table. -/
def entityCacheKey (type : EntityType) (id : Uuid) : String :=
  type.tableName ++ ":" ++ id.text

def entityEndpointCacheKey (type : EntityType) (keyName keyValue : String) : String :=
  type.tableName ++ ":" ++ keyName ++ ":" ++ keyValue

/-- `get_entity`, where `fromValue` is `serde_json::from_value(v).ok()`. -/
def getEntity {α : Type*} (kong : KongCache) (fromValue : Json → Option α) (type : EntityType)
    (id : Uuid) : Option (Option α) :=
  (kong.get (entityCacheKey type id)).map fun found => found.bind fromValue

def setEntity (kong : KongCache) (entity : CachedEntity) : KongCache :=
  let kong := match entity.value with
    | some value => kong.set (entityCacheKey entity.type entity.id) value
    | none => kong
  match entity.type.endpointKey, entity.endpointKeyValue with
  | some ek, some ev =>
    match entity.value with
    | some value => kong.set (entityEndpointCacheKey entity.type ek ev) value
    | none => kong
  | _, _ => kong

def invalidateEntity (kong : KongCache) (entity : CachedEntity) : KongCache :=
  let kong := kong.invalidate (entityCacheKey entity.type entity.id)
  match entity.type.endpointKey, entity.endpointKeyValue with
  | some ek, some ev => kong.invalidate (entityEndpointCacheKey entity.type ek ev)
  | _, _ => kong

end KongCache

open KongCache

/-! ## The keys of an entity -/

def CachedEntity.keys (entity : CachedEntity) : List String :=
  entityCacheKey entity.type entity.id ::
    match entity.type.endpointKey, entity.endpointKeyValue with
    | some ek, some ev => [entityEndpointCacheKey entity.type ek ev]
    | _, _ => []

variable {entity : CachedEntity} {type other : EntityType} {name : String}

theorem KongCache.lookup_setEntity (kong : KongCache) {value : Json} (h : entity.value = some value)
    (key : String) :
    (kong.setEntity entity).cache.lookup key =
      if key ∈ entity.keys then some (.hit value) else kong.cache.lookup key := by
  have hInsert (entries : AList fun _ : String => CacheEntry) (k : String) :
      (entries.insert k (.hit value)).lookup key =
        if key = k then some (.hit value) else entries.lookup key := by
    by_cases hKey : key = k
    · subst hKey
      rw [AList.lookup_insert, if_pos rfl]
    · rw [AList.lookup_insert_ne hKey, if_neg hKey]
  unfold setEntity CachedEntity.keys KongCache.set
  rw [h]
  dsimp only
  split
  · simp only [hInsert, List.mem_cons, List.not_mem_nil, or_false]
    split <;> split <;> simp_all
  · simp only [hInsert, List.mem_cons, List.not_mem_nil, or_false]

theorem KongCache.setEntity_unserialised (kong : KongCache) (h : entity.value = none) :
    kong.setEntity entity = kong := by
  unfold setEntity
  rw [h]
  dsimp only
  split <;> rfl

theorem KongCache.lookup_invalidateEntity (kong : KongCache) (entity : CachedEntity)
    (key : String) :
    (kong.invalidateEntity entity).cache.lookup key =
      if key ∈ entity.keys then none else kong.cache.lookup key := by
  have hErase (entries : AList fun _ : String => CacheEntry) (k : String) :
      (entries.erase k).lookup key = if key = k then none else entries.lookup key := by
    by_cases hKey : key = k
    · subst hKey
      rw [AList.lookup_erase, if_pos rfl]
    · rw [AList.lookup_erase_ne hKey, if_neg hKey]
  unfold invalidateEntity CachedEntity.keys KongCache.invalidate
  dsimp only
  split
  · simp only [hErase, List.mem_cons, List.not_mem_nil, or_false]
    split <;> split <;> simp_all
  · simp only [hErase, List.mem_cons, List.not_mem_nil, or_false]

theorem EntityType.tableName_plain (type : EntityType) : ':' ∉ type.tableName.toList := by
  cases type <;> simp [EntityType.tableName]

theorem EntityType.tableName_inj {a b : EntityType} (h : a.tableName = b.tableName) : a = b := by
  cases a <;> cases b <;> first | rfl | simp [EntityType.tableName] at h

theorem EntityType.endpointKey_plain (h : type.endpointKey = some name) : ':' ∉ name.toList := by
  cases type <;> simp [EntityType.endpointKey] at h <;> subst h <;> simp

theorem Uuid.text_plain (id : Uuid) : ':' ∉ (Uuid.text id).toList := by
  intro hColon
  have hSymbol := Uuid.mem_text hColon
  simp [uuidSymbols] at hSymbol

theorem Uuid.text_inj {a b : Uuid} (h : a.text = b.text) : a = b := by
  rw [← Uuid.ofNat_text a, ← Uuid.ofNat_text b, h]

theorem append_colon_inj {a b x y : String} (hA : ':' ∉ a.toList) (hB : ':' ∉ b.toList)
    (h : a ++ ":" ++ x = b ++ ":" ++ y) : a = b ∧ x = y := by
  have hColon : ":".toList = [':'] := rfl
  have hLists := congrArg String.toList h
  simp only [String.toList_append, List.append_assoc, hColon, List.singleton_append] at hLists
  obtain ⟨hFront, hRest⟩ := Str.append_cons_unique hA hB hLists
  exact ⟨String.toList_inj.mp hFront, String.toList_inj.mp hRest⟩

theorem entityCacheKey_inj {id otherId : Uuid}
    (h : entityCacheKey type id = entityCacheKey other otherId) : type = other ∧ id = otherId := by
  obtain ⟨hTable, hText⟩ := append_colon_inj type.tableName_plain other.tableName_plain h
  exact ⟨EntityType.tableName_inj hTable, Uuid.text_inj hText⟩

theorem entityEndpointCacheKey_eq (type : EntityType) (name value : String) :
    entityEndpointCacheKey type name value =
      type.tableName ++ ":" ++ (name ++ ":" ++ value) := by
  unfold entityEndpointCacheKey
  simp only [String.append_assoc]

theorem entityEndpointCacheKey_inj {otherName : String} {value otherValue : String}
    (hName : type.endpointKey = some name) (hOther : other.endpointKey = some otherName)
    (h : entityEndpointCacheKey type name value =
      entityEndpointCacheKey other otherName otherValue) : type = other ∧ value = otherValue := by
  rw [entityEndpointCacheKey_eq, entityEndpointCacheKey_eq] at h
  obtain ⟨hTable, hRest⟩ := append_colon_inj type.tableName_plain other.tableName_plain h
  obtain ⟨-, hValue⟩ := append_colon_inj (EntityType.endpointKey_plain hName)
    (EntityType.endpointKey_plain hOther) hRest
  exact ⟨EntityType.tableName_inj hTable, hValue⟩

theorem entityCacheKey_ne (type other : EntityType) (id : Uuid) (name value : String) :
    entityCacheKey type id ≠ entityEndpointCacheKey other name value := by
  intro h
  rw [entityEndpointCacheKey_eq] at h
  obtain ⟨-, hText⟩ := append_colon_inj type.tableName_plain other.tableName_plain h
  apply Uuid.text_plain id
  rw [hText]
  simp

/-! ## What a reader expects -/

/-- The cache beside the version of each entity that was set last and not invalidated since. -/
structure Cached where
  kong : KongCache
  latest : EntityType → Uuid → Option CachedEntity

inductive CacheCall where
  | setEntity (entity : CachedEntity)
  | invalidateEntity (entity : CachedEntity)
  /-- Moka drops an entry. -/
  | evict (key : String)

namespace Cached

def new : Cached := ⟨.new, fun _ _ => none⟩

def note (latest : EntityType → Uuid → Option CachedEntity) (entity : CachedEntity)
    (version : Option CachedEntity) : EntityType → Uuid → Option CachedEntity :=
  fun type id => if type = entity.type ∧ id = entity.id then version else latest type id

def call (cached : Cached) : CacheCall → Cached
  | .setEntity entity => ⟨cached.kong.setEntity entity, note cached.latest entity (some entity)⟩
  | .invalidateEntity entity =>
    ⟨cached.kong.invalidateEntity entity, note cached.latest entity none⟩
  | .evict key => ⟨cached.kong.invalidate key, cached.latest⟩

/-- A lookup by identifier gives nothing or the latest version of the entity, and a lookup by
endpoint key nothing or the latest version of an entity that has this endpoint key. -/
structure Current (cached : Cached) : Prop where
  byId : ∀ type id, cached.kong.get (entityCacheKey type id) = none ∨
    ∃ entity value, cached.latest type id = some entity ∧ entity.value = some value ∧
      cached.kong.get (entityCacheKey type id) = some (some value)
  read : ∀ {α : Type} (fromValue : Json → Option α) type id,
    cached.kong.getEntity fromValue type id = none ∨
      ∃ entity value, cached.latest type id = some entity ∧ entity.value = some value ∧
        cached.kong.getEntity fromValue type id = some (fromValue value)
  byKey : ∀ type name, type.endpointKey = some name → ∀ key,
    cached.kong.get (entityEndpointCacheKey type name key) = none ∨
      ∃ id entity value, cached.latest type id = some entity ∧
        entity.endpointKeyValue = some key ∧ entity.value = some value ∧
        cached.kong.get (entityEndpointCacheKey type name key) = some (some value)

/-- Outside the keys that are written, no key of the latest version of the entity holds it. -/
def LeavesNone (cached : Cached) (entity : CachedEntity) (writes : List String) : Prop :=
  ∀ old value, cached.latest entity.type entity.id = some old → old.value = some value →
    ∀ key ∈ old.keys, key ∉ writes → cached.kong.cache.lookup key ≠ some (.hit value)

def Clears (cached : Cached) : CacheCall → Prop
  | .setEntity entity => cached.LeavesNone entity (if entity.value.isSome then entity.keys else [])
  | .invalidateEntity entity => cached.LeavesNone entity entity.keys
  | .evict _ => True

/-- The states of the runs whose calls all leave no old version behind. -/
inductive Reached : Cached → Prop where
  | new : Reached .new
  | call {cached : Cached} {call : CacheCall} (h : Reached cached) (hClears : cached.Clears call) :
    Reached (cached.call call)

theorem leavesNone_of_endpointKey {cached : Cached} {entity : CachedEntity}
    (h : ∀ old, cached.latest entity.type entity.id = some old →
      old.type = entity.type ∧ old.id = entity.id ∧
        old.endpointKeyValue = entity.endpointKeyValue) :
    cached.LeavesNone entity entity.keys := by
  intro old value hOld _ key hKey hWrites
  obtain ⟨hType, hId, hEndpoint⟩ := h old hOld
  have hKeys : old.keys = entity.keys := by
    unfold CachedEntity.keys
    rw [hType, hId, hEndpoint]
  rw [hKeys] at hKey
  exact absurd hKey hWrites

/-- Every entry is the latest version of an entity, under one of its keys. -/
def Backed (cached : Cached) : Prop :=
  ∀ key entry, cached.kong.cache.lookup key = some entry →
    ∃ entity value, cached.latest entity.type entity.id = some entity ∧
      entity.value = some value ∧ entry = .hit value ∧ key ∈ entity.keys

section Backed

variable {cached : Cached} {entity : CachedEntity}

theorem note_self (latest : EntityType → Uuid → Option CachedEntity) (entity : CachedEntity)
    (version : Option CachedEntity) :
    note latest entity version entity.type entity.id = version := by
  simp [note]

theorem call_setEntity_latest :
    (cached.call (.setEntity entity)).latest entity.type entity.id = some entity :=
  note_self _ _ _

theorem call_invalidateEntity_latest :
    (cached.call (.invalidateEntity entity)).latest entity.type entity.id = none :=
  note_self _ _ _

section

variable (h : cached.Backed)
include h

theorem Backed.note {writes : List String}
    (hClears : cached.LeavesNone entity writes) (version : Option CachedEntity) {key : String}
    {entry : CacheEntry} (hEntry : cached.kong.cache.lookup key = some entry)
    (hKey : key ∉ writes) :
    ∃ other value, note cached.latest entity version other.type other.id = some other ∧
      other.value = some value ∧ entry = .hit value ∧ key ∈ other.keys := by
  obtain ⟨other, value, hLatest, hValue, rfl, hOther⟩ := h key entry hEntry
  refine ⟨other, value, ?_, hValue, rfl, hOther⟩
  have hApart : ¬(other.type = entity.type ∧ other.id = entity.id) := by
    rintro ⟨hType, hId⟩
    rw [hType, hId] at hLatest
    exact hClears other value hLatest hValue key hOther hKey hEntry
  unfold Cached.note
  rw [if_neg hApart]
  exact hLatest

theorem Backed.setEntity (hClears : cached.Clears (.setEntity entity)) :
    (cached.call (.setEntity entity)).Backed := by
  intro key entry hEntry
  unfold Clears at hClears
  unfold Cached.call at hEntry ⊢
  dsimp only at hClears hEntry ⊢
  cases hValue : entity.value with
  | none =>
    rw [KongCache.setEntity_unserialised _ hValue] at hEntry
    rw [hValue] at hClears
    exact h.note hClears (some entity) hEntry List.not_mem_nil
  | some value =>
    rw [KongCache.lookup_setEntity _ hValue] at hEntry
    rw [hValue] at hClears
    split at hEntry
    · next hKey =>
      cases hEntry
      exact ⟨entity, value, note_self _ _ _, hValue, rfl, hKey⟩
    · next hKey => exact h.note hClears (some entity) hEntry hKey

theorem Backed.invalidateEntity (hClears : cached.Clears (.invalidateEntity entity)) :
    (cached.call (.invalidateEntity entity)).Backed := by
  intro key entry hEntry
  unfold Cached.call at hEntry ⊢
  dsimp only at hEntry ⊢
  rw [KongCache.lookup_invalidateEntity] at hEntry
  split at hEntry
  · cases hEntry
  · next hKey => exact h.note hClears none hEntry hKey

theorem Backed.evict (dropped : String) :
    (cached.call (.evict dropped)).Backed := by
  intro key entry hEntry
  unfold Cached.call KongCache.invalidate at hEntry
  dsimp only at hEntry
  by_cases hKey : key = dropped
  · subst hKey
    rw [AList.lookup_erase] at hEntry
    cases hEntry
  · rw [AList.lookup_erase_ne hKey] at hEntry
    exact h key entry hEntry

end

theorem Reached.backed (h : Reached cached) : cached.Backed := by
  induction h with
  | new =>
    intro key entry hEntry
    cases hEntry
  | @call cached call _ hClears ih =>
    cases call with
    | setEntity entity => exact ih.setEntity hClears
    | invalidateEntity entity => exact ih.invalidateEntity hClears
    | evict key => exact ih.evict key

theorem Backed.get (h : cached.Backed) (key : String) : cached.kong.get key = none ∨ ∃ entity value,
      cached.latest entity.type entity.id = some entity ∧ entity.value = some value ∧
        cached.kong.get key = some (some value) ∧ key ∈ entity.keys := by
  unfold KongCache.get
  cases hEntry : cached.kong.cache.lookup key with
  | none => exact .inl rfl
  | some entry =>
    obtain ⟨entity, value, hLatest, hValue, rfl, hKey⟩ := h key entry hEntry
    exact .inr ⟨entity, value, hLatest, hValue, rfl, hKey⟩

theorem Backed.byId (h : cached.Backed) (type : EntityType) (id : Uuid) :
    cached.kong.get (entityCacheKey type id) = none ∨
      ∃ entity value, cached.latest type id = some entity ∧ entity.value = some value ∧
        cached.kong.get (entityCacheKey type id) = some (some value) := by
  obtain hNone | ⟨entity, value, hLatest, hValue, hGet, hKey⟩ := h.get (entityCacheKey type id)
  · exact .inl hNone
  · have hSame : type = entity.type ∧ id = entity.id := by
      unfold CachedEntity.keys at hKey
      obtain hId | hEndpoint := List.mem_cons.mp hKey
      · exact entityCacheKey_inj hId
      · split at hEndpoint
        · exact absurd (List.mem_singleton.mp hEndpoint) (entityCacheKey_ne _ _ _ _ _)
        · cases hEndpoint
    obtain ⟨rfl, rfl⟩ := hSame
    exact .inr ⟨entity, value, hLatest, hValue, hGet⟩

theorem Backed.byKey (h : cached.Backed) {type : EntityType} {name : String}
    (hName : type.endpointKey = some name) (key : String) :
    cached.kong.get (entityEndpointCacheKey type name key) = none ∨
      ∃ id entity value, cached.latest type id = some entity ∧
        entity.endpointKeyValue = some key ∧ entity.value = some value ∧
        cached.kong.get (entityEndpointCacheKey type name key) = some (some value) := by
  obtain hNone | ⟨entity, value, hLatest, hValue, hGet, hKey⟩ :=
    h.get (entityEndpointCacheKey type name key)
  · exact .inl hNone
  · have hSame : type = entity.type ∧ entity.endpointKeyValue = some key := by
      unfold CachedEntity.keys at hKey
      obtain hId | hEndpoint := List.mem_cons.mp hKey
      · exact absurd hId.symm (entityCacheKey_ne _ _ _ _ _)
      · split at hEndpoint
        · next ek ev hEk hEv =>
          obtain ⟨hType, hText⟩ :=
            entityEndpointCacheKey_inj hName hEk (List.mem_singleton.mp hEndpoint)
          exact ⟨hType, hText ▸ hEv⟩
        · cases hEndpoint
    obtain ⟨rfl, hEndpoint⟩ := hSame
    exact .inr ⟨entity.id, entity, value, hLatest, hEndpoint, hValue, hGet⟩

end Backed

/-- **Lookups.** In every run whose calls leave no old version behind, each lookup gives nothing or
the latest version, under the keys that this version has. -/
theorem lookups_current {cached : Cached} (h : Reached cached) : cached.Current where
  byId := h.backed.byId
  read fromValue type id := by
    unfold KongCache.getEntity
    obtain hNone | ⟨entity, value, hLatest, hValue, hGet⟩ := h.backed.byId type id
    · left
      rw [hNone]
      rfl
    · right
      refine ⟨entity, value, hLatest, hValue, ?_⟩
      rw [hGet]
      rfl
  byKey _ _ hName key := h.backed.byKey hName key

/-! ## A service that gets another name -/

def sampleService (name : String) : CachedEntity :=
  ⟨.services, 1, some name, some (.object [("name", .string name)])⟩

/-- The service is set, invalidated under its old name and set under the new one. -/
theorem lookups_current_sample : (((Cached.new.call (.setEntity (sampleService "old"))).call
      (.invalidateEntity (sampleService "old"))).call
        (.setEntity (sampleService "new"))).Current := by
  refine lookups_current (.call (.call (.call .new ?_) ?_) ?_)
  · intro _ _ hOld
    cases hOld
  · refine leavesNone_of_endpointKey ?_
    intro old hOld
    rw [call_setEntity_latest] at hOld
    cases hOld
    exact ⟨rfl, rfl, rfl⟩
  · intro old _ hOld
    have hNone : none = some old := (call_invalidateEntity_latest).symm.trans hOld
    cases hNone

/-- A service that is set again under another name stays in the cache under the old one. -/
theorem rename_leaves_entry :
    ¬ ∀ calls : List CacheCall, (calls.foldl Cached.call Cached.new).Current := by
  intro h
  have hStale := (h [.setEntity (sampleService "old"), .setEntity (sampleService "new")]).byKey
    .services "name" rfl "old"
  simp only [List.foldl_cons, List.foldl_nil, Cached.call] at hStale
  have hOld : entityEndpointCacheKey .services "name" "old" ∈ (sampleService "old").keys := by
    simp [CachedEntity.keys, sampleService, EntityType.endpointKey]
  have hNew : entityEndpointCacheKey .services "name" "old" ∉ (sampleService "new").keys := by
    intro hMem
    obtain hId | hName := List.mem_cons.mp hMem
    · exact entityCacheKey_ne _ _ _ _ _ hId.symm
    · have hSame := entityEndpointCacheKey_inj rfl rfl (List.mem_singleton.mp hName)
      exact absurd hSame.2 (by decide)
  obtain hNone | ⟨id, entity, _, hLatest, hKey, -⟩ := hStale
  · unfold KongCache.get at hNone
    rw [KongCache.lookup_setEntity _ rfl, if_neg hNew, KongCache.lookup_setEntity _ rfl,
      if_pos hOld] at hNone
    cases hNone
  · unfold note at hLatest
    split at hLatest
    · cases hLatest
      exact absurd hKey (by decide)
    · next hOther =>
      split at hLatest
      · next hSame => exact hOther hSame
      · cases hLatest

end Cached

end KongRust.Admin

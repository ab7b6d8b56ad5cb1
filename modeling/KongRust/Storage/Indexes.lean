import KongRust.Admin.Paging
import KongRust.Foundation.Serde
import KongRust.Storage.Contents

/-!
# The maps of a store against each other

The lookups of `DblessStore`. After a load its three maps agree exactly if the lists repeat no
identifier and no endpoint key in a way that one map keeps and another one forgets: an entity that a
later one replaces stays in the foreign keys, and its endpoint key goes on pointing to its
identifier.
-/

namespace KongRust.Storage

open Paging

/-! ## The lookups -/

section Lookups

variable (uuids : UuidLibrary) (store : DblessStore)

def DblessStore.getEntity (tableName : String) (id : Uuid) : Option Json :=
  (store.data.lookup tableName).bind fun table => table.lookup id

def DblessStore.getEntityByEndpointKey (tableName keyValue : String) : Option Json :=
  ((store.endpointKeys.lookup tableName).bind fun keys => keys.lookup keyValue).bind fun id =>
    store.getEntity tableName id

/-- `list_by_foreign_key`; a position is found in the identifiers in their order. -/
def DblessStore.listByForeignKey (tableName fkField : String) (fkValue : Uuid)
    (offset : Option Uuid) (limit : Nat) : List Json × Option Uuid :=
  match ((store.foreignKeys.lookup tableName).bind fun tableFks => tableFks.lookup fkField).bind
      fun ids => ids.lookup fkValue with
  | none => ([], none)
  | some ids =>
    match store.data.lookup tableName with
    | none => ([], none)
    | some table =>
      let sortedIds := ids.insertionSort (· ≤ ·)
      let start :=
        match offset with
        | some offsetId => sortedIds.findIdx fun id => offsetId < id
        | none => 0
      let remaining := sortedIds.drop start
      let result := (remaining.take limit).filterMap fun id => table.lookup id
      (result, if limit < remaining.length then
        result.getLast?.bind fun row => extractUuid uuids row "id" else none)

/-- The pages from an offset to the last one, each from where the one before it ends. -/
inductive DblessStore.Walk (tableName fkField : String) (fkValue : Uuid) (limit : Nat) :
    Option Uuid → List Json → Prop
  | last {offset : Option Uuid} {rows : List Json}
      (h : store.listByForeignKey uuids tableName fkField fkValue offset limit = (rows, none)) :
      Walk tableName fkField fkValue limit offset rows
  | next {offset : Option Uuid} {rows others : List Json} {nextOffset : Uuid}
      (h : store.listByForeignKey uuids tableName fkField fkValue offset limit =
        (rows, some nextOffset))
      (hOthers : Walk tableName fkField fkValue limit (some nextOffset) others) :
      Walk tableName fkField fkValue limit offset (rows ++ others)

/-- The three maps of an entity type agree. -/
structure DblessStore.Agree (tableName endpointKey : String) : Prop where
  byKey : ∀ key entity, store.getEntityByEndpointKey tableName key = some entity →
    endpointKeyOf endpointKey entity = some key
  found : ∀ id entity key, store.getEntity tableName id = some entity →
    endpointKeyOf endpointKey entity = some key →
    store.getEntityByEndpointKey tableName key = some entity
  listed : ∀ field ∈ fkFields tableName, ∀ fk limit, 0 < limit → ∃ ids : List Uuid, ids.Nodup ∧
    (∀ id, id ∈ ids ↔ ∃ entity, store.getEntity tableName id = some entity ∧
      reference uuids tableName field entity = some fk) ∧
    store.Walk uuids tableName field fk limit none
      (ids.filterMap fun id => store.getEntity tableName id)
  ids : ∀ id entity, store.getEntity tableName id = some entity →
    extractUuid uuids entity "id" = some id

end Lookups

/-! ## The lookups and the tables -/

section Tables

variable {uuids : UuidLibrary} {store : DblessStore} {tableName : String}

theorem getEntity_tables (id : Uuid) : store.getEntity tableName id =
    (store.tables tableName).entities.bind fun table => table id := by
  unfold DblessStore.getEntity DblessStore.tables
  cases store.data.lookup tableName <;> rfl

theorem getEntityByEndpointKey_tables (key : String) : store.getEntityByEndpointKey tableName key =
      ((store.tables tableName).endpointKeys.bind fun keys => keys key).bind fun id =>
        store.getEntity tableName id := by
  unfold DblessStore.getEntityByEndpointKey DblessStore.tables
  cases store.endpointKeys.lookup tableName <;> rfl

/-- The identifiers of a foreign key, none where there is no entry. -/
def EntityTables.fkIds (tables : EntityTables) (field : String) (fk : Uuid) : List Uuid :=
  ((tables.foreignKeys.bind fun fks => fks field).bind fun ids => ids fk).getD []

theorem drop_findIdx (k : Uuid) {ids : List Uuid} (h : ids.Pairwise (· ≤ ·)) :
    ids.drop (ids.findIdx fun id => k < id) = ids.filter fun id => k < id := by
  induction ids with
  | nil => rfl
  | cons id ids ih =>
    obtain ⟨hHead, hTail⟩ := List.pairwise_cons.mp h
    rw [List.findIdx_cons]
    by_cases hId : k < id
    · have hAll : ∀ other ∈ id :: ids, decide (k < other) = true := by
        intro other hOther
        rcases List.mem_cons.mp hOther with rfl | hOther
        · exact decide_eq_true hId
        · exact decide_eq_true (lt_of_lt_of_le hId (hHead other hOther))
      rw [List.filter_eq_self.mpr hAll]
      simp [hId]
    · rw [List.filter_cons_of_neg (by simpa using hId)]
      simp only [hId, decide_false, cond_false, List.drop_succ_cons]
      exact ih hTail

/-- A listing is a page of the sorted identifiers behind the offset. -/
theorem listByForeignKey_eq (field : String) (fk : Uuid) (offset : Option Uuid) (limit : Nat) :
    store.listByForeignKey uuids tableName field fk offset limit =
      (((rest (fun id => id) ((store.tables tableName).fkIds field fk) offset).take
          limit).filterMap fun id => store.getEntity tableName id,
        if limit < (rest (fun id => id) ((store.tables tableName).fkIds field fk)
            offset).length then
          (((rest (fun id => id) ((store.tables tableName).fkIds field fk) offset).take
            limit).filterMap fun id => store.getEntity tableName id).getLast?.bind fun row =>
              extractUuid uuids row "id"
        else none) := by
  have hIds : (store.tables tableName).fkIds field fk =
      (((store.foreignKeys.lookup tableName).bind fun tableFks => tableFks.lookup field).bind
        fun ids => ids.lookup fk).getD [] := by
    unfold EntityTables.fkIds DblessStore.tables lookups
    cases store.foreignKeys.lookup tableName with
    | none => rfl
    | some tableFks =>
      cases hField : tableFks.lookup field with
      | none | some ids => simp [hField]
  unfold DblessStore.listByForeignKey
  rw [hIds]
  cases ((store.foreignKeys.lookup tableName).bind fun tableFks => tableFks.lookup field).bind
      fun ids => ids.lookup fk with
  | none =>
    have hNil : rest (fun id : Uuid => id) [] offset = [] := by
      cases offset <;> rfl
    simp [hNil]
  | some ids =>
    have hRest : (ids.insertionSort (· ≤ ·)).drop
        (match offset with
          | some offsetId => (ids.insertionSort (· ≤ ·)).findIdx fun id => offsetId < id
          | none => 0) = rest (fun id => id) ids offset := by
      cases offset with
      | none => rfl
      | some k =>
        have hSorted : (ids.insertionSort (· ≤ ·)).Pairwise (· ≤ ·) :=
          List.pairwise_insertionSort (· ≤ ·) ids
        have hRestSorted : (rest (fun id => id) ids (some k)).Pairwise (· ≤ ·) :=
          List.pairwise_insertionSort (· ≤ ·) _
        have hAfter : after (fun id : Uuid => id) (some k) ids = ids.filter fun id => k < id :=
          List.filter_congr fun _ _ => decide_eq_decide.mpr Iff.rfl
        have hPerm : ((ids.insertionSort (· ≤ ·)).filter fun id => k < id).Perm
            (rest (fun id => id) ids (some k)) :=
          ((List.perm_insertionSort _ ids).filter _).trans (hAfter ▸ (rest_perm ids (some k)).symm)
        simp only
        rw [drop_findIdx k hSorted]
        exact List.Perm.eq_of_pairwise (fun _ _ _ _ hab hba => le_antisymm hab hba)
          (hSorted.sublist List.filter_sublist) hRestSorted hPerm
    unfold DblessStore.getEntity
    cases store.data.lookup tableName with
    | none => simp
    | some table =>
      simp only [hRest, Option.getD_some, Option.bind_some]

variable {field : String} {fk : Uuid} {limit : Nat}

theorem listByForeignKey_all (h : ((store.tables tableName).fkIds field fk).length ≤ limit) :
    store.listByForeignKey uuids tableName field fk none limit =
      ((rest (fun id => id) ((store.tables tableName).fkIds field fk) none).filterMap
        fun id => store.getEntity tableName id, none) := by
  have hLength : (rest (fun id => id) ((store.tables tableName).fkIds field fk)
      none).length ≤ limit := by
    rw [(rest_perm _ none).length_eq]
    exact h
  rw [listByForeignKey_eq, if_neg (by omega), List.take_of_length_le hLength]

/-- Distinct identifiers whose entities carry them are walked through to the end. -/
theorem walk_rest (hLimit : 0 < limit) (hNodup : ((store.tables tableName).fkIds field fk).Nodup)
    (hStored : ∀ id ∈ (store.tables tableName).fkIds field fk, ∃ entity,
      store.getEntity tableName id = some entity ∧ extractUuid uuids entity "id" = some id)
    (offset : Option Uuid) : store.Walk uuids tableName field fk limit offset
      ((rest (fun id => id) ((store.tables tableName).fkIds field fk) offset).filterMap
        fun id => store.getEntity tableName id) := by
  have hDistinct : Distinct (fun id => id) ((store.tables tableName).fkIds field fk) := by
    unfold Distinct
    rwa [List.map_id']
  generalize hCount : (rest (fun id => id) ((store.tables tableName).fkIds field fk)
    offset).length = count
  induction count using Nat.strong_induction_on generalizing offset with
  | _ count ih =>
    by_cases hMore : limit < count
    · obtain ⟨id, hLast, -, hRest⟩ := query_of_lt hDistinct hLimit (hCount ▸ hMore)
      have hMem : id ∈ (store.tables tableName).fkIds field fk :=
        (mem_rest.mp (List.mem_of_mem_take (List.mem_of_getLast? hLast))).1
      obtain ⟨entity, hEntity, hId⟩ := hStored id hMem
      have hPage : store.listByForeignKey uuids tableName field fk offset limit =
          (((rest (fun id => id) ((store.tables tableName).fkIds field fk) offset).take
            limit).filterMap fun id => store.getEntity tableName id, some id) := by
        rw [listByForeignKey_eq, if_pos (hCount ▸ hMore)]
        obtain ⟨front, hFront⟩ := List.getLast?_eq_some_iff.mp hLast
        simp [hFront, hEntity, hId]
      have hTail : (rest (fun id => id) ((store.tables tableName).fkIds field fk)
          (some id)).length < count := by
        rw [hRest, List.length_drop]
        omega
      have hSplit : rest (fun id => id) ((store.tables tableName).fkIds field fk) offset =
          (rest (fun id => id) ((store.tables tableName).fkIds field fk) offset).take
            limit ++ rest (fun id => id) ((store.tables tableName).fkIds field fk)
              (some id) := by
        rw [hRest, List.take_append_drop]
      rw [hSplit, List.filterMap_append]
      exact .next hPage (ih _ hTail (some id) rfl)
    · apply DblessStore.Walk.last
      rw [listByForeignKey_eq, if_neg (hCount ▸ hMore), List.take_of_length_le (by omega)]

end Tables

/-! ## Which lists repeat nothing that matters -/

section Lists

variable (uuids : UuidLibrary)

def Overwritten (later : List (Uuid × Json)) (id : Uuid) : Prop := ∃ entry ∈ later, entry.1 = id

/-- An entity of a list in front of the later ones: it is an object unless it is overwritten, a
later one has its endpoint key just if a later one has its identifier, and it is not overwritten if
it has a foreign key. -/
structure Unambiguous (tableName endpointKey : String) (entry : Uuid × Json)
    (later : List (Uuid × Json)) : Prop where
  isObject : ¬ Overwritten later entry.1 → ∃ fields, entry.2 = .object fields
  key : ∀ key, endpointKeyOf endpointKey entry.2 = some key →
    (Overwritten later entry.1 ↔ ∃ other ∈ later, endpointKeyOf endpointKey other.2 = some key)
  reference : ∀ field fk, reference uuids tableName field entry.2 = some fk →
    ¬ Overwritten later entry.1

def Listing.Unambiguous (listing : Listing) : Prop :=
  ∀ front entry later, listing.entities = front ++ entry :: later →
    Storage.Unambiguous uuids listing.tableName listing.endpointKey entry later

/-- `Uuid::parse_str` reads what `to_string` writes. -/
def UuidLibrary.Lawful : Prop := ∀ id, uuids.parse (Uuid.text id) = some id

end Lists

section Entries

variable {uuids : UuidLibrary} {tableName endpointKey : String} {entities : List (Uuid × Json)}
  {id : Uuid}

theorem extractUuid_object {entity : Json} (h : extractUuid uuids entity "id" = some id) :
    ∃ fields, entity = .object fields := by
  cases entity with
  | object fields => exact ⟨fields, rfl⟩
  | _ => cases h

variable {drawn : Nat}

theorem identify_carries (hLawful : uuids.Lawful) {entity : Json}
    (h : ∃ fields, (identify uuids drawn entity).2.1 = .object fields) :
    extractUuid uuids (identify uuids drawn entity).2.1 "id" =
      some (identify uuids drawn entity).1 := by
  unfold identify at h ⊢
  cases hId : extractUuid uuids entity "id" with
  | some id => exact hId
  | none =>
    simp only [hId] at h ⊢
    cases entity with
    | object fields =>
      have hGet : ((Json.object fields).setField "id" (.string (uuids.draw drawn).text)).get
          "id" = some (.string (uuids.draw drawn).text) := by
        simp only [Json.setField, Json.get]
        rw [Json.find_insertField, if_pos rfl]
      unfold extractUuid
      rw [hGet]
      exact hLawful _
    | _ =>
      obtain ⟨fields, hFields⟩ := h
      cases hFields

theorem identifyAll_carries (hLawful : uuids.Lawful) {items : List Json} :
    ∀ entry ∈ identifyAll uuids drawn items, (∃ fields, entry.2 = .object fields) →
      extractUuid uuids entry.2 "id" = some entry.1 := by
  induction items generalizing drawn with
  | nil => simp [identifyAll]
  | cons entity items ih =>
    intro entry hEntry
    rcases List.mem_cons.mp hEntry with rfl | hEntry
    · exact identify_carries hLawful
    · exact ih entry hEntry

variable {entity : Json} {field : String} {fk : Uuid} {store : DblessStore}

theorem endpointKeyOf_object {key : String} (h : endpointKeyOf endpointKey entity = some key) :
    ∃ fields, entity = .object fields := by
  unfold endpointKeyOf at h
  split at h
  · cases h
  · cases entity with
    | object fields => exact ⟨fields, rfl⟩
    | _ => cases h

theorem reference_object (h : reference uuids tableName field entity = some fk) :
    ∃ fields, entity = .object fields := by
  unfold reference at h
  split at h
  · cases entity with
    | object fields => exact ⟨fields, rfl⟩
    | _ => cases h
  · cases h

theorem findRev?_eq_some_iff {α : Type} {p : α → Bool} {l : List α} {a : α} :
    l.findRev? p = some a ↔
      ∃ front later, l = front ++ a :: later ∧ p a = true ∧ ∀ b ∈ later, p b = false := by
  rw [List.findRev?_eq_find?_reverse, List.find?_eq_some_iff_append]
  constructor
  · rintro ⟨hA, later, front, hSplit, hLater⟩
    refine ⟨front.reverse, later.reverse, ?_, hA, ?_⟩
    · have hBack := congrArg List.reverse hSplit
      simpa using hBack
    · intro b hB
      simpa using hLater b (List.mem_reverse.mp hB)
  · rintro ⟨front, later, rfl, hA, hLater⟩
    refine ⟨hA, later.reverse, front.reverse, by simp, ?_⟩
    intro b hB
    simpa using hLater b (List.mem_reverse.mp hB)

theorem findRev?_later {α : Type} (p : α → Bool) (front : List α) (a : α) {later : List α}
    (h : ∃ b ∈ later, p b = true) :
    ∃ b ∈ later, p b = true ∧ (front ++ a :: later).findRev? p = some b := by
  have hSome : (later.findRev? p).isSome = true := by
    rw [List.findRev?_eq_find?_reverse, List.find?_isSome]
    obtain ⟨b, hMem, hB⟩ := h
    exact ⟨b, List.mem_reverse.mpr hMem, hB⟩
  obtain ⟨b, hLast⟩ := Option.isSome_iff_exists.mp hSome
  obtain ⟨middle, last, rfl, hB, hAfter⟩ := findRev?_eq_some_iff.mp hLast
  refine ⟨b, by simp, hB, ?_⟩
  exact findRev?_eq_some_iff.mpr ⟨front ++ a :: middle, last, by simp, hB, hAfter⟩

theorem pairwise_of_later {α : Type} {R : α → α → Prop} {l : List α}
    (h : ∀ front a later, l = front ++ a :: later → ∀ b ∈ later, R a b) : l.Pairwise R := by
  induction l with
  | nil => exact .nil
  | cons a l ih =>
    refine List.pairwise_cons.mpr ⟨h [] a l rfl, ih ?_⟩
    intro front b later hSplit
    exact h (a :: front) b later (by rw [hSplit, List.cons_append])

def referring (uuids : UuidLibrary) (tableName field : String) (fk : Uuid)
    (entities : List (Uuid × Json)) : List Uuid :=
  Grouping.valuesOf (references uuids tableName field entities) fk

section Tables

variable (hTables : store.tables tableName = tablesOf uuids tableName endpointKey entities)

include hTables

theorem getEntity_of_tables (id : Uuid) :
    store.getEntity tableName id =
      (entities.findRev? fun entry => entry.1 == id).map Prod.snd := by
  rw [getEntity_tables, hTables]
  rfl

theorem getEntityByEndpointKey_of_tables (key : String) :
    store.getEntityByEndpointKey tableName key =
      (entities.findRev? fun entry => endpointKeyOf endpointKey entry.2 == some key).bind
        fun entry => store.getEntity tableName entry.1 := by
  rw [getEntityByEndpointKey_tables, hTables]
  change Option.bind (Option.map Prod.fst _) _ = _
  rw [Option.bind_map]
  rfl

theorem fkIds_of_tables (field : String) (fk : Uuid) :
    (store.tables tableName).fkIds field fk = referring uuids tableName field fk entities := by
  rw [hTables]
  unfold EntityTables.fkIds tablesOf referring indexOf
  dsimp only
  cases hAny : entities.any fun entry => (extractUuid uuids entry.2 "id").isSome with
  | false => simp [references_nil hAny, Grouping.valuesOf]
  | true =>
    by_cases hNil : references uuids tableName field entities = []
    · simp [hNil, Grouping.valuesOf]
    · by_cases hNone : Grouping.valuesOf (references uuids tableName field entities) fk = []
      · simp [hNil, hNone]
      · simp [hNil, hNone]

end Tables

theorem referring_append (field : String) (fk : Uuid) (front later : List (Uuid × Json)) :
    referring uuids tableName field fk (front ++ later) =
      referring uuids tableName field fk front ++ referring uuids tableName field fk later := by
  unfold referring references
  rw [List.filterMap_append, Grouping.valuesOf_append]

theorem referring_eq (field : String) (fk : Uuid) : referring uuids tableName field fk entities =
    entities.filterMap fun entry => if reference uuids tableName field entry.2 = some fk then
      extractUuid uuids entry.2 "id" else none := by
  induction entities with
  | nil => rfl
  | cons entry entities ih =>
    rw [← List.singleton_append, referring_append, ih, List.filterMap_append]
    congr 1
    unfold referring references Grouping.valuesOf
    cases hRef : reference uuids tableName field entry.2 with
    | none => simp [hRef]
    | some other =>
      cases hId : extractUuid uuids entry.2 "id" with
      | none => simp [hRef, hId]
      | some id => by_cases hFk : other = fk <;> simp [hRef, hId, hFk]

theorem mem_referring :
    id ∈ referring uuids tableName field fk entities ↔ ∃ entry ∈ entities,
      reference uuids tableName field entry.2 = some fk ∧
        extractUuid uuids entry.2 "id" = some id := by
  rw [referring_eq, List.mem_filterMap]
  constructor
  · rintro ⟨entry, hMem, hIs⟩
    split at hIs
    · exact ⟨entry, hMem, ‹_›, hIs⟩
    · cases hIs
  · rintro ⟨entry, hMem, hRef, hId⟩
    exact ⟨entry, hMem, by rw [if_pos hRef, hId]⟩

end Entries

/-! ## Agreement -/

section Agreement

variable {uuids : UuidLibrary} {tableName endpointKey : String} {entities : List (Uuid × Json)}
  {store : DblessStore}

variable {front later : List (Uuid × Json)} {entry : Uuid × Json} {id : Uuid} {entity : Json}
  {key field : String}
  (hTables : store.tables tableName = tablesOf uuids tableName endpointKey entities)
  (hCarries : ∀ entry ∈ entities, (∃ fields, entry.2 = .object fields) →
    extractUuid uuids entry.2 "id" = some entry.1)
  (hClear : ∀ front entry later, entities = front ++ entry :: later →
    Unambiguous uuids tableName endpointKey entry later)

include hTables

theorem getEntity_last
    (hSplit : entities = front ++ entry :: later) (hLast : ¬ Overwritten later entry.1) :
    store.getEntity tableName entry.1 = some entry.2 := by
  rw [getEntity_of_tables hTables]
  have hFind : entities.findRev? (fun other => other.1 == entry.1) = some entry := by
    refine findRev?_eq_some_iff.mpr ⟨front, later, hSplit, by simp, ?_⟩
    intro other hOther
    exact beq_eq_false_iff_ne.mpr fun hIs => hLast ⟨other, hOther, hIs⟩
  rw [hFind]
  rfl

theorem getEntity_split
    (h : store.getEntity tableName id = some entity) :
    ∃ front later, entities = front ++ (id, entity) :: later ∧ ¬ Overwritten later id := by
  rw [getEntity_of_tables hTables] at h
  obtain ⟨entry, hFind, rfl⟩ := Option.map_eq_some_iff.mp h
  obtain ⟨front, later, hSplit, hIs, hLater⟩ := findRev?_eq_some_iff.mp hFind
  rw [beq_iff_eq] at hIs
  subst hIs
  refine ⟨front, later, hSplit, ?_⟩
  rintro ⟨other, hOther, hSame⟩
  exact beq_eq_false_iff_ne.mp (hLater other hOther) hSame

theorem getEntity_overwritten
    (hSplit : entities = front ++ entry :: later) (h : Overwritten later entry.1) :
    ∃ other ∈ later, other.1 = entry.1 ∧ store.getEntity tableName entry.1 = some other.2 := by
  obtain ⟨other, hMem, hIs, hFind⟩ := findRev?_later (fun other => other.1 == entry.1)
    front entry (h.imp fun other hOther => ⟨hOther.1, beq_iff_eq.mpr hOther.2⟩)
  refine ⟨other, hMem, beq_iff_eq.mp hIs, ?_⟩
  rw [getEntity_of_tables hTables, hSplit, hFind]
  rfl

theorem byKey_last
    (hSplit : entities = front ++ entry :: later)
    (hKey : endpointKeyOf endpointKey entry.2 = some key)
    (hLast : ¬ ∃ other ∈ later, endpointKeyOf endpointKey other.2 = some key) :
    store.getEntityByEndpointKey tableName key = store.getEntity tableName entry.1 := by
  rw [getEntityByEndpointKey_of_tables hTables]
  have hFind : entities.findRev? (fun other =>
      endpointKeyOf endpointKey other.2 == some key) = some entry := by
    refine findRev?_eq_some_iff.mpr ⟨front, later, hSplit, by simp [hKey], ?_⟩
    intro other hOther
    exact beq_eq_false_iff_ne.mpr fun hIs => hLast ⟨other, hOther, hIs⟩
  rw [hFind]
  rfl

theorem byKey_split
    (h : store.getEntityByEndpointKey tableName key = some entity) :
    ∃ front entry later, entities = front ++ entry :: later ∧
      endpointKeyOf endpointKey entry.2 = some key ∧
      (¬ ∃ other ∈ later, endpointKeyOf endpointKey other.2 = some key) ∧
      store.getEntity tableName entry.1 = some entity := by
  rw [getEntityByEndpointKey_of_tables hTables] at h
  obtain ⟨entry, hFind, hEntity⟩ := Option.bind_eq_some_iff.mp h
  obtain ⟨front, later, hSplit, hIs, hLater⟩ := findRev?_eq_some_iff.mp hFind
  refine ⟨front, entry, later, hSplit, beq_iff_eq.mp hIs, ?_, hEntity⟩
  rintro ⟨other, hOther, hSame⟩
  exact beq_eq_false_iff_ne.mp (hLater other hOther) hSame

include hCarries hClear

theorem mem_referring_iff {fk : Uuid} :
    id ∈ referring uuids tableName field fk entities ↔ ∃ entity,
      store.getEntity tableName id = some entity ∧
        reference uuids tableName field entity = some fk := by
  rw [mem_referring]
  constructor
  · rintro ⟨entry, hMem, hRef, hId⟩
    obtain ⟨front, later, hSplit⟩ := List.append_of_mem hMem
    have hIs := hCarries entry hMem (reference_object hRef)
    rw [hId, Option.some.injEq] at hIs
    subst hIs
    have hLast := (hClear front entry later hSplit).reference field fk hRef
    exact ⟨entry.2, getEntity_last hTables hSplit hLast, hRef⟩
  · rintro ⟨entity, hEntity, hRef⟩
    obtain ⟨front, later, hSplit, -⟩ := getEntity_split hTables hEntity
    have hMem : (id, entity) ∈ entities := by simp [hSplit]
    exact ⟨(id, entity), hMem, hRef, hCarries _ hMem (reference_object hRef)⟩

omit hTables in
theorem referring_nodup (field : String) (fk : Uuid) :
    (referring uuids tableName field fk entities).Nodup := by
  rw [referring_eq]
  refine List.pairwise_filterMap.mpr (pairwise_of_later ?_)
  intro front entry later hSplit other hOther id hId otherId hOtherId hSame
  subst hSame
  have hRead : ∀ e ∈ entities, (if reference uuids tableName field e.2 = some fk then
      extractUuid uuids e.2 "id" else none) = some id →
      reference uuids tableName field e.2 = some fk ∧ e.1 = id := by
    intro e hMem hIs
    split at hIs
    · have hCarried := hCarries e hMem (reference_object ‹_›)
      rw [hIs, Option.some.injEq] at hCarried
      exact ⟨‹_›, hCarried.symm⟩
    · cases hIs
  obtain ⟨hRef, hEntry⟩ := hRead entry (by simp [hSplit]) hId
  obtain ⟨-, hLater⟩ := hRead other (by simp [hSplit, hOther]) hOtherId
  exact (hClear front entry later hSplit).reference field fk hRef
    ⟨other, hOther, hLater.trans hEntry.symm⟩

/-- The maps of a list that repeats nothing that matters agree. -/
theorem agree_of_unambiguous : store.Agree uuids tableName endpointKey where
  byKey key entity hFound := by
    obtain ⟨front, entry, later, hSplit, hKey, hLast, hEntity⟩ := byKey_split hTables hFound
    have hNot : ¬ Overwritten later entry.1 :=
      mt ((hClear front entry later hSplit).key key hKey).mp hLast
    rw [getEntity_last hTables hSplit hNot, Option.some.injEq] at hEntity
    rw [← hEntity]
    exact hKey
  found id entity key hEntity hKey := by
    obtain ⟨front, later, hSplit, hNot⟩ := getEntity_split hTables hEntity
    have hLast := mt ((hClear front (id, entity) later hSplit).key key hKey).mpr hNot
    rw [byKey_last hTables hSplit hKey hLast]
    exact hEntity
  listed field _ fk limit hLimit := by
    have hFkIds := fkIds_of_tables hTables field fk
    have hNodup := referring_nodup hCarries hClear field fk
    refine ⟨rest (fun id => id) ((store.tables tableName).fkIds field fk) none, ?_, ?_, ?_⟩
    · rw [(rest_perm _ none).nodup_iff, hFkIds]
      exact hNodup
    · intro id
      rw [(rest_perm _ none).mem_iff, hFkIds]
      exact mem_referring_iff hTables hCarries hClear
    · refine walk_rest hLimit (hFkIds ▸ hNodup) ?_ none
      intro id hId
      rw [hFkIds, mem_referring_iff hTables hCarries hClear] at hId
      obtain ⟨entity, hEntity, hRef⟩ := hId
      obtain ⟨front, later, hSplit, -⟩ := getEntity_split hTables hEntity
      exact ⟨entity, hEntity, hCarries (id, entity) (by simp [hSplit]) (reference_object hRef)⟩
  ids id entity hEntity := by
    obtain ⟨front, later, hSplit, hNot⟩ := getEntity_split hTables hEntity
    exact hCarries (id, entity) (by simp [hSplit])
      ((hClear front (id, entity) later hSplit).isObject hNot)

omit hClear

/-- The rows of an agreeing listing carry the identifiers that the foreign key has. -/
theorem DblessStore.Agree.referring_spec (h : store.Agree uuids tableName endpointKey)
    (hField : field ∈ fkFields tableName)
    (fk : Uuid) :
    (referring uuids tableName field fk entities).Nodup ∧
      ∀ id ∈ referring uuids tableName field fk entities, ∃ entity,
        store.getEntity tableName id = some entity ∧
          reference uuids tableName field entity = some fk := by
  have hFkIds := fkIds_of_tables hTables field fk
  have hAll : store.listByForeignKey uuids tableName field fk none
      ((referring uuids tableName field fk entities).length + 1) =
        ((rest (fun id => id) ((store.tables tableName).fkIds field fk) none).filterMap
          fun id => store.getEntity tableName id, none) :=
    listByForeignKey_all (by rw [hFkIds]; omega)
  obtain ⟨ids, hNodup, hMem, hWalk⟩ := h.listed field hField fk _ (Nat.succ_pos _)
  have hRows : (rest (fun id => id) ((store.tables tableName).fkIds field fk)
      none).filterMap (fun id => store.getEntity tableName id) =
        ids.filterMap fun id => store.getEntity tableName id := by
    generalize ids.filterMap (fun id => store.getEntity tableName id) = rows at hWalk ⊢
    cases hWalk with
    | last hPage =>
      rw [hAll, Prod.mk.injEq] at hPage
      exact hPage.1
    | next hPage _ =>
      rw [hAll, Prod.mk.injEq] at hPage
      cases hPage.2
  -- an entity that is stored under an identifier carries it, so that the rows tell it
  have hRead (list : List Uuid) (hStored : ∀ id ∈ list, ∃ entity,
      store.getEntity tableName id = some entity) :
      (list.filterMap fun id => store.getEntity tableName id).filterMap
        (fun entity => extractUuid uuids entity "id") = list := by
    induction list with
    | nil => rfl
    | cons id list ih =>
      obtain ⟨entity, hEntity⟩ := hStored id List.mem_cons_self
      have hRest := ih fun other hOther => hStored other (List.mem_cons_of_mem _ hOther)
      simp only [List.filterMap_cons, hEntity, h.ids id entity hEntity, hRest]
  have hReferring : ∀ id ∈ rest (fun id => id) ((store.tables tableName).fkIds field fk)
      none, ∃ entity, store.getEntity tableName id = some entity := by
    intro id hId
    rw [(rest_perm _ none).mem_iff, hFkIds] at hId
    obtain ⟨entry, hEntry, hRef, hIs⟩ := mem_referring.mp hId
    have hCarried := hCarries entry hEntry (reference_object hRef)
    rw [hIs, Option.some.injEq] at hCarried
    obtain ⟨front, later, hSplit⟩ := List.append_of_mem hEntry
    by_cases hOver : Overwritten later entry.1
    · obtain ⟨other, -, -, hOther⟩ := getEntity_overwritten hTables hSplit hOver
      exact ⟨other.2, hCarried ▸ hOther⟩
    · exact ⟨entry.2, hCarried ▸ getEntity_last hTables hSplit hOver⟩
  have hSame : rest (fun id => id) ((store.tables tableName).fkIds field fk) none = ids := by
    have hIds := hRead ids fun id hId => ((hMem id).mp hId).imp fun _ hIs => hIs.1
    rw [← hRead _ hReferring, hRows, hIds]
  have hPerm : ids.Perm (referring uuids tableName field fk entities) := by
    rw [← hSame, ← hFkIds]
    exact rest_perm _ none
  refine ⟨hPerm.nodup_iff.mp hNodup, ?_⟩
  intro id hId
  exact (hMem id).mp (hPerm.mem_iff.mpr hId)

/-- Maps that agree are those of a list that repeats nothing that matters. -/
theorem unambiguous_of_agree (h : store.Agree uuids tableName endpointKey)
    (hSplit : entities = front ++ entry :: later) :
    Unambiguous uuids tableName endpointKey entry later where
  isObject hNot := extractUuid_object (h.ids _ _ (getEntity_last hTables hSplit hNot))
  key key hKey := by
    constructor
    · intro hOver
      obtain ⟨other, hOther, -, hEntity⟩ := getEntity_overwritten hTables hSplit hOver
      by_contra hLast
      have hFound := byKey_last hTables hSplit hKey hLast
      rw [hEntity] at hFound
      exact hLast ⟨other, hOther, h.byKey key other.2 hFound⟩
    · intro hLater
      by_contra hNot
      have hFound := h.found _ _ key (getEntity_last hTables hSplit hNot) hKey
      obtain ⟨other, hOther, -, hFind⟩ := findRev?_later
        (fun other => endpointKeyOf endpointKey other.2 == some key) front entry
        (hLater.imp fun other hIs => ⟨hIs.1, beq_iff_eq.mpr hIs.2⟩)
      rw [getEntityByEndpointKey_of_tables hTables, hSplit, hFind, Option.bind_some] at hFound
      have hId := h.ids _ _ hFound
      rw [hCarries entry (by simp [hSplit]) (endpointKeyOf_object hKey), Option.some.injEq] at hId
      exact hNot ⟨other, hOther, hId.symm⟩
  reference field fk hRef hOver := by
    have hField : field ∈ fkFields tableName := by
      by_contra hField
      rw [reference, if_neg hField] at hRef
      cases hRef
    obtain ⟨hNodup, hStored⟩ := h.referring_spec hTables hCarries hField fk
    have hId := hCarries entry (by simp [hSplit]) (reference_object hRef)
    have hEntry : entry.1 ∈ referring uuids tableName field fk [entry] :=
      mem_referring.mpr ⟨entry, List.mem_singleton_self entry, hRef, hId⟩
    obtain ⟨other, hOther, hSame, hEntity⟩ := getEntity_overwritten hTables hSplit hOver
    have hMem : entry.1 ∈ referring uuids tableName field fk entities :=
      mem_referring.mpr ⟨entry, by simp [hSplit], hRef, hId⟩
    obtain ⟨entity, hIs, hRefers⟩ := hStored entry.1 hMem
    rw [hEntity, Option.some.injEq] at hIs
    subst hIs
    have hLater : entry.1 ∈ referring uuids tableName field fk later :=
      mem_referring.mpr ⟨other, hOther, hRefers, h.ids _ _ hEntity⟩
    rw [hSplit, referring_append, ← List.singleton_append, referring_append] at hNodup
    obtain ⟨-, hTail, -⟩ := List.nodup_append.mp hNodup
    obtain ⟨-, -, hApart⟩ := List.nodup_append.mp hTail
    exact hApart _ hEntry _ hLater rfl

end Agreement

/-! ## After a load -/

section Loaded

variable {uuids : UuidLibrary} {tableName endpointKey : String}

theorem agree_of_empty {store : DblessStore} (h : store.tables tableName = .empty) :
    store.Agree uuids tableName endpointKey := by
  have hNone (id : Uuid) : store.getEntity tableName id = none := by
    rw [getEntity_tables, h]
    rfl
  refine ⟨?_, ?_, ?_, ?_⟩
  · intro key entity hFound
    rw [getEntityByEndpointKey_tables, h] at hFound
    cases hFound
  · intro id entity key hEntity
    rw [hNone] at hEntity
    cases hEntity
  · intro field _ fk limit _
    refine ⟨[], List.nodup_nil, ?_, ?_⟩
    · simp [hNone]
    · apply DblessStore.Walk.last
      have hIds : (store.tables tableName).fkIds field fk = [] := by
        rw [h]
        rfl
      rw [listByForeignKey_all (by rw [hIds]; exact Nat.zero_le limit), hIds]
      rfl
  · intro id entity hEntity
    rw [hNone] at hEntity
    cases hEntity

variable {config : Json} {types : List (String × String)} {drawn : Nat} {listing : Listing}

theorem listings_spec (h : listing ∈ listings uuids config types drawn) :
    (listing.tableName, listing.endpointKey) ∈ types ∧
      ∃ first items, listing.entities = identifyAll uuids first items := by
  induction types generalizing drawn with
  | nil => simp [listings] at h
  | cons type types ih =>
    obtain ⟨tableName, endpointKey⟩ := type
    unfold listings at h
    split at h
    · exact (ih h).imp (List.mem_cons_of_mem _) id
    · split at h
      · cases h
      · rcases List.mem_cons.mp h with rfl | hMem
        · exact ⟨List.mem_cons_self, _, _, rfl⟩
        · exact (ih hMem).imp (List.mem_cons_of_mem _) id

theorem listings_find (hNodup : (types.map Prod.fst).Nodup)
    (h : listing ∈ listings uuids config types drawn) :
    ((listings uuids config types drawn).find? fun other =>
      other.tableName == listing.tableName) = some listing := by
  induction types generalizing drawn with
  | nil => simp [listings] at h
  | cons type types ih =>
    obtain ⟨tableName, endpointKey⟩ := type
    obtain ⟨hName, hNames⟩ := List.nodup_cons.mp hNodup
    unfold listings at h ⊢
    split at h
    · exact ih hNames h
    · split at h
      · cases h
      · rcases List.mem_cons.mp h with rfl | hMem
        · simp
        · have hNe : tableName ≠ listing.tableName := by
            rintro rfl
            exact hName (mem_listings hMem)
          rw [List.find?_cons_of_neg (by simpa using hNe)]
          exact ih hNames hMem

theorem declared_listing (h : listing ∈ listings uuids config entityTypes drawn) :
    declared uuids config drawn listing.tableName =
      tablesOf uuids listing.tableName listing.endpointKey listing.entities := by
  unfold declared
  rw [listings_find entityTypes_nodup h]

theorem entityTypes_unique {other : String} (h : (tableName, endpointKey) ∈ entityTypes)
    (hOther : (tableName, other) ∈ entityTypes) : endpointKey = other :=
  (Prod.mk.inj (List.inj_on_of_nodup_map entityTypes_nodup h hOther rfl)).2

end Loaded

/-- After an accepted load the three maps of every entity type agree if and only if every list
repeats nothing that matters. -/
theorem load_agrees_iff (uuids : UuidLibrary) (hLawful : uuids.Lawful) (config : Json)
    (loading : Loading) (hAccepted : (loadFromJson uuids config loading).1 = .ok ()) :
    (∀ type ∈ entityTypes, (loadFromJson uuids config loading).2.store.Agree uuids type.1 type.2) ↔
      ∀ listing ∈ listings uuids config entityTypes loading.drawn,
        listing.Unambiguous uuids := by
  have hAcceptable := loadFromJson_ok.mp hAccepted
  have hTables (tableName : String) : (loadFromJson uuids config loading).2.store.tables tableName =
        declared uuids config loading.drawn tableName :=
    loadFromJson_declared hAcceptable.isObject (checkFormatVersion_ok.mpr hAcceptable.version)
      tableName
  have hCarries : ∀ listing ∈ listings uuids config entityTypes loading.drawn,
      ∀ entry ∈ listing.entities, (∃ fields, entry.2 = .object fields) →
        extractUuid uuids entry.2 "id" = some entry.1 := by
    intro listing hListing
    obtain ⟨first, items, hItems⟩ := (listings_spec hListing).2
    rw [hItems]
    exact identifyAll_carries hLawful
  constructor
  · intro hAgree listing hListing front entry later hSplit
    exact unambiguous_of_agree ((hTables _).trans (declared_listing hListing))
      (hCarries listing hListing) (hAgree _ (listings_spec hListing).1) hSplit
  · intro hClear type hType
    obtain ⟨tableName, endpointKey⟩ := type
    cases hFind : (listings uuids config entityTypes loading.drawn).find? fun listing =>
        listing.tableName == tableName with
    | none =>
      apply agree_of_empty
      rw [hTables, declared, hFind]
    | some listing =>
      have hListing := List.mem_of_find?_eq_some hFind
      have hName : listing.tableName = tableName := by
        simpa using List.find?_some hFind
      subst hName
      have hKey := entityTypes_unique (listings_spec hListing).1 hType
      subst hKey
      exact agree_of_unambiguous ((hTables _).trans (declared_listing hListing))
        (hCarries listing hListing) (hClear listing hListing)

/-! ## Two services of one name -/

/-- The hyphenated texts of identifiers, and identifiers drawn one after the other. -/
def plainUuids : UuidLibrary where
  parse text :=
    let id := BitVec.ofNat 128 ((text.toList.filter (· ≠ '-')).foldl
      (fun n c => n * 16 + Admin.hexValue c) 0)
    if Uuid.text id = text then some id else none
  draw n := BitVec.ofNat 128 n

theorem plainUuids_lawful : plainUuids.Lawful := by
  intro id
  have hId := Admin.Uuid.ofNat_text id
  unfold plainUuids
  simp only [hId, if_true]

def serviceText : String := "00000000-0000-0000-0000-000000000001"

/-- Two services, the second one without an identifier, and a route to the first one. -/
def sampleServices : Json :=
  .object [("services", .array [.object [("id", .string serviceText), ("name", .string "a")],
      .object [("name", .string "b")]]),
    ("routes", .array [.object [("name", .string "r"),
      ("service", .object [("id", .string serviceText)])]])]

/-- A list of objects without a repeated identifier or endpoint key. -/
theorem unambiguous_of_nodup {listing : Listing} (hIds : (listing.entities.map Prod.fst).Nodup)
    (hKeys : (listing.entities.map fun entry =>
      endpointKeyOf listing.endpointKey entry.2).Nodup)
    (hObjects : ∀ entry ∈ listing.entities, ∃ fields, entry.2 = .object fields) :
    listing.Unambiguous uuids := by
  intro front entry later hSplit
  rw [hSplit, List.map_append, List.map_cons] at hIds hKeys
  have hFresh : ¬ Overwritten later entry.1 := by
    rintro ⟨other, hOther, hSame⟩
    exact (List.nodup_cons.mp (List.nodup_append.mp hIds).2.1).1
      (hSame ▸ List.mem_map_of_mem hOther)
  refine ⟨fun _ => hObjects entry (by simp [hSplit]), fun key hKey =>
    ⟨fun h => absurd h hFresh, ?_⟩, fun _ _ _ => hFresh⟩
  rintro ⟨other, hOther, hSame⟩
  exact absurd (List.mem_map.mpr ⟨other, hOther, hSame.trans hKey.symm⟩)
    (List.nodup_cons.mp (List.nodup_append.mp hKeys).2.1).1

theorem load_agrees_sample : (loadFromJson plainUuids sampleServices ⟨.new, 5⟩).1 = .ok () ∧
    ∀ type ∈ entityTypes,
      (loadFromJson plainUuids sampleServices ⟨.new, 5⟩).2.store.Agree plainUuids
        type.1 type.2 := by
  refine ⟨rfl, (load_agrees_iff plainUuids plainUuids_lawful sampleServices ⟨.new, 5⟩ rfl).mpr ?_⟩
  have hApart : ∀ listing ∈ listings plainUuids sampleServices entityTypes 5,
      (listing.entities.map Prod.fst).Nodup ∧
        (listing.entities.map fun entry => endpointKeyOf listing.endpointKey entry.2).Nodup ∧
          ∀ entry ∈ listing.entities, extractUuid plainUuids entry.2 "id" = some entry.1 := by
    decide
  intro listing hListing
  obtain ⟨hIds, hKeys, hCarries⟩ := hApart listing hListing
  exact unambiguous_of_nodup hIds hKeys fun entry hEntry =>
    extractUuid_object (hCarries entry hEntry)

def sampleNamesakes : Json :=
  .object [("services", .array [.object [("name", .string "a")], .object [("name", .string "a")]])]

/-- Of two services of one name only the last one is found by it. -/
theorem namesake_not_found : ¬ ∀ (uuids : UuidLibrary) (config : Json) (loading : Loading),
    uuids.Lawful → (loadFromJson uuids config loading).1 = .ok () → ∀ type ∈ entityTypes,
      (loadFromJson uuids config loading).2.store.Agree uuids type.1 type.2 := by
  intro h
  have hAgree := h plainUuids sampleNamesakes ⟨.new, 0⟩ plainUuids_lawful rfl
    ("services", "name") (by simp [entityTypes])
  have hTables : (loadFromJson plainUuids sampleNamesakes ⟨.new, 0⟩).2.store.tables "services" =
      tablesOf plainUuids "services" "name" (identifyAll plainUuids 0
        [.object [("name", .string "a")], .object [("name", .string "a")]]) :=
    loadFromJson_declared ⟨_, rfl⟩ rfl "services"
  have hClear := unambiguous_of_agree hTables (identifyAll_carries plainUuids_lawful) hAgree
    (show _ = [] ++ _ :: _ from rfl)
  obtain ⟨other, hOther, hSame⟩ := (hClear.key "a" rfl).mpr ⟨_, List.mem_singleton_self _, rfl⟩
  rw [List.mem_singleton.mp hOther] at hSame
  exact absurd hSame (by decide)

end KongRust.Storage

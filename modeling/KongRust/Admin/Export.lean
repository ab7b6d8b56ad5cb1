import KongRust.Admin.Paging
import KongRust.Cluster.ControlPlane

/-!
# The export for the data planes

`push_config_to_dps` reads nine tables page by page and hands what it has read to `push_config`. A
page that cannot be read ends its table and nothing else, so that the configuration lacks the rows
from there on.
-/

namespace KongRust.Admin

open Storage (KongError)
open Cluster (ClusterError Codec Push)

/-- What the page calls of a table meet: the error of the n-th one, if it fails. -/
abbrev Outages := EntityType → Nat → Option KongError

def EXPORT_SIZE : Nat := 1000

section Export

variable (library : OffsetLibrary) (store : Store) (outages : Outages)

/-- The loop of `fetch_all!` from its n-th call on. -/
def fetchFrom (type : EntityType) : Nat → Nat → Option String → List Row
  | 0, _, _ => []
  | fuel + 1, n, offset =>
    match outages type n with
    | some _ => []
    | none =>
      match page library store type { PageParams.default with size := EXPORT_SIZE, offset := offset }
      with
      | .error _ => []
      | .ok found =>
        match found.offset with
        | none => found.data
        | some token => found.data ++ fetchFrom type fuel (n + 1) (some token)

attribute [local simp] fetchFrom

/-- `fetch_all!`; every page but the last one has a row, so that the loop ends. -/
def fetchAll (type : EntityType) : List Row :=
  fetchFrom library store outages type ((store type).length + 1) 0 none

/-- The tables that are exported, under their names in the configuration. -/
def EXPORTED : List (String × EntityType) :=
  [("ca_certificates", .caCertificates), ("certificates", .certificates),
    ("consumers", .consumers), ("plugins", .plugins), ("routes", .routes),
    ("services", .services), ("snis", .snis), ("targets", .targets), ("upstreams", .upstreams)]

/-- `config_table`; the fields of an object stand in the order of their keys. -/
def configTable (toValue : EntityType → Row → Json) : Json :=
  .object (("_format_version", .string "3.0") :: EXPORTED.map fun entry =>
    (entry.1, .array ((fetchAll library store outages entry.2).map (toValue entry.2))))

/-- `push_config_to_dps`, with the `push_config` of the control plane. -/
def pushConfigToDps {β : Type} (toValue : EntityType → Row → Json) (pushConfig : Json → β) : β :=
  pushConfig (configTable library store outages toValue)

end Export

/-- Every stored entity of the nine tables is in the configuration exactly once. -/
def Complete (toValue : EntityType → Row → Json) (store : Store) (config : Json) : Prop :=
  ∀ entry ∈ EXPORTED, ∃ values, config.get entry.1 = some (.array values) ∧
    values.Perm ((store entry.2).map (toValue entry.2))

/-! ## What a loop has read -/

section Loop

variable {library : OffsetLibrary} {store : Store} {outages : Outages} {type : EntityType}

def tokenOf (offset : Option Uuid) : Option String := offset.map encodeOffset

theorem page_export (hLibrary : library.Lawful) (offset : Option Uuid) : page library store type
        { PageParams.default with size := EXPORT_SIZE, offset := tokenOf offset } =
      .ok (.ofQuery type EXPORT_SIZE (Paging.query Row.id (store type) EXPORT_SIZE offset)) := by
  have hAll : (store type).filter (PageParams.selects
      { PageParams.default with size := EXPORT_SIZE, offset := tokenOf offset } type) =
      store type := by
    rw [List.filter_eq_self]
    intro row _
    rfl
  unfold page
  rw [hAll]
  cases offset with
  | none => exact pageOf_first rfl
  | some id => exact pageOf_token hLibrary rfl

abbrev left (store : Store) (type : EntityType) (offset : Option Uuid) : List Row :=
  Paging.rest Row.id (store type) offset

variable {fuel n : Nat}

theorem fetchFrom_outage {offset : Option String} {e : KongError} (h : outages type n = some e) :
    fetchFrom library store outages type fuel n offset = [] := by
  cases fuel with
  | zero => rfl
  | succ fuel => simp [fetchFrom, h]

variable {offset : Option Uuid}

section

variable (hLibrary : library.Lawful)
include hLibrary

theorem fetchFrom_last (hAnswer : outages type n = none)
    (hLength : (left store type offset).length ≤ EXPORT_SIZE) :
    fetchFrom library store outages type (fuel + 1) n (tokenOf offset) = left store type offset := by
  unfold fetchFrom
  rw [hAnswer]
  dsimp only
  rw [page_export hLibrary, Paging.query_of_le hLength]
  rfl

theorem fetchFrom_more (fuel : Nat)
    (hKeys : Paging.Distinct Row.id (store type)) (hAnswer : outages type n = none)
    (hLength : EXPORT_SIZE < (left store type offset).length) :
    ∃ id, left store type (some id) = (left store type offset).drop EXPORT_SIZE ∧
      fetchFrom library store outages type (fuel + 1) n (tokenOf offset) =
        (left store type offset).take EXPORT_SIZE ++
          fetchFrom library store outages type fuel (n + 1) (tokenOf (some id)) := by
  obtain ⟨row, -, hQuery, hRest⟩ := Paging.query_of_lt hKeys (by decide) hLength
  refine ⟨row.id, hRest, ?_⟩
  conv_lhs => unfold fetchFrom
  rw [hAnswer]
  dsimp only
  rw [page_export hLibrary, hQuery]
  rfl

/-- Where every call for a page with a row succeeds, the loop reads every row. -/
theorem fetchFrom_complete (hKeys : Paging.Distinct Row.id (store type))
    (hFuel : (left store type offset).length ≤ fuel)
    (hAnswers : ∀ i, i * EXPORT_SIZE < (left store type offset).length →
      outages type (n + i) = none) :
    fetchFrom library store outages type (fuel + 1) n (tokenOf offset) =
      left store type offset := by
  induction fuel generalizing n offset with
  | zero =>
    have hNil : left store type offset = [] := List.length_eq_zero_iff.mp (by omega)
    cases hAnswer : outages type n with
    | some e => rw [fetchFrom_outage hAnswer, hNil]
    | none => exact fetchFrom_last hLibrary hAnswer (by omega)
  | succ fuel ih =>
    by_cases hEmpty : left store type offset = []
    · cases hAnswer : outages type n with
      | some e => rw [fetchFrom_outage hAnswer, hEmpty]
      | none => exact fetchFrom_last hLibrary hAnswer (by rw [hEmpty]; exact Nat.zero_le _)
    · have hPos : 0 < (left store type offset).length := List.length_pos_iff.mpr hEmpty
      have hAnswer : outages type n = none := hAnswers 0 (by omega)
      by_cases hLength : (left store type offset).length ≤ EXPORT_SIZE
      · exact fetchFrom_last hLibrary hAnswer hLength
      · obtain ⟨id, hNext, hMore⟩ :=
          fetchFrom_more hLibrary (fuel + 1) hKeys hAnswer (Nat.lt_of_not_le hLength)
        have hDrop : (left store type (some id)).length =
            (left store type offset).length - EXPORT_SIZE := by
          rw [hNext, List.length_drop]
        have hSize : EXPORT_SIZE = 1000 := rfl
        have hLater : fetchFrom library store outages type (fuel + 1) (n + 1) (tokenOf (some id)) =
            left store type (some id) := by
          apply ih
          · omega
          · intro i hI
            have hShift : n + 1 + i = n + (i + 1) := by omega
            rw [hShift]
            apply hAnswers
            rw [Nat.add_mul]
            omega
        rw [hMore, hLater, hNext, List.take_append_drop]

/-- Where one of these calls fails, rows are missing. -/
theorem fetchFrom_incomplete (hKeys : Paging.Distinct Row.id (store type)) {i : Nat}
    (hNeeded : i * EXPORT_SIZE < (left store type offset).length)
    (hOutage : outages type (n + i) ≠ none) :
    (fetchFrom library store outages type fuel n (tokenOf offset)).length <
      (left store type offset).length := by
  induction i generalizing fuel n offset with
  | zero =>
    rw [Nat.add_zero] at hOutage
    obtain ⟨e, hError⟩ := Option.ne_none_iff_exists'.mp hOutage
    rw [fetchFrom_outage hError, List.length_nil]
    omega
  | succ i ih =>
    have hSize : EXPORT_SIZE = 1000 := rfl
    rw [Nat.add_mul] at hNeeded
    cases fuel with
    | zero =>
      rw [fetchFrom, List.length_nil]
      omega
    | succ fuel =>
      cases hAnswer : outages type n with
      | some e =>
        rw [fetchFrom_outage hAnswer, List.length_nil]
        omega
      | none =>
        have hLong : EXPORT_SIZE < (left store type offset).length := by omega
        obtain ⟨id, hNext, hMore⟩ := fetchFrom_more hLibrary fuel hKeys hAnswer hLong
        have hDrop : (left store type (some id)).length =
            (left store type offset).length - EXPORT_SIZE := by
          rw [hNext, List.length_drop]
        have hLater : (fetchFrom library store outages type fuel (n + 1)
            (tokenOf (some id))).length < (left store type (some id)).length := by
          apply ih
          · omega
          · have hShift : n + 1 + i = n + (i + 1) := by omega
            rw [hShift]
            exact hOutage
        rw [hMore, List.length_append, List.length_take]
        omega

end

end Loop

section Tables

variable {library : OffsetLibrary} {tables : Tables} {outages : Outages}

def Answered (store : Store) (outages : Outages) (type : EntityType) : Prop :=
  ∀ n, n * EXPORT_SIZE < (store type).length → outages type n = none

theorem left_perm (store : Store) (type : EntityType) : (left store type none).Perm (store type) :=
  Paging.rest_perm _ _

theorem fetchAll_perm_iff (hLibrary : library.Lawful) (type : EntityType)
    (toValue : EntityType → Row → Json) :
    ((fetchAll library tables.rows outages type).map (toValue type)).Perm
      ((tables.rows type).map (toValue type)) ↔ Answered tables.rows outages type := by
  have hKeys := tables.primaryKey type
  have hPerm := left_perm tables.rows type
  have hStart : fetchAll library tables.rows outages type = fetchFrom library tables.rows outages
      type ((tables.rows type).length + 1) 0 (tokenOf none) := rfl
  rw [hStart]
  constructor
  · intro hSame n hNeeded
    by_contra hOutage
    have hShort : (fetchFrom library tables.rows outages type ((tables.rows type).length + 1) 0
        (tokenOf none)).length < (left tables.rows type none).length := by
      apply fetchFrom_incomplete hLibrary hKeys
      · rw [hPerm.length_eq]
        exact hNeeded
      · rw [Nat.zero_add]
        exact hOutage
    have hLength := hSame.length_eq
    have hEqual := hPerm.length_eq
    rw [List.length_map, List.length_map] at hLength
    omega
  · intro hAnswered
    have hAll : fetchFrom library tables.rows outages type ((tables.rows type).length + 1) 0
        (tokenOf none) = left tables.rows type none := by
      apply fetchFrom_complete hLibrary hKeys
      · rw [hPerm.length_eq]
      · intro i hI
        rw [hPerm.length_eq] at hI
        rw [Nat.zero_add]
        exact hAnswered i hI
    rw [hAll]
    exact hPerm.map _

theorem configTable_get (toValue : EntityType → Row → Json) {entry : String × EntityType}
    (hEntry : entry ∈ EXPORTED) :
    (configTable library tables.rows outages toValue).get entry.1 =
      some (.array ((fetchAll library tables.rows outages entry.2).map (toValue entry.2))) := by
  simp only [EXPORTED, List.mem_cons, List.not_mem_nil, or_false] at hEntry
  rcases hEntry with rfl | rfl | rfl | rfl | rfl | rfl | rfl | rfl | rfl <;> rfl

/-- **The export.** `push_config` is handed a configuration whatever happens, and it is complete
exactly if every call for a page with a stored row succeeds. -/
theorem export_complete_iff (library : OffsetLibrary) (hLibrary : library.Lawful)
    (toValue : EntityType → Row → Json) (tables : Tables) (outages : Outages) :
    ∃ config, (∀ pushConfig : Json → Except ClusterError Push,
        pushConfigToDps library tables.rows outages toValue pushConfig = pushConfig config) ∧
      (Complete toValue tables.rows config ↔
        ∀ entry ∈ EXPORTED, Answered tables.rows outages entry.2) := by
  refine ⟨configTable library tables.rows outages toValue, fun _ => rfl, ?_⟩
  constructor
  · intro hComplete entry hEntry
    obtain ⟨values, hGet, hPerm⟩ := hComplete entry hEntry
    rw [configTable_get toValue hEntry] at hGet
    cases hGet
    exact (fetchAll_perm_iff hLibrary entry.2 toValue).mp hPerm
  · intro hAnswered entry hEntry
    refine ⟨_, configTable_get toValue hEntry, ?_⟩
    exact (fetchAll_perm_iff hLibrary entry.2 toValue).mpr (hAnswered entry hEntry)

end Tables

def sampleRoute : Row := ⟨7, some "r1", [], .object [("paths", .array [.string "/a"])]⟩

/-- One route is stored. -/
def oneRoute : Tables where
  rows := fun type => if type = .routes then [sampleRoute] else []
  primaryKey := by
    intro type
    by_cases h : type = .routes
    · simp [h, Paging.Distinct]
    · simp [h, Paging.Distinct]

def rowValue (_ : EntityType) (row : Row) : Json := row.fields

def sampleServices : List Row := [⟨1, some "s1", [], .object [("host", .string "a")]⟩,
  ⟨2, some "s2", [], .object [("host", .string "b")]⟩]

/-- Two services and a route are stored. -/
def twoTables : Tables where
  rows
    | .services => sampleServices
    | .routes => [sampleRoute]
    | _ => []
  primaryKey := by
    intro type
    cases type <;> simp [Paging.Distinct, sampleServices]

/-- No call fails that a stored row depends on: every page but the first one, and the consumers. -/
def harmless : Outages := fun type n =>
  if type = .consumers ∨ 0 < n then some (.databaseError "connection reset") else none

theorem export_complete_sample : ∃ config, (∀ pushConfig : Json → Except ClusterError Push,
    pushConfigToDps plainOffsets twoTables.rows harmless rowValue pushConfig =
      pushConfig config) ∧ Complete rowValue twoTables.rows config := by
  obtain ⟨config, hHanded, hIff⟩ :=
    export_complete_iff plainOffsets plainOffsets_lawful rowValue twoTables harmless
  refine ⟨config, hHanded, hIff.mpr fun entry _ n hNeeded => if_neg ?_⟩
  have hFew : ∀ type, (twoTables.rows type).length ≤ 2 := by
    intro type
    cases type <;> decide
  have hTwo := hFew entry.2
  rw [show EXPORT_SIZE = 1000 from rfl] at hNeeded
  rintro (hConsumers | hLater)
  · rw [hConsumers] at hNeeded
    exact Nat.not_lt_zero _ hNeeded
  · omega

/-- The page of the routes fails once: the configuration that is pushed has no route. -/
theorem outage_pushes_no_routes :
    let outages : Outages := fun type n =>
      if type = .routes ∧ n = 0 then some (.databaseError "connection reset") else none
    ∃ config, (∀ pushConfig : Json → Except ClusterError Push,
        pushConfigToDps plainOffsets oneRoute.rows outages rowValue pushConfig =
          pushConfig config) ∧
      config.get "routes" = some (.array []) ∧ oneRoute.rows .routes = [sampleRoute] ∧
      ¬ Complete rowValue oneRoute.rows config := by
  refine ⟨_, fun _ => rfl, rfl, rfl, ?_⟩
  intro hComplete
  obtain ⟨values, hGet, hPerm⟩ := hComplete ("routes", .routes) (by decide)
  cases hGet
  have hLength := hPerm.length_eq
  cases hLength

end KongRust.Admin

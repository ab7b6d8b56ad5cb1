import KongRust.Crud.Handlers

/-!
# Two PATCHes at once

A PATCH reads an entity, lays its own fields over what it has read, and writes every field back. Of
two PATCHes of one entity, the later one keeps what the other has set only if it has read it.
-/

namespace KongRust.Crud

open Fallible Postgres.PgDao Dialogue
open Postgres (Entity Library Db Row Statement SqlParam Params Replicated Serves Responds single
  ColumnDef fromStrOrUuid jsonToSqlParam)
open Storage (KongError)
open Dialogue (Follows Interleaved partOf)

/-- A PATCH of an entity. -/
structure Patch where
  moment : Moment
  idOrName : String
  body : Json

abbrev Trace := List (Nat × Statement × Except KongError (List Row))

section Patches

variable (lib : Library) (checks : Checks) (T : Entity) (patch : Patch)

def Patch.run (patch : Patch) : Db Response :=
  doUpdate lib checks T patch.moment patch.idOrName patch.body

/-- The fields that a PATCH sets, with those that its `url` stands for. -/
def Patch.fields (patch : Patch) : List String :=
  match updateBody checks T patch.body with
  | .ok (.object fields) => fields.map Prod.fst
  | _ => []

/-- The columns of these fields; the key and the times are the server's own. -/
structure Patch.Sets (patch : Patch) (column : ColumnDef) : Prop where
  mem : column ∈ T.schema.columns
  writable : column.writable
  named : column.jsonName ∈ patch.fields checks T
  id : column.jsonName ≠ "id"
  createdAt : column.jsonName ≠ "created_at"
  updatedAt : column.jsonName ≠ "updated_at"

/-- What a PATCH writes after the answer to its `SELECT`. -/
def Patch.writes (patch : Patch) (answer : Except KongError (List Row)) : Except Response Json := do
  let body ← (updateBody checks T patch.body).mapError Violation.response
  patched checks T patch.moment body (Postgres.PgDao.fetchOptional lib T answer)

/-- The value that a body gives for a field, the last one. -/
def lastGiven : Json → String → Option Json
  | .object fields, key => ((fields.filter (·.1 = key)).getLast?).map Prod.snd
  | _, _ => none

/-- The name of the plugin that a PATCH makes, of the entity that it read if it could read one. -/
def patchedName (body : Json) : Option Json → Option Json
  | some entity => (lastGiven body "name").or (entity.get "name")
  | none => body.get "name"

/-- The config of some plugins is given its defaults. -/
def withDefaults (name given : Option Json) (field : String) : Option Json :=
  match if T.tableName = "plugins" then name.bind Json.asStr else none with
  | some name =>
    if field = "config" ∧ (name = "ai-rate-limit" ∨ name = "ai-context-compression") then
      let config := match given with
        | some (.object config) => config
        | _ => []
      some (.object (checks.applyPluginConfigDefaults name config))
    else given
  | none => given

/-- What a PATCH has for a field that it does not set: what it read, if it could read it. -/
def heldBack (body : Json) (entity : Option Json) (field : String) : Option Json :=
  withDefaults checks T (patchedName body entity) (entity.bind (·.get field)) field

/-- A column that a PATCH does not set is written back as it was stored, or not at all. -/
def Patch.Returns (patch : Patch) (answer : Except KongError (List Row)) (column : ColumnDef)
    (stored : SqlParam) : Prop :=
  ∀ body value, updateBody checks T patch.body = .ok body →
    heldBack checks T body (fetchOptional lib T answer).toOption.join column.jsonName = some value →
      jsonToSqlParam lib value column.colType = .ok stored

/-- The update of a request was carried out on an entity, whose row it left. -/
def Wrote (said : Trace) (i : Nat) (id : Uuid) (row : Row) : Prop :=
  ∃ set touch column value rest,
    (i, .update T.tableName set touch column value, .ok (row :: rest)) ∈ said ∧ row "id" = .uuid id

def Before (said : Trace) (i j : Nat) : Prop :=
  ∃ early late, said = early ++ late ∧ (∃ entry ∈ early, entry.1 = i ∧ entry.2.1.isWrite) ∧
    ∃ entry ∈ late, entry.1 = j ∧ entry.2.1.isWrite

def Patch.Keeps (patch : Patch) (stored row : Row) : Prop :=
  ∀ column, patch.Sets checks T column → row column.dbColumn = stored column.dbColumn

/-- What the later PATCH has read has the values that the earlier one stored. -/
def UpToDate (said : Trace) (early : Patch) (stored : Row) (late : Patch) (j : Nat) : Prop :=
  ∀ statement answer, (j, statement, answer) ∈ said → statement.isWrite = false →
    ∀ column, early.Sets checks T column →
      late.Returns lib checks T answer column (stored column.dbColumn)

end Patches

/-! ## What a PATCH does not set -/

section HeldBack

variable {lib : Library} {checks : Checks} {T : Entity} {body entity merged : Json}
  {fields : List (String × Json)} {key : String}

theorem mergeField_get_ne {field : String × Json} (hKey : key ≠ field.1) :
    (mergeField entity field).get key = entity.get key := by
  unfold mergeField
  dsimp only
  split <;> exact Json.get_setField_ne hKey _ _

theorem isObject_mergeField (field : String × Json) :
    (mergeField entity field).isObject = entity.isObject := by
  unfold mergeField
  dsimp only
  split <;> exact Json.isObject_setField _ _ _

theorem isObject_foldl_mergeField :
    (fields.foldl mergeField entity).isObject = entity.isObject := by
  induction fields generalizing entity with
  | nil => rfl
  | cons field fields ih => rw [List.foldl_cons, ih, isObject_mergeField]

theorem foldl_mergeField_get_ne (hKey : key ∉ fields.map Prod.fst) :
    (fields.foldl mergeField entity).get key = entity.get key := by
  induction fields generalizing entity with
  | nil => rfl
  | cons field fields ih =>
    rw [List.map_cons, List.mem_cons, not_or] at hKey
    obtain ⟨hHead, hTail⟩ := hKey
    rw [List.foldl_cons, ih hTail, mergeField_get_ne hHead]

theorem foldl_mergeField_name (hEntity : entity.isObject) :
    (fields.foldl mergeField entity).get "name" =
      (lastGiven (.object fields) "name").or (entity.get "name") := by
  induction fields using List.reverseRecOn with
  | nil => rfl
  | append_singleton fields field ih =>
    rw [List.foldl_append, List.foldl_cons, List.foldl_nil, lastGiven, List.filter_append]
    by_cases hName : field.1 = "name"
    · have hSet : mergeField (fields.foldl mergeField entity) field =
          (fields.foldl mergeField entity).setField "name" field.2 := by
        unfold mergeField
        simp [hName]
      have hObject : (fields.foldl mergeField entity).isObject = entity.isObject :=
        isObject_foldl_mergeField
      rw [hSet, Json.get_setField (hObject.trans hEntity), if_pos rfl]
      simp [hName]
    · rw [mergeField_get_ne (Ne.symm hName), ih]
      simp [hName, lastGiven]

theorem checkMerged_get (h : checkMerged checks T body = .ok merged) (hBody : body.isObject) :
    merged.get key = withDefaults checks T (body.get "name") (body.get key) key := by
  unfold checkMerged at h
  unfold withDefaults
  by_cases hPlugins : T.tableName = "plugins"
  · rw [if_pos ⟨hPlugins, hBody⟩, checkMergedPlugin] at h
    rw [if_pos hPlugins]
    unfold textOf at h
    cases hName : (body.get "name").bind Json.asStr with
    | none =>
      rw [hName] at h
      cases h
      rfl
    | some name =>
      rw [hName] at h
      dsimp only at h ⊢
      obtain ⟨_, -, h⟩ := bind_eq_ok.mp h
      cases h
      by_cases hDefaults : name = "ai-rate-limit" ∨ name = "ai-context-compression"
      · rw [if_pos hDefaults, Json.get_setField hBody]
        by_cases hKey : key = "config"
        · subst hKey
          exact (if_pos rfl).trans (if_pos ⟨rfl, hDefaults⟩).symm
        · exact (if_neg hKey).trans (if_neg fun h => hKey h.1).symm
      · rw [if_neg hDefaults, if_neg fun h => hDefaults h.2]
  · rw [if_neg fun h => hPlugins h.1] at h
    cases h
    rw [if_neg hPlugins]

theorem isObject_of_checkMerged (h : checkMerged checks T body = .ok (.object fields)) :
    body.isObject := by
  by_contra hBody
  rw [checkMerged, if_neg fun h => hBody h.2] at h
  cases h
  exact hBody rfl

theorem get_of_not_mem (hKey : key ∉ fields.map Prod.fst) :
    (Json.object fields).get key = none := by
  have hNone : fields.find? (·.1 == key) = none := by
    refine List.find?_eq_none.mpr fun field hField hSame => hKey ?_
    exact eq_of_beq hSame ▸ List.mem_map_of_mem hField
  rw [Json.get, hNone]
  rfl

/-- What a PATCH writes in a field that its body does not have. -/
theorem Patch.writes_get {patch : Patch} {answer : Except KongError (List Row)}
    (hWrites : patch.writes lib checks T answer = .ok (.object fields))
    (hKey : key ∉ patch.fields checks T) (hTime : key ≠ "updated_at") :
    ∃ body, updateBody checks T patch.body = .ok body ∧ (Json.object fields).get key =
      heldBack checks T body (fetchOptional lib T answer).toOption.join key := by
  obtain ⟨body, hBody, hPatched⟩ := bind_eq_ok.mp hWrites
  have hRead := mapError_eq_ok.mp hBody
  refine ⟨body, hRead, ?_⟩
  unfold Patch.fields at hKey
  rw [hRead] at hKey
  unfold patched at hPatched
  cases hFound : fetchOptional lib T answer with
  | error e =>
    rw [hFound] at hPatched
    have hMerged := mapError_eq_ok.mp hPatched
    have hObject := isObject_of_checkMerged hMerged
    rw [checkMerged_get hMerged hObject]
    cases body with
    | object given =>
      rw [get_of_not_mem hKey]
      rfl
    | _ => cases hObject
  | ok found =>
    rw [hFound] at hPatched
    cases found with
    | none => cases hPatched
    | some entity =>
      have hMerged := mapError_eq_ok.mp hPatched
      have hObject := isObject_of_checkMerged hMerged
      rw [checkMerged_get hMerged hObject]
      cases body with
      | object given =>
        have hEntity : entity.isObject := by
          have hFold : (given.foldl mergeField entity).isObject = entity.isObject :=
            isObject_foldl_mergeField
          rw [← hFold, ← Json.isObject_setField _ "updated_at" (.ofInt patch.moment.now)]
          exact hObject
        rw [merge, Json.get_setField_ne hTime, Json.get_setField_ne (by decide),
          foldl_mergeField_get_ne hKey, foldl_mergeField_name hEntity]
        rfl
      | _ => cases hObject

end HeldBack

/-! ## What a PATCH asks -/

section Asked

variable {lib : Library} {checks : Checks} {T : Entity} {x : Db Response}

theorem writePatched_asks {idOrName : String} {merged : Json}
    {said : List (Statement × Except KongError (List Row))}
    (h : Follows (writePatched lib T idOrName merged) said x) (hSaid : said ≠ []) :
    ∃ fields set touch column value result, merged = .object fields ∧
      said = [(.update T.tableName set touch column value, result)] ∧
      setParts lib T fields = .ok set ∧
      writeWhere lib T (fromStrOrUuid lib idOrName) = .ok (column, value) := by
  unfold writePatched at h
  cases hStatement : updateStatement lib T (fromStrOrUuid lib idOrName) merged with
  | error e =>
    rw [update_error hStatement, done_bind] at h
    exact absurd (follows_done.mp h).1 hSaid
  | ok statement =>
    rw [update_ok hStatement, ask_bind] at h
    rcases follows_ask.mp h with ⟨rfl, -⟩ | ⟨result, rest, rfl, hNext⟩
    · exact absurd rfl hSaid
    rw [done_bind] at hNext
    obtain ⟨fields, set, touch, column, value, hObject, hSet, hWhere, rfl⟩ :=
      updateStatement_eq_ok hStatement
    cases (follows_done.mp hNext).1
    exact ⟨fields, set, touch, column, value, result, hObject, rfl, hSet, hWhere⟩

/-- A PATCH that writes has read before. -/
theorem Patch.asks {patch : Patch} {said : List (Statement × Except KongError (List Row))}
    (h : Follows (patch.run lib checks T) said x) (hWrite : ∃ entry ∈ said, entry.1.isWrite) :
    ∃ column value answer fields set touch result,
      said = [(.select .read T.tableName column value, answer),
        (.update T.tableName set touch column value, result)] ∧
      patch.writes lib checks T answer = .ok (.object fields) ∧
      setParts lib T fields = .ok set := by
  obtain ⟨written, hWritten, hIsWrite⟩ := hWrite
  have hSaid : said ≠ [] := List.ne_nil_of_mem hWritten
  unfold Patch.run doUpdate at h
  cases hBody : updateBody checks T patch.body with
  | error response =>
    rw [hBody] at h
    exact absurd (follows_done.mp h).1 hSaid
  | ok body =>
    rw [hBody] at h
    dsimp only at h
    cases hWhere : writeWhere lib T (fromStrOrUuid lib patch.idOrName) with
    | error e =>
      -- No row can be named by such a path, so nothing is written either.
      rw [select_error ((selectWhere_path _ _ _).trans hWhere), done_bind] at h
      cases hMerged : patched checks T patch.moment body (.error e) with
      | error response =>
        rw [hMerged] at h
        exact absurd (follows_done.mp h).1 hSaid
      | ok merged =>
        rw [hMerged] at h
        obtain ⟨_, _, _, _, _, _, -, -, -, hOther⟩ := writePatched_asks h hSaid
        cases hWhere.symm.trans hOther
    | ok condition =>
      obtain ⟨column, value⟩ := condition
      rw [select_ok ((selectWhere_path _ _ _).trans hWhere), ask_bind] at h
      rcases follows_ask.mp h with ⟨rfl, -⟩ | ⟨answer, rest, rfl, hNext⟩
      · exact absurd rfl hSaid
      rw [done_bind] at hNext
      have hWrites : patch.writes lib checks T answer =
          patched checks T patch.moment body (fetchOptional lib T answer) := by
        unfold Patch.writes
        rw [hBody]
        rfl
      have hRest : rest ≠ [] := by
        rintro rfl
        cases List.mem_singleton.mp hWritten
        cases hIsWrite
      cases hMerged :
          patched checks T patch.moment body (fetchOptional lib T answer) with
      | error response =>
        rw [hMerged] at hNext
        exact absurd (follows_done.mp hNext).1 hRest
      | ok merged =>
        rw [hMerged] at hNext
        obtain ⟨fields, set, touch, column', value', result, rfl, rfl, hSet, hOther⟩ :=
          writePatched_asks hNext hRest
        cases hWhere.symm.trans hOther
        exact ⟨column, value, answer, fields, set, touch, result, rfl, hWrites.trans hMerged, hSet⟩

end Asked

/-! ## The two of them -/

section Race

variable {lib : Library} {checks : Checks} {T : Entity}

variable {said : Trace} {running running' : List (Db Response)} {w w' : Replicated} {i j : Nat}
  {id : Uuid}

/-- Besides the writes of two requests nothing is written. -/
theorem no_other_write {x y z : Trace} {first second : Nat × Statement × _}
    (hSaid : said = x ++ first :: (y ++ second :: z))
    (hFirst : first.2.1.isWrite) (hSecond : second.2.1.isWrite)
    (hOnce : ∀ label, (label = first.1 ∨ label = second.1) →
      (partOf label said).countP (fun entry => entry.1.isWrite) = 1)
    (hLabels : ∀ entry ∈ said, entry.1 = first.1 ∨ entry.1 = second.1)
    {entry : Nat × Statement × _} (hMem : entry ∈ x ∨ entry ∈ y ∨ entry ∈ z) :
    entry.2.1.isWrite = false := by
  by_contra hWrite
  have hEntry : entry ∈ said := by
    subst hSaid
    simp only [List.mem_append, List.mem_cons]
    tauto
  have hOne := hOnce entry.1 (hLabels entry hEntry)
  rw [countP_partOf, hSaid] at hOne
  simp only [List.countP_append, List.countP_cons] at hOne
  have hCounts : (entry.2.1.isWrite && entry.1 == entry.1) = true := by
    rw [beq_self_eq_true, Bool.and_true]
    exact (Bool.not_eq_false _).mp hWrite
  -- The write of the same request counts once, and this one once more.
  have hMore : 1 ≤ (x.countP fun other => other.2.1.isWrite && other.1 == entry.1) +
      ((y.countP fun other => other.2.1.isWrite && other.1 == entry.1) +
        z.countP fun other => other.2.1.isWrite && other.1 == entry.1) := by
    have hPos : ∀ l : Trace, entry ∈ l →
        0 < l.countP fun other => other.2.1.isWrite && other.1 == entry.1 := by
      intro l hIn
      exact List.countP_pos_iff.mpr ⟨entry, hIn, hCounts⟩
    rcases hMem with hIn | hIn | hIn
    · have := hPos x hIn
      omega
    · have := hPos y hIn
      omega
    · have := hPos z hIn
      omega
  rcases hLabels entry hEntry with hLabel | hLabel
  · rw [hFirst, hLabel, beq_self_eq_true, Bool.and_self, if_pos rfl] at hOne
    rw [hLabel] at hMore
    omega
  · rw [hSecond, hLabel, beq_self_eq_true, Bool.and_self, if_pos rfl] at hOne
    rw [hLabel] at hMore
    omega

theorem current_of_reads (h : Interleaved Serves running w said running' w')
    (hReads : ∀ entry ∈ said, entry.2.1.isWrite = false) : w'.current = w.current := by
  refine h.keeps (fun w' => w'.current = w.current) ?_ rfl
  intro entry hMem w₁ w₂ hAnswer hSame
  exact (hAnswer.reads (hReads entry hMem)).trans hSame

variable {row rowE rowL : Row} {early late : Patch}

theorem Patch.wrote {patch : Patch} (h : Interleaved Serves running w said running' w')
    (hRunning : running[i]? = some (patch.run lib checks T)) (hWrote : Wrote T said i id row) :
    ∃ column value answer fields set touch rest,
      partOf i said = [(.select .read T.tableName column value, answer),
        (.update T.tableName set touch column value, .ok (row :: rest))] ∧
      patch.writes lib checks T answer = .ok (.object fields) ∧
      setParts lib T fields = .ok set := by
  obtain ⟨set', touch', column', value', rest', hMem, -⟩ := hWrote
  obtain ⟨x, -, hFollows⟩ := h.follows hRunning
  have hPart := mem_partOf.mpr hMem
  obtain ⟨column, value, answer, fields, set, touch, result, hSaid, hWrites, hSet⟩ :=
    Patch.asks hFollows ⟨_, hPart, rfl⟩
  rw [hSaid] at hPart
  rcases List.mem_cons.mp hPart with hEq | hPart
  · cases hEq
  · cases List.mem_singleton.mp hPart
    exact ⟨_, _, answer, fields, _, _, rest', hSaid, hWrites, hSet⟩

/-- A column that the earlier request sets and the later one does not is as it was after the later
one exactly if that one returns it. -/
theorem column_kept_iff {answer : Except KongError (List Row)} {fields : List (String × Json)}
    {set : Params} {touch : Bool} {now : Int} (hNamed : T.schema.Named)
    (hWrites : late.writes lib checks T answer = .ok (.object fields))
    (hSet : setParts lib T fields = .ok set) {column : ColumnDef}
    (hSets : early.Sets checks T column) (hOther : column.jsonName ∉ late.fields checks T) :
    row.set (Postgres.touched set touch now) column.dbColumn = row column.dbColumn ↔
      late.Returns lib checks T answer column (row column.dbColumn) := by
  have hTime : column.dbColumn ≠ "updated_at" := by
    intro hName
    have hPlain := hNamed.plain column hSets.mem (by rw [hName]; decide)
    exact hSets.updatedAt (hPlain.trans hName)
  obtain ⟨body, hBody, hHeld⟩ := Patch.writes_get hWrites hOther hSets.updatedAt
  have hReturns : late.Returns lib checks T answer column (row column.dbColumn) ↔
      ∀ value, (Json.object fields).get column.jsonName = some value →
        jsonToSqlParam lib value column.colType = .ok (row column.dbColumn) := by
    rw [hHeld]
    refine ⟨fun h value => h body value hBody, fun h other value hOther => ?_⟩
    cases hBody.symm.trans hOther
    exact h value
  unfold Row.set
  rw [hReturns, Postgres.touched_lookup hTime]
  rcases setParts_lookup hNamed hSet hSets.mem hSets.writable hSets.id
    hSets.createdAt with ⟨hGet, hLookup⟩ | ⟨value, param, hGet, hParam, hLookup⟩
  · -- The later request has no such field, so that it leaves the column alone.
    rw [hLookup, hGet]
    exact iff_of_true rfl nofun
  · rw [hLookup, hGet]
    change param = row column.dbColumn ↔ _
    constructor
    · rintro rfl value' hValue
      cases hValue
      exact hParam
    · intro hReturned
      cases hParam.symm.trans (hReturned value rfl)
      rfl

section

variable (early late) (h : Interleaved Serves running w said running' w')
  (hLength : running.length = 2)
  (hTwo : ∀ l, l < 2 → l = i ∨ l = j) (hEarly : running[i]? = some (early.run lib checks T))
  (hLate : running[j]? = some (late.run lib checks T)) (hWroteE : Wrote T said i id rowE)
  (hWroteL : Wrote T said j id rowL) (hBefore : Before said i j) (hNamed : T.schema.Named)
include h hLength hTwo hEarly hLate hWroteE hWroteL hBefore hNamed

/-- The later update finds the row that the earlier one left, and sets it once more. -/
theorem later_row :
    ∃ column value answer fields set touch now rest,
      partOf j said = [(.select .read T.tableName column value, answer),
        (.update T.tableName set touch column value, .ok (rowL :: rest))] ∧
      late.writes lib checks T answer = .ok (.object fields) ∧
      setParts lib T fields = .ok set ∧
      rowL = rowE.set (Postgres.touched set touch now) ∧
      rowL ∈ w'.current T.tableName ∧ Postgres.Admits T.tableName (w'.current T.tableName) := by
  obtain ⟨columnE, valueE, _, _, setE, touchE, restE, hPartE, -, -⟩ := Patch.wrote h hEarly hWroteE
  obtain ⟨column, value, answer, fields, set, touch, rest, hPartL, hWrites, hSet⟩ :=
    Patch.wrote h hLate hWroteL
  obtain ⟨head, tail, hSplit, ⟨e₁, hMem₁, rfl, hWrite₁⟩, e₂, hMem₂, rfl, hWrite₂⟩ := hBefore
  obtain ⟨x, y₁, rfl⟩ := List.append_of_mem hMem₁
  obtain ⟨y₂, z, rfl⟩ := List.append_of_mem hMem₂
  have hSaid : said = x ++ e₁ :: ((y₁ ++ y₂) ++ e₂ :: z) := by
    rw [hSplit]
    simp only [List.append_assoc, List.cons_append]
  have hOnce : ∀ label, (label = e₁.1 ∨ label = e₂.1) →
      (partOf label said).countP (fun entry => entry.1.isWrite) = 1 := by
    rintro label (rfl | rfl)
    · rw [hPartE]
      rfl
    · rw [hPartL]
      rfl
  have hLabels : ∀ entry ∈ said, entry.1 = e₁.1 ∨ entry.1 = e₂.1 := by
    intro entry hMem
    have hLess := h.label_lt hMem
    rw [hLength] at hLess
    exact hTwo entry.1 hLess
  -- The two writes are those of the two requests.
  have hIs₁ := mem_partOf.mpr (show (e₁.1, e₁.2) ∈ said by rw [hSaid]; simp)
  have hIs₂ := mem_partOf.mpr (show (e₂.1, e₂.2) ∈ said by rw [hSaid]; simp)
  rw [hPartE] at hIs₁
  rw [hPartL] at hIs₂
  have hEq₁ : e₁.2 =
      (.update T.tableName setE touchE columnE valueE, .ok (rowE :: restE)) := by
    rcases List.mem_cons.mp hIs₁ with hEq | hIs
    · rw [hEq] at hWrite₁
      cases hWrite₁
    · exact List.mem_singleton.mp hIs
  have hEq₂ : e₂.2 = (.update T.tableName set touch column value, .ok (rowL :: rest)) := by
    rcases List.mem_cons.mp hIs₂ with hEq | hIs
    · rw [hEq] at hWrite₂
      cases hWrite₂
    · exact List.mem_singleton.mp hIs
  have hOther : ∀ entry, entry ∈ x ∨ entry ∈ y₁ ++ y₂ ∨ entry ∈ z →
      entry.2.1.isWrite = false := by
    intro entry hMem
    exact no_other_write hSaid hWrite₁ hWrite₂ hOnce hLabels hMem
  rw [hSaid] at h
  obtain ⟨_, w₁, -, h⟩ := interleaved_append.mp h
  obtain ⟨_, w₂, hAnswer₁, h⟩ := interleaved_cons h
  obtain ⟨_, w₃, hBetween, h⟩ := interleaved_append.mp h
  obtain ⟨_, w₄, hAnswer₂, hAfter⟩ := interleaved_cons h
  have hSame := current_of_reads hBetween fun entry hMem => hOther entry (.inr (.inl hMem))
  have hEnd := current_of_reads hAfter fun entry hMem => hOther entry (.inr (.inr hMem))
  rw [hEq₁] at hAnswer₁
  rw [hEq₂] at hAnswer₂
  obtain ⟨-, -, hRowE, hAdmits⟩ := hAnswer₁.updated
  obtain ⟨now, ⟨old, hOld, rfl⟩, hRowL, hAdmits'⟩ := hAnswer₂.updated
  have hIdOld : old "id" = .uuid id := by
    obtain ⟨_, _, _, _, _, -, hIdL⟩ := hWroteL
    unfold Row.set at hIdL
    rw [Postgres.touched_lookup (by decide), setParts_id hNamed hSet] at hIdL
    exact hIdL
  have hIdE : rowE "id" = .uuid id := by
    obtain ⟨_, _, _, _, _, -, hIdE⟩ := hWroteE
    exact hIdE
  rw [hSame] at hOld
  cases hAdmits.unique hOld hRowE hIdOld hIdE
  rw [← hEnd] at hRowL hAdmits'
  exact ⟨column, value, answer, fields, set, touch, now, rest, hPartL, hWrites, hSet, rfl, hRowL,
    hAdmits'⟩

/-- Both requests have been carried out, the one after the other. -/
theorem later_keeps_iff
    (hDisjoint : (early.fields checks T).Disjoint (late.fields checks T)) :
    (∃ row ∈ w'.current T.tableName, row "id" = .uuid id ∧ early.Keeps checks T rowE row ∧
      late.Keeps checks T rowL row) ↔ UpToDate lib checks T said early rowE late j := by
  obtain ⟨column, value, answer, fields, set, touch, now, rest, hPart, hWrites, hSet, hRow, hMem,
    hAdmits⟩ := later_row _ _ h hLength hTwo hEarly hLate hWroteE hWroteL hBefore hNamed
  have hId : rowL "id" = .uuid id := by
    obtain ⟨_, _, _, _, _, -, hId⟩ := hWroteL
    exact hId
  have hFinal : (∃ row ∈ w'.current T.tableName, row "id" = .uuid id ∧
      early.Keeps checks T rowE row ∧ late.Keeps checks T rowL row) ↔
      early.Keeps checks T rowE rowL := by
    constructor
    · rintro ⟨row, hIn, hRowId, hKeeps, -⟩
      cases hAdmits.unique hIn hMem hRowId hId
      exact hKeeps
    · intro hKeeps
      exact ⟨rowL, hMem, hId, hKeeps, fun _ _ => rfl⟩
  have hAnswer : UpToDate lib checks T said early rowE late j ↔ ∀ column,
      early.Sets checks T column →
        late.Returns lib checks T answer column (rowE column.dbColumn) := by
    constructor
    · intro hUp
      have hAsked : (j, .select .read T.tableName column value, answer) ∈ said := by
        rw [← mem_partOf, hPart]
        exact List.mem_cons_self
      exact hUp _ answer hAsked rfl
    · intro hReturns statement other hIn hRead
      have hAsked := mem_partOf.mpr hIn
      rw [hPart] at hAsked
      rcases List.mem_cons.mp hAsked with hEq | hAsked
      · cases hEq
        exact hReturns
      · cases List.mem_singleton.mp hAsked
        cases hRead
  rw [hFinal, hAnswer, hRow]
  constructor
  · intro hKeeps column' hSets
    have hKept := hKeeps column' hSets
    exact (column_kept_iff hNamed hWrites hSet hSets (hDisjoint hSets.named)).mp hKept
  · intro hReturns column' hSets
    have hReturned := hReturns column' hSets
    exact (column_kept_iff hNamed hWrites hSet hSets (hDisjoint hSets.named)).mpr hReturned

end

theorem before_or {rowI rowJ : Row} (hNe : i ≠ j)
    (hI : Wrote T said i id rowI) (hJ : Wrote T said j id rowJ) :
    Before said i j ∨ Before said j i := by
  obtain ⟨_, _, _, _, _, hMemI, -⟩ := hI
  obtain ⟨_, _, _, _, _, hMemJ, -⟩ := hJ
  obtain ⟨x, y, rfl⟩ := List.append_of_mem hMemI
  rcases List.mem_append.mp hMemJ with hX | hY
  · exact .inr ⟨x, _, rfl, ⟨_, hX, rfl, rfl⟩, _, List.mem_cons_self, rfl, rfl⟩
  · rcases List.mem_cons.mp hY with hEq | hY
    · exact absurd (congrArg Prod.fst hEq).symm hNe
    · exact .inl ⟨x ++ [_], y, by rw [List.append_assoc]; rfl,
        ⟨_, List.mem_append_right _ List.mem_cons_self, rfl, rfl⟩, _, hY, rfl, rfl⟩

end Race

/-! ## A lost PATCH -/

namespace LostPatch

/-- The `username` and the `custom_id` of one consumer are set at the same time. -/
def first : Patch := ⟨⟨2, fun _ => 0⟩, (7 : Uuid).text, .object [("username", .string "a")]⟩

def second : Patch := ⟨⟨2, fun _ => 0⟩, (7 : Uuid).text, .object [("custom_id", .string "b")]⟩

def before : Row :=
  .ofParams [("id", .uuid 7), ("created_at", .timestampEpoch 1),
    ("updated_at", .timestampEpoch 1), ("username", .text "u")]

def written (username customId : SqlParam) : Params :=
  [("custom_id", customId), ("tags", .null), ("updated_at", .timestampEpoch 2),
    ("username", username)]

def setFirst : Params := written (.text "a") .null

def setSecond : Params := written (.text "u") (.text "b")

def between : Row := before.set setFirst

def after : Row := between.set setSecond

def said : Trace :=
  [(0, .select .read "consumers" "id" (.uuid 7), .ok [before]),
    (1, .select .read "consumers" "id" (.uuid 7), .ok [before]),
    (0, .update "consumers" setFirst false "id" (.uuid 7), .ok [between]),
    (1, .update "consumers" setSecond false "id" (.uuid 7), .ok [after])]

def lib : Library := canonicalIds

theorem fits_set {row : Row} {username customId : SqlParam}
    (hRow : ∀ column, (Postgres.sqlType "consumers" column).Fits (row column))
    (hUsername : ∀ n, username ≠ .integer n) (hCustomId : ∀ n, customId ≠ .integer n)
    (column : String) :
    (Postgres.sqlType "consumers" column).Fits (row.set (written username customId) column) := by
  refine Postgres.SqlType.fits_set hRow ?_ column
  unfold written
  simp [hUsername, hCustomId]

theorem fits_before (column : String) :
    (Postgres.sqlType "consumers" column).Fits (before column) := by
  refine Postgres.SqlType.fits_ofParams ?_ column
  simp

theorem fits_between (column : String) :
    (Postgres.sqlType "consumers" column).Fits (between column) :=
  fits_set fits_before (by simp) (by simp) column

theorem run : ∃ running' past, Interleaved Serves
    [first.run lib anyPlugin (consumer lib), second.run lib anyPlugin (consumer lib)]
    ⟨single "consumers" before, []⟩ said running' ⟨single "consumers" after, past⟩ := by
  have hNone : ∀ {row : Row}, ∀ column ∈ Postgres.notNull "consumers", row column ≠ .null := by
    intro row column hColumn
    cases hColumn
  refine ⟨_, [single "consumers" between, single "consumers" before, single "consumers" before,
    single "consumers" before], .step rfl (.primary (.found_single .read rfl))
      (.step rfl (.primary (.found_single .read rfl)) (.step rfl (.primary ?_)
        (.step rfl (.primary ?_) (.refl _ _))))⟩
  · exact .update_single rfl rfl hNone fits_between
  · exact .update_single rfl rfl hNone (fits_set fits_between (by simp) (by simp))

theorem wrote_first : Wrote (consumer lib) said 0 7 between :=
  ⟨setFirst, false, "id", .uuid 7, [], by simp [said, Entity.tableName, consumer]; rfl, rfl⟩

theorem wrote_second : Wrote (consumer lib) said 1 7 after :=
  ⟨setSecond, false, "id", .uuid 7, [], by simp [said, Entity.tableName, consumer]; rfl, rfl⟩

theorem first_sets : first.Sets anyPlugin (consumer lib) ⟨"username", "username", .text, true, true⟩ where
  mem := by
    change _ ∈ Postgres.consumerSchema.columns
    decide
  writable := rfl
  named := List.mem_singleton_self _
  id := by decide
  createdAt := by decide
  updatedAt := by decide

theorem fields_disjoint : (first.fields anyPlugin (consumer lib)).Disjoint
    (second.fields anyPlugin (consumer lib)) := by
  change ["username"].Disjoint ["custom_id"]
  simp

theorem not_kept : ¬ ∃ row ∈ single "consumers" after "consumers", row "id" = .uuid 7 ∧
    first.Keeps anyPlugin (consumer lib) between row ∧
    second.Keeps anyPlugin (consumer lib) after row := by
  rintro ⟨row, hRow, -, hKeeps, -⟩
  rw [Postgres.single_table] at hRow
  cases List.mem_singleton.mp hRow
  have hUsername := hKeeps _ first_sets
  change SqlParam.text "u" = .text "a" at hUsername
  injection hUsername with hText
  exact absurd hText (by decide)

end LostPatch

end KongRust.Crud

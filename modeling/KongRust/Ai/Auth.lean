import KongRust.Foundation.Machine

/-!
# Authentication by virtual key

`VirtualKeyAuthenticator` on one node: its cache, the calls of `authenticate` in progress and the
calls of the Admin API that change a key and then drop the cache. What touches the table or the
cache is a step of its own.
-/

namespace KongRust.Ai.Auth

structure AiVirtualKey where
  id : Uuid
  keyHash : String
  keyPrefix : String
  enabled : Bool
  expiresAt : Option Int
  deriving DecidableEq

inductive AuthError where
  | missingKey
  | invalidKey
  deriving DecidableEq

structure PageParams where
  filters : List (String × String)
  offset : Option String

structure Page where
  data : List AiVirtualKey
  offset : Option String

/-- `Dao<AiVirtualKey>::page` on the rows of the table. A page is made of rows; whether the filter
is applied is left open. -/
structure VirtualKeyDao where
  page : List AiVirtualKey → PageParams → Page
  page_mem : ∀ rows params, ∀ key ∈ (page rows params).data, key ∈ rows

def MAX_LOOKUP_PAGES : Nat := 100

/-! ## One call of `authenticate` -/

/-- Where a call stands: before `cache.get`, before its next page, before `cache.insert`, before the
checks of what it found, at its end. -/
inductive AuthStage where
  | looking
  | searching (offset : Option String) (pages : Nat)
  | inserting (found : Option AiVirtualKey)
  | checking (found : Option AiVirtualKey)
  | finished (result : Except AuthError AiVirtualKey)

structure AuthCall where
  hash : String
  stage : AuthStage

/-- The turn of the loop of `find_by_hash` for one page. -/
def searchPage (hash : String) (pages : Nat) (page : Page) : AuthStage :=
  match page.data.find? fun key => key.keyHash = hash with
  | some found => .inserting (some found)
  | none =>
    match page.offset with
    | some offset =>
      if pages + 1 < MAX_LOOKUP_PAGES then .searching (some offset) (pages + 1)
      else .inserting none
    | none => .inserting none

/-- The checks of `authenticate` on what the lookup found. -/
def checkKey (found : Option AiVirtualKey) (now : Int) : Except AuthError AiVirtualKey :=
  match found with
  | none => .error .invalidKey
  | some key =>
    if !key.enabled then .error .invalidKey
    else if key.expiresAt.any fun expiresAt => expiresAt ≤ now then .error .invalidKey
    else .ok key

/-! ## The changes of an administrator -/

/-- What a call writes. `rotate` merges its fields into the row that it read before, or writes them
alone when that read failed. -/
inductive AdminWrite where
  | rotate (id : Uuid) (merged : Option AiVirtualKey) (keyHash keyPrefix : String)
  | update (id : Uuid) (enabled : Option Bool) (expiresAt : Option (Option Int))
  | delete (id : Uuid)

def AdminWrite.id : AdminWrite → Uuid
  | .rotate id _ _ _ | .update id _ _ | .delete id => id

variable (rows : List AiVirtualKey)

def AdminWrite.apply (rows : List AiVirtualKey) : AdminWrite → List AiVirtualKey
  | .rotate id merged keyHash keyPrefix => rows.map fun row =>
    if row.id = id then
      { merged.getD row with id := id, keyHash := keyHash, keyPrefix := keyPrefix }
    else row
  | .update id enabled expiresAt => rows.map fun row =>
    if row.id = id then
      { row with enabled := enabled.getD row.enabled, expiresAt := expiresAt.getD row.expiresAt }
    else row
  | .delete id => rows.filter fun row => row.id ≠ id

/-- Where a call stands after its write. Only `update` reads the key back before it drops the
cache, and it returns an error when that fails. -/
inductive AdminStage where
  | readingBack
  | invalidating
  | done
  | failed
  deriving DecidableEq

def AdminWrite.next : AdminWrite → AdminStage
  | .update _ _ _ => .readingBack
  | _ => .invalidating

/-! ## The node -/

structure Node where
  rows : List AiVirtualKey
  cache : AList fun _ : String => Option AiVirtualKey
  calls : List AuthCall
  admins : List AdminStage

inductive Event where
  /-- A call of `authenticate` starts. -/
  | authenticate (rawKey : String)
  /-- The next step of a call, at a time. -/
  | proceed (index : Nat) (now : Int)
  /-- The read of a page fails. -/
  | lookupFails (index : Nat)
  /-- An entry of the cache ends, by age or by capacity. -/
  | evict (hash : String)
  /-- The write of an administrator's call. -/
  | write (change : AdminWrite)
  /-- The next step of an administrator's call; a read may fail. -/
  | proceedAdmin (index : Nat) (readable : Bool)
  /-- Any other change of the table, on this node or another one. -/
  | otherWrite (rows : List AiVirtualKey)

section Steps

variable (dao : VirtualKeyDao) (hashKey : String → String)

namespace Node

variable (node : Node)

/-- `invalidate_all`. -/
def invalidateAll : Node := { node with cache := ∅ }

def setStage (index : Nat) (call : AuthCall) (stage : AuthStage) : Node :=
  { node with calls := node.calls.set index { call with stage := stage } }

def proceedCall (index : Nat) (call : AuthCall) (now : Int) : Node :=
  match call.stage with
  | .looking =>
    match node.cache.lookup call.hash with
    | some cached => node.setStage index call (.checking cached)
    | none => node.setStage index call (.searching none 0)
  | .searching offset pages =>
    let page := dao.page node.rows ⟨[("key_hash", call.hash)], offset⟩
    node.setStage index call (searchPage call.hash pages page)
  | .inserting found =>
    { node.setStage index call (.checking found) with cache := node.cache.insert call.hash found }
  | .checking found => node.setStage index call (.finished (checkKey found now))
  | .finished _ => node

def step : Event → Node
  | .authenticate rawKey =>
    let call : AuthCall :=
      if rawKey = "" then ⟨hashKey rawKey, .finished (.error .missingKey)⟩
      else ⟨hashKey rawKey, .looking⟩
    { node with calls := node.calls ++ [call] }
  | .proceed index now =>
    match node.calls[index]? with
    | none => node
    | some call => node.proceedCall dao index call now
  | .lookupFails index =>
    match node.calls[index]? with
    | none => node
    | some call =>
      match call.stage with
      | .searching _ _ => node.setStage index call (.finished (.error .invalidKey))
      | _ => node
  | .evict hash => { node with cache := node.cache.erase hash }
  | .write change =>
    { node with rows := change.apply node.rows, admins := node.admins ++ [change.next] }
  | .proceedAdmin index readable =>
    match node.admins[index]? with
    | some .readingBack =>
      { node with admins := node.admins.set index (if readable then .invalidating else .failed) }
    | some .invalidating => { node.invalidateAll with admins := node.admins.set index .done }
    | _ => node
  | .otherWrite rows => { node with rows := rows }

def run (events : List Event) : Node := events.foldl (fun node => step dao hashKey node) node

end Node

end Steps

/-! ## Revoked secrets -/

def Usable (rows : List AiVirtualKey) (hash : String) : Prop :=
  ∃ key ∈ rows, key.keyHash = hash ∧ key.enabled = true

/-- The write takes its secret from a key with this hash: a rotation to another hash, a disabling or
a deletion. -/
def AdminWrite.Revokes (hash : String) : AdminWrite → Prop
  | .rotate _ _ keyHash _ => keyHash ≠ hash
  | .update _ enabled _ => enabled = some false
  | .delete _ => True

def AuthStage.carried : AuthStage → Option AiVirtualKey
  | .inserting (some key) | .checking (some key) => if key.enabled then some key else none
  | .finished (.ok key) => some key
  | _ => none

def Node.insertsEnabled (hash : String) (node : Node) : Event → Bool
  | .proceed index _ => (node.calls[index]?).any fun call =>
    match call.stage with
    | .inserting (some key) => key.enabled && decide (call.hash = hash)
    | _ => false
  | _ => false

section Runs

variable (dao : VirtualKeyDao) (hashKey : String → String)

/-- Every step of the run, with the node that it starts from, is as `P` says. -/
def Node.Along (P : Node → Event → Prop) (node : Node) : List Event → Prop
  | [] => True
  | event :: events =>
    P node event ∧ Along P (node.step dao hashKey event) events

def Node.KeepsRevoked (hash : String) (node : Node) (event : Event) : Prop :=
  ¬ Usable node.rows hash → ¬ Usable (node.step dao hashKey event).rows hash

/-- A revoked secret left no trace: not in the table, not in the cache, and no call from `first` on
carries it. -/
structure Node.Clean (hash : String) (first : Nat) (node : Node) : Prop where
  rows : ¬ Usable node.rows hash
  cache : ∀ key, node.cache.lookup hash = some (some key) → key.enabled = false
  calls : ∀ index call, first ≤ index → node.calls[index]? = some call → call.hash = hash →
    call.stage.carried = none

end Runs

/-! ### The write -/

theorem AdminWrite.not_usable_of_revokes {rows : List AiVirtualKey} {change : AdminWrite}
    {key : AiVirtualKey} (hRevokes : change.Revokes key.keyHash) (hKey : change.id = key.id)
    (hUnique : ∀ other ∈ rows, other.keyHash = key.keyHash → other.id = key.id) :
    ¬ Usable (change.apply rows) key.keyHash := by
  rintro ⟨found, hFound, hHash, hEnabled⟩
  cases change with
  | rotate id merged keyHash keyPrefix =>
    obtain ⟨row, hRow, rfl⟩ := List.mem_map.mp hFound
    by_cases hId : row.id = id
    · rw [if_pos hId] at hHash
      exact hRevokes hHash
    · rw [if_neg hId] at hHash
      exact hId ((hUnique row hRow hHash).trans hKey.symm)
  | update id enabled expiresAt =>
    obtain ⟨row, hRow, rfl⟩ := List.mem_map.mp hFound
    by_cases hId : row.id = id
    · rw [if_pos hId] at hEnabled
      have hDisabled : enabled = some false := hRevokes
      rw [hDisabled] at hEnabled
      cases hEnabled
    · rw [if_neg hId] at hHash
      exact hId ((hUnique row hRow hHash).trans hKey.symm)
  | delete id =>
    obtain ⟨hRow, hOther⟩ := List.mem_filter.mp hFound
    have hNe := of_decide_eq_true hOther
    exact hNe ((hUnique found hRow hHash).trans hKey.symm)

/-! ### One step -/

section StepLemmas

variable {dao : VirtualKeyDao} {hashKey : String → String} {hash : String} {first : Nat}
  {node : Node}

theorem checkKey_ok {found : Option AiVirtualKey} {now : Int} {key : AiVirtualKey}
    (h : checkKey found now = .ok key) : found = some key ∧ key.enabled = true := by
  unfold checkKey at h
  cases found with
  | none => cases h
  | some other =>
    dsimp only at h
    cases hEnabled : other.enabled with
    | false =>
      rw [hEnabled] at h
      cases h
    | true =>
      rw [hEnabled, Bool.not_true, if_neg Bool.false_ne_true] at h
      split at h
      · cases h
      · cases h
        exact ⟨rfl, hEnabled⟩

theorem searchPage_carried (hRows : ¬ Usable node.rows hash) (pages : Nat) (params : PageParams) :
    (searchPage hash pages (dao.page node.rows params)).carried = none := by
  unfold searchPage
  cases hFind : (dao.page node.rows params).data.find? (fun key => key.keyHash = hash) with
  | none =>
    dsimp only
    cases (dao.page node.rows params).offset with
    | none => rfl
    | some offset =>
      dsimp only
      split
      · rfl
      · rfl
  | some found =>
    have hMem := dao.page_mem _ _ found (List.mem_of_find?_eq_some hFind)
    have hFound := List.find?_some hFind
    have hHash := of_decide_eq_true hFound
    cases hEnabled : found.enabled with
    | false => simp [AuthStage.carried, hEnabled]
    | true => exact absurd ⟨found, hMem, hHash, hEnabled⟩ hRows

variable {call : AuthCall} {stage : AuthStage}

theorem Node.getElem?_setStage {index other : Nat} {found : AuthCall}
    (h : (node.setStage index call stage).calls[other]? = some found) :
    index = other ∧ found = { call with stage := stage } ∨ node.calls[other]? = some found := by
  unfold Node.setStage at h
  by_cases hIndex : index = other
  · subst hIndex
    have hLength : index < node.calls.length := by
      have := (List.getElem?_eq_some_iff.mp h).1
      rw [List.length_set] at this
      exact this
    rw [List.getElem?_set_self hLength] at h
    cases h
    exact .inl ⟨rfl, rfl⟩
  · rw [List.getElem?_set_ne hIndex] at h
    exact .inr h

section

variable (hClean : node.Clean hash first)
include hClean

theorem Node.Clean.setStage {index : Nat}
    (hStage : first ≤ index → call.hash = hash → stage.carried = none) :
    (node.setStage index call stage).Clean hash first := by
  refine ⟨hClean.rows, hClean.cache, fun other found hOther hFound hHash => ?_⟩
  obtain ⟨rfl, rfl⟩ | hOld := Node.getElem?_setStage hFound
  · exact hStage hOther hHash
  · exact hClean.calls other found hOther hOld hHash

theorem Node.Clean.proceedCall {index : Nat} {now : Int}
    (hCall : node.calls[index]? = some call)
    (hInsert : node.insertsEnabled hash (.proceed index now) = false) :
    (node.proceedCall dao index call now).Clean hash first := by
  unfold Node.proceedCall
  cases hStage : call.stage with
  | looking =>
    dsimp only
    cases hLookup : node.cache.lookup call.hash with
    | none => exact hClean.setStage fun _ _ => rfl
    | some cached =>
      refine hClean.setStage fun _ hHash => ?_
      cases cached with
      | none => rfl
      | some key =>
        rw [hHash] at hLookup
        simp [AuthStage.carried, hClean.cache key hLookup]
  | searching offset pages =>
    refine hClean.setStage fun _ hHash => ?_
    rw [hHash]
    exact searchPage_carried hClean.rows _ _
  | inserting found =>
    have hSet : (node.setStage index call (.checking found)).Clean hash first := by
      refine hClean.setStage fun hFirst hHash => ?_
      have hCarried := hClean.calls index call hFirst hCall hHash
      rw [hStage] at hCarried
      cases found with
      | none => rfl
      | some key => exact hCarried
    refine ⟨hSet.rows, fun key hKey => ?_, hSet.calls⟩
    by_cases hHash : call.hash = hash
    · subst hHash
      have hFound : found = some key := by
        rw [AList.lookup_insert] at hKey
        exact Option.some_inj.mp hKey
      rw [Node.insertsEnabled, hCall, Option.any_some, hStage, hFound] at hInsert
      simpa using hInsert
    · have hOld : node.cache.lookup hash = some (some key) := by
        rw [← hKey]
        exact (AList.lookup_insert_ne (Ne.symm hHash)).symm
      exact hClean.cache key hOld
  | checking found =>
    refine hClean.setStage fun hFirst hHash => ?_
    have hCarried := hClean.calls index call hFirst hCall hHash
    rw [hStage] at hCarried
    cases hCheck : checkKey found now with
    | error e => rfl
    | ok key =>
      obtain ⟨rfl, hEnabled⟩ := checkKey_ok hCheck
      simp [AuthStage.carried, hEnabled] at hCarried
  | finished result => exact hClean

/-- What one step preserves. -/
theorem Node.Clean.step {event : Event}
    (hKeeps : node.KeepsRevoked dao hashKey hash event)
    (hInsert : node.insertsEnabled hash event = false) :
    (node.step dao hashKey event).Clean hash first := by
  have hRows := hKeeps hClean.rows
  cases event with
  | authenticate rawKey =>
    refine ⟨hRows, hClean.cache, fun index call hFirst hCall hHash => ?_⟩
    have hCalls : (node.calls ++ [if rawKey = "" then
        (⟨hashKey rawKey, .finished (.error .missingKey)⟩ : AuthCall)
        else ⟨hashKey rawKey, .looking⟩])[index]? = some call := hCall
    by_cases hLength : index < node.calls.length
    · rw [List.getElem?_append_left hLength] at hCalls
      exact hClean.calls index call hFirst hCalls hHash
    · rw [List.getElem?_append_right (Nat.le_of_not_lt hLength)] at hCalls
      have hNew := List.mem_singleton.mp (List.mem_of_getElem? hCalls)
      rw [hNew]
      split
      · rfl
      · rfl
  | proceed index now =>
    unfold Node.step
    dsimp only
    cases hCall : node.calls[index]? with
    | none => exact hClean
    | some call => exact hClean.proceedCall hCall hInsert
  | lookupFails index =>
    unfold Node.step
    dsimp only
    cases hCall : node.calls[index]? with
    | none => exact hClean
    | some call =>
      dsimp only
      cases call.stage with
      | searching offset pages => exact hClean.setStage fun _ _ => rfl
      | looking | inserting found | checking found | finished result => exact hClean
  | evict evicted =>
    refine ⟨hRows, fun key hKey => ?_, hClean.calls⟩
    have hErased : (node.cache.erase evicted).lookup hash = some (some key) := hKey
    by_cases hSame : hash = evicted
    · rw [hSame, AList.lookup_erase] at hErased
      cases hErased
    · rw [AList.lookup_erase_ne hSame] at hErased
      exact hClean.cache key hErased
  | write change => exact ⟨hRows, hClean.cache, hClean.calls⟩
  | proceedAdmin index readable =>
    unfold Node.step
    dsimp only
    split
    · exact ⟨hClean.rows, hClean.cache, hClean.calls⟩
    · refine ⟨hClean.rows, fun key hKey => ?_, hClean.calls⟩
      cases hKey
    · exact hClean
  | otherWrite rows => exact ⟨hRows, hClean.cache, hClean.calls⟩

end

end StepLemmas

/-! ### Runs -/

section RunLemmas

variable {dao : VirtualKeyDao} {hashKey : String → String} {hash : String} {first : Nat}
  {node : Node}

theorem Node.along_append {P : Node → Event → Prop} {before after : List Event} :
    node.Along dao hashKey P (before ++ after) ↔
      node.Along dao hashKey P before ∧ (node.run dao hashKey before).Along dao hashKey P after := by
  induction before generalizing node with
  | nil => simp [Node.Along, Node.run]
  | cons event before ih =>
    have hRest := @ih (node.step dao hashKey event)
    constructor
    · rintro ⟨hEvent, hAll⟩
      obtain ⟨hBefore, hAfter⟩ := hRest.mp hAll
      exact ⟨⟨hEvent, hBefore⟩, hAfter⟩
    · rintro ⟨⟨hEvent, hBefore⟩, hAfter⟩
      exact ⟨hEvent, hRest.mpr ⟨hBefore, hAfter⟩⟩

variable {events : List Event}

theorem Node.not_usable_run (hRows : ¬ Usable node.rows hash)
    (hKept : node.Along dao hashKey (Node.KeepsRevoked dao hashKey hash) events) :
    ¬ Usable (node.run dao hashKey events).rows hash := by
  induction events generalizing node with
  | nil => exact hRows
  | cons event events ih => exact ih (hKept.1 hRows) hKept.2

theorem Node.Clean.run (hClean : node.Clean hash first)
    (hKept : node.Along dao hashKey (Node.KeepsRevoked dao hashKey hash) events)
    (hTimely : node.Along dao hashKey (fun node event => node.insertsEnabled hash event = false)
      events) : (node.run dao hashKey events).Clean hash first := by
  induction events generalizing node with
  | nil => exact hClean
  | cons event events ih => exact ih (hClean.step hKept.1 hTimely.1) hKept.2 hTimely.2

end RunLemmas

variable {index : Nat} {key : AiVirtualKey} {rawKey : String} {now : Int}

theorem Node.step_invalidating {dao : VirtualKeyDao} {hashKey : String → String} {node : Node}
    (h : node.admins[index]? = some .invalidating) (readable : Bool) :
    node.step dao hashKey (.proceedAdmin index readable) =
      { node.invalidateAll with admins := node.admins.set index .done } := by
  unfold Node.step
  dsimp only
  rw [h]

/-- An administrator's call that takes the secret of `key` from it, from its write at `start` to its
answer at `completed`. `key_hash` is unique in the table. -/
structure Revocation (dao : VirtualKeyDao) (hashKey : String → String) (change : AdminWrite)
    (key : AiVirtualKey) (start : Node) (before : List Event) (completed : Node) : Prop where
  id : change.id = key.id
  revokes : change.Revokes key.keyHash
  unique : ∀ other ∈ start.rows, other.keyHash = key.keyHash → other.id = key.id
  pending : ((start.step dao hashKey (.write change)).run dao hashKey
    before).admins[start.admins.length]? = some .invalidating
  answer : completed = ((start.step dao hashKey (.write change)).run dao hashKey before).step
    dao hashKey (.proceedAdmin start.admins.length true)

/-- From its answer on, with no late insert, no call that starts then accepts the secret. -/
theorem revoked_secret_rejected (dao : VirtualKeyDao) (hashKey : String → String)
    (change : AdminWrite) (key : AiVirtualKey) (start completed : Node) (before after : List Event)
    (hRevocation : Revocation dao hashKey change key start before completed)
    (hKept : (start.step dao hashKey (.write change)).Along dao hashKey
      (Node.KeepsRevoked dao hashKey key.keyHash)
      (before ++ .proceedAdmin start.admins.length true :: after))
    (hTimely : completed.Along dao hashKey
      (fun node event => node.insertsEnabled key.keyHash event = false) after) :
    ∀ index call, completed.calls.length ≤ index →
      (completed.run dao hashKey after).calls[index]? = some call → call.hash = key.keyHash →
        ∀ accepted, call.stage ≠ .finished (.ok accepted) := by
  intro index call hStarted hCall hHash accepted hAccepted
  obtain ⟨hBefore, hAnswer, hAfter⟩ := Node.along_append.mp hKept
  have hWritten : ¬ Usable (start.step dao hashKey (.write change)).rows key.keyHash :=
    AdminWrite.not_usable_of_revokes hRevocation.revokes hRevocation.id hRevocation.unique
  have hPending := Node.not_usable_run hWritten hBefore
  have hCompleted : completed.Clean key.keyHash completed.calls.length := by
    have hRows := hAnswer hPending
    rw [← hRevocation.answer] at hRows
    refine ⟨hRows, fun found hFound => ?_, fun other found hOther hFound _ => ?_⟩
    · rw [hRevocation.answer, Node.step_invalidating hRevocation.pending] at hFound
      cases hFound
    · rw [List.getElem?_eq_none hOther] at hFound
      cases hFound
  rw [← hRevocation.answer] at hAfter
  have hFinal := (hCompleted.run hAfter hTimely).calls index call hStarted hCall hHash
  rw [hAccepted] at hFinal
  cases hFinal

/-! ### A late insert and a failed read-back -/

/-- `page` with its filter, all rows on one page. -/
def sampleDao : VirtualKeyDao where
  page rows params := ⟨rows.filter fun key => params.filters.all fun filter =>
    filter.1 = "key_hash" && filter.2 = key.keyHash, none⟩
  page_mem _ _ _ h := List.mem_of_mem_filter h

/-- The hash of `sk-a`. -/
def sampleHash : String := "a4a6d307ad00fa67176e1099fdbc4f4a09bb527a7f24718a5030f2f173d11f7f"

def sampleKey : AiVirtualKey := ⟨1, sampleHash, "sk-a", true, none⟩

def sampleNode : Node := ⟨[sampleKey], ∅, [], []⟩

def rotation : AdminWrite := .rotate 1 (some sampleKey)
  "18519d64d0d18b0e84e43301547425933dc0394576666e8da1ef1790fb64ca9f" "sk-b"

theorem revoked_secret_rejected_sample : ∃ call, (((sampleNode.step sampleDao (fun _ => sampleHash)
      (.write rotation)).step sampleDao (fun _ => sampleHash) (.proceedAdmin 0 true)).run sampleDao
        (fun _ => sampleHash) [.authenticate "sk-a", .proceed 0 100, .proceed 0 100, .proceed 0 100,
          .proceed 0 100]).calls[0]? = some call ∧
            ∀ accepted, call.stage ≠ .finished (.ok accepted) := by
  refine ⟨_, rfl, revoked_secret_rejected sampleDao (fun _ => sampleHash) rotation sampleKey
    sampleNode _ [] [.authenticate "sk-a", .proceed 0 100, .proceed 0 100, .proceed 0 100,
      .proceed 0 100] ⟨rfl, ?_, ?_, rfl, rfl⟩ ?_ ⟨rfl, rfl, rfl, rfl, rfl, trivial⟩ 0 _
    (Nat.le_refl 0) rfl rfl⟩
  · exact fun h => absurd h (by decide)
  · intro other hOther _
    rw [List.mem_singleton.mp hOther]
  · exact ⟨id, id, id, id, id, id, trivial⟩

/-- A call that read the key before its deletion inserts it after the cache was dropped, and the
next call accepts it; and a disabling whose read-back fails drops nothing. -/
theorem stale_key_accepted :
    (¬ ∀ (dao : VirtualKeyDao) (hashKey : String → String) (change : AdminWrite)
      (key : AiVirtualKey) (start completed : Node) (before after : List Event),
      Revocation dao hashKey change key start before completed →
      (start.step dao hashKey (.write change)).Along dao hashKey
        (Node.KeepsRevoked dao hashKey key.keyHash)
        (before ++ .proceedAdmin start.admins.length true :: after) →
      ∀ index call, completed.calls.length ≤ index →
        (completed.run dao hashKey after).calls[index]? = some call → call.hash = key.keyHash →
          ∀ accepted, call.stage ≠ .finished (.ok accepted)) ∧
    ¬ ∀ (dao : VirtualKeyDao) (hashKey : String → String) (change : AdminWrite)
      (key : AiVirtualKey) (start completed : Node) (after : List Event),
      change.id = key.id → change.Revokes key.keyHash →
      (∀ other ∈ start.rows, other.keyHash = key.keyHash → other.id = key.id) →
      completed = (start.step dao hashKey (.write change)).step dao hashKey
        (.proceedAdmin start.admins.length false) →
      completed.admins[start.admins.length]? = some .failed →
      completed.Along dao hashKey (Node.KeepsRevoked dao hashKey key.keyHash) after →
      ∀ index call, completed.calls.length ≤ index →
        (completed.run dao hashKey after).calls[index]? = some call → call.hash = key.keyHash →
          ∀ accepted, call.stage ≠ .finished (.ok accepted) := by
  have hOnly (other : AiVirtualKey) (hOther : other ∈ [sampleKey])
      (_ : other.keyHash = sampleHash) : other.id = 1 := by
    rw [List.mem_singleton.mp hOther]
    rfl
  constructor
  · intro h
    let reading := sampleNode.run sampleDao (fun _ => sampleHash)
      [.authenticate "sk-a", .proceed 0 100, .proceed 0 100]
    exact h sampleDao (fun _ => sampleHash) (.delete 1) sampleKey reading _ []
      [.proceed 0 100, .authenticate "sk-a", .proceed 1 100, .proceed 1 100]
      ⟨rfl, trivial, hOnly, rfl, rfl⟩ ⟨id, id, id, id, id, trivial⟩ 1 _ (Nat.le_refl 1) rfl rfl
      sampleKey rfl
  · intro h
    let cached : Node := { sampleNode with cache := AList.insert sampleHash (some sampleKey) ∅ }
    exact h sampleDao (fun _ => sampleHash) (.update 1 (some false) none) sampleKey cached _
      [.authenticate "sk-a", .proceed 0 100, .proceed 0 100]
      rfl rfl hOnly rfl rfl ⟨id, id, id, trivial⟩ 0 _ (Nat.le_refl 0) rfl rfl sampleKey rfl

end KongRust.Ai.Auth

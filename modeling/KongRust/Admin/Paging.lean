import KongRust.Admin.Tables
import KongRust.Foundation.Base64
import KongRust.Foundation.Paging
import KongRust.Foundation.Text

/-!
# Pages of the DAO

`page` and `select_by_foreign_key` of `PgDao`, with the tokens that say where the next page begins.
The rows of a table are read as they are stored.
-/

namespace KongRust.Admin

open Storage (KongError)

/-- PostgreSQL compares identifiers as it does their bytes. -/
instance : LinearOrder Uuid where
  le_refl := fun a => Nat.le_refl a.toNat
  le_trans := fun _ _ _ => Nat.le_trans
  lt_iff_le_not_ge := fun _ _ => Nat.lt_iff_le_and_not_ge
  le_antisymm := fun _ _ h h' => BitVec.eq_of_toNat_eq (Nat.le_antisymm h h')
  le_total := fun a b => Nat.le_total a.toNat b.toNat
  toDecidableLE := inferInstance

inductive TagFilterMode where
  | and
  | or
  deriving DecidableEq

structure PageParams where
  size : Nat
  offset : Option String
  tags : Option (List String)
  tagsMode : TagFilterMode
  filters : List (String × String)

def PageParams.default : PageParams := ⟨100, none, none, .and, []⟩

/-- What the offset tokens use of other crates; errors are their texts. -/
structure OffsetLibrary where
  /-- The text of a `DecodeError` of `base64`. -/
  base64Error : String → String
  /-- The text of a `FromUtf8Error`. -/
  utf8Error : List UInt8 → String
  /-- `serde_json::from_str` of a `Vec<String>`. -/
  vecFromStr : String → Except String (List String)
  /-- `Uuid::parse_str`. -/
  parseStr : String → Except String Uuid

/-- The decoders read what the encoders write. -/
structure OffsetLibrary.Lawful (library : OffsetLibrary) : Prop where
  vec : ∀ text : String, (∀ c ∈ text.toList, c.isAlphanum ∨ c = '-') →
    library.vecFromStr ("[\x22" ++ text ++ "\x22]") = .ok [text]
  uuid : ∀ id, library.parseStr (Uuid.text id) = .ok id

variable (id : Uuid)

def encodeOffset (id : Uuid) : String :=
  Base64.encode (Text.asBytes ("[\x22" ++ Uuid.text id ++ "\x22]"))

def decodeOffset (library : OffsetLibrary) (token : String) : Except KongError Uuid := do
  let bytes ← match Base64.decode token with
    | some bytes => .ok bytes
    | none => .error (.validationError ("无效的 offset 令牌: " ++ library.base64Error token))
  let jsonStr ← match Text.fromUtf8 bytes with
    | some text => .ok text
    | none => .error (.validationError ("无效的 offset 编码: " ++ library.utf8Error bytes))
  let arr ← (library.vecFromStr jsonStr).mapError fun e =>
    .validationError ("无效的 offset JSON: " ++ e)
  match arr.head? with
  | none => .error (.validationError "offset 数组为空")
  | some uuidStr => (library.parseStr uuidStr).mapError fun e =>
      .validationError ("无效的 offset UUID: " ++ e)

/-- The column `tags`. -/
def Row.tags (row : Row) : Option (List String) :=
  ((row.fields.get "tags").bind Json.asArray).map fun tags => tags.filterMap Json.asStr

/-- The column of an entity type that `T::endpoint_key()` names. -/
def EntityType.endpointKey : EntityType → Option String
  | .services => some "name"
  | .routes => some "name"
  | .consumers => some "username"
  | .plugins => some "instance_name"
  | .upstreams => some "name"
  | .targets => some "target"
  | .certificates => none
  | .snis => some "name"
  | .caCertificates => none
  | .vaults => some "prefix"
  | .keySets => some "name"
  | .keys => some "name"
  | .aiProviders => some "name"
  | .aiModels => none
  | .aiVirtualKeys => some "name"

def Row.column (type : EntityType) (row : Row) (field : String) : Option String :=
  if type.endpointKey = some field then row.endpointKey
  else (row.fields.get field).bind Json.asStr

/-- `@>` and `&&` on arrays of texts; a column that is null matches nothing. -/
def TagFilterMode.matches (mode : TagFilterMode) (tags : List String) (row : Row) : Bool :=
  match row.tags, mode with
  | none, _ => false
  | some column, .and => tags.all fun tag => tag ∈ column
  | some column, .or => tags.any fun tag => tag ∈ column

def ALLOWED_FILTER_COLUMNS : List String := ["custom_id", "username", "name", "host", "key_hash"]

/-- The `WHERE` clause of `page`, without its offset. -/
def PageParams.selects (params : PageParams) (type : EntityType) (row : Row) : Bool :=
  (match params.tags with
    | some tags => tags.isEmpty || params.tagsMode.matches tags row
    | none => true) &&
  (params.filters.filter fun filter => filter.1 ∈ ALLOWED_FILTER_COLUMNS).all fun filter =>
    row.column type filter.1 == some filter.2

/-- The tables, whose identifiers are their primary keys. -/
structure Tables where
  rows : Store
  primaryKey : ∀ type, Paging.Distinct Row.id (rows type)

structure Page where
  data : List Row
  offset : Option String
  next : Option String

/-- `Page::next` of the DAO. -/
def nextUrl (type : EntityType) (size : Nat) (offset : String) : String :=
  if size ≠ PageParams.default.size then
    "/" ++ type.tableName ++ "?offset=" ++ offset ++ "&size=" ++ toString size
  else "/" ++ type.tableName ++ "?offset=" ++ offset

section Dao

variable (library : OffsetLibrary) (store : Store)

/-- Both queries of the DAO, over the rows that they select. -/
def pageOf (type : EntityType) (rows : List Row) (params : PageParams) : Except KongError Page := do
  let offset ← match params.offset with
    | none => .ok none
    | some token => (decodeOffset library token).map some
  let found := Paging.query Row.id rows params.size offset
  let token := found.offset.map encodeOffset
  return ⟨found.data, token, token.map (nextUrl type params.size)⟩

/-- `PgDao::page`. -/
def page (type : EntityType) (params : PageParams) : Except KongError Page :=
  pageOf library type ((store type).filter (params.selects type)) params

/-- `PgDao::select_by_foreign_key`, which reads the size and the offset only. -/
def selectPageByForeignKey (type owner : EntityType) (id : Uuid) (params : PageParams) :
    Except KongError Page :=
  pageOf library type (selectByForeignKey store type owner id) params

end Dao

/-! ## Tokens -/

def uuidSymbols : List Char :=
  ['0', '1', '2', '3', '4', '5', '6', '7', '8', '9', 'a', 'b', 'c', 'd', 'e', 'f', '-']

theorem digitChar_mem {v : Nat} (h : v < 16) :
    Nat.digitChar v ∈ uuidSymbols ∧ Nat.digitChar v ≠ '-' := by
  have hAll : ∀ v < 16, Nat.digitChar v ∈ uuidSymbols ∧ Nat.digitChar v ≠ '-' := by decide
  exact hAll v h

theorem intercalate_five (sep a b c d e : String) : sep.intercalate [a, b, c, d, e] =
      a ++ sep ++ b ++ sep ++ c ++ sep ++ d ++ sep ++ e := rfl

theorem Uuid.mem_text {id : Uuid} {c : Char} (h : c ∈ (Uuid.text id).toList) :
    c ∈ uuidSymbols := by
  have hDigits : ∀ d ∈ (List.range 32).map (fun i => Nat.digitChar (id.toNat / 16 ^ (31 - i) % 16)),
      d ∈ uuidSymbols := by
    intro d hD
    obtain ⟨i, -, rfl⟩ := List.mem_map.mp hD
    exact (digitChar_mem (Nat.mod_lt _ (by decide))).1
  unfold Uuid.text at h
  dsimp only at h
  generalize (List.range 32).map (fun i => Nat.digitChar (id.toNat / 16 ^ (31 - i) % 16)) =
    digits at h hDigits
  have hGroup (first count : Nat) (hC : c ∈ (digits.drop first).take count) : c ∈ uuidSymbols :=
    hDigits c (List.mem_of_mem_drop (List.mem_of_mem_take hC))
  have hHyphen (hC : c ∈ "-".toList) : c ∈ uuidSymbols := by
    rw [List.mem_singleton.mp hC]
    decide
  rw [intercalate_five] at h
  simp only [String.toList_append, String.toList_ofList, List.mem_append, or_assoc] at h
  rcases h with h | h | h | h | h | h | h | h | h
  · exact hGroup _ _ h
  · exact hHyphen h
  · exact hGroup _ _ h
  · exact hHyphen h
  · exact hGroup _ _ h
  · exact hHyphen h
  · exact hGroup _ _ h
  · exact hHyphen h
  · exact hGroup _ _ h

theorem asBytes_offset {id : Uuid} :
    ∀ b ∈ Text.asBytes ("[\x22" ++ Uuid.text id ++ "\x22]"), b.toNat < 128 ∧ b.toNat % 64 < 62 := by
  intro b hB
  obtain ⟨c, hC, hB⟩ := List.mem_flatMap.mp hB
  let plain : Char → Bool := fun c =>
    (String.utf8EncodeChar c).all fun b => decide (b.toNat < 128 ∧ b.toNat % 64 < 62)
  have hSymbols : uuidSymbols.all plain := by decide
  have hOpen : "[\x22".toList.all plain := by decide
  have hClose : "\x22]".toList.all plain := by decide
  have hPlain : plain c := by
    simp only [String.toList_append, List.mem_append] at hC
    rcases hC with (hC | hC) | hC
    · exact List.all_eq_true.mp hOpen c hC
    · exact List.all_eq_true.mp hSymbols c (Uuid.mem_text hC)
    · exact List.all_eq_true.mp hClose c hC
  exact of_decide_eq_true (List.all_eq_true.mp hPlain b hB)

theorem encodeOffset_alphanum : ∀ c ∈ (encodeOffset id).toList, c.isAlphanum :=
  Base64.encode_alphanum asBytes_offset

theorem decodeOffset_encodeOffset {library : OffsetLibrary} (hLibrary : library.Lawful)
    (id : Uuid) : decodeOffset library (encodeOffset id) = .ok id := by
  have hText : ∀ c ∈ (Uuid.text id).toList, c.isAlphanum ∨ c = '-' := by
    intro c hC
    have hAll : uuidSymbols.all fun x => decide (x.isAlphanum ∨ x = '-') := by decide
    exact of_decide_eq_true (List.all_eq_true.mp hAll c (Uuid.mem_text hC))
  unfold decodeOffset encodeOffset
  rw [Base64.decode_encode]
  simp only [Except.mapError, bind, Except.bind, Text.fromUtf8_asBytes, hLibrary.vec _ hText,
    List.head?_cons, hLibrary.uuid]

/-! ## What a page has -/

section Pages

variable {library : OffsetLibrary} {type : EntityType} {rows : List Row} {params : PageParams}

/-- A page of the DAO is that of the query, with the token and the link of the next one. -/
def Page.ofQuery (type : EntityType) (size : Nat) (found : Paging.Page Row Uuid) : Page where
  data := found.data
  offset := found.offset.map encodeOffset
  next := (found.offset.map encodeOffset).map (nextUrl type size)

theorem pageOf_first (h : params.offset = none) : pageOf library type rows params =
      .ok (.ofQuery type params.size (Paging.query Row.id rows params.size none)) := by
  unfold pageOf
  rw [h]
  rfl

theorem pageOf_token (hLibrary : library.Lawful) {id : Uuid}
    (h : params.offset = some (encodeOffset id)) :
    pageOf library type rows params =
      .ok (.ofQuery type params.size (Paging.query Row.id rows params.size (some id))) := by
  unfold pageOf
  rw [h]
  simp only [bind, Except.bind, decodeOffset_encodeOffset hLibrary, Except.map]
  rfl

end Pages

/-! ## A library for samples -/

def hexValue (c : Char) : Nat := if c.isDigit then c.toNat - 48 else c.toNat - 87

/-- It reads the arrays of one plain text, and identifiers with or without hyphens. -/
def plainOffsets : OffsetLibrary where
  base64Error _ := "Invalid input length: 1"
  utf8Error _ := "invalid utf-8 sequence of 1 bytes from index 0"
  vecFromStr text := .ok [String.ofList (((text.toList.drop 2).reverse.drop 2).reverse)]
  parseStr text := .ok (BitVec.ofNat 128 ((text.toList.filter (· ≠ '-')).foldl
    (fun n c => n * 16 + hexValue c) 0))

theorem hexValue_digitChar {v : Nat} (h : v < 16) : hexValue (Nat.digitChar v) = v := by
  have hAll : ∀ v < 16, hexValue (Nat.digitChar v) = v := by decide
  exact hAll v h

theorem foldl_digits (k n : Nat) :
    ((List.range k).map fun i => Nat.digitChar (n / 16 ^ (k - 1 - i) % 16)).foldl
      (fun n c => n * 16 + hexValue c) 0 = n % 16 ^ k := by
  induction k generalizing n with
  | zero => simp [Nat.mod_one]
  | succ k ih =>
    have hFront : ((List.range k).map fun i => Nat.digitChar (n / 16 ^ (k + 1 - 1 - i) % 16)) =
        (List.range k).map fun i => Nat.digitChar (n / 16 / 16 ^ (k - 1 - i) % 16) := by
      apply List.map_congr_left
      intro i hI
      have hLt := List.mem_range.mp hI
      have hPow : k + 1 - 1 - i = (k - 1 - i) + 1 := by omega
      rw [hPow, Nat.pow_succ, Nat.mul_comm, Nat.div_div_eq_div_mul]
    rw [List.range_succ, List.map_append, List.foldl_append, hFront, ih (n / 16)]
    simp only [List.map_cons, List.map_nil, List.foldl_cons, List.foldl_nil]
    have hLast : n / 16 ^ (k + 1 - 1 - k) % 16 = n % 16 := by
      rw [Nat.add_sub_cancel, Nat.sub_self, Nat.pow_zero, Nat.div_one]
    rw [hLast, hexValue_digitChar (Nat.mod_lt _ (by decide)), Nat.pow_succ, Nat.mul_comm (16 ^ k),
      Nat.mod_mul]
    omega

theorem Uuid.filter_text : (Uuid.text id).toList.filter (· ≠ '-') =
    (List.range 32).map fun i => Nat.digitChar (id.toNat / 16 ^ (31 - i) % 16) := by
  have hDigits : ∀ d ∈ (List.range 32).map (fun i => Nat.digitChar (id.toNat / 16 ^ (31 - i) % 16)),
      d ≠ '-' := by
    intro d hD
    obtain ⟨i, -, rfl⟩ := List.mem_map.mp hD
    exact (digitChar_mem (Nat.mod_lt _ (by decide))).2
  have hLength : ((List.range 32).map fun i =>
      Nat.digitChar (id.toNat / 16 ^ (31 - i) % 16)).length = 32 := by simp
  unfold Uuid.text
  dsimp only
  generalize (List.range 32).map (fun i => Nat.digitChar (id.toNat / 16 ^ (31 - i) % 16)) =
    digits at hDigits hLength ⊢
  have hGroup (first count : Nat) : ((digits.drop first).take count).filter (· ≠ '-') =
      (digits.drop first).take count := by
    rw [List.filter_eq_self]
    intro d hD
    exact decide_eq_true (hDigits d (List.mem_of_mem_drop (List.mem_of_mem_take hD)))
  have hHyphen : "-".toList.filter (· ≠ '-') = [] := by decide
  have hSplit (first count next : Nat) (hNext : next = first + count) :
      (digits.drop first).take count ++ digits.drop next = digits.drop first := by
    rw [hNext, ← List.drop_drop]
    exact List.take_append_drop count _
  have hEnd : (digits.drop 20).take 12 = digits.drop 20 :=
    List.take_of_length_le (by rw [List.length_drop]; omega)
  rw [intercalate_five]
  simp only [String.toList_append, String.toList_ofList, List.filter_append, hGroup, hHyphen,
    List.nil_append, List.append_assoc]
  rw [hEnd, hSplit 16 4 20 rfl, hSplit 12 4 16 rfl, hSplit 8 4 12 rfl, hSplit 0 8 8 rfl,
    List.drop_zero]

theorem Uuid.ofNat_text :
    BitVec.ofNat 128 (((Uuid.text id).toList.filter (· ≠ '-')).foldl
      (fun n c => n * 16 + hexValue c) 0) = id := by
  have hFold := foldl_digits 32 id.toNat
  have hBound : id.toNat % 16 ^ 32 = id.toNat := Nat.mod_eq_of_lt id.isLt
  rw [Uuid.filter_text, hFold, hBound]
  simp

theorem plainOffsets_lawful : plainOffsets.Lawful where
  vec := by
    intro text _
    simp [plainOffsets]
  uuid id := congrArg Except.ok (Uuid.ofNat_text id)

end KongRust.Admin

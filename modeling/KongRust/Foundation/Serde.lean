import KongRust.Foundation.Json
import KongRust.Foundation.Machine
import Mathlib.Data.List.Nodup

/-!
# Values read and written by serde

A type that derives `Serialize` and `Deserialize` is known by what `to_value` makes of the value
that `from_value` reads. A struct is read from an object, or from an array in the order of its
fields; the fields that are missing may have defaults, and unknown ones are left away.
-/

namespace KongRust

namespace Json

def isNull : Json → Bool
  | .null => true
  | _ => false

def isObject : Json → Bool
  | .object _ => true
  | _ => false

def isString : Json → Bool
  | .string _ => true
  | _ => false

def asBool : Json → Option Bool
  | .bool b => some b
  | _ => none

def asObject : Json → Option (List (String × Json))
  | .object fields => some fields
  | _ => none

/-- `Value::as_i64`. -/
def asI64 : Json → Option Int
  | .number (.posInt n) => if n.toNat < 2 ^ 63 then some n.toNat else none
  | .number (.negInt n) => some n.toInt
  | _ => none

/-- A number that is an integer of 64 bits. -/
def ofInt (n : Int) : Json :=
  if 0 ≤ n then .number (.posInt (UInt64.ofNat n.toNat)) else .number (.negInt (Int64.ofInt n))

/-- A field of an object, or `null`. -/
def field (value : Json) (key : String) : Json := (value.get key).getD .null

def contains (value : Json) (key : String) : Bool := (value.get key).isSome

variable (fields : List (String × Json))

/-- An object of some fields, the last one of every name. -/
def ofFields (fields : List (String × Json)) : Json :=
  .object (fields.foldl (fun fields field => insertField fields field.1 field.2) [])

theorem get_of_field {entity : Json} {key : String} {value : Json} (h : entity.field key = value)
    (hValue : value ≠ .null) : entity.get key = some value := by
  unfold field at h
  cases hGet : entity.get key with
  | none =>
    rw [hGet] at h
    exact absurd h.symm hValue
  | some found =>
    rw [hGet] at h
    rw [← h]
    rfl

theorem find_insertField (key other : String) (value : Json) :
    ((insertField fields key value).find? fun field => field.1 == other).map Prod.snd =
      if other = key then some value
      else (fields.find? fun field => field.1 == other).map Prod.snd := by
  induction fields with
  | nil =>
    by_cases h : other = key
    · simp [insertField, h]
    · have h' : ¬ key = other := fun e => h e.symm
      simp [insertField, h, h']
  | cons head rest ih =>
    unfold insertField
    by_cases h : other = key
    · subst h
      by_cases hLess : other < head.1
      · simp [hLess]
      · by_cases hSame : other = head.1
        · simp [hSame]
        · have hHead : ¬ head.1 = other := fun e => hSame e.symm
          simp only [hLess, hSame, if_false, if_true] at ih ⊢
          simp [hHead, ih]
    · have h' : ¬ key = other := fun e => h e.symm
      by_cases hLess : key < head.1
      · simp [hLess, h, h']
      · by_cases hSame : key = head.1
        · have hHead : ¬ head.1 = other := fun e => h' (hSame.trans e)
          simp [hSame, hHead]
          intro hOther
          exact absurd hOther.symm hHead
        · simp only [hLess, hSame, h, if_false] at ih ⊢
          by_cases hHead : head.1 = other
          · simp [hHead]
          · simp [hHead, ih]

@[simp] theorem get_setField_object (key other : String) (value : Json) :
    ((Json.object fields).setField key value).get other =
      if other = key then some value else (Json.object fields).get other :=
  find_insertField fields key other value

theorem get_setField {object : Json} (h : object.isObject) (key other : String) (value : Json) :
    (object.setField key value).get other = if other = key then some value else object.get other := by
  cases object with
  | object fields => exact get_setField_object fields key other value
  | _ => cases h

theorem get_setField_ne {key other : String} (h : other ≠ key) (v field : Json) :
    (v.setField key field).get other = v.get other := by
  cases v with
  | object fields => rw [get_setField_object, if_neg h]
  | _ => rfl

theorem isObject_setField (object : Json) (key : String) (value : Json) :
    (object.setField key value).isObject = object.isObject := by
  cases object <;> rfl

theorem get_foldl_insertField (added fields : List (String × Json)) (key : String)
    (hNodup : (added.map Prod.fst).Nodup) :
    (Json.object (added.foldl (fun fields field => insertField fields field.1 field.2) fields)).get
      key = ((added.find? fun field => field.1 == key).map Prod.snd).or
        ((Json.object fields).get key) := by
  induction added generalizing fields with
  | nil => rfl
  | cons head rest ih =>
    rw [List.map_cons, List.nodup_cons] at hNodup
    rw [List.foldl_cons, ih _ hNodup.2]
    have hHead : (Json.object (insertField fields head.1 head.2)).get key =
        if key = head.1 then some head.2 else (Json.object fields).get key :=
      find_insertField fields head.1 key head.2
    rw [hHead]
    by_cases hKey : head.1 = key
    · have hRest : rest.find? (fun field => field.1 == key) = none := by
        rw [List.find?_eq_none]
        intro field hMem hEq
        exact hNodup.1 (List.mem_map.mpr ⟨field, hMem, (beq_iff_eq.mp hEq).trans hKey.symm⟩)
      simp [hRest, hKey]
    · have hKey' : ¬ key = head.1 := fun e => hKey e.symm
      simp [hKey, hKey']

theorem get_ofFields {fields : List (String × Json)} (hNodup : (fields.map Prod.fst).Nodup)
    (key : String) :
    (ofFields fields).get key = (fields.find? fun field => field.1 == key).map Prod.snd := by
  have h := get_foldl_insertField fields [] key hNodup
  have hNone : (Json.object []).get key = none := rfl
  rw [hNone, Option.or_none] at h
  exact h

theorem asI64_ofInt {n : Int} (hLow : -(2 ^ 63) ≤ n) (hHigh : n < 2 ^ 63) :
    (ofInt n).asI64 = some n := by
  unfold ofInt
  by_cases h : 0 ≤ n
  · rw [if_pos h]
    have hNat : (UInt64.ofNat n.toNat).toNat = n.toNat := by
      rw [UInt64.toNat_ofNat']
      omega
    have hLess : n.toNat < 2 ^ 63 := by omega
    change (if (UInt64.ofNat n.toNat).toNat < 2 ^ 63 then
      some ((UInt64.ofNat n.toNat).toNat : Int) else none) = some n
    rw [hNat, if_pos hLess]
    congr 1
    omega
  · rw [if_neg h]
    change some (Int64.ofInt n).toInt = some n
    have hSize : (Int64.size : Int) = 2 ^ 64 := rfl
    rw [Int64.toInt_ofInt, Int.bmod_eq_of_le (by omega) (by omega)]

end Json

namespace Serde

/-- `from_value` and then `to_value`; none for a value that is refused. -/
abbrev Codec := Json → Option Json

def value : Codec := some

def text : Codec
  | .string s => some (.string s)
  | _ => none

def bool : Codec
  | .bool b => some (.bool b)
  | _ => none

/-- A float, also of an integer. -/
def f64 : Codec
  | .number (.posInt n) => some (.number (.float n.toFloat.toBits))
  | .number (.negInt n) => some (.number (.float n.toFloat.toBits))
  | .number (.float bits) => some (.number (.float bits))
  | _ => none

/-- The integers from `low` to `high`. -/
def int (low high : Int) : Codec := fun given =>
  given.asI64.bind fun n => if low ≤ n ∧ n ≤ high then some (.ofInt n) else none

def i64 : Codec := int (-(2 ^ 63)) (2 ^ 63 - 1)

def i32 : Codec := int (-(2 ^ 31)) (2 ^ 31 - 1)

def u16 : Codec := int 0 (2 ^ 16 - 1)

def u64 : Codec := fun given => given.asU64.map fun n => .number (.posInt n)

variable (parse : String → Option Uuid)

def uuid (parse : String → Option Uuid) : Codec
  | .string s => (parse s).map fun id => .string id.text
  | _ => none

/-- An enum without data: the name of a variant, or an object that gives it `null`. -/
def oneOf (names : List String) : Codec
  | .string s => if s ∈ names then some (.string s) else none
  | .object [(s, .null)] => if s ∈ names then some (.string s) else none
  | _ => none

def option (codec : Codec) : Codec
  | .null => some .null
  | given => codec given

def vec (codec : Codec) : Codec
  | .array items => (items.mapM codec).map .array
  | _ => none

/-- `HashMap<String, _>`. -/
def map (codec : Codec) : Codec
  | .object fields =>
    (fields.mapM fun field => (codec field.2).map fun value => (field.1, value)).map .ofFields
  | _ => none

/-! ## Structs -/

structure Field where
  name : String
  codec : Codec
  /-- What is read where an object has no such field; none if it is required. -/
  missing : Option Json
  /-- What is read where an array is too short. -/
  absent : Option Json
  /-- `skip_serializing_if = "Option::is_none"`. -/
  skipNone : Bool

variable (name : String)

/-- A field with a default. -/
def Field.default (name : String) (codec : Codec) (missing : Json) : Field :=
  ⟨name, codec, some missing, some missing, false⟩

/-- A field of an `Option` type whose default is `None`. -/
def Field.opt (name : String) (codec : Codec) : Field := .default name (option codec) .null

/-- The same, not written where it is `None`. -/
def Field.skip (name : String) (codec : Codec) : Field := { Field.opt name codec with skipNone := true }

/-- A field of an `Option` type without a default, which an object need not have. -/
def Field.plain (name : String) (codec : Codec) : Field :=
  { Field.opt name codec with absent := none }

def Field.required (name : String) (codec : Codec) : Field := ⟨name, codec, none, none, false⟩

def Field.read (field : Field) (given : Option Json) : Option Json :=
  match given with
  | some given => field.codec given
  | none => field.missing

abbrev Struct := List Field

def readObject (given : Json) (fields : List Field) : Option (List (Field × Json)) :=
  fields.mapM fun field => (field.read (given.get field.name)).map fun read => (field, read)

/-- The elements of an array are the fields in their order; one that is too long is refused. -/
def readArray : List Json → List Field → Option (List (Field × Json))
  | [], [] => some []
  | _ :: _, [] => none
  | item :: items, field :: fields => do
    let read ← field.codec item
    let rest ← readArray items fields
    return (field, read) :: rest
  | [], field :: fields => do
    let read ← field.absent
    let rest ← readArray [] fields
    return (field, read) :: rest

def Struct.read (struct : Struct) : Json → Option (List (Field × Json))
  | .object given => readObject (.object given) struct
  | .array items => readArray items struct
  | _ => none

def write (read : List (Field × Json)) : Json :=
  .ofFields ((read.filter fun entry => !(entry.1.skipNone && entry.2.isNull)).map fun entry =>
    (entry.1.name, entry.2))

def Struct.codec (struct : Struct) : Codec := fun given => (struct.read given).map write

/-- `ForeignKey`. -/
def foreignKey (parse : String → Option Uuid) : Codec :=
  Struct.codec [.required "id" (uuid parse)]

/-! ## What is written is what was read -/

/-- A value of a field is one that its codec has made, or a default. -/
def Field.Holds (field : Field) (value : Json) : Prop :=
  (∃ given, field.codec given = some value) ∨ field.missing = some value ∨
    field.absent = some value

variable {given : Json} {fields : List Field}

theorem readObject_fields {read : List (Field × Json)} (h : readObject given fields = some read) :
    read.map Prod.fst = fields := by
  unfold readObject at h
  induction fields generalizing read with
  | nil =>
    cases h
    rfl
  | cons field fields ih =>
    rw [List.mapM_cons] at h
    simp only [Option.bind_eq_bind, Option.bind_eq_some_iff, Option.map_eq_some_iff] at h
    obtain ⟨_, ⟨value, -, rfl⟩, rest, hRest, hRead⟩ := h
    cases hRead
    rw [List.map_cons, ih hRest]

variable {entry : Field × Json}

theorem readObject_mem {read : List (Field × Json)} (h : readObject given fields = some read)
    (hMem : entry ∈ read) : entry.1.read (given.get entry.1.name) = some entry.2 := by
  unfold readObject at h
  induction fields generalizing read with
  | nil =>
    cases h
    cases hMem
  | cons field fields ih =>
    rw [List.mapM_cons] at h
    simp only [Option.bind_eq_bind, Option.bind_eq_some_iff, Option.map_eq_some_iff] at h
    obtain ⟨_, ⟨value, hValue, rfl⟩, rest, hRest, hRead⟩ := h
    cases hRead
    rcases List.mem_cons.mp hMem with rfl | hMem
    · exact hValue
    · exact ih hRest hMem

theorem readArray_fields {items : List Json} {read : List (Field × Json)}
    (h : readArray items fields = some read) : read.map Prod.fst = fields := by
  induction fields generalizing items read with
  | nil =>
    cases items with
    | nil =>
      cases h
      rfl
    | cons => cases h
  | cons field fields ih =>
    cases items with
    | nil | cons item items =>
      unfold readArray at h
      simp only [Option.bind_eq_bind, Option.bind_eq_some_iff] at h
      obtain ⟨_, -, rest, hRest, hRead⟩ := h
      cases hRead
      rw [List.map_cons, ih hRest]

theorem flatMap_mapM {β : Type} {codec : Codec} {f g : Json → List β} {items read : List Json}
    (h : items.mapM codec = some read) (hEach : ∀ item value, codec item = some value →
      f value = g item) : read.flatMap f = items.flatMap g := by
  induction items generalizing read with
  | nil =>
    cases h
    rfl
  | cons item items ih =>
    rw [List.mapM_cons] at h
    simp only [Option.bind_eq_bind, Option.bind_eq_some_iff] at h
    obtain ⟨value, hValue, rest, hRest, hRead⟩ := h
    cases hRead
    rw [List.flatMap_cons, List.flatMap_cons, hEach item value hValue, ih hRest]

theorem Struct.read_holds {struct : Struct} {read : List (Field × Json)}
    (h : struct.read given = some read) (hMem : entry ∈ read) : entry.1.Holds entry.2 := by
  cases given with
  | object fields =>
    have hRead := readObject_mem h hMem
    unfold Field.read at hRead
    cases hGet : (Json.object fields).get entry.1.name with
    | none =>
      rw [hGet] at hRead
      exact .inr (.inl hRead)
    | some value =>
      rw [hGet] at hRead
      exact .inl ⟨value, hRead⟩
  | array items =>
    change readArray items struct = some read at h
    induction struct generalizing items read with
    | nil =>
      cases items with
      | nil =>
        cases h
        cases hMem
      | cons => cases h
    | cons field fields ih =>
      cases items with
      | nil =>
        unfold readArray at h
        simp only [Option.bind_eq_bind, Option.bind_eq_some_iff] at h
        obtain ⟨value, hValue, rest, hRest, hRead⟩ := h
        cases hRead
        rcases List.mem_cons.mp hMem with rfl | hMem
        · exact .inr (.inr hValue)
        · exact ih hMem _ hRest
      | cons item items =>
        unfold readArray at h
        simp only [Option.bind_eq_bind, Option.bind_eq_some_iff] at h
        obtain ⟨value, hValue, rest, hRest, hRead⟩ := h
        cases hRead
        rcases List.mem_cons.mp hMem with rfl | hMem
        · exact .inl ⟨item, hValue⟩
        · exact ih hMem _ hRest
  | _ => cases h

/-- The value of a field, which an array has at the position of the field. -/
def placed (name : String) (index : Nat) : Json → Option Json
  | .object fields => (Json.object fields).get name
  | .array items => items[index]?
  | _ => none

theorem readArray_placed {items : List Json} {read : List (Field × Json)} {i : Nat}
    (h : readArray items fields = some read) (hEntry : read[i]? = some entry) :
    items[i]?.elim entry.1.absent entry.1.codec = some entry.2 := by
  induction fields generalizing items read i with
  | nil =>
    cases items with
    | nil =>
      cases h
      cases hEntry
    | cons => cases h
  | cons field fields ih =>
    cases items with
    | nil =>
      unfold readArray at h
      simp only [Option.bind_eq_bind, Option.bind_eq_some_iff] at h
      obtain ⟨value, hValue, rest, hRest, hRead⟩ := h
      cases hRead
      cases i with
      | zero =>
        cases hEntry
        exact hValue
      | succ i =>
        have hNext := ih (i := i) hRest hEntry
        exact hNext
    | cons item items =>
      unfold readArray at h
      simp only [Option.bind_eq_bind, Option.bind_eq_some_iff] at h
      obtain ⟨value, hValue, rest, hRest, hRead⟩ := h
      cases hRead
      cases i with
      | zero =>
        cases hEntry
        exact hValue
      | succ i =>
        have hNext := ih (i := i) hRest hEntry
        exact hNext

theorem Struct.read_fields {struct : Struct} {read : List (Field × Json)}
    (h : struct.read given = some read) : read.map Prod.fst = struct := by
  cases given with
  | object => exact readObject_fields h
  | array => exact readArray_fields h
  | _ => cases h

theorem eq_null_of_isNull {value : Json} (h : value.isNull) : value = .null := by
  cases value with
  | null => rfl
  | _ => cases h

/-- A field is written with the value that was read, and so is one that is left away, since a
missing field is `null`. -/
theorem field_write {read : List (Field × Json)}
    (hNodup : (read.map fun entry => entry.1.name).Nodup) (hMem : entry ∈ read) :
    (write read).field entry.1.name = entry.2 := by
  have hNames : (((read.filter fun entry => !(entry.1.skipNone && entry.2.isNull)).map
      fun entry => (entry.1.name, entry.2)).map Prod.fst).Nodup := by
    rw [List.map_map]
    exact (List.Sublist.map _ List.filter_sublist).nodup hNodup
  unfold Json.field write
  rw [Json.get_ofFields hNames, List.find?_map, List.find?_filter, Option.map_map]
  have hOnly : ∀ other ∈ read, other.1.name = entry.1.name → other = entry := by
    intro other hOther hName
    exact List.inj_on_of_nodup_map hNodup hOther hMem hName
  by_cases hSkip : entry.1.skipNone && entry.2.isNull
  · have hNone : read.find? (fun other => decide ((!(other.1.skipNone && other.2.isNull)) = true ∧
        ((fun field : String × Json => field.1 == entry.1.name) ∘
          fun entry : Field × Json => (entry.1.name, entry.2)) other = true)) = none := by
      rw [List.find?_eq_none]
      intro other hOther hFound
      simp only [Function.comp, decide_eq_true_eq, beq_iff_eq] at hFound
      rw [hOnly other hOther hFound.2, hSkip] at hFound
      cases hFound.1
    rw [hNone]
    exact (eq_null_of_isNull (Bool.and_eq_true_iff.mp hSkip).2).symm
  · have hSome : read.find? (fun other => decide ((!(other.1.skipNone && other.2.isNull)) = true ∧
        ((fun field : String × Json => field.1 == entry.1.name) ∘
          fun entry : Field × Json => (entry.1.name, entry.2)) other = true)) = some entry := by
      cases hFind : read.find? (fun other =>
        decide ((!(other.1.skipNone && other.2.isNull)) = true ∧
        ((fun field : String × Json => field.1 == entry.1.name) ∘
          fun entry : Field × Json => (entry.1.name, entry.2)) other = true)) with
      | none =>
        have hNot := List.find?_eq_none.mp hFind entry hMem
        simp [hSkip] at hNot
      | some other =>
        have hProp := List.find?_some hFind
        simp only [Function.comp, decide_eq_true_eq, beq_iff_eq] at hProp
        rw [hOnly other (List.mem_of_find?_eq_some hFind) hProp.2]
    rw [hSome]
    rfl

section Codecs

variable {struct : Struct} (hNodup : (struct.map Field.name).Nodup)

include hNodup

variable {given : Json}

theorem nodup_read {read : List (Field × Json)} (h : struct.read given = some read) :
    (read.map fun entry => entry.1.name).Nodup := by
  have hFields := Struct.read_fields h
  rw [← hFields, List.map_map] at hNodup
  exact hNodup

variable {entity : Json}

section

variable (h : struct.codec given = some entity) {field : Field} (hField : field ∈ struct)
include h hField

theorem Struct.codec_field (hObject : given.isObject) :
    field.read (given.get field.name) = some (entity.field field.name) := by
  obtain ⟨read, hRead, rfl⟩ := Option.map_eq_some_iff.mp h
  have hFields := Struct.read_fields hRead
  rw [← hFields] at hField
  obtain ⟨entry, hMem, rfl⟩ := List.mem_map.mp hField
  rw [field_write (nodup_read hNodup hRead) hMem]
  cases given with
  | object fields => exact readObject_mem hRead hMem
  | _ => cases hObject

omit hField in
/-- What a struct reads at the place of a field, or has instead. -/
theorem Struct.codec_placed {i : Nat} (hPlace : struct[i]? = some field) :
    (∃ value, placed field.name i given = some value ∧
      field.codec value = some (entity.field field.name)) ∨
    placed field.name i given = none ∧ (field.missing = some (entity.field field.name) ∨
      field.absent = some (entity.field field.name)) := by
  obtain ⟨read, hRead, rfl⟩ := Option.map_eq_some_iff.mp h
  rw [← Struct.read_fields hRead, List.getElem?_map, Option.map_eq_some_iff] at hPlace
  obtain ⟨entry, hEntry, rfl⟩ := hPlace
  have hMem := List.mem_of_getElem? hEntry
  rw [field_write (nodup_read hNodup hRead) hMem]
  cases given with
  | object fields =>
    have hValue := readObject_mem hRead hMem
    change (∃ value, (Json.object fields).get entry.1.name = some value ∧ _) ∨
      (Json.object fields).get entry.1.name = none ∧ _
    cases hGet : (Json.object fields).get entry.1.name with
    | none =>
      rw [hGet] at hValue
      exact .inr ⟨rfl, .inl hValue⟩
    | some value =>
      rw [hGet] at hValue
      exact .inl ⟨value, rfl, hValue⟩
  | array items =>
    have hValue := readArray_placed hRead hEntry
    change (∃ value, items[i]? = some value ∧ _) ∨ items[i]? = none ∧ _
    cases hItem : items[i]? with
    | none =>
      rw [hItem] at hValue
      exact .inr ⟨rfl, .inr hValue⟩
    | some item =>
      rw [hItem] at hValue
      exact .inl ⟨item, rfl, hValue⟩
  | _ => cases hRead

theorem Struct.codec_given {value : Json} (hGet : given.get field.name = some value) :
    field.codec value = some (entity.field field.name) := by
  cases given with
  | object fields =>
    have hRead := Struct.codec_field hNodup h hField rfl
    rw [hGet] at hRead
    exact hRead
  | _ => cases hGet

theorem Struct.codec_holds : field.Holds (entity.field field.name) := by
  obtain ⟨read, hRead, rfl⟩ := Option.map_eq_some_iff.mp h
  have hFields := Struct.read_fields hRead
  rw [← hFields] at hField
  obtain ⟨entry, hMem, rfl⟩ := List.mem_map.mp hField
  rw [field_write (nodup_read hNodup hRead) hMem]
  exact Struct.read_holds hRead hMem

end

end Codecs

end Serde

end KongRust

import KongRust.Foundation.Serde

/-!
# The text of JSON values

What a program relies on when it writes a value as text and reads the text again: a text that
is read gives a value with sorted keys and bounded nesting, and such a value is read back from
its own text, up to the bits of its floats. `JsonText` is such a pair of functions; `compact`
is one, without white space, for values whose numbers are integers.
-/

namespace KongRust

namespace Json

/-- A value that a parser with a limit on its nesting can give: keys in order, each once, and
negative integers only where an unsigned one cannot be. -/
def Readable : Nat → Json → Prop
  | _, .null | _, .bool _ | _, .string _ => True
  | _, .number (.negInt n) => n.toInt < 0
  | _, .number _ => True
  | 0, .array _ | 0, .object _ => False
  | depth + 1, .array items => ∀ item ∈ items, Readable depth item
  | depth + 1, .object fields =>
    (fields.map Prod.fst).Pairwise (· < ·) ∧ ∀ field ∈ fields, Readable depth field.2

mutual

/-- A value with the bits of its floats forgotten. -/
def erase : Json → Json
  | .null => .null
  | .bool b => .bool b
  | .number (.float _) => .number (.float 0)
  | .number n => .number n
  | .string s => .string s
  | .array items => .array (eraseItems items)
  | .object fields => .object (eraseFields fields)

def eraseItems : List Json → List Json
  | [] => []
  | item :: items => item.erase :: eraseItems items

def eraseFields : List (String × Json) → List (String × Json)
  | [] => []
  | (key, value) :: fields => (key, value.erase) :: eraseFields fields

end

/-- A value without floats. -/
def Exact : Nat → Json → Prop
  | _, .null | _, .bool _ | _, .string _ => True
  | _, .number (.float _) => False
  | _, .number _ => True
  | 0, .array _ | 0, .object _ => False
  | depth + 1, .array items => ∀ item ∈ items, Exact depth item
  | depth + 1, .object fields => ∀ field ∈ fields, Exact depth field.2

theorem eraseItems_eq_map (items : List Json) : eraseItems items = items.map erase := by
  induction items with
  | nil => rfl
  | cons item items ih => rw [eraseItems, ih, List.map_cons]

theorem eraseFields_eq_map (fields : List (String × Json)) :
    eraseFields fields = fields.map fun field => (field.1, field.2.erase) := by
  induction fields with
  | nil => rfl
  | cons field fields ih => rw [eraseFields, ih, List.map_cons]

mutual

theorem erase_erase : (value : Json) → value.erase.erase = value.erase
  | .null | .bool _ | .string _ => rfl
  | .number (.posInt _) | .number (.negInt _) | .number (.float _) => rfl
  | .array items => by rw [erase, erase, eraseItems_eraseItems items]
  | .object fields => by rw [erase, erase, eraseFields_eraseFields fields]

theorem eraseItems_eraseItems : (items : List Json) →
    eraseItems (eraseItems items) = eraseItems items
  | [] => rfl
  | item :: items => by
    rw [eraseItems, eraseItems, erase_erase item, eraseItems_eraseItems items]

theorem eraseFields_eraseFields : (fields : List (String × Json)) →
    eraseFields (eraseFields fields) = eraseFields fields
  | [] => rfl
  | (key, value) :: fields => by
    rw [eraseFields, eraseFields, erase_erase value, eraseFields_eraseFields fields]

end

section

variable (value : Json)
include value

theorem get_erase (key : String) :
    value.erase.get key = (value.get key).map erase := by
  cases value with
  | object fields =>
    simp only [erase, get, eraseFields_eq_map]
    induction fields with
    | nil => rfl
    | cons field fields ih =>
      by_cases h : field.1 == key
      · simp [h]
      · simpa [h] using ih
  | number n => cases n <;> rfl
  | _ => rfl

theorem asStr_erase : value.erase.asStr = value.asStr := by
  cases value with
  | number n => cases n <;> rfl
  | _ => rfl

theorem asArray_erase : value.erase.asArray = value.asArray.map (List.map erase) := by
  cases value with
  | array items => simp only [erase, asArray, Option.map_some, eraseItems_eq_map]
  | number n => cases n <;> rfl
  | _ => rfl

theorem asU64_erase : value.erase.asU64 = value.asU64 := by
  cases value with
  | number n => cases n <;> rfl
  | _ => rfl

theorem asBool_erase : value.erase.asBool = value.asBool := by
  cases value with
  | number n => cases n <;> rfl
  | _ => rfl

theorem isObject_erase : value.erase.isObject = value.isObject := by
  cases value with
  | number n => cases n <;> rfl
  | _ => rfl

end

theorem get_append (fields more : List (String × Json)) (key : String) :
    (Json.object (fields ++ more)).get key =
      ((Json.object fields).get key).or ((Json.object more).get key) := by
  unfold Json.get
  dsimp only
  rw [List.find?_append]
  cases fields.find? fun field => field.1 == key with
  | none | some field => rfl

variable {v w : Json} {depth : Nat} {fields : List (String × Json)}

theorem flag_of_erase (h : w.erase = v.erase) (key : String) :
    (w.get key).bind asBool = (v.get key).bind asBool := by
  have hBind (value : Json) :
      (value.erase.get key).bind asBool = (value.get key).bind asBool := by
    rw [get_erase]
    cases value.get key with
    | none => rfl
    | some field => exact asBool_erase field
  rw [← hBind w, h, hBind v]

theorem get_of_erase (h : w.erase = v.erase) (key : String) :
    (w.get key).map erase = (v.get key).map erase := by
  rw [← get_erase, h, get_erase]

theorem Exact.erase_eq {depth : Nat} {v : Json} (h : v.Exact depth) : v.erase = v := by
  induction depth generalizing v with
  | zero =>
    cases v with
    | number n => cases n <;> first | rfl | exact h.elim
    | array items | object fields => exact h.elim
    | _ => rfl
  | succ depth ih =>
    cases v with
    | number n => cases n <;> first | rfl | exact h.elim
    | array items =>
      have hItems : items.map erase = items :=
        (List.map_congr_left fun item hItem => ih (h item hItem)).trans (List.map_id items)
      rw [erase, eraseItems_eq_map, hItems]
    | object fields =>
      have hFields : (fields.map fun field => (field.1, field.2.erase)) = fields := by
        refine (List.map_congr_left fun field hField => ?_).trans (List.map_id fields)
        rw [ih (h field hField)]
        rfl
      rw [erase, eraseFields_eq_map, hFields]
    | _ => rfl

theorem exact_of_erase {depth : Nat} {v : Json} (h : v.erase.Exact depth) : v.Exact depth := by
  induction depth generalizing v with
  | zero => cases v with
    | number n => cases n <;> exact h
    | array items | object fields => exact h
    | _ => trivial
  | succ depth ih =>
    cases v with
    | number n => cases n <;> exact h
    | array items =>
      rw [erase, eraseItems_eq_map] at h
      exact fun item hItem => ih (h _ (List.mem_map_of_mem hItem))
    | object fields =>
      rw [erase, eraseFields_eq_map] at h
      exact fun field hField => ih (h _ (List.mem_map_of_mem hField))
    | _ => trivial

theorem Exact.eq_of_erase (h : v.Exact depth)
    (hErase : w.erase = v.erase) : w = v := by
  have hSame : w.erase = v := hErase.trans h.erase_eq
  have hExact : w.Exact depth := exact_of_erase (hSame ▸ h)
  exact hExact.erase_eq.symm.trans hSame

/-! ## Objects built field by field -/

variable {key : String} {value : Json} {field : String × Json}

theorem mem_insertField {fields : List (String × Json)} (h : field ∈ insertField fields key value) :
    field = (key, value) ∨ field ∈ fields := by
  induction fields with
  | nil => exact Or.inl (List.mem_singleton.mp h)
  | cons head rest ih =>
    unfold insertField at h
    split at h
    · exact List.mem_cons.mp h
    · split at h
      · exact (List.mem_cons.mp h).imp_right (List.mem_cons_of_mem head)
      · rcases List.mem_cons.mp h with rfl | hRest
        · exact Or.inr List.mem_cons_self
        · exact (ih hRest).imp_right (List.mem_cons_of_mem head)

theorem pairwise_insertField {fields : List (String × Json)} (key : String) (value : Json)
    (h : (fields.map Prod.fst).Pairwise (· < ·)) :
    ((insertField fields key value).map Prod.fst).Pairwise (· < ·) := by
  induction fields with
  | nil => exact List.pairwise_singleton _ _
  | cons head rest ih =>
    rw [List.map_cons, List.pairwise_cons] at h
    have hHead : ∀ field ∈ rest, head.1 < field.1 := fun field hField =>
      h.1 field.1 (List.mem_map_of_mem hField)
    unfold insertField
    split
    · rename_i hLess
      rw [List.map_cons, List.map_cons, List.pairwise_cons, List.pairwise_cons]
      refine ⟨fun other hOther => ?_, h.1, h.2⟩
      rcases List.mem_cons.mp hOther with rfl | hRest
      · exact hLess
      · exact String.lt_trans hLess (h.1 other hRest)
    · rename_i hNotLess
      split
      · rename_i hSame
        rw [List.map_cons, List.pairwise_cons]
        exact ⟨fun other hOther => hSame ▸ h.1 other hOther, h.2⟩
      · rename_i hNe
        rw [List.map_cons, List.pairwise_cons]
        refine ⟨fun other hOther => ?_, ih h.2⟩
        obtain ⟨field, hField, rfl⟩ := List.mem_map.mp hOther
        rcases mem_insertField hField with rfl | hRest
        · rcases Decidable.em (head.1 < key) with hLess | hNotGreater
          · exact hLess
          · exact absurd (String.le_antisymm (String.not_lt.mp hNotGreater)
              (String.not_lt.mp hNotLess)) hNe
        · exact hHead field hRest

theorem Readable.setField {depth : Nat} {v field : Json} (h : v.Readable (depth + 1))
    (hField : field.Readable depth) (key : String) :
    (v.setField key field).Readable (depth + 1) := by
  cases v with
  | object fields =>
    refine ⟨pairwise_insertField key field h.1, fun entry hEntry => ?_⟩
    rcases mem_insertField hEntry with rfl | hMem
    · exact hField
    · exact h.2 entry hMem
  | _ => exact h

variable {added : List (String × Json)}

theorem readable_foldl_insertField {depth : Nat} {fields : List (String × Json)}
    (hAdded : ∀ field ∈ added, field.2.Readable depth)
    (h : (Json.object fields).Readable (depth + 1)) :
    (Json.object (added.foldl (fun fields field => insertField fields field.1 field.2)
      fields)).Readable (depth + 1) := by
  induction added generalizing fields with
  | nil => exact h
  | cons field added ih =>
    exact ih (fun other hOther => hAdded other (List.mem_cons_of_mem field hOther))
      (h.setField (hAdded field List.mem_cons_self) field.1)

theorem readable_ofFields
    (h : ∀ field ∈ fields, field.2.Readable depth) : (ofFields fields).Readable (depth + 1) :=
  readable_foldl_insertField h ⟨List.Pairwise.nil, fun _ hField => absurd hField List.not_mem_nil⟩

theorem exact_foldl_insertField {depth : Nat} {fields : List (String × Json)}
    (hAdded : ∀ field ∈ added, field.2.Exact depth) (h : ∀ field ∈ fields, field.2.Exact depth) :
    ∀ field ∈ added.foldl (fun fields field => insertField fields field.1 field.2) fields,
      field.2.Exact depth := by
  induction added generalizing fields with
  | nil => exact h
  | cons field added ih =>
    refine ih (fun other hOther => hAdded other (List.mem_cons_of_mem field hOther))
      fun entry hEntry => ?_
    rcases mem_insertField hEntry with rfl | hMem
    · exact hAdded field List.mem_cons_self
    · exact h entry hMem

theorem exact_ofFields
    (h : ∀ field ∈ fields, field.2.Exact depth) : (ofFields fields).Exact (depth + 1) :=
  exact_foldl_insertField h fun _ hField => absurd hField List.not_mem_nil

theorem insertField_append {fields : List (String × Json)} (h : ∀ field ∈ fields, field.1 < key) :
    insertField fields key value = fields ++ [(key, value)] := by
  induction fields with
  | nil => rfl
  | cons head rest ih =>
    have hHead := h head List.mem_cons_self
    have hNotLess : ¬ key < head.1 := fun hLess => String.lt_irrefl _ (String.lt_trans hHead hLess)
    have hNe : ¬ key = head.1 := fun hEq => String.lt_irrefl _ (hEq ▸ hHead)
    unfold insertField
    rw [if_neg hNotLess, if_neg hNe, ih fun field hField => h field (List.mem_cons_of_mem head hField)]
    rfl

theorem foldl_insertField_sorted {fields : List (String × Json)}
    (h : ((fields ++ added).map Prod.fst).Pairwise (· < ·)) :
    added.foldl (fun fields field => insertField fields field.1 field.2) fields =
      fields ++ added := by
  induction added generalizing fields with
  | nil => rw [List.foldl_nil, List.append_nil]
  | cons field added ih =>
    have hBefore : ∀ other ∈ fields, other.1 < field.1 := by
      rw [List.map_append, List.map_cons, List.pairwise_append] at h
      exact fun other hOther => h.2.2 other.1 (List.mem_map_of_mem hOther) field.1
        List.mem_cons_self
    rw [List.foldl_cons, insertField_append hBefore, ih (by simpa using h), List.append_assoc]
    rfl

theorem ofFields_sorted
    (h : (fields.map Prod.fst).Pairwise (· < ·)) : ofFields fields = .object fields := by
  unfold ofFields
  rw [foldl_insertField_sorted (by simpa using h)]
  rfl

/-! ## Values that are read back as they are -/

def Plain (depth : Nat) (v : Json) : Prop := v.Readable depth ∧ v.Exact depth

@[simp] theorem plain_null (depth : Nat) : Json.null.Plain depth := by
  cases depth <;> exact ⟨trivial, trivial⟩

@[simp] theorem plain_string (depth : Nat) (s : String) : (Json.string s).Plain depth := by
  cases depth <;> exact ⟨trivial, trivial⟩

@[simp] theorem plain_posInt (depth : Nat) (n : UInt64) :
    (Json.number (.posInt n)).Plain depth := by
  cases depth <;> exact ⟨trivial, trivial⟩

variable {items : List Json}

@[simp] theorem plain_array_iff :
    (Json.array items).Plain (depth + 1) ↔ ∀ item ∈ items, item.Plain depth :=
  ⟨fun h item hItem => ⟨h.1 item hItem, h.2 item hItem⟩,
    fun h => ⟨fun item hItem => (h item hItem).1, fun item hItem => (h item hItem).2⟩⟩

theorem plain_ofFields
    (h : ∀ field ∈ fields, field.2.Plain depth) : (ofFields fields).Plain (depth + 1) :=
  ⟨readable_ofFields fun field hField => (h field hField).1,
    exact_ofFields fun field hField => (h field hField).2⟩

theorem Plain.get {depth : Nat} {v w : Json} (h : v.Plain (depth + 1)) (hGet : v.get key = some w) :
    w.Plain depth := by
  cases v with
  | object fields =>
    obtain ⟨field, hFind, rfl⟩ := Option.map_eq_some_iff.mp hGet
    have hMem := List.mem_of_find?_eq_some hFind
    exact ⟨h.1.2 field hMem, h.2 field hMem⟩
  | _ => cases hGet

theorem find_of_nodup {fields : List (String × Json)} (hNodup : (fields.map Prod.fst).Nodup)
    (hField : field ∈ fields) : (fields.find? fun other => other.1 == field.1) = some field := by
  induction fields with
  | nil => cases hField
  | cons head fields ih =>
    rw [List.map_cons, List.nodup_cons] at hNodup
    rcases List.mem_cons.mp hField with rfl | hRest
    · exact List.find?_cons_of_pos (beq_self_eq_true _)
    · have hNe : (head.1 == field.1) = false := beq_eq_false_iff_ne.mpr fun hEq =>
        hNodup.1 (hEq ▸ List.mem_map_of_mem hRest)
      rw [List.find?_cons, hNe]
      exact ih hNodup.2 hRest

@[simp] theorem plain_ofFields_iff (hNodup : (fields.map Prod.fst).Nodup) :
    (ofFields fields).Plain (depth + 1) ↔ ∀ field ∈ fields, field.2.Plain depth := by
  refine ⟨fun h field hField => ?_, plain_ofFields⟩
  exact h.get (by rw [get_ofFields hNodup, find_of_nodup hNodup hField]; rfl)

/-! ## Changing a field -/

@[simp] theorem readable_posInt (depth : Nat) (n : UInt64) :
    (Json.number (.posInt n)).Readable depth := (plain_posInt depth n).1

theorem Readable.get {depth : Nat} {v w : Json} (h : v.Readable (depth + 1))
    (hGet : v.get key = some w) : w.Readable depth := by
  cases v with
  | object fields =>
    obtain ⟨field, hFind, rfl⟩ := Option.map_eq_some_iff.mp hGet
    exact h.2 field (List.mem_of_find?_eq_some hFind)
  | _ => cases hGet

theorem isObject_of_get {v w : Json} (h : v.get key = some w) : v.isObject := by
  cases v with
  | object fields => rfl
  | _ => cases h

theorem eq_array_of_asArray {v : Json} (h : v.asArray = some items) : v = .array items := by
  cases v with
  | array others => exact congrArg Json.array (Option.some.inj h)
  | _ => cases h

/-- `get_mut` of a field, and a change of what is there. -/
def modify (value : Json) (key : String) (f : Json → Json) : Json :=
  match value.get key with
  | some field => value.setField key (f field)
  | none => value

theorem get_modify (value : Json) (key other : String) (f : Json → Json) :
    (value.modify key f).get other =
      if other = key then (value.get key).map f else value.get other := by
  cases hGet : value.get key with
  | none =>
    simp only [modify, hGet, Option.map_none]
    split
    · rename_i hEq
      rw [hEq, hGet]
    · rfl
  | some field =>
    simp only [modify, hGet, Option.map_some]
    exact get_setField (isObject_of_get hGet) key other (f field)

theorem Readable.modify {depth : Nat} {v : Json} {f : Json → Json} (h : v.Readable (depth + 1))
    (hf : ∀ field : Json, field.Readable depth → (f field).Readable depth) :
    (v.modify key f).Readable (depth + 1) := by
  cases hGet : v.get key with
  | none =>
    simp only [Json.modify, hGet]
    exact h
  | some field =>
    simp only [Json.modify, hGet]
    exact h.setField (hf field (h.get hGet)) key

end Json

/-- Writing values as text and reading texts, with what holds of every such pair. -/
structure JsonText where
  parse : String → Except String Json
  print : Json → String
  parse_readable : ∀ {text : String} {v : Json}, parse text = .ok v → v.Readable 127
  reads : ∀ {v : Json}, v.Readable 127 → ∃ w, parse (print v) = .ok w ∧ w.erase = v.erase
  print_object : ∀ fields, (print (.object fields)).toList.head? = some '{'

/-- `from_str` of a type that a codec reads. A value that it refuses is refused with a message of
its own. -/
def JsonText.fromStr (J : JsonText) (codec : Serde.Codec) (refusal : Json → String)
    (text : String) : Except String Json :=
  match J.parse text with
  | .error e => .error e
  | .ok v =>
    match codec v with
    | some read => .ok read
    | none => .error (refusal v)

theorem JsonText.fromStr_of_parse {J : JsonText} {codec : Serde.Codec} {refusal : Json → String}
    {text : String} {v w : Json} (hParse : J.parse text = .ok v) (hCodec : codec v = some w) :
    J.fromStr codec refusal text = .ok w := by
  unfold JsonText.fromStr
  rw [hParse]
  dsimp only
  rw [hCodec]

theorem JsonText.parse_print (J : JsonText) {v : Json} (h : v.Plain 127) :
    J.parse (J.print v) = .ok v := by
  obtain ⟨w, hParse, hErase⟩ := J.reads h.1
  rw [hParse, h.2.eq_of_erase hErase]

/-! ## A compact text -/

theorem Json.Readable.erase {depth : Nat} {v : Json} (h : v.Readable depth) :
    v.erase.Readable depth := by
  induction depth generalizing v with
  | zero =>
    cases v with
    | number n => cases n <;> exact h
    | array | object => exact h.elim
    | _ => exact h
  | succ depth ih =>
    cases v with
    | number n => cases n <;> exact h
    | array items =>
      rw [Json.erase, Json.eraseItems_eq_map]
      exact List.forall_mem_map.mpr fun item hItem => ih (h item hItem)
    | object fields =>
      rw [Json.erase, Json.eraseFields_eq_map]
      refine ⟨?_, List.forall_mem_map.mpr fun field hField => ih (h.2 field hField)⟩
      rw [List.map_map]
      exact h.1
    | _ => exact h

instance decidableReadable : (depth : Nat) → (v : Json) → Decidable (v.Readable depth)
  | depth, .null | depth, .bool _ | depth, .string _ => isTrue (by cases depth <;> trivial)
  | depth, .number (.negInt n) =>
    decidable_of_iff (n.toInt < 0) (by cases depth <;> rfl)
  | depth, .number (.posInt _) | depth, .number (.float _) => isTrue (by cases depth <;> trivial)
  | 0, .array _ | 0, .object _ => isFalse id
  | depth + 1, .array items =>
    have (item : Json) : Decidable (item.Readable depth) := decidableReadable depth item
    inferInstanceAs (Decidable (∀ item ∈ items, item.Readable depth))
  | depth + 1, .object fields =>
    have (v : Json) : Decidable (v.Readable depth) := decidableReadable depth v
    inferInstanceAs (Decidable ((fields.map Prod.fst).Pairwise (· < ·) ∧
      ∀ field ∈ fields, field.2.Readable depth))

namespace Compact

def hexDigit (n : Nat) : Char := "0123456789abcdef".toList.getD n '0'

/-- A character in a string; control characters are written as codes. -/
def escape (c : Char) : List Char :=
  if c = '"' ∨ c = '\\' then ['\\', c]
  else if c.toNat < 32 then ['\\', 'u', '0', '0', hexDigit (c.toNat / 16), hexDigit (c.toNat % 16)]
  else [c]

def printString (s : String) : List Char := '"' :: (s.toList.flatMap escape ++ ['"'])

def printNumber : Number → List Char
  | .posInt n => Nat.toDigits 10 n.toNat
  | .negInt n => '-' :: Nat.toDigits 10 n.toInt.natAbs
  | .float _ => ['0', '.', '0']

/-- What follows the first element of an array or an object. -/
def joined (close : Char) : List (List Char) → List Char
  | [] => [close]
  | text :: texts => ',' :: (text ++ joined close texts)

mutual

def printValue : Json → List Char
  | .null => "null".toList
  | .bool true => "true".toList
  | .bool false => "false".toList
  | .number n => printNumber n
  | .string s => printString s
  | .array items => '[' :: match printItems items with
    | [] => [']']
    | text :: texts => text ++ joined ']' texts
  | .object fields => '{' :: match printFields fields with
    | [] => ['}']
    | text :: texts => text ++ joined '}' texts

def printItems : List Json → List (List Char)
  | [] => []
  | item :: items => printValue item :: printItems items

def printFields : List (String × Json) → List (List Char)
  | [] => []
  | (key, value) :: fields => (printString key ++ ':' :: printValue value) :: printFields fields

end

def hexValue (c : Char) : Option Nat :=
  if c.isDigit then some (c.toNat - 48)
  else if 'a' ≤ c ∧ c ≤ 'f' then some (c.toNat - 87)
  else none

def hexCode (a b c d : Char) : Option Nat := do
  return 4096 * (← hexValue a) + 256 * (← hexValue b) + 16 * (← hexValue c) + (← hexValue d)

/-- The rest of a string after its opening quote. -/
def parseString : List Char → Option (List Char × List Char)
  | [] => none
  | '"' :: rest => some ([], rest)
  | '\\' :: 'u' :: a :: b :: c :: d :: rest =>
    (hexCode a b c d).bind fun code =>
      (parseString rest).map fun read => (Char.ofNat code :: read.1, read.2)
  | '\\' :: c :: rest =>
    if c = '"' ∨ c = '\\' then (parseString rest).map fun read => (c :: read.1, read.2) else none
  | c :: rest =>
    if c.toNat < 32 then none
    else (parseString rest).map fun read => (c :: read.1, read.2)

def inFraction (c : Char) : Bool :=
  c.isDigit || c == '.' || c == 'e' || c == 'E' || c == '+' || c == '-'

/-- The number of some digits. One that is no integer of 64 bits is a float, and its bits are
not kept. -/
def readDigits (negative : Bool) (s : List Char) : Option (Number × List Char) :=
  let digits := s.takeWhile Char.isDigit
  let rest := s.dropWhile Char.isDigit
  let n := Nat.ofDigitChars 10 digits 0
  if digits.isEmpty then none
  else if rest.head?.any inFraction then some (.float 0, rest.dropWhile inFraction)
  else if negative = true ∧ 0 < n ∧ n ≤ 2 ^ 63 then some (.negInt (Int64.ofInt (-n)), rest)
  else if negative = false ∧ n < 2 ^ 64 then some (.posInt (UInt64.ofNat n), rest)
  else some (.float 0, rest)

def parseNumber (s : List Char) : Option (Number × List Char) :=
  if s.head? = some '-' then readDigits true s.tail else readDigits false s

abbrev Reader (α : Type) := List Char → Option (α × List Char)

/-- The elements of an array or an object after its opening bracket. -/
def parseList {α : Type} (item : Reader α) (close : Char) : Nat → Reader (List α)
  | 0, _ => none
  | fuel + 1, s => do
    let (v, rest) ← item s
    match rest with
    | [] => none
    | c :: rest =>
      if c = close then return ([v], rest)
      else if c = ',' then
        let (vs, rest) ← parseList item close fuel rest
        return (v :: vs, rest)
      else none

def parseField (value : Reader Json) : List Char → Option ((String × Json) × List Char)
  | '"' :: rest => do
    let (key, rest) ← parseString rest
    match rest with
    | ':' :: rest =>
      let (v, rest) ← value rest
      return ((String.ofList key, v), rest)
    | _ => none
  | _ => none

/-- A value nested no deeper than a limit. -/
def parseValue : Nat → Reader Json
  | _, 'n' :: 'u' :: 'l' :: 'l' :: rest => some (.null, rest)
  | _, 't' :: 'r' :: 'u' :: 'e' :: rest => some (.bool true, rest)
  | _, 'f' :: 'a' :: 'l' :: 's' :: 'e' :: rest => some (.bool false, rest)
  | _, '"' :: rest => (parseString rest).map fun read => (.string (String.ofList read.1), read.2)
  | depth + 1, '[' :: rest =>
    if rest.head? = some ']' then some (.array [], rest.tail)
    else (parseList (parseValue depth) ']' rest.length rest).map fun read =>
      (.array read.1, read.2)
  | depth + 1, '{' :: rest =>
    if rest.head? = some '}' then some (.object [], rest.tail)
    else (parseList (parseField (parseValue depth)) '}' rest.length rest).map fun read =>
      (.ofFields read.1, read.2)
  | _, s => (parseNumber s).map fun read => (.number read.1, read.2)

def parse (text : String) : Except String Json :=
  match parseValue 127 text.toList with
  | some (v, []) => if v.Readable 127 then .ok v else .error "invalid value"
  | _ => .error "expected value"

def print (v : Json) : String := String.ofList (printValue v)

/-! ## What is printed is read back -/

/-- What may follow a value. -/
def Ends (rest : List Char) : Prop := ∀ c ∈ rest.head?, c = ',' ∨ c = ']' ∨ c = '}'

variable {c : Char} {rest s : List Char} {v : Json}

theorem hexCode_hexDigit :
    ∀ n < 32, hexCode '0' '0' (hexDigit (n / 16)) (hexDigit (n % 16)) = some n := by
  decide

theorem parseString_escape (c : Char) (rest : List Char) :
    parseString (escape c ++ rest) = (parseString rest).map fun read => (c :: read.1, read.2) := by
  unfold escape
  split_ifs with hMark hControl
  · rcases hMark with rfl | rfl <;> rfl
  · rw [List.cons_append, List.cons_append, List.cons_append, List.cons_append, List.cons_append,
      List.cons_append, List.nil_append, parseString, hexCode_hexDigit _ hControl, Option.bind_some,
      Char.ofNat_toNat]
  · rw [not_or] at hMark
    rw [List.singleton_append, parseString]
    · rw [if_neg hControl]
    · exact hMark.1
    · exact fun _ _ _ _ _ hEq => absurd hEq hMark.2
    · exact fun _ _ hEq => absurd hEq hMark.2

theorem parseString_print (s : List Char) (rest : List Char) :
    parseString (s.flatMap escape ++ '"' :: rest) = some (s, rest) := by
  induction s with
  | nil => rfl
  | cons c s ih =>
    rw [List.flatMap_cons, List.append_assoc, parseString_escape, ih]
    rfl

theorem takeWhile_append_stop {p : Char → Bool} {a : List Char} (h : ∀ c ∈ a, p c = true)
    (hStop : ∀ c ∈ rest.head?, p c = false) :
    (a ++ rest).takeWhile p = a ∧ (a ++ rest).dropWhile p = rest := by
  have hRest : rest.takeWhile p = [] ∧ rest.dropWhile p = rest := by
    cases rest with
    | nil => exact ⟨rfl, rfl⟩
    | cons c rest =>
      have hc : ¬ p c = true := by simp [hStop c rfl]
      exact ⟨List.takeWhile_cons_of_neg hc, List.dropWhile_cons_of_neg hc⟩
  rw [List.takeWhile_append_of_pos h, List.dropWhile_append_of_pos h, hRest.1, hRest.2,
    List.append_nil]
  exact ⟨rfl, rfl⟩

/-- No digit and no fraction follows a value. -/
theorem Ends.stops (h : Ends rest) :
    ∀ c ∈ rest.head?, c.isDigit = false ∧ inFraction c = false := by
  intro c hc
  rcases h c hc with rfl | rfl | rfl <;> exact ⟨rfl, rfl⟩

theorem digits_all (n : Nat) : ∀ c ∈ Nat.toDigits 10 n, c.isDigit = true :=
  fun _ hc => Nat.isDigit_of_mem_toDigits (by decide) (by decide) hc

theorem digits_head (n : Nat) (rest : List Char) :
    (Nat.toDigits 10 n ++ rest).head? ≠ some '-' := by
  rw [List.head?_append_of_ne_nil _ Nat.toDigits_ne_nil]
  intro hHead
  have hDigit := digits_all n '-' (List.mem_of_mem_head? (Option.mem_def.mpr hHead))
  exact absurd hDigit (by decide)

variable {negative : Bool} {n : Number}

theorem readDigits_print (n : Nat) (h : Ends rest) :
    readDigits negative (Nat.toDigits 10 n ++ rest) =
      if negative = true ∧ 0 < n ∧ n ≤ 2 ^ 63 then some (.negInt (Int64.ofInt (-n)), rest)
      else if negative = false ∧ n < 2 ^ 64 then some (.posInt (UInt64.ofNat n), rest)
      else some (.float 0, rest) := by
  obtain ⟨hTake, hDrop⟩ := takeWhile_append_stop (digits_all n) fun c hc => (h.stops c hc).1
  have hSome : (Nat.toDigits 10 n).isEmpty = false := by simp [Nat.toDigits_ne_nil]
  have hFraction : rest.head?.any inFraction = false := by
    rw [Option.any_eq_false]
    exact fun c hc => by simp [(h.stops c hc).2]
  simp only [readDigits, hTake, hDrop, hSome, hFraction, Nat.ofDigitChars_ten_toDigits,
    Bool.false_eq_true, if_false]

theorem parseNumber_print {n : Number} (hNeg : ∀ m, n = .negInt m → m.toInt < 0)
    {rest : List Char} (h : Ends rest) :
    (parseNumber (printNumber n ++ rest)).map (fun read => (Json.number read.1, read.2)) =
      some ((Json.number n).erase, rest) := by
  cases n with
  | posInt n =>
    rw [parseNumber, printNumber, if_neg (digits_head _ _), readDigits_print _ h,
      if_neg (by simp), if_pos ⟨rfl, n.toNat_lt⟩, UInt64.ofNat_toNat]
    rfl
  | negInt n =>
    have hLess := hNeg n rfl
    have hLow := Int64.le_toInt n
    have hAbs : -(n.toInt.natAbs : Int) = n.toInt := by omega
    have hRange : 0 < n.toInt.natAbs ∧ n.toInt.natAbs ≤ 2 ^ 63 := by omega
    rw [parseNumber, printNumber, List.cons_append, if_pos List.head?_cons, List.tail_cons,
      readDigits_print _ h, if_pos ⟨rfl, hRange⟩, hAbs, Int64.ofInt_toInt]
    rfl
  | float bits =>
    obtain ⟨-, hDrop⟩ := takeWhile_append_stop (a := ['.', '0']) (p := inFraction)
      (by simp [inFraction])
      fun c hc => (h.stops c hc).2
    have hRead : readDigits false (['0', '.', '0'] ++ rest) =
        some (.float 0, (['.', '0'] ++ rest).dropWhile inFraction) := rfl
    rw [parseNumber, printNumber, if_neg (by simp), hRead, hDrop]
    rfl

theorem printNumber_head (n : Number) :
    ∃ c s, printNumber n = c :: s ∧ (c.isDigit = true ∨ c = '-') := by
  cases n with
  | posInt n =>
    obtain ⟨c, s, hDigits⟩ := List.exists_cons_of_ne_nil (Nat.toDigits_ne_nil (n := n.toNat) (b := 10))
    exact ⟨c, s, hDigits, Or.inl (digits_all n.toNat c (hDigits ▸ List.mem_cons_self))⟩
  | negInt n => exact ⟨'-', _, rfl, Or.inr rfl⟩
  | float bits => exact ⟨'0', _, rfl, Or.inl rfl⟩

/-- A value does not begin with the end of a list. -/
theorem printValue_head (v : Json) :
    ∃ c s, printValue v = c :: s ∧ c ≠ ']' := by
  cases v with
  | null => exact ⟨'n', _, rfl, by decide⟩
  | bool b => cases b with
    | true => exact ⟨'t', _, rfl, by decide⟩
    | false => exact ⟨'f', _, rfl, by decide⟩
  | number n =>
    obtain ⟨c, s, hPrint, hDigit⟩ := printNumber_head n
    refine ⟨c, s, by rw [printValue, hPrint], ?_⟩
    rintro rfl
    rcases hDigit with hDigit | hMinus
    · cases hDigit
    · cases hMinus
  | string s => exact ⟨'"', _, rfl, by decide⟩
  | array items => exact ⟨'[', _, by rw [printValue], by decide⟩
  | object fields => exact ⟨'{', _, by rw [printValue], by decide⟩

/-- A reader reads the text of a value, whatever may follow it. -/
def Reads {α : Type} (reader : Reader α) (text : List Char) (value : α) : Prop :=
  ∀ rest, Ends rest → reader (text ++ rest) = some (value, rest)

section

variable {α β : Type} {item : Reader β} {text : α → List Char} {value : α → β} {fuel : Nat}
  {close : Char} {first : α} {others : List α}

theorem joined_ends (hClose : close = ']' ∨ close = '}') (texts : List (List Char))
    (rest : List Char) : Ends (joined close texts ++ rest) := by
  cases texts with
  | nil =>
    rintro c ⟨rfl⟩
    exact .inr hClose
  | cons text texts =>
    rintro c ⟨rfl⟩
    exact .inl rfl

theorem length_joined (close : Char) (texts : List (List Char)) :
    texts.length < (joined close texts).length := by
  induction texts with
  | nil => exact Nat.zero_lt_one
  | cons text texts ih =>
    simp only [joined, List.length_cons, List.length_append]
    omega

theorem parseList_print (hClose : close = ']' ∨ close = '}')
    (h : ∀ a ∈ first :: others, Reads item (text a) (value a)) (hFuel : others.length < fuel)
    (rest : List Char) :
    parseList item close fuel (text first ++ (joined close (others.map text) ++ rest)) =
      some ((first :: others).map value, rest) := by
  induction others generalizing first fuel with
  | nil =>
    obtain ⟨fuel, rfl⟩ : ∃ k, fuel = k + 1 := ⟨fuel - 1, by omega⟩
    rw [parseList, h first List.mem_cons_self _ (joined_ends hClose _ rest)]
    simp [joined]
  | cons next others ih =>
    obtain ⟨fuel, rfl⟩ : ∃ k, fuel = k + 1 := ⟨fuel - 1, by omega⟩
    have hRest := ih (fun a ha => h a (List.mem_cons_of_mem first ha))
      (Nat.lt_of_succ_lt_succ hFuel)
    have hComma : ',' ≠ close := by rcases hClose with rfl | rfl <;> decide
    rw [parseList, h first List.mem_cons_self _ (joined_ends hClose _ rest), List.map_cons, joined,
      List.cons_append, List.append_assoc]
    simp [hComma, hRest]

end

theorem printItems_eq_map (items : List Json) : printItems items = items.map printValue := by
  induction items with
  | nil => rfl
  | cons item items ih => rw [printItems, ih, List.map_cons]

def printField (field : String × Json) : List Char :=
  printString field.1 ++ ':' :: printValue field.2

theorem printFields_eq_map (fields : List (String × Json)) :
    printFields fields = fields.map printField := by
  induction fields with
  | nil => rfl
  | cons field fields ih =>
    obtain ⟨key, value⟩ := field
    rw [printFields, ih, List.map_cons, printField]

variable {reader : Reader Json} {field : String × Json} {depth : Nat}

theorem parseField_print (h : Reads reader (printValue field.2) field.2.erase) :
    Reads (parseField reader) (printField field) (field.1, field.2.erase) := by
  intro rest hEnds
  have hOpen : printField field ++ rest =
      '"' :: (field.1.toList.flatMap escape ++ '"' :: ':' :: (printValue field.2 ++ rest)) := by
    simp [printField, printString]
  rw [hOpen, parseField]
  simp [parseString_print, h rest hEnds]

theorem parseValue_number (depth : Nat) (hc : c.isDigit = true ∨ c = '-') (s : List Char) :
    parseValue depth (c :: s) =
      (parseNumber (c :: s)).map fun read => (.number read.1, read.2) := by
  have hNot : ∀ d, d.isDigit = false → d ≠ '-' → c ≠ d := by
    rintro d hd hMinus rfl
    rcases hc with hDigit | hEq
    · rw [hDigit] at hd
      cases hd
    · exact hMinus hEq
  unfold parseValue
  split
  all_goals first | rfl | exact absurd (List.cons.inj ‹_ = _›).1 (hNot _ rfl (by decide))

theorem readsBack_array {items : List Json}
    (h : ∀ item ∈ items, Reads (parseValue depth) (printValue item) item.erase) :
    Reads (parseValue (depth + 1)) (printValue (.array items)) (Json.array items).erase := by
  intro rest _
  cases items with
  | nil => rfl
  | cons item items =>
    obtain ⟨c, s, hPrint, hBracket⟩ := printValue_head item
    have hText : printValue (.array (item :: items)) ++ rest =
        '[' :: (printValue item ++ (joined ']' (items.map printValue) ++ rest)) := by
      simp [printValue, printItems_eq_map, printItems]
    have hHead : (printValue item ++ (joined ']' (items.map printValue) ++ rest)).head? ≠
        some ']' := by
      simp [hPrint, hBracket]
    have hFuel : items.length <
        (printValue item ++ (joined ']' (items.map printValue) ++ rest)).length := by
      have hLength := length_joined ']' (items.map printValue)
      simp only [List.length_append, List.length_map] at hLength ⊢
      omega
    rw [hText, parseValue, if_neg hHead, parseList_print (.inl rfl) h hFuel, Option.map_some,
      Json.erase, Json.eraseItems_eq_map]

theorem readsBack_object {fields : List (String × Json)}
    (hSorted : (fields.map Prod.fst).Pairwise (· < ·))
    (h : ∀ field ∈ fields, Reads (parseValue depth) (printValue field.2) field.2.erase) :
    Reads (parseValue (depth + 1)) (printValue (.object fields)) (Json.object fields).erase := by
  intro rest _
  cases fields with
  | nil => rfl
  | cons field fields =>
    have hText : printValue (.object (field :: fields)) ++ rest =
        '{' :: (printField field ++ (joined '}' (fields.map printField) ++ rest)) := by
      obtain ⟨key, value⟩ := field
      simp [printValue, printFields_eq_map, printFields, printField]
    have hHead : (printField field ++ (joined '}' (fields.map printField) ++ rest)).head? ≠
        some '}' := by
      simp [printField, printString]
    have hFuel : fields.length <
        (printField field ++ (joined '}' (fields.map printField) ++ rest)).length := by
      have hLength := length_joined '}' (fields.map printField)
      simp only [List.length_append, List.length_map] at hLength ⊢
      omega
    have hFields : ∀ field' ∈ field :: fields, Reads (parseField (parseValue depth))
        (printField field') (field'.1, field'.2.erase) :=
      fun field' hField => parseField_print (h field' hField)
    have hKeys : ((field :: fields).map fun f => (f.1, f.2.erase)).map Prod.fst =
        (field :: fields).map Prod.fst := by
      rw [List.map_map]
      rfl
    rw [hText, parseValue, if_neg hHead, parseList_print (.inr rfl) hFields hFuel, Option.map_some,
      Json.ofFields_sorted (hKeys ▸ hSorted), Json.erase, Json.eraseFields_eq_map]

theorem parseValue_print (h : v.Readable depth) :
    Reads (parseValue depth) (printValue v) v.erase := by
  have hNumber {n : Number} (hNeg : ∀ m, n = .negInt m → m.toInt < 0) (depth : Nat) :
      Reads (parseValue depth) (printValue (.number n)) (Json.number n).erase := by
    intro rest hEnds
    obtain ⟨c, s, hPrint, hDigit⟩ := printNumber_head n
    have hRead := parseNumber_print hNeg hEnds
    rw [hPrint] at hRead
    rw [printValue, hPrint, List.cons_append, parseValue_number _ hDigit]
    exact hRead
  have hString (s : String) (depth : Nat) :
      Reads (parseValue depth) (printValue (.string s)) (.string s) := by
    intro rest _
    have hText : printValue (.string s) ++ rest =
        '"' :: (s.toList.flatMap escape ++ '"' :: rest) := by
      simp [printValue, printString]
    cases depth <;> simp [hText, parseValue, parseString_print]
  induction depth generalizing v with
  | zero =>
    cases v with
    | null => exact fun _ _ => rfl
    | bool b => cases b <;> exact fun _ _ => rfl
    | number n => exact hNumber (fun m hm => by subst hm; exact h) 0
    | string s => exact hString s 0
    | array items | object fields => exact h.elim
  | succ depth ih =>
    cases v with
    | null => exact fun _ _ => rfl
    | bool b => cases b <;> exact fun _ _ => rfl
    | number n => exact hNumber (fun m hm => by subst hm; exact h) _
    | string s => exact hString s _
    | array items => exact readsBack_array fun item hItem => ih (h item hItem)
    | object fields => exact readsBack_object h.1 fun field hField => ih (h.2 field hField)

theorem parse_readable {text : String} (h : parse text = .ok v) : v.Readable 127 := by
  unfold parse at h
  split at h
  · split at h
    · cases h
      assumption
    · cases h
  · cases h

theorem reads (h : v.Readable 127) :
    ∃ w, parse (print v) = .ok w ∧ w.erase = v.erase := by
  have hRead := parseValue_print h [] (fun _ h => by cases h)
  refine ⟨v.erase, ?_, v.erase_erase⟩
  unfold parse print
  rw [String.toList_ofList, ← List.append_nil (printValue v), hRead]
  exact if_pos h.erase

end Compact

/-- Texts without white space, of values whose numbers are integers of 64 bits. -/
def JsonText.compact : JsonText where
  parse := Compact.parse
  print := Compact.print
  parse_readable := Compact.parse_readable
  reads := Compact.reads
  print_object fields := by
    unfold Compact.print
    rw [String.toList_ofList, Compact.printValue]
    rfl

end KongRust

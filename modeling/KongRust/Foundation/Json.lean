/-!
# JSON values

`serde_json::Value`. A number is an integer of 64 bits or the bits of a finite `f64`; the fields
of an object stand in the order of its `BTreeMap`, by key.
-/

namespace KongRust

inductive Number where
  | posInt (n : UInt64)
  | negInt (n : Int64)
  | float (bits : UInt64)
  deriving DecidableEq

inductive Json where
  | null
  | bool (b : Bool)
  | number (n : Number)
  | string (s : String)
  | array (items : List Json)
  | object (fields : List (String × Json))

namespace Json

variable (value : Json)

/-- `Value::get` of an object's field; other values have none. -/
def get (value : Json) (key : String) : Option Json :=
  match value with
  | .object fields => (fields.find? fun field => field.1 == key).map Prod.snd
  | _ => none

def asStr : Json → Option String
  | .string s => some s
  | _ => none

def asArray : Json → Option (List Json)
  | .array items => some items
  | _ => none

/-- `Value::as_u64`. -/
def asU64 : Json → Option UInt64
  | .number (.posInt n) => some n
  | _ => none

/-- `Map::insert`, which keeps the fields in the order of their keys. -/
def insertField (fields : List (String × Json)) (key : String) (value : Json) :
    List (String × Json) :=
  match fields with
  | [] => [(key, value)]
  | field :: rest =>
    if key < field.1 then (key, value) :: field :: rest
    else if key = field.1 then (key, value) :: rest
    else field :: insertField rest key value

/-- `as_object_mut` and then `Map::insert`; a value that is no object stays as it is. -/
def setField (value : Json) (key : String) (field : Json) : Json :=
  match value with
  | .object fields => .object (insertField fields key field)
  | other => other

/-- `Map::remove`, on a value that may be no object. -/
def removeField (value : Json) (key : String) : Json :=
  match value with
  | .object fields => .object (fields.filter fun field => field.1 != key)
  | other => other

end Json

end KongRust

import Mathlib.Data.List.Basic

/-!
# JSON values

The part of {lit}`serde_json` that a program reading untyped JSON relies on:
the value type, the checked views ({lit}`as_u64`, {lit}`as_str`, ...), field
lookup, and the replacement of the value at one path.  A number keeps the three
representations of the crate, so that only a nonnegative integer below
{lit}`2 ^ 64` reads as {lit}`u64`.  An object is the list of its fields.

Main results:

- Theorem {lit}`Value.get_replaceAt`: a field of a value changed at one path.
- Theorem {lit}`Value.pointer_replaceAt`: what stands under nested fields after a
  change at one path.
-/

namespace SerdeJson

/-! ## Values and views -/

/-- A JSON number: unsigned, negative, or the bits of a double. -/
inductive Number where
  | posInt (n : UInt64)
  | negInt (n : Int64)
  | float (bits : UInt64)
deriving DecidableEq, Repr

/-- A JSON value. -/
inductive Value where
  | null
  | bool (b : Bool)
  | number (n : Number)
  | string (s : String)
  | array (elements : List Value)
  | object (fields : List (String × Value))
deriving Repr

/-- Fields of a JSON object. -/
abbrev Map := List (String × Value)

/-- Value of a field. -/
def Map.get (fields : Map) (key : String) : Option Value :=
  fields.lookup key

namespace Value

/-- Whether a value is {lit}`null`. -/
def isNull : Value → Bool
  | null => true
  | _ => false

/-- View of a value as an unsigned 64-bit integer. -/
def asU64 : Value → Option UInt64
  | number (.posInt n) => some n
  | _ => none

/-- View of a value as a string. -/
def asStr : Value → Option String
  | string s => some s
  | _ => none

/-- View of a value as an array. -/
def asArray : Value → Option (List Value)
  | array elements => some elements
  | _ => none

/-- View of a value as an object. -/
def asObject : Value → Option Map
  | object fields => some fields
  | _ => none

/-- Field of an object; {lean}`none` on every other value. -/
def get (v : Value) (key : String) : Option Value :=
  v.asObject.bind fun fields => fields.get key

/-- Value under nested object fields, as a pointer such as {lit}`/a/b` selects it.
The names used as tokens index no array. -/
def pointer (v : Value) : List String → Option Value
  | [] => some v
  | token :: tokens => (v.get token).bind fun child => child.pointer tokens

/-- The fields of an object are looked up in its map. -/
@[simp]
theorem get_object (fields : Map) (key : String) : (object fields).get key = fields.get key :=
  rfl

/-- A value that is an object has the fields of its map. -/
theorem get_of_asObject {v : Value} {fields : Map} (hfields : v.asObject = some fields)
    (key : String) : v.get key = fields.get key := by
  rw [get, hfields, Option.bind_some]

end Value

/-! ## Replacing the value at a path -/

/-- One step into a value. -/
inductive Step where
  | key (name : String)
  | index (i : Nat)
deriving DecidableEq, Repr

namespace Value

/-- Replace what stands at a path and leave everything else as it is. -/
def replaceAt (new : Value) : List Step → Value → Value
  | [], _ => new
  | .key name :: path, object fields =>
      object (fields.map fun field =>
        if field.1 = name then (field.1, replaceAt new path field.2) else field)
  | .index i :: path, array elements => array (elements.modify i (replaceAt new path))
  | _, v => v

/-- At the empty path the value itself is replaced. -/
@[simp]
theorem replaceAt_nil (new v : Value) : replaceAt new [] v = new := by
  cases v <;> rfl

/-- Changing the fields of one name changes what is looked up under this name only. -/
theorem lookup_map_replace (fields : Map) (name key : String) (f : Value → Value) :
    (fields.map fun field => if field.1 = name then (field.1, f field.2) else field).lookup key =
      if key = name then (fields.lookup key).map f else fields.lookup key := by
  induction fields with
  | nil => simp
  | cons field fields ih =>
      rcases field with ⟨fieldName, child⟩
      rw [List.map_cons]
      by_cases hname : fieldName = name <;> by_cases hkey : key = fieldName
      · subst hname
        subst hkey
        simp
      · have hbeq : (key == fieldName) = false := by simpa using hkey
        simp [List.lookup_cons, hname, ih, hname ▸ hbeq]
      · subst hkey
        simp [hname]
      · have hbeq : (key == fieldName) = false := by simpa using hkey
        simp [List.lookup_cons, hname, ih, hbeq]

/-- Every field of a changed value is unchanged, except the one the path enters. -/
theorem get_replaceAt (new v : Value) (name key : String) (path : List Step) :
    (replaceAt new (.key name :: path) v).get key =
      if key = name then (v.get key).map (replaceAt new path) else v.get key := by
  cases v with
  | object fields => exact lookup_map_replace fields name key (replaceAt new path)
  | _ => simp [replaceAt, get, asObject]

/-- The elements of a changed array. -/
theorem asArray_replaceAt (new v : Value) (i : Nat) (path : List Step) :
    (replaceAt new (.index i :: path) v).asArray =
      v.asArray.map fun elements => elements.modify i (replaceAt new path) := by
  cases v <;> simp [replaceAt, asArray]

/-- The elements of a changed array, if there is one. -/
theorem elements_replaceAt (new : Value) (i : Nat) (path : List Step) (found : Option Value) :
    ((found.map (replaceAt new (.index i :: path))).bind asArray).getD [] =
      ((found.bind asArray).getD []).modify i (replaceAt new path) := by
  cases found with
  | none => simp
  | some v =>
      rw [Option.map_some, Option.bind_some, Option.bind_some, asArray_replaceAt]
      cases v.asArray <;> simp

/-- The value under the fields that the path enters first. -/
theorem pointer_replaceAt (new v : Value) (tokens : List String) (path : List Step) :
    (replaceAt new (tokens.map .key ++ path) v).pointer tokens =
      (v.pointer tokens).map (replaceAt new path) := by
  induction tokens generalizing v with
  | nil => rfl
  | cons token tokens ih =>
      rw [pointer, List.map_cons, List.cons_append, get_replaceAt, if_pos rfl, pointer,
        Option.bind_map, Option.map_bind]
      exact congrArg (v.get token).bind (funext ih)

/-- A change leaves what is below the other fields of the object it enters as it is. -/
theorem pointer_replaceAt_of_ne (new v : Value) (parents : List String) {name token : String}
    (hne : token ≠ name) (tokens : List String) (path : List Step) :
    (replaceAt new (parents.map .key ++ .key name :: path) v).pointer
        (parents ++ token :: tokens) = v.pointer (parents ++ token :: tokens) := by
  induction parents generalizing v with
  | nil =>
      rw [List.map_nil, List.nil_append, List.nil_append, pointer, get_replaceAt, if_neg hne,
        pointer]
  | cons parent parents ih =>
      rw [List.map_cons, List.cons_append, List.cons_append, pointer, get_replaceAt, if_pos rfl,
        pointer, Option.bind_map]
      exact congrArg (v.get parent).bind (funext ih)

end Value

end SerdeJson

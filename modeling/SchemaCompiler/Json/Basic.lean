import SchemaCompiler.Number.Binary64

/-!
# JSON values

The common form of every document that the library reads, whatever its format.  An object that has
been read holds each key once and its fields in ascending order of their keys; an object made for
writing holds its fields in the order in which they are to be written.

* `Json` — the values.
* `Json.insertField`, `Json.ofFields` — objects from fields in any order; a later field replaces an
  earlier one with the same key.
* `Json.get?` — look-up of a field.
-/

namespace SchemaCompiler

/-- A JSON value.  A number without fraction and exponent that fits into 64 bits is an integer, every
other number is a double. -/
inductive Json where
  | null
  | bool (b : Bool)
  | int (n : Int)
  | float (x : Binary64)
  | string (s : String)
  | array (items : List Json)
  | object (fields : List (String × Json))
  deriving Repr

namespace Json

/-- Puts a field into a list in ascending order of keys; a field with the same key is replaced. -/
def insertField {α : Type} (key : String) (value : α) : List (String × α) → List (String × α)
  | [] => [(key, value)]
  | (k, v) :: rest =>
    if key < k then (key, value) :: (k, v) :: rest
    else if k = key then (key, value) :: rest
    else (k, v) :: insertField key value rest

/-- Fields in ascending order of their keys, the last of several with one key. -/
def sortFields {α : Type} (fields : List (String × α)) : List (String × α) :=
  fields.foldl (fun sorted (key, value) => insertField key value sorted) []

/-- The object with the given fields; the last of several fields with one key counts. -/
def ofFields (fields : List (String × Json)) : Json := .object (sortFields fields)

/-- The field of an object. -/
def get? (key : String) : Json → Option Json
  | .object fields => fields.lookup key
  | _ => none

/-- The items of an array, none for any other value. -/
def items : Json → List Json
  | .array xs => xs
  | _ => []

/-- The text of a string value. -/
def asString? : Json → Option String
  | .string s => some s
  | _ => none

/-- The largest natural number that is kept as an integer. -/
def largestInt : Int := 18446744073709551615

/-- The least negative number that is kept as an integer. -/
def leastInt : Int := -9223372036854775808

end Json

end SchemaCompiler

import SchemaCompiler.Json.Basic

/-!
# TOML values

A TOML document is a table.  The parts of a table that may still grow while the document is read are
kept apart from values that are complete: a table of its own remembers how it came to be, since that
decides what may be added to it, and an array of tables is a value of its own kind, since only its last
element may grow.

* `Toml` — the values.
* `Toml.toJson` — a value in the common form of all documents.
-/

namespace SchemaCompiler

/-- How a table came to be. -/
inductive Toml.Origin where
  /-- A header names it. -/
  | header
  /-- It lies on the way to a table that a header names. -/
  | implied
  /-- It lies on the way to a value with a dotted key. -/
  | dotted
  deriving DecidableEq, Repr

/-- A TOML value. -/
inductive Toml where
  | string (s : String)
  | int (n : Int)
  /-- A double; none is an infinity or no number at all. -/
  | float (x : Option Binary64)
  | bool (b : Bool)
  /-- A date, a time or both, as it is written. -/
  | moment (text : String)
  | array (items : List Toml)
  /-- A table written between braces, to which nothing can be added. -/
  | inline (fields : List (String × Toml))
  | table (origin : Toml.Origin) (fields : List (String × Toml))
  /-- An array whose elements are tables with headers of their own. -/
  | tables (elements : List (List (String × Toml)))
  deriving Repr

namespace Toml

/-- The name of the only field of the object that stands for a date or a time. -/
def momentKey : String := "$__toml_private_datetime"

mutual

/-- A value as JSON; `special` stands for the doubles that JSON does not have. -/
def toJson (special : Json) : Toml → Json
  | .string s => .string s
  | .int n => .int n
  | .float (some x) => .float x
  | .float none => special
  | .bool b => .bool b
  | .moment text => .object [(momentKey, .string text)]
  | .array items => .array (itemsToJson special items)
  | .inline fields => Json.ofFields (fieldsToJson special fields)
  | .table _ fields => Json.ofFields (fieldsToJson special fields)
  | .tables elements => .array (elementsToJson special elements)

/-- The items of an array as JSON. -/
def itemsToJson (special : Json) : List Toml → List Json
  | [] => []
  | x :: rest => toJson special x :: itemsToJson special rest

/-- The fields of a table as JSON. -/
def fieldsToJson (special : Json) : List (String × Toml) → List (String × Json)
  | [] => []
  | (key, value) :: rest => (key, toJson special value) :: fieldsToJson special rest

/-- The elements of an array of tables as JSON. -/
def elementsToJson (special : Json) : List (List (String × Toml)) → List Json
  | [] => []
  | fields :: rest =>
    Json.ofFields (fieldsToJson special fields) :: elementsToJson special rest

end

end Toml

end SchemaCompiler

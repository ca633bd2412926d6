import SchemaCompiler.Error.Generation
import SchemaCompiler.Json.Basic
import SchemaCompiler.Number.Shortest

/-!
# Records from JSON values

How a value of a domain type is read from a JSON value.  A record is accepted in two forms: as an
object, whose fields are visited in ascending order of their keys, unknown ones being ignored, and as
an array of its fields in the order of the record.  The first fault met is reported.

* `Shape`, `DecodeError` — what was expected, and what can be wrong.
* `asText`, `asFlag`, `asCount`, `asList`, `asOptional`, `asVariant` — values.
* `field`, `required` — fields by name; `element`, `elementOr`, `noMoreThan` — fields by place.
* `record` — the two forms together.
-/

namespace SchemaCompiler

/-! ## Errors -/

/-- What a value was expected to be. -/
inductive Shape where
  | text
  | flag
  | sequence
  | count
  | record (name : String)
  | variant
  | variantName
  | singleField
  | nothing
  | taggedRecord (name : String)
  deriving DecidableEq, Repr

/-- The shape in words. -/
def Shape.message : Shape → String
  | .text => "a string"
  | .flag => "a boolean"
  | .sequence => "a sequence"
  | .count => "usize"
  | .record name => "struct " ++ name
  | .variant => "string or map"
  | .variantName => "variant identifier"
  | .singleField => "map with a single key"
  | .nothing => "unit"
  | .taggedRecord name => "internally tagged enum " ++ name

/-- The fields that an array was expected to hold. -/
inductive Extent where
  /-- A record with a number of fields. -/
  | fields (record : String) (count : Nat)
  /-- One form of a tagged record with a number of fields. -/
  | variantFields (form : String) (count : Nat)
  /-- No more than were taken. -/
  | fewer
  /-- As many as were taken. -/
  | exactly (count : Nat)
  deriving DecidableEq, Repr

/-- A number of elements in words. -/
def elementCount (n : Nat) : String :=
  Text.decimal n ++ if n = 1 then " element" else " elements"

/-- The extent in words. -/
def Extent.message : Extent → String
  | .fields record count => "struct " ++ record ++ " with " ++ elementCount count
  | .variantFields form count => "struct variant " ++ form ++ " with " ++ elementCount count
  | .fewer => "fewer elements in array"
  | .exactly count => elementCount count ++ " in sequence"

/-- Why a value could not be read as what it should be. -/
inductive DecodeError where
  | wrongType (found : Json) (expected : Shape)
  | wrongValue (found : Json) (expected : Shape)
  | wrongLength (found : Nat) (expected : Extent)
  | missingField (name : String)
  | unknownVariant (found : String) (known : List String)
  | unusable (cause : GenerationError)
  deriving Repr

/-- A value, or what kind of value it is, in words. -/
def Json.describe : Json → String
  | .null => "null"
  | .bool b => "boolean " ++ (if b then "\x60true\x60" else "\x60false\x60")
  | .int n => "integer \x60" ++ toString n ++ "\x60"
  | .float x => "floating point \x60" ++ x.render ++ "\x60"
  | .string s => "string " ++ Text.quoted s
  | .array _ => "sequence"
  | .object _ => "map"

/-- A name between backquotes. -/
def backquoted (name : String) : String := "\x60" ++ name ++ "\x60"

/-- Several names to choose from, in words. -/
def alternatives : List String → String
  | [only] => only
  | [a, b] => a ++ " or " ++ b
  | names => "one of " ++ ", ".intercalate names

/-- The error in words. -/
def DecodeError.message : DecodeError → String
  | .wrongType found expected =>
    "invalid type: " ++ found.describe ++ ", expected " ++ expected.message
  | .wrongValue found expected =>
    "invalid value: " ++ found.describe ++ ", expected " ++ expected.message
  | .wrongLength found expected =>
    "invalid length " ++ Text.decimal found ++ ", expected " ++ expected.message
  | .missingField name => "missing field " ++ backquoted name
  | .unknownVariant found known =>
    "unknown variant " ++ backquoted found ++ ", expected " ++ alternatives (known.map backquoted)
  | .unusable cause => cause.message

namespace Json

/-- A way to read values of a type. -/
abbrev Decoder (α : Type) := Json → Except DecodeError α

/-! ## Values -/

/-- A string. -/
def asText : Decoder String
  | .string s => .ok s
  | j => .error (.wrongType j .text)

/-- A truth value. -/
def asFlag : Decoder Bool
  | .bool b => .ok b
  | j => .error (.wrongType j .flag)

/-- A natural number. -/
def asCount : Decoder Nat
  | .int n => if n < 0 then .error (.wrongValue (.int n) .count) else .ok n.toNat
  | j => .error (.wrongType j .count)

/-- An array of values of one kind. -/
def asList {α : Type} (item : Decoder α) : Decoder (List α)
  | .array xs => xs.mapM item
  | j => .error (.wrongType j .sequence)

/-- A value that may be absent, which is written as null. -/
def asOptional {α : Type} (value : Decoder α) : Decoder (Option α)
  | .null => .ok none
  | j => (value j).map some

/-- The variant with a name. -/
def variantNamed {α : Type} (variants : List (String × α)) (name : String) :
    Except DecodeError α :=
  match variants.lookup name with
  | some v => .ok v
  | none => .error (.unknownVariant name (variants.map (·.1)))

/-- One of several named variants: its name, or an object whose single field has that name and holds
nothing. -/
def asVariant {α : Type} (variants : List (String × α)) : Decoder α
  | .string name => variantNamed variants name
  | .object [(name, content)] => do
    let v ← variantNamed variants name
    match content with
    | .null => .ok v
    | j => .error (.wrongType j .nothing)
  | .object fields => .error (.wrongValue (.object fields) .singleField)
  | j => .error (.wrongType j .variant)

/-! ## Fields by name -/

/-- The fields of an object. -/
abbrev Fields := List (String × Json)

/-- The field with a name, if it is there. -/
def field {α : Type} (fields : Fields) (name : String) (value : Decoder α) :
    Except DecodeError (Option α) :=
  match fields.lookup name with
  | some j => (value j).map some
  | none => .ok none

/-- A field that has to be there. -/
def required {α : Type} (name : String) : Option α → Except DecodeError α
  | some x => .ok x
  | none => .error (.missingField name)

/-! ## Fields by place -/

/-- The element at a place, if the array reaches that far. -/
def elementOr {α : Type} (xs : List Json) (place : Nat) (value : Decoder α) (fallback : α) :
    Except DecodeError α :=
  match xs[place]? with
  | some j => value j
  | none => .ok fallback

/-- The element at a place, which the array has to reach. -/
def element {α : Type} (xs : List Json) (place : Nat) (value : Decoder α) (extent : Extent) :
    Except DecodeError α :=
  match xs[place]? with
  | some j => value j
  | none => .error (.wrongLength place extent)

/-- Refuses an array with more elements than the record has fields. -/
def noMoreThan (xs : List Json) (limit : Nat) : Except DecodeError Unit :=
  if xs.length ≤ limit then .ok () else .error (.wrongLength xs.length .fewer)

/-! ## Records -/

/-- A record in either of its two forms. -/
def record {α : Type} (name : String) (byName : Fields → Except DecodeError α)
    (byPlace : List Json → Except DecodeError α) : Decoder α
  | .object fields => byName fields
  | .array xs => byPlace xs
  | j => .error (.wrongType j (.record name))

end Json

end SchemaCompiler

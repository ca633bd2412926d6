import SchemaCompiler.Error
import SchemaCompiler.Naming.Keywords

/-!
# Record types

Each table gives rise to a record type with one field for each column, in the order of the columns.

* `fieldName`, `argumentName` — a column's identifier as a field and as an argument.
* `Field`, `Declaration` — a field, and a record type for stored rows or for values to be stored.
* `recordOf` — the record type of a table's rows.
-/

namespace SchemaCompiler.Access

open Naming Text

/-! ## Identifiers -/

/-- A name as an identifier of Rust: a reserved word is marked as raw. -/
def rawIdentifier (name : String) : String := if isRustKeyword name then "r#" ++ name else name

/-- The field for a column.  TypeScript keeps the column's name, because rows come keyed by it; Rust
uses words joined by underscores. -/
def fieldName (column : String) : TargetLanguage → String
  | .typeScript => column
  | .rust => rawIdentifier (sanitized (snakeCase column))

/-- The argument for a column. -/
def argumentName (column : String) : TargetLanguage → String
  | .typeScript =>
    let name := sanitized (camelCase column)
    if isTypeScriptKeyword name then name ++ "Value" else name
  | .rust => fieldName column .rust

/-! ## Declarations -/

/-- A field of a record type. -/
structure Field where
  name : String
  column : String
  /-- The type of a value that is present. -/
  type : String
  optional : Bool
  doc : Option String
  deriving DecidableEq, Repr

/-- Whether a record type describes stored rows or values to be stored. -/
inductive Role where
  | row
  | input
  deriving DecidableEq, Repr

/-- A record type. -/
structure Declaration where
  name : String
  table : String
  language : TargetLanguage
  role : Role
  fields : List Field
  doc : Option String
  deriving DecidableEq, Repr

/-- The field for a column. -/
def fieldOf (language : TargetLanguage) (c : Column) : Field where
  name := fieldName c.name language
  column := c.name
  type := c.scalarType.typeIn language
  optional := c.nullable
  doc := c.comment

/-- Refuses names of which two are the same. -/
def refuseConflict (scope : NameScope) (names : List String) (ignoreCase : Bool) :
    Except Error Unit :=
  match firstConflict names ignoreCase with
  | some name => .error (.schema (.nameCollision scope name))
  | none => .ok ()

/-- The record type of a table's rows. -/
def recordOf (t : Table) (language : TargetLanguage) : Except Error Declaration := do
  let fields := t.columns.map (fieldOf language)
  refuseConflict (.recordFields t.name) (fields.map (·.name)) false
  return {
    name := recordName t.name
    table := t.name
    language := language
    role := .row
    fields := fields
    doc := t.comment }

end SchemaCompiler.Access

import SchemaCompiler.Error
import SchemaCompiler.Json.Parser
import SchemaCompiler.Json.Printer
import SchemaCompiler.Schema.Basic
import SchemaCompiler.Schema.Encoding
import SchemaCompiler.Settings

/-!
# Schema documents

A schema is described by a document that lists tables and relationships.  The same document, written as
JSON, is the snapshot from which the next migration starts.

* `SchemaDocument` — the content of a document.
* `SchemaDocument.ofJson` — the content of a JSON value.
* `SchemaDocument.toJson` — the text of a snapshot.
* `SchemaDocument.normalize` — fills in what a document may leave out about indexes.
* `SchemaDocument.toSchema`, `SchemaDocument.ofSchema` — from documents to schemas and back.
-/

namespace SchemaCompiler

/-- The content of a schema document. -/
structure SchemaDocument where
  tables : List Table := []
  relationships : List Relationship := []
  deriving DecidableEq, Repr

namespace SchemaDocument

open Json

/-! ## Reading -/

/-- The declared type of a column in a document, if it is a string. -/
def declaredType? (column : Json) : Option String := (column.get? "type").bind asString?

/-- The declared types of all columns in a document, as far as it has the form of one. -/
def declaredTypes (document : Json) : List String :=
  ((document.get? "tables").map items).getD [] |>.flatMap fun table =>
    (((table.get? "columns").map items).getD []).filterMap declaredType?

/-- The first declared type that is not known. -/
def unknownType? (document : Json) : Option GenerationError :=
  (declaredTypes document).findSome? fun name =>
    match ScalarType.ofDeclared name with
    | .ok _ => none
    | .error e => some e

/-- A document by name or by place. -/
def decode : Decoder SchemaDocument :=
  record "SchemaDocument"
    (fun o => do
      let relationships ← field o "relationships" (asList Relationship.decode)
      let tables ← field o "tables" (asList Table.decode)
      return { tables := tables.getD [], relationships := relationships.getD [] })
    (fun xs => do
      let tables ← elementOr xs 0 (asList Table.decode) []
      let relationships ← elementOr xs 1 (asList Relationship.decode) []
      noMoreThan xs 2
      return { tables := tables, relationships := relationships })

/-- The document that a JSON value describes.  Unknown column types are reported before anything
else. -/
def ofJson (j : Json) : Except Error SchemaDocument :=
  match unknownType? j with
  | some e => .error (.generation e)
  | none => (decode j).mapError fun e => .document (.unfit e)

/-! ## Writing -/

/-- The document as an object. -/
def encode (d : SchemaDocument) : Json :=
  .object (("tables", .array (d.tables.map Table.encode))
    :: optionalList "relationships" Relationship.encode d.relationships)

/-- The text of a snapshot. -/
def toJson (d : SchemaDocument) : String := d.encode.pretty ++ "\n"

/-! ## Normalization -/

/-- An index with its table and its name filled in where they were left out. -/
def normalizeIndex (naming : NamingSettings) (t : Table) (i : Index) : Index :=
  let table := if i.table = "" then t.name else i.table
  let name :=
    if i.name = "" then
      Naming.truncated (Naming.indexName naming.indexPattern t.name i.columns)
        naming.maxIdentifierLength
    else i.name
  { i with table := table, name := name }

/-- A table with its indexes completed. -/
def normalizeTable (naming : NamingSettings) (t : Table) : Table :=
  { t with indexes := t.indexes.map (normalizeIndex naming t) }

/-- Fills in the names and tables of indexes that leave them out. -/
def normalize (naming : NamingSettings) (d : SchemaDocument) : SchemaDocument :=
  { d with tables := d.tables.map (normalizeTable naming) }

/-! ## Schemas -/

/-- Inserts the tables one by one and collects the refusals. -/
def insertAll (s : Schema) : List Table → Schema × List SchemaError
  | [] => (s, [])
  | t :: rest =>
    match s.insert t with
    | .ok s => insertAll s rest
    | .error e =>
      let (s, errors) := insertAll s rest
      (s, e :: errors)

/-- The schema that a document describes; every table that repeats a name is reported. -/
def toSchema (d : SchemaDocument) : Except Error Schema :=
  let (s, errors) := insertAll .empty d.tables
  match errors with
  | [] => .ok { s with relationships := d.relationships }
  | errors => .error (.validation errors)

/-- The document that describes a schema. -/
def ofSchema (s : Schema) : SchemaDocument := ⟨s.tables, s.relationships⟩

end SchemaDocument

end SchemaCompiler

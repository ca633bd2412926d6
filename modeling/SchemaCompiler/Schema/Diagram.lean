import SchemaCompiler.Naming.Derived
import SchemaCompiler.Schema.Basic

/-!
# The entity diagram

The schema as the text of an entity-relationship diagram: a block for each table with its columns, a
line for each stated relationship, and a line for each foreign key that no relationship accounts for.
The diagram is a view of the schema as it stands; nothing is checked.

* `columnLine`, `tableLines`, `relationshipLine`, `foreignKeyLines` — the lines.
* `Schema.diagram` — the text.
-/

namespace SchemaCompiler.Schema

open Naming (sanitized)
open Text (sameName)

/-- The marks of a column: part of the primary key, foreign key, unique. -/
def keyMarks (t : Table) (c : Column) : List String :=
  (if t.primaryKey.any (sameName · c.name) then ["PK"] else [])
    ++ (if c.references.isSome then ["FK"] else [])
    ++ (if c.unique then ["UK"] else [])

/-- The line of a column. -/
def columnLine (t : Table) (c : Column) : String :=
  let marks := keyMarks t c
  "        " ++ c.scalarType.sqlName ++ " " ++ sanitized c.name
    ++ (if marks.isEmpty then "" else " " ++ ", ".intercalate marks)

/-- The block of a table. -/
def tableLines (t : Table) : List String :=
  ("    " ++ sanitized t.name ++ " \x7b") :: t.columns.map (columnLine t) ++ ["    \x7d"]

/-- The connector of a kind of relationship. -/
def connector : RelationshipKind → String
  | .oneToOne => "||--||"
  | .oneToMany | .selfReferential => "||--o\x7b"
  | .manyToMany => "\x7do--o\x7b"

/-- A line that connects two tables. -/
def edgeLine (source connector target label : String) : String :=
  "    " ++ sanitized source ++ " " ++ connector ++ " " ++ sanitized target ++ " : \"" ++ label
    ++ "\""

/-- The line of a stated relationship. -/
def relationshipLine (r : Relationship) : String :=
  edgeLine r.source (connector r.kind) r.target r.kind.name

/-- Whether a relationship accounts for a foreign key from `child` to `parent`. -/
def accountsFor (s : Schema) (child parent : String) (r : Relationship) : Bool :=
  match r.kind with
  | .oneToMany | .selfReferential => sameName r.source parent && sameName r.target child
  | .oneToOne =>
    (sameName r.source parent && sameName r.target child)
      || (sameName r.source child && sameName r.target parent)
  | .manyToMany =>
    let junction := match r.through with
      | some name => sameName name child
      | none => (s.table? child).any fun t => isJunction t r.source r.target
    junction && (sameName r.source parent || sameName r.target parent)

/-- The lines of a table's foreign keys that no relationship accounts for. -/
def foreignKeyLines (s : Schema) (t : Table) : List String :=
  t.foreignKeys.filterMap fun (c, target) =>
    if s.relationships.any (s.accountsFor t.name target.table) then none
    else
      let parent := if c.nullable then "|o" else "||"
      let child := if t.isUniqueColumn c.name then "o|" else "o\x7b"
      some (edgeLine target.table (parent ++ "--" ++ child) t.name c.name)

/-- The text of the diagram. -/
def diagram (s : Schema) : String :=
  let lines := "erDiagram" :: s.tables.flatMap tableLines ++ s.relationships.map relationshipLine
    ++ s.tables.flatMap s.foreignKeyLines
  "\n".intercalate lines ++ "\n"

end SchemaCompiler.Schema

import SchemaCompiler.Json.Basic
import SchemaCompiler.Schema.Decoding

/-!
# Writing the parts of a schema

The JSON form of columns, indexes, constraints, tables and relationships, in the order in which their
fields are written.  A field that may be absent is left out when it is; the flags of a column and the
kind of an index are always written.
-/

namespace SchemaCompiler

/-- A field that is left out when there is nothing to write. -/
def Json.optionalField {α : Type} (key : String) (encode : α → Json) : Option α → List (String × Json)
  | some x => [(key, encode x)]
  | none => []

/-- A list that is left out when it is empty. -/
def Json.optionalList {α : Type} (key : String) (encode : α → Json) (xs : List α) :
    List (String × Json) :=
  if xs.isEmpty then [] else [(key, .array (xs.map encode))]

/-- A list of names. -/
def Json.names (xs : List String) : Json := .array (xs.map .string)

namespace OnDelete

/-- The name of an action in documents. -/
def key : OnDelete → String
  | .cascade => "cascade"
  | .setNull => "set_null"
  | .setDefault => "set_default"
  | .restrict => "restrict"
  | .noAction => "no_action"

end OnDelete

/-- The name of a kind of index in documents. -/
def IndexKind.key : IndexKind → String
  | .standard => "standard"
  | .unique => "unique"
  | .filtered => "partial"
  | .expression => "expression"
  | .covering => "covering"

/-- The name of a kind of relationship in documents. -/
def RelationshipKind.key : RelationshipKind → String
  | .oneToOne => "one_to_one"
  | .oneToMany => "one_to_many"
  | .manyToMany => "many_to_many"
  | .selfReferential => "self_referential"

/-- The target of a foreign key as an object. -/
def ForeignKey.encode (r : ForeignKey) : Json :=
  .object [("table", .string r.table), ("column", .string r.column)]

/-- A column as an object. -/
def Column.encode (c : Column) : Json :=
  .object (
    [("name", .string c.name), ("type", .string c.scalarType.sqlName), ("nullable", .bool c.nullable),
      ("primary_key", .bool c.primaryKey), ("auto_increment", .bool c.autoIncrement),
      ("unique", .bool c.unique)]
    ++ Json.optionalField "default" .string c.defaultValue
    ++ Json.optionalField "check" .string c.check
    ++ Json.optionalField "references" ForeignKey.encode c.references
    ++ (if c.onDelete = .noAction then [] else [("on_delete", .string c.onDelete.key)])
    ++ Json.optionalField "comment" .string c.comment)

/-- An index as an object. -/
def Index.encode (i : Index) : Json :=
  .object (
    [("name", .string i.name), ("table", .string i.table), ("columns", Json.names i.columns),
      ("kind", .string i.kind.key)]
    ++ Json.optionalField "condition" .string i.condition
    ++ Json.optionalList "include" .string i.carried)

/-- A constraint as an object. -/
def TableConstraint.encode : TableConstraint → Json
  | .primaryKey cs => .object [("kind", .string "primary_key"), ("columns", Json.names cs)]
  | .unique cs => .object [("kind", .string "unique"), ("columns", Json.names cs)]
  | .check e => .object [("kind", .string "check"), ("expression", .string e)]

/-- A table as an object. -/
def Table.encode (t : Table) : Json :=
  .object (
    [("name", .string t.name), ("columns", .array (t.columns.map Column.encode))]
    ++ Json.optionalList "indexes" Index.encode t.indexes
    ++ Json.optionalList "constraints" TableConstraint.encode t.constraints
    ++ Json.optionalField "comment" .string t.comment)

/-- A relationship as an object. -/
def Relationship.encode (r : Relationship) : Json :=
  .object (
    [("from", .string r.source), ("to", .string r.target), ("kind", .string r.kind.key)]
    ++ Json.optionalField "through" .string r.through)

end SchemaCompiler

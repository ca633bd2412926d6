import SchemaCompiler.Json.Decode
import SchemaCompiler.Schema.Table

/-!
# Reading the parts of a schema

The readers of columns, indexes, constraints, tables and relationships.  Each record is read by name or
by place; by name its known fields are visited in ascending order of their keys, and required fields
that are missing are reported afterwards in the order of the record.
-/

namespace SchemaCompiler

open Json

/-! ## Names of variants -/

/-- The names of the actions. -/
def OnDelete.variants : List (String × OnDelete) :=
  [("cascade", .cascade), ("set_null", .setNull), ("set_default", .setDefault),
    ("restrict", .restrict), ("no_action", .noAction)]

/-- The names of the kinds of index. -/
def IndexKind.variants : List (String × IndexKind) :=
  [("standard", .standard), ("unique", .unique), ("partial", .filtered),
    ("expression", .expression), ("covering", .covering)]

/-- The names of the kinds of relationship. -/
def RelationshipKind.variants : List (String × RelationshipKind) :=
  [("one_to_one", .oneToOne), ("one_to_many", .oneToMany), ("many_to_many", .manyToMany),
    ("self_referential", .selfReferential)]

/-! ## Columns -/

/-- A scalar type by any declared name. -/
def ScalarType.decode : Decoder ScalarType := fun j => do
  match ofDeclared (← asText j) with
  | .ok t => .ok t
  | .error e => .error (.unusable e)

/-- The target of a foreign key. -/
def ForeignKey.decode : Decoder ForeignKey :=
  record "ForeignKeyRef"
    (fun o => do
      let column ← field o "column" asText
      let table ← field o "table" asText
      return { table := ← required "table" table, column := ← required "column" column })
    (fun xs => do
      let extent := Extent.fields "ForeignKeyRef" 2
      let table ← element xs 0 asText extent
      let column ← element xs 1 asText extent
      noMoreThan xs 2
      return { table := table, column := column })

/-- A column. -/
def Column.decode : Decoder Column :=
  record "Column"
    (fun o => do
      let autoIncrement ← field o "auto_increment" asFlag
      let check ← field o "check" (asOptional asText)
      let comment ← field o "comment" (asOptional asText)
      let defaultValue ← field o "default" (asOptional asText)
      let name ← field o "name" asText
      let nullable ← field o "nullable" asFlag
      let onDelete ← field o "on_delete" (asVariant OnDelete.variants)
      let primaryKey ← field o "primary_key" asFlag
      let references ← field o "references" (asOptional ForeignKey.decode)
      let scalarType ← field o "type" ScalarType.decode
      let unique ← field o "unique" asFlag
      return {
        name := ← required "name" name
        scalarType := ← required "type" scalarType
        nullable := nullable.getD false
        primaryKey := primaryKey.getD false
        autoIncrement := autoIncrement.getD false
        unique := unique.getD false
        defaultValue := defaultValue.getD none
        check := check.getD none
        references := references.getD none
        onDelete := onDelete.getD .noAction
        comment := comment.getD none })
    (fun xs => do
      let extent := Extent.fields "Column" 11
      let name ← element xs 0 asText extent
      let scalarType ← element xs 1 ScalarType.decode extent
      let nullable ← elementOr xs 2 asFlag false
      let primaryKey ← elementOr xs 3 asFlag false
      let autoIncrement ← elementOr xs 4 asFlag false
      let unique ← elementOr xs 5 asFlag false
      let defaultValue ← elementOr xs 6 (asOptional asText) none
      let check ← elementOr xs 7 (asOptional asText) none
      let references ← elementOr xs 8 (asOptional ForeignKey.decode) none
      let onDelete ← elementOr xs 9 (asVariant OnDelete.variants) .noAction
      let comment ← elementOr xs 10 (asOptional asText) none
      noMoreThan xs 11
      return {
        name := name, scalarType := scalarType, nullable := nullable, primaryKey := primaryKey
        autoIncrement := autoIncrement, unique := unique, defaultValue := defaultValue
        check := check, references := references, onDelete := onDelete, comment := comment })

/-! ## Indexes -/

/-- An index; its name and its table may be left out. -/
def Index.decode : Decoder Index :=
  record "Index"
    (fun o => do
      let columns ← field o "columns" (asList asText)
      let condition ← field o "condition" (asOptional asText)
      let carried ← field o "include" (asList asText)
      let kind ← field o "kind" (asVariant IndexKind.variants)
      let name ← field o "name" asText
      let table ← field o "table" asText
      return {
        name := name.getD ""
        table := table.getD ""
        columns := ← required "columns" columns
        kind := kind.getD .standard
        condition := condition.getD none
        carried := carried.getD [] })
    (fun xs => do
      let name ← elementOr xs 0 asText ""
      let table ← elementOr xs 1 asText ""
      let columns ← element xs 2 (asList asText) (.fields "Index" 6)
      let kind ← elementOr xs 3 (asVariant IndexKind.variants) .standard
      let condition ← elementOr xs 4 (asOptional asText) none
      let carried ← elementOr xs 5 (asList asText) []
      noMoreThan xs 6
      return {
        name := name, table := table, columns := columns, kind := kind
        condition := condition, carried := carried })

/-! ## Constraints -/

/-- The single field of a constraint's form: by name, or as the only element. -/
def TableConstraint.content {α : Type} (form fieldName : String) (value : Decoder α)
    (j : Json) : Except DecodeError α :=
  match j with
  | .array xs => do
    let x ← element xs 0 value (.variantFields form 1)
    if xs.length ≤ 1 then return x
    else .error (.wrongLength xs.length (.exactly 1))
  | .object o => do required fieldName (← field o fieldName value)
  | j => .error (.wrongType j (.record form))

/-- The forms of a constraint: how each reads its content. -/
def TableConstraint.variants : List (String × Decoder TableConstraint) :=
  [("primary_key", fun j =>
      return .primaryKey (← content "TableConstraint::PrimaryKey" "columns" (asList asText) j)),
    ("unique", fun j => return .unique (← content "TableConstraint::Unique" "columns" (asList asText) j)),
    ("check", fun j => return .check (← content "TableConstraint::Check" "expression" asText j))]

/-- The form that a tag names. -/
def TableConstraint.form : Decoder (Decoder TableConstraint)
  | .string name => variantNamed TableConstraint.variants name
  | j => .error (.wrongType j .variantName)

/-- A constraint: its form stands in the field `kind`, or comes first in an array. -/
def TableConstraint.decode : Decoder TableConstraint
  | .object o => do
    let form ← required "kind" (← field o "kind" TableConstraint.form)
    form (.object o)
  | .array (tag :: rest) => do
    let form ← TableConstraint.form tag
    form (.array rest)
  | .array [] => .error (.missingField "kind")
  | j => .error (.wrongType j (.taggedRecord "TableConstraint"))

/-! ## Tables and relationships -/

/-- A table. -/
def Table.decode : Decoder Table :=
  record "Table"
    (fun o => do
      let columns ← field o "columns" (asList Column.decode)
      let comment ← field o "comment" (asOptional asText)
      let constraints ← field o "constraints" (asList TableConstraint.decode)
      let indexes ← field o "indexes" (asList Index.decode)
      let name ← field o "name" asText
      return {
        name := ← required "name" name
        columns := ← required "columns" columns
        indexes := indexes.getD []
        constraints := constraints.getD []
        comment := comment.getD none })
    (fun xs => do
      let extent := Extent.fields "Table" 5
      let name ← element xs 0 asText extent
      let columns ← element xs 1 (asList Column.decode) extent
      let indexes ← elementOr xs 2 (asList Index.decode) []
      let constraints ← elementOr xs 3 (asList TableConstraint.decode) []
      let comment ← elementOr xs 4 (asOptional asText) none
      noMoreThan xs 5
      return {
        name := name, columns := columns, indexes := indexes, constraints := constraints
        comment := comment })

/-- A relationship. -/
def Relationship.decode : Decoder Relationship :=
  record "Relationship"
    (fun o => do
      let source ← field o "from" asText
      let kind ← field o "kind" (asVariant RelationshipKind.variants)
      let through ← field o "through" (asOptional asText)
      let target ← field o "to" asText
      return {
        source := ← required "from" source
        target := ← required "to" target
        kind := ← required "kind" kind
        through := through.getD none })
    (fun xs => do
      let extent := Extent.fields "Relationship" 4
      let source ← element xs 0 asText extent
      let target ← element xs 1 asText extent
      let kind ← element xs 2 (asVariant RelationshipKind.variants) extent
      let through ← elementOr xs 3 (asOptional asText) none
      noMoreThan xs 4
      return { source := source, target := target, kind := kind, through := through })

end SchemaCompiler

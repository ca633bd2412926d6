import SchemaCompiler.Schema.Column
import SchemaCompiler.Schema.Index
import SchemaCompiler.Schema.Relationship

/-!
# Faults of a schema

Everything that can be structurally wrong with a schema.  Validation collects all faults that it finds;
the operations that build a schema refuse with one.

* `NameScope` — where derived names have to differ.
* `SchemaError`, `SchemaError.message` — the faults and their wording.
-/

namespace SchemaCompiler

/-- Where derived names have to differ from one another. -/
inductive NameScope where
  | recordFields (table : String)
  | operations (table : String)
  | typeNames
  | modules
  deriving DecidableEq, Repr

/-- The scope in words. -/
def NameScope.message : NameScope → String
  | .recordFields table => "record fields of table '" ++ table ++ "'"
  | .operations table => "repository operations of table '" ++ table ++ "'"
  | .typeNames => "generated type names"
  | .modules => "repository modules"

/-- A structural fault of a schema. -/
inductive SchemaError where
  | duplicateTable (table : String)
  | duplicateColumn (table column : String)
  | ambiguousPrimaryKey (table : String) (columns : List String)
  | danglingForeignKey (table column : String) (target : ForeignKey)
  | foreignKeyTargetNotUnique (table column : String) (target : ForeignKey)
  | cyclicForeignKey (tables : List String)
  | nameCollision (scope : NameScope) (name : String)
  | invalidIndexColumn (index column : String)
  | duplicateIndex (index : String)
  | misplacedIndex (index indexTable table : String)
  | invalidIndex (index : String) (fault : Index.Fault)
  | invalidColumn (table column : String) (fault : Column.Fault)
  | unknownTable (table : String)
  | missingJunctionTable (source target : String)
  | inconsistentRelationship (source target : String) (kind : RelationshipKind)
  deriving DecidableEq, Repr

/-- The fault in words. -/
def SchemaError.message : SchemaError → String
  | .duplicateTable table => "Table '" ++ table ++ "' is declared more than once"
  | .duplicateColumn table column =>
    "Column '" ++ column ++ "' is declared more than once in table '" ++ table ++ "'"
  | .ambiguousPrimaryKey table columns =>
    "Table '" ++ table ++ "' has several primary key columns (" ++ ", ".intercalate columns
      ++ ") without a composite PRIMARY KEY constraint"
  | .danglingForeignKey table column target =>
    "Column '" ++ table ++ "." ++ column ++ "' references missing column '" ++ target.table ++ "."
      ++ target.column ++ "'"
  | .foreignKeyTargetNotUnique table column target =>
    "Column '" ++ table ++ "." ++ column ++ "' references '" ++ target.table ++ "."
      ++ target.column ++ "', which is neither unique nor a primary key"
  | .cyclicForeignKey tables =>
    "Foreign keys form a cycle between tables: " ++ ", ".intercalate tables
  | .nameCollision scope name => "Derived name '" ++ name ++ "' collides in " ++ scope.message
  | .invalidIndexColumn index column =>
    "Index '" ++ index ++ "' names column '" ++ column ++ "', which does not exist on its table"
  | .duplicateIndex index => "Index '" ++ index ++ "' is declared more than once in the schema"
  | .misplacedIndex index indexTable table =>
    "Index '" ++ index ++ "' belongs to table '" ++ indexTable ++ "' but was attached to table '"
      ++ table ++ "'"
  | .invalidIndex index fault => "Index '" ++ index ++ "' is invalid: " ++ fault.message
  | .invalidColumn table column fault =>
    "Column '" ++ table ++ "." ++ column ++ "' is invalid: " ++ fault.message
  | .unknownTable table => "Relationship refers to unknown table '" ++ table ++ "'"
  | .missingJunctionTable source target =>
    "Many-to-many relationship between '" ++ source ++ "' and '" ++ target
      ++ "' has no junction table with a composite key over both foreign keys"
  | .inconsistentRelationship source target kind =>
    "Relationship " ++ kind.name ++ " from '" ++ source ++ "' to '" ++ target
      ++ "' has no matching foreign key"

end SchemaCompiler

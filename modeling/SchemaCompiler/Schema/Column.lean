import SchemaCompiler.Schema.ScalarType
import SchemaCompiler.Sql.Statement

/-!
# Columns

A column has a name, a type and the demands made of its values.  A column is `NOT NULL` unless it is
declared nullable.

* `OnDelete` — what deleting a referenced row does to the rows that refer to it.
* `ForeignKey` — the column that a foreign key refers to.
* `Column` — a column, with builders that change one property each.
* `Column.faults` — the rules that a column can break by itself.
* `Column.canAddInPlace` — whether SQLite can add the column to a table that has rows.
* `Column.toDef` — the column's definition in SQL.
-/

namespace SchemaCompiler

/-! ## Foreign keys -/

/-- What deleting a referenced row does to the rows that refer to it. -/
inductive OnDelete where
  | cascade
  | setNull
  | setDefault
  | restrict
  | noAction
  deriving DecidableEq, Repr

/-- The action in SQL. -/
def OnDelete.sql : OnDelete → String
  | .cascade => "CASCADE"
  | .setNull => "SET NULL"
  | .setDefault => "SET DEFAULT"
  | .restrict => "RESTRICT"
  | .noAction => "NO ACTION"

/-- Whether deleting a referenced row writes to the rows that refer to it. -/
def OnDelete.modifiesChildren : OnDelete → Bool
  | .cascade | .setNull | .setDefault => true
  | .restrict | .noAction => false

/-- The column that a foreign key refers to. -/
structure ForeignKey where
  table : String
  column : String
  deriving DecidableEq, Repr

/-! ## The column -/

/-- A column of a table. -/
structure Column where
  name : String
  scalarType : ScalarType
  nullable : Bool := false
  primaryKey : Bool := false
  autoIncrement : Bool := false
  unique : Bool := false
  defaultValue : Option String := none
  check : Option String := none
  references : Option ForeignKey := none
  onDelete : OnDelete := .noAction
  comment : Option String := none
  deriving DecidableEq, Repr

namespace Column

/-- A `NOT NULL` column without further properties. -/
def ofType (name : String) (scalarType : ScalarType) : Column :=
  { name := name, scalarType := scalarType }

/-- The column, admitting NULL. -/
def asNullable (c : Column) : Column := { c with nullable := true }

/-- The column as a part of the primary key, which never admits NULL. -/
def asPrimaryKey (c : Column) : Column := { c with primaryKey := true, nullable := false }

/-- The column as a primary key that SQLite counts up. -/
def asAutoIncrement (c : Column) : Column := { c.asPrimaryKey with autoIncrement := true }

/-- The column, admitting each value once. -/
def asUnique (c : Column) : Column := { c with unique := true }

/-- The column with a default expression. -/
def withDefault (c : Column) (expr : String) : Column := { c with defaultValue := some expr }

/-- The column with a condition on its values. -/
def withCheck (c : Column) (expr : String) : Column := { c with check := some expr }

/-- The column as a foreign key. -/
def referring (c : Column) (table column : String) : Column :=
  { c with references := some ⟨table, column⟩ }

/-- The column with an action for the deletion of the row it refers to. -/
def withOnDelete (c : Column) (action : OnDelete) : Column := { c with onDelete := action }

/-- The column with a comment. -/
def withComment (c : Column) (text : String) : Column := { c with comment := some text }

/-! ## Rules -/

/-- What can be wrong with a column in its table. -/
inductive Fault where
  | autoIncrementWithoutKey
  | autoIncrementNotInteger
  | nullableKey
  | nullTypeNotNullable
  | onDeleteWithoutReference
  | setNullNotNullable
  | setDefaultWithoutDefault
  | autoIncrementInCompositeKey
  | emptyConstraint
  | constrainedButUndeclared
  deriving DecidableEq, Repr

/-- The fault in words. -/
def Fault.message : Fault → String
  | .autoIncrementWithoutKey => "auto-increment requires a primary key"
  | .autoIncrementNotInteger => "auto-increment requires an INTEGER column"
  | .nullableKey => "a primary key column cannot be nullable"
  | .nullTypeNotNullable => "a NULL typed column must be nullable"
  | .onDeleteWithoutReference => "on_delete is only meaningful on a foreign key"
  | .setNullNotNullable => "ON DELETE SET NULL needs a nullable column"
  | .setDefaultWithoutDefault => "ON DELETE SET DEFAULT needs a default value"
  | .autoIncrementInCompositeKey => "auto-increment cannot be part of a composite key"
  | .emptyConstraint => "a table constraint needs at least one column"
  | .constrainedButUndeclared => "named by a table constraint but not declared"

/-- The rules that a column breaks by itself. -/
def faults (c : Column) : List Fault :=
  [(c.autoIncrement && !c.primaryKey, Fault.autoIncrementWithoutKey),
    (c.autoIncrement && c.scalarType != .integer, .autoIncrementNotInteger),
    (c.primaryKey && c.nullable, .nullableKey),
    (c.scalarType == .null && !c.nullable, .nullTypeNotNullable),
    (c.references.isNone && c.onDelete != .noAction, .onDeleteWithoutReference),
    (c.onDelete == .setNull && !c.nullable, .setNullNotNullable),
    (c.onDelete == .setDefault && c.defaultValue.isNone, .setDefaultWithoutDefault)].filterMap
      fun (broken, fault) => if broken then some fault else none

/-! ## Adding a column -/

/-- The defaults that SQLite evaluates for each row. -/
def perRowDefaults : List String := ["CURRENT_TIMESTAMP", "CURRENT_DATE", "CURRENT_TIME"]

/-- Whether the default is absent or a constant: neither a time of the insertion nor an expression in
parentheses. -/
def hasConstantDefault (c : Column) : Bool :=
  match c.defaultValue with
  | none => true
  | some expr =>
    let expr := Text.trim expr
    !(expr.toList.head? == some '(' || perRowDefaults.contains (Text.toAsciiUppercase expr))

/-- Whether SQLite can add the column to a table that has rows: rows present must get a value, the
same for all, and a foreign key must start out as NULL. -/
def canAddInPlace (c : Column) : Bool :=
  !(c.primaryKey || c.unique) && (c.nullable || c.defaultValue.isSome) && c.hasConstantDefault
    && !(c.references.isSome && c.defaultValue.isSome)

/-! ## The definition in SQL -/

/-- The action as it is written behind a reference; the default action is left out. -/
def writtenOnDelete (c : Column) : Option String :=
  if c.onDelete = .noAction then none else some c.onDelete.sql

/-- The column's definition.  A primary key is written on the column only where `inlineKey` says so,
which it does unless the table has a key constraint of its own. -/
def toDef (c : Column) (inlineKey : Bool) : Sql.ColumnDef where
  name := c.name
  typeName := c.scalarType.sqlName
  constraints :=
    (if c.primaryKey && inlineKey then [.primaryKey c.autoIncrement] else [])
      ++ (if c.nullable then [] else [.notNull])
      ++ (if c.unique && !(c.primaryKey && inlineKey) then [.unique] else [])
      ++ (c.defaultValue.toList.map .default)
      ++ (c.check.toList.map .check)
      ++ (c.references.toList.map fun r => .references r.table r.column c.writtenOnDelete)

end Column

end SchemaCompiler

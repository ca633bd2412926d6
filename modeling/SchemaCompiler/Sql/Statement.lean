/-!
# SQL statements

The statements that the compiler emits, as data.  Names are held as they are and raw SQL text —
defaults, conditions, expressions — is held unread; only `Sql/Printer` turns either into text, so the
rules of quoting stand in one place.

* `ColumnDef` — a column as it is defined in `CREATE TABLE` or `ALTER TABLE … ADD COLUMN`.
* `Statement` — one statement.
-/

namespace SchemaCompiler.Sql

/-- What a column definition demands of the column's values. -/
inductive ColumnConstraint where
  | primaryKey (autoincrement : Bool)
  | notNull
  | unique
  | default (expr : String)
  | check (expr : String)
  | references (table column : String) (onDelete : Option String)
  deriving DecidableEq, Repr

/-- A column definition. -/
structure ColumnDef where
  name : String
  typeName : String
  constraints : List ColumnConstraint
  deriving DecidableEq, Repr

/-- What a table definition demands of its rows. -/
inductive TableConstraintDef where
  | primaryKey (columns : List String)
  | unique (columns : List String)
  | check (expr : String)
  deriving DecidableEq, Repr

/-- One key of an index: a column or a raw expression. -/
inductive IndexTerm where
  | column (name : String)
  | expression (expr : String)
  deriving DecidableEq, Repr

/-- The parts of `CREATE TABLE`. -/
structure CreateTable where
  name : String
  ifNotExists : Bool
  columns : List ColumnDef
  constraints : List TableConstraintDef
  comment : Option String
  deriving DecidableEq, Repr

/-- The parts of `CREATE INDEX`. -/
structure CreateIndex where
  name : String
  table : String
  unique : Bool
  terms : List IndexTerm
  condition : Option String
  deriving DecidableEq, Repr

/-- One statement.  Queries filter by equality on the columns of `filter` and number their parameters
from one. -/
inductive Statement where
  | createTable (table : CreateTable)
  | dropTable (name : String) (ifExists : Bool)
  | renameTable (source target : String)
  | addColumn (table : String) (column : ColumnDef)
  | dropColumn (table column : String)
  | renameColumn (table source target : String)
  | createIndex (index : CreateIndex)
  | dropIndex (name : String) (ifExists : Bool)
  /-- Inserts into one table the given columns of every row of another. -/
  | copyRows (source target : String) (columns : List String)
  | pragma (name : String) (value : Option String)
  | select (table : String) (filter orderBy : List String) (paginate : Bool)
  | insert (table : String) (columns : List String) (returning : Bool)
  | update (table : String) (set filter : List String) (returning : Bool)
  | delete (table : String) (filter : List String)
  | comment (text : String)
  deriving DecidableEq, Repr

end SchemaCompiler.Sql

import SchemaCompiler.Error.Schema

/-!
# Tables

A table is a list of columns with the indexes and constraints laid over them.  Names of columns are
compared as SQL does, without regard to the case of ASCII letters.

* `Table`, `Table.column?` — a table and the look-up of a column.
* `Table.primaryKey`, `Table.isUniqueColumn`, `Table.foreignKeys` — what the declarations amount to.
* `Table.errors` — every rule that can be checked without looking at other tables.
* `Table.addIndex` — attaches an index whose columns exist.
* `Table.toStatement`, `Table.statements` — the table in SQL, alone and with its indexes.
-/

namespace SchemaCompiler

open Text (sameName)

/-- A demand on the rows of a table as a whole. -/
inductive TableConstraint where
  | primaryKey (columns : List String)
  | unique (columns : List String)
  | check (expression : String)
  deriving DecidableEq, Repr

namespace TableConstraint

/-- The columns that a constraint names. -/
def columns : TableConstraint → List String
  | .primaryKey cs | .unique cs => cs
  | .check _ => []

/-- The constraint with every column name replaced. -/
def mapColumns (f : String → String) : TableConstraint → TableConstraint
  | .primaryKey cs => .primaryKey (cs.map f)
  | .unique cs => .unique (cs.map f)
  | .check e => .check e

/-- The columns of a key constraint. -/
def keyColumns? : TableConstraint → Option (List String)
  | .primaryKey cs => some cs
  | .unique _ | .check _ => none

/-- Whether the constraint lists columns and lists none. -/
def listsNothing : TableConstraint → Bool
  | .primaryKey cs | .unique cs => cs.isEmpty
  | .check _ => false

/-- The constraint in SQL. -/
def toDef : TableConstraint → Sql.TableConstraintDef
  | .primaryKey cs => .primaryKey cs
  | .unique cs => .unique cs
  | .check e => .check e

end TableConstraint

/-- A table. -/
structure Table where
  name : String
  columns : List Column := []
  indexes : List Index := []
  constraints : List TableConstraint := []
  comment : Option String := none
  deriving DecidableEq, Repr

namespace Table

/-! ## Building a table -/

/-- A table without columns. -/
def named (name : String) : Table := { name := name }

/-- The table with one more column. -/
def addColumn (t : Table) (c : Column) : Table := { t with columns := t.columns ++ [c] }

/-- The table with one more constraint. -/
def addConstraint (t : Table) (c : TableConstraint) : Table :=
  { t with constraints := t.constraints ++ [c] }

/-- The table with a comment. -/
def withComment (t : Table) (text : String) : Table := { t with comment := some text }

/-! ## What the declarations amount to -/

/-- The column with a name. -/
def column? (t : Table) (name : String) : Option Column :=
  t.columns.find? fun c => sameName c.name name

/-- Whether there is a column with a name. -/
def hasColumn (t : Table) (name : String) : Bool := (t.column? name).isSome

/-- The columns of the first key constraint. -/
def keyConstraint? (t : Table) : Option (List String) :=
  t.constraints.findSome? TableConstraint.keyColumns?

/-- The names of the columns that are marked as the primary key. -/
def markedKey (t : Table) : List String := (t.columns.filter (·.primaryKey)).map (·.name)

/-- The names of the primary key's columns; a key constraint overrides the marks on columns. -/
def primaryKey (t : Table) : List String := t.keyConstraint?.getD t.markedKey

/-- Whether a list of names holds one name only, and that is `column`. -/
def isOnly (column : String) : List String → Bool
  | [name] => sameName name column
  | _ => false

/-- Whether a look-up by one column finds at most one row. -/
def isUniqueColumn (t : Table) (column : String) : Bool :=
  isOnly column t.primaryKey
    || (t.column? column).any (·.unique)
    || t.constraints.any (fun c => match c with
        | .unique cs => isOnly column cs
        | .primaryKey _ | .check _ => false)
    || t.indexes.any (fun i => i.isUnique && isOnly column i.columns)

/-- The columns that refer to other columns, with what they refer to. -/
def foreignKeys (t : Table) : List (Column × ForeignKey) :=
  t.columns.filterMap fun c => c.references.map (c, ·)

/-! ## Rules -/

/-- The errors of an index attached to the table. -/
def indexErrors (t : Table) (i : Index) : List SchemaError :=
  (if i.table = t.name then [] else [.misplacedIndex i.name i.table t.name])
    ++ i.faults.map (.invalidIndex i.name)
    ++ (i.namedColumns.filter (!t.hasColumn ·)).map (.invalidIndexColumn i.name)

/-- Errors about single columns, in declaration order; `seen` holds the keys of the columns before. -/
def columnErrors (table : String) : List String → List Column → List SchemaError
  | _, [] => []
  | seen, c :: rest =>
    let key := Text.toLowercase c.name
    (if seen.contains key then [.duplicateColumn table c.name] else [])
      ++ c.faults.map (.invalidColumn table c.name)
      ++ columnErrors table (key :: seen) rest

/-- Errors about the primary key: marks on several columns need a key constraint, a key constraint
includes every marked column, and there is at most one. -/
def keyErrors (t : Table) : List SchemaError :=
  match t.constraints.filterMap TableConstraint.keyColumns? with
  | [] => if t.markedKey.length > 1 then [.ambiguousPrimaryKey t.name t.markedKey] else []
  | [key] =>
    (if t.markedKey.any fun marked => !key.any (sameName · marked) then
      [.ambiguousPrimaryKey t.name t.markedKey] else [])
    ++ (if key.length > 1 then
      ((t.columns.find? (·.autoIncrement)).map fun c =>
        SchemaError.invalidColumn t.name c.name .autoIncrementInCompositeKey).toList else [])
  | keys => [.ambiguousPrimaryKey t.name keys.flatten]

/-- Errors about a column that a constraint names. -/
def constrainedColumnErrors (t : Table) (constraint : TableConstraint) (name : String) :
    List SchemaError :=
  match t.column? name with
  | none => [.invalidColumn t.name name .constrainedButUndeclared]
  | some c =>
    if c.nullable && constraint.keyColumns?.isSome then [.invalidColumn t.name name .nullableKey]
    else []

/-- Errors about a constraint. -/
def constraintErrors (t : Table) (constraint : TableConstraint) : List SchemaError :=
  (if constraint.listsNothing then [.invalidColumn t.name "" .emptyConstraint] else [])
    ++ constraint.columns.flatMap (t.constrainedColumnErrors constraint)

/-- Errors about the indexes, in declaration order; `seen` holds the keys of the indexes before. -/
def indexesErrors (t : Table) : List String → List Index → List SchemaError
  | _, [] => []
  | seen, i :: rest =>
    let key := Text.toLowercase i.name
    (if seen.contains key then [.duplicateIndex i.name] else [])
      ++ t.indexErrors i
      ++ t.indexesErrors (key :: seen) rest

/-- Every rule that can be checked without looking at other tables. -/
def errors (t : Table) : List SchemaError :=
  columnErrors t.name [] t.columns ++ t.keyErrors ++ t.constraints.flatMap t.constraintErrors
    ++ t.indexesErrors [] t.indexes

/-- Attaches an index; the first of its errors refuses it. -/
def addIndex (t : Table) (i : Index) : Except SchemaError Table :=
  match t.indexErrors i with
  | e :: _ => .error e
  | [] => .ok { t with indexes := t.indexes ++ [i] }

/-! ## SQL -/

/-- The statement that creates the table, without its indexes.  The key is written on its column
unless there is a key constraint. -/
def toStatement (t : Table) : Sql.Statement :=
  .createTable
    { name := t.name
      ifNotExists := false
      columns := t.columns.map (·.toDef t.keyConstraint?.isNone)
      constraints := t.constraints.map (·.toDef)
      comment := t.comment }

/-- The statements that create the indexes, in declaration order. -/
def indexStatements (t : Table) : List Sql.Statement := t.indexes.map (·.toStatement)

/-- The table followed by its indexes. -/
def statements (t : Table) : List Sql.Statement := t.toStatement :: t.indexStatements

end Table

end SchemaCompiler

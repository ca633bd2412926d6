import SchemaCompiler.Sql.Identifier
import SchemaCompiler.Sql.Statement
import SchemaCompiler.Text.Blank

/-!
# SQL text

The written form of statements in the dialect of SQLite.  A statement ends in a semicolon unless it is
a comment, and statements are separated by a blank line.  The only failure is a name without a written
form; where a statement holds several, the first one in the order of writing is reported.

* `commentLines` — free text as comment lines.
* `ColumnDef.render` — a column definition.
* `Statement.render`, `renderAll` — one statement, and several.
-/

namespace SchemaCompiler.Sql

open Text

/-! ## Pieces -/

/-- The parameter with a number. -/
def parameter (n : Nat) : String := "?" ++ decimal n

/-- `column = ?n` for each column, numbered from `first` on. -/
def equalities (first : Nat) (columns : List String) : Except GenerationError (List String) :=
  (columns.zipIdx first).mapM fun (column, n) => return (← quote column) ++ " = " ++ parameter n

/-- A filter by equality on every column. -/
def equalityFilter (first : Nat) (columns : List String) : Except GenerationError String :=
  return " AND ".intercalate (← equalities first columns)

/-- Every line of a text behind the mark of a comment. -/
def commentLines (text : String) : String :=
  "\n".intercalate ((lines text).map fun line => trimEnd ("-- " ++ line))

/-- A text if a flag is set. -/
def onlyIf (flag : Bool) (text : String) : String := if flag then text else ""

/-! ## Definitions -/

/-- A column constraint, with the blank that sets it off. -/
def ColumnConstraint.render : ColumnConstraint → Except GenerationError String
  | .primaryKey autoincrement => return " PRIMARY KEY" ++ onlyIf autoincrement " AUTOINCREMENT"
  | .notNull => return " NOT NULL"
  | .unique => return " UNIQUE"
  | .default expr => return " DEFAULT " ++ expr
  | .check expr => return " CHECK (" ++ expr ++ ")"
  | .references table column onDelete => do
    let target := " REFERENCES " ++ (← quote table) ++ "(" ++ (← quote column) ++ ")"
    match onDelete with
    | some action => return target ++ " ON DELETE " ++ action
    | none => return target

/-- A column definition. -/
def ColumnDef.render (column : ColumnDef) : Except GenerationError String := do
  let head := (← quote column.name) ++ " " ++ column.typeName
  return head ++ String.join (← column.constraints.mapM (·.render))

/-- A table constraint. -/
def TableConstraintDef.render : TableConstraintDef → Except GenerationError String
  | .primaryKey columns => return "PRIMARY KEY (" ++ (← quoteList columns) ++ ")"
  | .unique columns => return "UNIQUE (" ++ (← quoteList columns) ++ ")"
  | .check expr => return "CHECK (" ++ expr ++ ")"

/-- The comment above a table, on lines of its own; a blank one is left out. -/
def commentHeader : Option String → String
  | some comment => onlyIf (!isBlankText comment) (commentLines comment ++ "\n")
  | none => ""

/-- A table definition: a line for each column and constraint, the comment above. -/
def CreateTable.render (table : CreateTable) : Except GenerationError String := do
  let columns ← table.columns.mapM (·.render)
  let constraints ← table.constraints.mapM (·.render)
  let body := ",\n".intercalate ((columns ++ constraints).map ("  " ++ ·))
  return commentHeader table.comment ++ "CREATE TABLE " ++ onlyIf table.ifNotExists "IF NOT EXISTS "
    ++ (← quote table.name) ++ " (\n" ++ body ++ "\n);"

/-- One key of an index. -/
def IndexTerm.render : IndexTerm → Except GenerationError String
  | .column name => quote name
  | .expression expr => return expr

/-- An index definition, without the semicolon. -/
def CreateIndex.render (index : CreateIndex) : Except GenerationError String := do
  let terms := ", ".intercalate (← index.terms.mapM (·.render))
  let head := "CREATE " ++ onlyIf index.unique "UNIQUE " ++ "INDEX IF NOT EXISTS "
    ++ (← quote index.name) ++ " ON " ++ (← quote index.table) ++ " (" ++ terms ++ ")"
  match index.condition with
  | some condition => return head ++ " WHERE " ++ condition
  | none => return head

/-! ## Statements -/

/-- The condition of a query; without columns there is none. -/
def whereClause (filter : List String) : Except GenerationError String :=
  if filter.isEmpty then return "" else return " WHERE " ++ (← equalityFilter 1 filter)

/-- The order of a query's rows; without columns it is left open. -/
def orderClause (columns : List String) : Except GenerationError String :=
  if columns.isEmpty then return "" else return " ORDER BY " ++ (← quoteList columns)

/-- A query for all columns; the parameters of a page follow the filter's. -/
def renderSelect (table : String) (filter orderBy : List String) (paginate : Bool) :
    Except GenerationError String := do
  let page := onlyIf paginate
    (" LIMIT " ++ parameter (filter.length + 1) ++ " OFFSET " ++ parameter (filter.length + 2))
  return "SELECT * FROM " ++ (← quote table) ++ (← whereClause filter) ++ (← orderClause orderBy)
    ++ page

/-- An insertion of one row; without columns the row takes every default. -/
def renderInsert (table : String) (columns : List String) : Except GenerationError String := do
  let head := "INSERT INTO " ++ (← quote table)
  if columns.isEmpty then return head ++ " DEFAULT VALUES"
  else
    let values := ", ".intercalate ((List.range columns.length).map fun i => parameter (i + 1))
    return head ++ " (" ++ (← quoteList columns) ++ ") VALUES (" ++ values ++ ")"

/-- An update of the rows that the filter admits; the filter's parameters follow the new values'. -/
def renderUpdate (table : String) (set filter : List String) : Except GenerationError String := do
  let values := ", ".intercalate (← equalities 1 set)
  return "UPDATE " ++ (← quote table) ++ " SET " ++ values ++ " WHERE "
    ++ (← equalityFilter (set.length + 1) filter)

/-- A statement with its semicolon; a comment has none. -/
def Statement.render : Statement → Except GenerationError String
  | .createTable table => table.render
  | .comment text => return commentLines text
  | .createIndex index => return (← index.render) ++ ";"
  | .dropTable name ifExists =>
    return "DROP TABLE " ++ onlyIf ifExists "IF EXISTS " ++ (← quote name) ++ ";"
  | .renameTable source target =>
    return "ALTER TABLE " ++ (← quote source) ++ " RENAME TO " ++ (← quote target) ++ ";"
  | .addColumn table column =>
    return "ALTER TABLE " ++ (← quote table) ++ " ADD COLUMN " ++ (← column.render) ++ ";"
  | .dropColumn table column =>
    return "ALTER TABLE " ++ (← quote table) ++ " DROP COLUMN " ++ (← quote column) ++ ";"
  | .renameColumn table source target =>
    return "ALTER TABLE " ++ (← quote table) ++ " RENAME COLUMN " ++ (← quote source) ++ " TO "
      ++ (← quote target) ++ ";"
  | .dropIndex name ifExists =>
    return "DROP INDEX " ++ onlyIf ifExists "IF EXISTS " ++ (← quote name) ++ ";"
  | .copyRows source target columns => do
    let list ← quoteList columns
    return "INSERT INTO " ++ (← quote target) ++ " (" ++ list ++ ") SELECT " ++ list ++ " FROM "
      ++ (← quote source) ++ ";"
  | .pragma name (some value) => return "PRAGMA " ++ name ++ " = " ++ value ++ ";"
  | .pragma name none => return "PRAGMA " ++ name ++ ";"
  | .select table filter orderBy paginate =>
    return (← renderSelect table filter orderBy paginate) ++ ";"
  | .insert table columns returning =>
    return (← renderInsert table columns) ++ onlyIf returning " RETURNING *" ++ ";"
  | .update table set filter returning =>
    return (← renderUpdate table set filter) ++ onlyIf returning " RETURNING *" ++ ";"
  | .delete table filter =>
    return "DELETE FROM " ++ (← quote table) ++ " WHERE " ++ (← equalityFilter 1 filter) ++ ";"

/-- Statements separated by a blank line. -/
def renderAll (statements : List Statement) : Except GenerationError String :=
  return "\n\n".intercalate (← statements.mapM (·.render))

end SchemaCompiler.Sql

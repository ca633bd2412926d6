import SchemaCompiler.Access.Declaration
import SchemaCompiler.Sql.Printer

/-!
# Plans of repositories

A plan fixes everything about the access code of a table that does not depend on the syntax of the
target language: the record types, and each operation's name, statement and parameters.  The text of
the code is written from the plan alone.

The values of an operation are bound in the order in which its statement numbers them: the inputs
first, then the keys, then for a listing the limit and the offset.

* `Parameter`, `Operation` — the operations.
* `Plan` — the plan of a table's repository.
* `Plan.ofTable` — the plan for a table.
-/

namespace SchemaCompiler.Access

open Naming Text

/-! ## Operations -/

/-- What an operation does. -/
inductive OperationKind where
  | findById
  | findAll
  /-- Looks a row up by a unique column that is not the primary key. -/
  | findByUnique
  | create
  | update
  | delete
  deriving DecidableEq, Repr

/-- A value bound to a statement. -/
structure Parameter where
  /-- The argument for a key, the field for an input. -/
  name : String
  column : String
  type : String
  optional : Bool
  deriving DecidableEq, Repr

/-- An operation of a repository. -/
structure Operation where
  kind : OperationKind
  name : String
  sql : String
  /-- The values taken from the input record. -/
  inputs : List Parameter
  /-- The values that rows are filtered by. -/
  keys : List Parameter
  deriving DecidableEq, Repr

/-- The bound values in the order of their numbers; a listing binds the limit and the offset after
them. -/
def Operation.bindings (o : Operation) : List Parameter := o.inputs ++ o.keys

/-- Whether the operation lists rows page by page. -/
def Operation.isPaginated (o : Operation) : Bool := o.kind == .findAll

/-! ## Plans -/

/-- Everything about the access code of a table that does not depend on the target's syntax. -/
structure Plan where
  table : String
  language : TargetLanguage
  /-- The name of the file, without its ending. -/
  fileStem : String
  record : Declaration
  createInput : Declaration
  /-- Absent when every column belongs to the primary key. -/
  updateInput : Option Declaration
  /-- Whether SQLite makes the key up when a row is created. -/
  generatedKey : Bool
  operations : List Operation
  deriving DecidableEq, Repr

namespace Plan

/-- The first operation of a kind. -/
def operation? (p : Plan) (kind : OperationKind) : Option Operation :=
  p.operations.find? (·.kind == kind)

/-- The names of the types that the plan declares. -/
def typeNames (p : Plan) : List String :=
  [p.record.name, p.createInput.name] ++ (p.updateInput.map (·.name)).toList

/-! ## Parts of a plan -/

/-- A column as a value that rows are filtered by. -/
def keyParameter (language : TargetLanguage) (c : Column) : Parameter :=
  ⟨argumentName c.name language, c.name, c.scalarType.typeIn language, false⟩

/-- A column as a value taken from an input record. -/
def inputParameter (language : TargetLanguage) (c : Column) : Parameter :=
  ⟨fieldName c.name language, c.name, c.scalarType.typeIn language, c.nullable⟩

/-- An operation's name in the style of the language, from words joined by underscores. -/
def operationName : TargetLanguage → String → String
  | .typeScript => camelCase
  | .rust => snakeCase

/-- The columns of the primary key, in the order of the key. -/
def keyColumns (t : Table) : List Column := t.primaryKey.filterMap t.column?

/-- The columns outside the primary key. -/
def updatable (t : Table) : List Column :=
  t.columns.filter fun c => !t.primaryKey.any (sameName · c.name)

/-- The columns that a new row is given. -/
def insertable (t : Table) : List Column := (updatable t).filter (!·.autoIncrement)

/-- Whether SQLite makes the key up: a single integer column stands for the number of the row. -/
def hasGeneratedKey (t : Table) : Bool :=
  match keyColumns t with
  | [c] => c.autoIncrement || c.scalarType == .integer
  | _ => false

/-- A statement as it is handed to a driver, without the semicolon. -/
def statementText (s : Sql.Statement) : Except Error String :=
  return trimEndWhile (· == ';') (← liftGeneration s.render)

/-- An operation with its statement written out. -/
def operation (kind : OperationKind) (name : String) (statement : Sql.Statement)
    (inputs keys : List Parameter) : Except Error Operation :=
  return ⟨kind, name, ← statementText statement, inputs, keys⟩

/-- Whether a column gets a look-up of its own: it is unique and not by itself the primary key. -/
def hasLookup (t : Table) (c : Column) : Bool :=
  !(Table.isOnly c.name t.primaryKey) && t.isUniqueColumn c.name

/-- The look-up by a unique column. -/
def lookupOperation (t : Table) (language : TargetLanguage) (c : Column) : Except Error Operation :=
  operation .findByUnique
    (operationName language ("find_by_" ++ sanitized (snakeCase c.name)))
    (.select t.name [c.name] [] false) [] [keyParameter language c]

/-- The operations of a table's repository. -/
def operationsOf (t : Table) (language : TargetLanguage) : Except Error (List Operation) := do
  let names (cs : List Column) : List String := cs.map (·.name)
  let keys := keyColumns t
  let keyParameters := keys.map (keyParameter language)
  let findById ← operation .findById (operationName language "find_by_id")
    (.select t.name (names keys) [] false) [] keyParameters
  let findAll ← operation .findAll (operationName language "find_all")
    (.select t.name [] (names keys) true) [] []
  let create ← operation .create "create" (.insert t.name (names (insertable t)) true)
    ((insertable t).map (inputParameter language)) []
  let update ←
    if (updatable t).isEmpty then pure []
    else
      (operation .update "update" (.update t.name (names (updatable t)) (names keys) true)
        ((updatable t).map (inputParameter language)) keyParameters).map fun o => [o]
  let delete ← operation .delete "delete" (.delete t.name (names keys)) [] keyParameters
  let lookups ← (t.columns.filter (hasLookup t)).mapM (lookupOperation t language)
  return [findById, findAll, create] ++ update ++ [delete] ++ lookups

/-- An input record: the fields of a record for some of its columns. -/
def inputOf (record : Declaration) (name : String) (columns : List Column) : Declaration where
  name := name
  table := record.table
  language := record.language
  role := .input
  fields := record.fields.filter fun f => columns.any fun c => c.name == f.column
  doc := none

/-- The plan of a table's repository. -/
def ofTable (t : Table) (language : TargetLanguage) : Except Error Plan := do
  if t.primaryKey.isEmpty then .error (.generation (.missingPrimaryKey t.name))
  let record ← recordOf t language
  let operations ← operationsOf t language
  refuseConflict (.operations t.name) (operations.map (·.name)) false
  return {
    table := t.name
    language := language
    fileStem := sanitized (snakeCase t.name)
    record := record
    createInput := inputOf record ("New" ++ record.name) (insertable t)
    updateInput :=
      if (updatable t).isEmpty then none
      else some (inputOf record (record.name ++ "Update") (updatable t))
    generatedKey := hasGeneratedKey t
    operations := operations }

end Plan

end SchemaCompiler.Access

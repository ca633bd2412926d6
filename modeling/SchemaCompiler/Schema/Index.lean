import SchemaCompiler.Sql.Statement
import SchemaCompiler.Text.LetterCase

/-!
# Indexes

An index belongs to a table and has keys, which are column names or, in an expression index, SQL
expressions.

* `IndexKind` — what is special about an index.
* `Index` — an index, with builders that change its kind.
* `Index.faults` — the rules that an index can break whatever its table.
* `Index.namedColumns` — the columns that have to exist on the table.
* `Index.toStatement`, `Index.dropStatement` — creation and removal in SQL.
-/

namespace SchemaCompiler

/-- What is special about an index. -/
inductive IndexKind where
  | standard
  | unique
  /-- Holds only the rows that satisfy its condition. -/
  | filtered
  /-- Has SQL expressions for keys. -/
  | expression
  /-- Carries further columns behind its keys. -/
  | covering
  deriving DecidableEq, Repr

/-- An index of a table. -/
structure Index where
  name : String
  table : String
  columns : List String
  kind : IndexKind := .standard
  condition : Option String := none
  /-- The columns that a covering index carries. -/
  carried : List String := []
  deriving DecidableEq, Repr

namespace Index

/-- A plain index on the given columns. -/
def ofColumns (name table : String) (columns : List String) : Index :=
  { name := name, table := table, columns := columns }

/-- The index, admitting each key once. -/
def asUnique (i : Index) : Index := { i with kind := .unique }

/-- The index of the rows that satisfy a condition. -/
def filteredBy (i : Index) (condition : String) : Index :=
  { i with kind := .filtered, condition := some condition }

/-- The index with its columns read as SQL expressions. -/
def asExpression (i : Index) : Index := { i with kind := .expression }

/-- The index with further columns behind its keys. -/
def carrying (i : Index) (columns : List String) : Index :=
  { i with kind := .covering, carried := columns }

/-- Whether the index admits each key once. -/
def isUnique (i : Index) : Bool := i.kind == .unique

/-- Whether the first key of the index is a column. -/
def leadsWith (i : Index) (column : String) : Bool :=
  i.kind != .expression &&
    match i.columns.head? with
    | some first => Text.sameName first column
    | none => false

/-! ## Rules -/

/-- What can be wrong with an index whatever its table. -/
inductive Fault where
  | noColumns
  | filteredWithoutCondition
  | conditionWithoutFilter
  | coveringWithoutColumns
  | carriedWithoutCovering
  deriving DecidableEq, Repr

/-- The fault in words. -/
def Fault.message : Fault → String
  | .noColumns => "an index needs at least one column"
  | .filteredWithoutCondition => "a partial index needs a condition"
  | .conditionWithoutFilter => "only partial indexes take a condition"
  | .coveringWithoutColumns => "a covering index needs include columns"
  | .carriedWithoutCovering => "only covering indexes take include columns"

/-- The rules that an index breaks whatever its table. -/
def faults (i : Index) : List Fault :=
  [(i.columns.isEmpty, Fault.noColumns),
    (i.kind == .filtered && i.condition.isNone, .filteredWithoutCondition),
    (i.kind != .filtered && i.condition.isSome, .conditionWithoutFilter),
    (i.kind == .covering && i.carried.isEmpty, .coveringWithoutColumns),
    (i.kind != .covering && !i.carried.isEmpty, .carriedWithoutCovering)].filterMap
      fun (broken, fault) => if broken then some fault else none

/-- The columns that have to exist on the table; the keys of an expression index are no names. -/
def namedColumns (i : Index) : List String :=
  (if i.kind = .expression then [] else i.columns) ++ i.carried

/-! ## SQL -/

/-- The keys in SQL.  Columns carried by the index become further keys, since SQLite has no other
place for them. -/
def terms (i : Index) : List Sql.IndexTerm :=
  if i.kind = .expression then i.columns.map .expression
  else (i.columns ++ i.carried).map .column

/-- The statement that creates the index. -/
def toStatement (i : Index) : Sql.Statement :=
  .createIndex
    { name := i.name, table := i.table, unique := i.isUnique, terms := i.terms,
      condition := i.condition }

/-- The statement that removes the index if it is there. -/
def dropStatement (i : Index) : Sql.Statement := .dropIndex i.name true

end Index

end SchemaCompiler

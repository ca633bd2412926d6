import SchemaCompiler.Schema.Basic

/-!
# Renames between two schemas

A renamed table looks like one table gone and another one new, and only its owner can tell.  Hints name
the renames; a hint counts only if it can be true, that is, if the old name is gone and the new name is
new.

* `RenameHints` — what the owner says.
* `Renames`, `Renames.resolve` — the hints that count for a pair of schemas.
* `Renames.apply` — a table as it stands once the renames have been carried out.
-/

namespace SchemaCompiler

open Text (sameName)

/-! ## Hints -/

/-- A renamed column, under the new name of its table. -/
structure ColumnRename where
  table : String
  old : String
  new : String
  deriving DecidableEq, Repr

/-- The renames that the owner of a schema names: tables by their old and new names, each old name
once, and columns. -/
structure RenameHints where
  tables : List (String × String) := []
  columns : List ColumnRename := []
  deriving DecidableEq, Repr

namespace RenameHints

/-- Replaces the new name behind an old one in its place, or adds the pair at the end. -/
def setTable (old new : String) : List (String × String) → List (String × String)
  | [] => [(old, new)]
  | (o, n) :: rest => if o = old then (old, new) :: rest else (o, n) :: setTable old new rest

/-- The hints with one more renamed table; a second hint for a table replaces the first. -/
def renameTable (h : RenameHints) (old new : String) : RenameHints :=
  { h with tables := setTable old new h.tables }

/-- The hints with one more renamed column. -/
def renameColumn (h : RenameHints) (table old new : String) : RenameHints :=
  { h with columns := h.columns ++ [⟨table, old, new⟩] }

/-- Whether there are no hints. -/
def isEmpty (h : RenameHints) : Bool := h.tables.isEmpty && h.columns.isEmpty

end RenameHints

/-! ## The renames that count -/

/-- The renames from one schema to another. -/
structure Renames where
  tables : List (String × String) := []
  columns : List ColumnRename := []
  deriving DecidableEq, Repr

namespace Renames

/-- The name in the old schema of the table called `name` in the new one. -/
def oldTable (r : Renames) (name : String) : String :=
  match r.tables.find? fun (_, new) => sameName new name with
  | some (old, _) => old
  | none => name

/-- The name in the new schema of the table called `name` in the old one. -/
def newTable (r : Renames) (name : String) : String :=
  match r.tables.find? fun (old, _) => sameName old name with
  | some (_, new) => new
  | none => name

/-- The new name of a column, given the new name of its table. -/
def newColumn (r : Renames) (table column : String) : String :=
  match r.columns.find? fun c => sameName c.table table && sameName c.old column with
  | some c => c.new
  | none => column

/-- The renamed columns of a table, given its new name. -/
def columnsOf (r : Renames) (table : String) : List (String × String) :=
  (r.columns.filter fun c => sameName c.table table).map fun c => (c.old, c.new)

/-- Whether a table can have been renamed: the old name is gone and the new name is new. -/
def tableHolds (current target : Schema) (old new : String) : Bool :=
  (current.table? old).isSome && (target.table? new).isSome && (target.table? old).isNone
    && (current.table? new).isNone

/-- Whether a column can have been renamed, by the same test within its table. -/
def columnHolds (current target : Schema) (r : Renames) (c : ColumnRename) : Bool :=
  match current.table? (r.oldTable c.table), target.table? c.table with
  | some before, some after =>
    before.hasColumn c.old && !before.hasColumn c.new && after.hasColumn c.new
      && !after.hasColumn c.old
  | _, _ => false

/-- The hints that count for a pair of schemas. -/
def resolve (current target : Schema) (hints : RenameHints) : Renames :=
  let tables := hints.tables.filter fun (old, new) => tableHolds current target old new
  { tables := tables
    columns := hints.columns.filter (columnHolds current target { tables := tables }) }

/-! ## A table after the renames -/

/-- A foreign key after the renames: SQLite renames the targets of foreign keys too. -/
def applyToReference (r : Renames) (k : ForeignKey) : ForeignKey :=
  let table := r.newTable k.table
  { table := table, column := r.newColumn table k.column }

/-- A column after the renames, given the new name of its table. -/
def applyToColumn (r : Renames) (table : String) (c : Column) : Column :=
  { c with
    name := r.newColumn table c.name
    references := c.references.map r.applyToReference }

/-- An index after the renames, given the old and the new name of its table. -/
def applyToIndex (r : Renames) (old new : String) (i : Index) : Index :=
  { i with
    table := if sameName i.table old then new else i.table
    columns := i.columns.map (r.newColumn new)
    carried := i.carried.map (r.newColumn new) }

/-- A table as it stands once the renames have been carried out. -/
def apply (r : Renames) (t : Table) (new : String) : Table :=
  { t with
    name := new
    columns := t.columns.map (r.applyToColumn new)
    indexes := t.indexes.map (r.applyToIndex t.name new)
    constraints := t.constraints.map (·.mapColumns (r.newColumn new)) }

end Renames

end SchemaCompiler

import SchemaCompiler.Schema.Renames

/-!
# The difference between two schemas

What has to change in a database that holds one schema so that it holds another.  Tables correspond by
name after the renames; within a pair of tables columns and indexes correspond by name.  The order of
columns and the comments do not count.

SQLite can add and drop simple columns in place.  Every other change of a table replaces the table as a
whole, and then its columns and indexes are not listed one by one.

* `TableChange`, `Rebuild` — the changes of one table.
* `TableChange.between` — the changes from one table to another.
* `IndexChanges.between` — the indexes to drop and to create.
* `SchemaDiff`, `SchemaDiff.between` — the changes from one schema to another.
-/

namespace SchemaCompiler

open Text (sameName)

/-! ## One table -/

/-- A column whose definition changes. -/
structure ColumnChange where
  old : Column
  new : Column
  deriving DecidableEq, Repr

/-- A table replaced as a whole; the old definition has the renames already applied. -/
structure Rebuild where
  old : Table
  new : Table
  deriving DecidableEq, Repr

/-- The changes of a table that is in both schemas, under its new name. -/
structure TableChange where
  table : String
  renamed : List (String × String)
  added : List Column
  dropped : List Column
  altered : List ColumnChange
  /-- Replaces the additions and drops where SQLite cannot make the change in place. -/
  rebuild : Option Rebuild
  deriving DecidableEq, Repr

namespace TableChange

/-- Whether a column's definition changes; the case of its name and its comment are no part of it. -/
def columnDiffers (old new : Column) : Bool :=
  { old with name := new.name, comment := new.comment } != new

/-- The columns of `t` that `other` does not have. -/
def columnsMissingFrom (t other : Table) : List Column :=
  t.columns.filter fun c => !other.hasColumn c.name

/-- The columns of both tables whose definitions differ. -/
def alteredColumns (old new : Table) : List ColumnChange :=
  new.columns.filterMap fun c =>
    match old.column? c.name with
    | some before => if columnDiffers before c then some ⟨before, c⟩ else none
    | none => none

/-- Whether SQLite can drop a column in place. -/
def canDropInPlace (c : Column) : Bool := !(c.primaryKey || c.unique || c.references.isSome)

/-- Whether the change from one table to another needs a rebuild. -/
def needsRebuild (old new : Table) : Bool :=
  !(alteredColumns old new).isEmpty || old.constraints != new.constraints
    || (columnsMissingFrom new old).any (!·.canAddInPlace)
    || (columnsMissingFrom old new).any (!canDropInPlace ·)

/-- The changes from one table, with the renames applied, to another; none if there are none. -/
def between (old new : Table) (renamed : List (String × String)) : Option TableChange :=
  let added := columnsMissingFrom new old
  let dropped := columnsMissingFrom old new
  if needsRebuild old new then
    some ⟨new.name, renamed, [], [], alteredColumns old new, some ⟨old, new⟩⟩
  else if renamed.isEmpty && added.isEmpty && dropped.isEmpty then none
  else some ⟨new.name, renamed, added, dropped, [], none⟩

end TableChange

/-! ## Indexes -/

/-- The index with a name. -/
def findIndex? (indexes : List Index) (name : String) : Option Index :=
  indexes.find? fun i => sameName i.name name

/-- The indexes of `t` that `other` does not have in the same form. -/
def indexesMissingFrom (t other : Table) : List Index :=
  t.indexes.filter fun i => findIndex? other.indexes i.name != some i

/-! ## Schemas -/

/-- The changes from one schema to another. -/
structure SchemaDiff where
  created : List Table
  dropped : List Table
  renamed : List (String × String)
  changed : List TableChange
  createdIndexes : List Index
  droppedIndexes : List Index
  deriving DecidableEq, Repr

namespace SchemaDiff

/-- What becomes of a table of the new schema: it is new, or it takes the place of an old table. -/
inductive Origin where
  | new (table : Table)
  | kept (before : Table) (after : Table) (change : Option TableChange)
  deriving DecidableEq, Repr

/-- The origin of a table of the new schema. -/
def origin (current : Schema) (renames : Renames) (t : Table) : Origin :=
  match current.table? (renames.oldTable t.name) with
  | none => .new t
  | some before =>
    let moved := renames.apply before t.name
    .kept before moved (TableChange.between moved t (renames.columnsOf t.name))

/-- The table that is new. -/
def Origin.created? : Origin → Option Table
  | .new t => some t
  | .kept .. => none

/-- The old table whose place is taken. -/
def Origin.source? : Origin → Option Table
  | .new _ => none
  | .kept before _ _ => some before

/-- The changes of a table that stays. -/
def Origin.change? : Origin → Option TableChange
  | .new _ => none
  | .kept _ _ change => change

/-- The pair of tables whose indexes are compared: a table that stays and is not rebuilt. -/
def Origin.compared? (t : Table) : Origin → Option (Table × Table)
  | .new _ => none
  | .kept _ moved change => if change.any (·.rebuild.isSome) then none else some (moved, t)

/-- Whether a table is among those whose place is taken; names are compared by their small forms. -/
def isMatched (sources : List Table) (t : Table) : Bool :=
  sources.any fun source => Text.toLowercase source.name == Text.toLowercase t.name

/-- The changes from one schema to another. -/
def between (current target : Schema) (hints : RenameHints) : SchemaDiff :=
  let renames := Renames.resolve current target hints
  let origins := target.tables.map fun t => (t, origin current renames t)
  let sources := origins.filterMap (·.2.source?)
  let compared := origins.filterMap fun (t, o) => o.compared? t
  { created := origins.filterMap (·.2.created?)
    dropped := current.tables.filter (!isMatched sources ·)
    renamed := renames.tables
    changed := origins.filterMap (·.2.change?)
    createdIndexes := compared.flatMap fun (old, new) => indexesMissingFrom new old
    droppedIndexes := compared.flatMap fun (old, new) => indexesMissingFrom old new }

/-- Whether nothing changes. -/
def isEmpty (d : SchemaDiff) : Bool :=
  d.created.isEmpty && d.dropped.isEmpty && d.renamed.isEmpty && d.changed.isEmpty
    && d.createdIndexes.isEmpty && d.droppedIndexes.isEmpty

end SchemaDiff

end SchemaCompiler

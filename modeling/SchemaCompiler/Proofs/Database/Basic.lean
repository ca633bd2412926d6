import SchemaCompiler.Proofs.Catalog.Renaming
import SchemaCompiler.Schema.Validation

/-!
# A database under SQL statements

The schema that a database holds, and what SQL statements do to it.  Only what concerns the schema is
modelled; rows are not, and raw SQL text — defaults, conditions, expressions — is carried along unread.

The rules are those of SQLite.  Tables and indexes share one name space, in which the case of ASCII
letters does not count.  Names of indexes are global, `CREATE INDEX IF NOT EXISTS` does nothing where an
index of that name exists on *any* table, an index goes when its table goes, and renames reach the
columns of indexes and the targets of foreign keys but no raw text.  A real database refuses more than
this one does, for instance to drop a column that an index names; what is shown of every run below is
therefore shown of more runs than there are.

* `Definition`, `defined` — a column as its definition in SQL says, and declared tables read that way.
* `CatalogIndex`, `Database` — an index, and a database.
* `Database.exec`, `Database.execAll` — a statement and a list of statements, undefined where the database
  answers with an error.
* `Database.holding` — the database that holds a schema.
-/

namespace SchemaCompiler

open Text (sameName folded)

/-! ## Definitions -/

/-- A column definition without the names that a rename reaches. -/
structure Definition where
  typeName : String
  constraints : List Sql.ColumnConstraint
  deriving DecidableEq

namespace Sql

/-- A column constraint without the names of a foreign key. -/
def ColumnConstraint.unnamed : ColumnConstraint → ColumnConstraint
  | .references _ _ onDelete => .references "" "" onDelete
  | k => k

/-- The target of a foreign key. -/
def ColumnConstraint.target? : ColumnConstraint → Option (String × String)
  | .references table column _ => some (folded table, folded column)
  | .primaryKey _ | .notNull | .unique | .default _ | .check _ => none

/-- A column as the database keeps it. -/
def ColumnDef.held (c : ColumnDef) : CatalogColumn Definition where
  name := folded c.name
  attributes := ⟨c.typeName, c.constraints.map (·.unnamed)⟩
  targets := c.constraints.filterMap (·.target?)

/-- A table constraint as the database keeps it. -/
def TableConstraintDef.held : TableConstraintDef → TableConstraint
  | .primaryKey columns => .primaryKey (columns.map folded)
  | .unique columns => .unique (columns.map folded)
  | .check expression => .check expression

/-- A table as the database keeps it. -/
def CreateTable.held (t : CreateTable) : CatalogTable Definition where
  columns := t.columns.map (·.held)
  constraints := t.constraints.map (·.held)

/-- A key of an index as the database keeps it. -/
def IndexTerm.held : IndexTerm → IndexTerm
  | .column name => .column (folded name)
  | .expression e => .expression e

end Sql

/-- Renames neither bring nor take a key constraint. -/
lemma isNone_keyConstraint?_apply (r : Renames) (t : Table) (new : String) :
    (r.apply t new).keyConstraint?.isNone = t.keyConstraint?.isNone := by
  have hkey : ∀ k : TableConstraint, (k.mapColumns (r.newColumn new)).keyColumns?
      = k.keyColumns?.map (List.map (r.newColumn new)) := by
    intro k
    cases k <;> rfl
  have hfirst : (r.apply t new).keyConstraint?
      = t.keyConstraint?.map (List.map (r.newColumn new)) := by
    rw [Table.keyConstraint?, Table.keyConstraint?, List.map_findSome?]
    simp only [Renames.apply, List.findSome?_map, Function.comp_def, hkey]
  rw [hfirst, Option.isNone_map]

/-- Declared tables as their definitions in SQL say. -/
def defined : View Definition where
  attributes t c := ⟨c.scalarType.sqlName,
    (c.toDef t.keyConstraint?.isNone).constraints.map (·.unnamed)⟩
  stable r t new c := by
    rw [isNone_keyConstraint?_apply]
    cases h : c.references <;>
      simp [Renames.applyToColumn, Column.toDef, h, Sql.ColumnConstraint.unnamed,
        Column.writtenOnDelete]

/-- A column definition is kept as the column is read. -/
lemma held_toDef (t : Table) (c : Column) :
    (c.toDef t.keyConstraint?.isNone).held = defined.column t c := by
  have htargets : (c.toDef t.keyConstraint?.isNone).constraints.filterMap (·.target?)
      = c.references.toList.map View.target := by
    have hdefault : (c.defaultValue.toList.map Sql.ColumnConstraint.default).filterMap
        (·.target?) = [] := by cases c.defaultValue <;> rfl
    have hcheck : (c.check.toList.map Sql.ColumnConstraint.check).filterMap (·.target?) = [] := by
      cases c.check <;> rfl
    simp only [Column.toDef, List.filterMap_append, hdefault, hcheck]
    cases c.references <;> split_ifs <;> simp [Sql.ColumnConstraint.target?, View.target]
  rw [Sql.ColumnDef.held, htargets]
  rfl

/-- A table definition is kept as the table is read. -/
lemma held_toStatement (t : Table) :
    ({ name := t.name, ifNotExists := false,
       columns := t.columns.map (·.toDef t.keyConstraint?.isNone),
       constraints := t.constraints.map (·.toDef), comment := t.comment } : Sql.CreateTable).held
      = defined.table t := by
  have hconstraint : ∀ k : TableConstraint, k.toDef.held = k.mapColumns folded := by
    intro k
    cases k <;> rfl
  simp only [Sql.CreateTable.held, List.map_map, Function.comp_def, held_toDef, hconstraint]
  rfl

/-! ## Indexes -/

/-- An index as a database keeps it. -/
structure CatalogIndex where
  /-- The table on which the index lies. -/
  owner : String
  terms : List Sql.IndexTerm
  unique : Bool
  condition : Option String
  deriving DecidableEq

/-- An index definition as the database keeps it. -/
def Sql.CreateIndex.held (i : Sql.CreateIndex) : CatalogIndex where
  owner := folded i.table
  terms := i.terms.map (·.held)
  unique := i.unique
  condition := i.condition

/-- A declared index as the database keeps it. -/
def Index.held (i : Index) : CatalogIndex where
  owner := folded i.table
  terms := i.terms.map (·.held)
  unique := i.isUnique
  condition := i.condition

lemma Index.terms_held (i : Index) : i.held.terms =
    if i.kind = .expression then i.columns.map .expression
    else (i.columns ++ i.carried).map fun x => .column (folded x) := by
  simp only [held, terms]
  split_ifs
  · rw [List.map_map]
    rfl
  · rw [List.map_map]
    rfl

namespace CatalogIndex

/-- The index after a table was renamed. -/
def renameTable (old new : String) (i : CatalogIndex) : CatalogIndex :=
  { i with owner := replaced old new i.owner }

/-- The key after a column was renamed; raw text is left alone. -/
def renameTerm (old new : String) : Sql.IndexTerm → Sql.IndexTerm
  | .column name => .column (replaced old new name)
  | .expression e => .expression e

/-- The index after a column of some table was renamed. -/
def renameColumn (table old new : String) (i : CatalogIndex) : CatalogIndex :=
  { i with terms := if i.owner = table then i.terms.map (renameTerm old new) else i.terms }

end CatalogIndex

/-! ## Databases -/

/-- The schema that a database holds. -/
@[ext]
structure Database where
  tables : Catalog Definition
  /-- The indexes of all tables by their folded names. -/
  indexes : String → Option CatalogIndex

/-- The tables after a statement. -/
def Catalog.exec (c : Catalog Definition) : Sql.Statement → Option (Catalog Definition)
  | .createTable t =>
    if t.ifNotExists && (c (folded t.name)).isSome then some c else c.create (folded t.name) t.held
  | .dropTable name ifExists =>
    if ifExists && (c (folded name)).isNone then some c else c.drop (folded name)
  | .renameTable source target => c.renameTable (folded source) (folded target)
  | .addColumn table column => c.addColumn (folded table) column.held
  | .dropColumn table column => c.dropColumn (folded table) (folded column)
  | .renameColumn table source target => c.renameColumn (folded table) (folded source) (folded target)
  | .createIndex _ | .dropIndex _ _ | .copyRows _ _ _ | .pragma _ _ | .select _ _ _ _ | .insert _ _ _
  | .update _ _ _ _ | .delete _ _ | .comment _ => some c

/-- The index called `name` after a statement, given what it was before. -/
def indexAfter (name : String) (x : Option CatalogIndex) : Sql.Statement → Option CatalogIndex
  | .dropTable table _ => x.filter (·.owner != folded table)
  | .renameTable source target => x.map (·.renameTable (folded source) (folded target))
  | .renameColumn table source target =>
    x.map (·.renameColumn (folded table) (folded source) (folded target))
  | .createIndex i => if folded i.name = name then x.or (some i.held) else x
  | .dropIndex i _ => if folded i = name then none else x
  | .createTable _ | .addColumn _ _ | .dropColumn _ _ | .copyRows _ _ _ | .pragma _ _
  | .select _ _ _ _ | .insert _ _ _ | .update _ _ _ _ | .delete _ _ | .comment _ => x

namespace Database

/-- Whether the database carries a statement out, apart from what `Catalog.exec` checks.  A new table
needs columns with different names and a name that no index has; a new index needs a name that no table
has, its table, and its columns unless it is skipped. -/
def accepts (db : Database) : Sql.Statement → Bool
  | .createTable t => (db.indexes (folded t.name)).isNone && !t.columns.isEmpty &&
    decide (t.columns.Pairwise fun a b => sameName a.name b.name = false)
  | .renameTable _ target => (db.indexes (folded target)).isNone
  | .createIndex i => (db.tables (folded i.name)).isNone && (db.tables (folded i.table)).any fun t =>
    (db.indexes (folded i.name)).isSome || i.terms.all fun term => match term with
      | .column name => t.hasColumn (folded name)
      | .expression _ => true
  | .dropIndex name ifExists => ifExists || (db.indexes (folded name)).isSome
  | .dropTable _ _ | .addColumn _ _ | .dropColumn _ _ | .renameColumn _ _ _ | .copyRows _ _ _
  | .pragma _ _ | .select _ _ _ _ | .insert _ _ _ | .update _ _ _ _ | .delete _ _ | .comment _ => true

/-- The database after a statement. -/
def exec (db : Database) (s : Sql.Statement) : Option Database :=
  if db.accepts s then (db.tables.exec s).map fun tables =>
    { tables := tables, indexes := fun k => indexAfter k (db.indexes k) s }
  else none

/-- The database after a list of statements. -/
def execAll (db : Database) (statements : List Sql.Statement) : Option Database :=
  statements.foldlM exec db

/-- The database that holds a schema. -/
def holding (s : Schema) : Database where
  tables := Catalog.of defined s.tables
  indexes k := ((s.tables.flatMap (·.indexes)).find? fun i => folded i.name == k).map (·.held)

end Database

end SchemaCompiler

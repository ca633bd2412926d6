import SchemaCompiler.Error
import SchemaCompiler.Schema.DependencyOrder
import SchemaCompiler.Schema.Diff
import SchemaCompiler.Schema.Validation
import SchemaCompiler.Sql.Printer

/-!
# Compiling migrations

A schema compiles to the migration that creates it, and a pair of schemas to the migration from one to
the other.  Actions that can lose data are refused unless they are allowed.

The actions of a pair run in a fixed order: indexes go first, so that nothing hangs on what changes;
renames next, so that everything after them uses the new names; then tables are created before the
columns and rebuilds that may refer to them; columns and tables are dropped after that, the referring
ones before those they refer to; and new indexes come last.

* `actionsBetween` — the actions from one schema to another.
* `warnings` — what is worth knowing before they are run.
* `compileActions`, `compileInitial`, `compileDiff` — the migrations.
-/

namespace SchemaCompiler.Migration

open Text (sameName)

/-! ## The order of actions -/

/-- The place of a table in an order; a table that is not in it comes after all others. -/
def rank (order : List Table) (name : String) : Nat :=
  order.findIdx fun t => sameName t.name name

/-- Sorts by a rank, leaving elements of equal rank in their order. -/
def sortByRank {α : Type} (key : α → Nat) (xs : List α) : List α :=
  xs.mergeSort fun a b => key a ≤ key b

/-- Sorts by a rank, highest first, leaving elements of equal rank in their order. -/
def sortByRankDown {α : Type} (key : α → Nat) (xs : List α) : List α :=
  xs.mergeSort fun a b => key b ≤ key a

/-! ## Dependents of a rebuild -/

/-- Whether dropping rows of `parent` would make SQLite write to rows of another table. -/
def cascadesTo (child : Table) (parent : String) : Bool :=
  !sameName child.name parent
    && child.foreignKeys.any fun (c, r) => sameName r.table parent && c.onDelete.modifiesChildren

/-- Adds a name to a list of different names. -/
def addName (names : List String) (name : String) : List String :=
  if names.any (sameName · name) then names else names ++ [name]

/-- The tables, by their new names, whose rows would be written to while `table` is rebuilt.  The
definitions of both schemas count, except those of tables that are only being created. -/
def dependents (current target : Schema) (diff : SchemaDiff) (table : String) : List String :=
  let renames : Renames := { tables := diff.renamed }
  let before := (current.tables.filter (cascadesTo · (renames.oldTable table))).map fun t =>
    renames.newTable t.name
  let isCreated (t : Table) : Bool := diff.created.any fun c => sameName c.name t.name
  let after := (target.tables.filter fun t => !isCreated t && cascadesTo t table).map (·.name)
  (before ++ after).foldl addName []

/-! ## Actions -/

/-- The rebuild of a change as an action. -/
def rebuildAction (current target : Schema) (diff : SchemaDiff) (r : Rebuild) : Action :=
  .alterTable r.old r.new (dependents current target diff r.new.name)

/-- The actions from one schema to another, given the orders of dependency of both. -/
def actionsBetween (current target : Schema) (currentOrder targetOrder : List Table)
    (diff : SchemaDiff) : List Action :=
  diff.droppedIndexes.map .dropIndex
    ++ diff.renamed.map (fun (old, new) => .renameTable old new)
    ++ diff.changed.flatMap (fun c => c.renamed.map fun (old, new) => .renameColumn c.table old new)
    ++ (sortByRank (fun t => rank targetOrder t.name) diff.created).map .createTable
    ++ diff.changed.flatMap (fun c => c.added.map (.addColumn c.table))
    ++ (sortByRank (fun r => rank targetOrder r.new.name) (diff.changed.filterMap (·.rebuild))).map
        (rebuildAction current target diff)
    ++ diff.changed.flatMap (fun c => c.dropped.map (.dropColumn c.table))
    ++ (sortByRankDown (fun t => rank currentOrder t.name) diff.dropped).map .dropTable
    ++ diff.createdIndexes.map .createIndex

/-! ## Warnings -/

/-- Whether a look-up by a column can use an index. -/
def isIndexed (t : Table) (column : String) : Bool :=
  (t.primaryKey.head?).any (sameName · column)
    || (t.column? column).any (·.unique)
    || t.indexes.any (·.leadsWith column)

/-- The foreign key columns that an action brings. -/
def broughtForeignKeys : Action → List String
  | .createTable t | .alterTable _ t _ => t.foreignKeys.map fun (c, _) => c.name
  | .addColumn _ c => if c.references.isSome then [c.name] else []
  | _ => []

/-- Warnings about foreign keys without an index. -/
def foreignKeyWarnings (target : Schema) (a : Action) : List Warning :=
  ((broughtForeignKeys a).filter fun column =>
    !(target.table? a.table).any (isIndexed · column)).map (.missingForeignKeyIndex a.table)

/-- Warnings about a rebuild. -/
def rebuildWarnings : Action → List Warning
  | .alterTable old new _ =>
    .tableRebuild new.name :: (new.columns.filter fun c =>
      !old.hasColumn c.name && !c.nullable && c.defaultValue.isNone).map fun c =>
        .notNullWithoutDefault new.name c.name
  | _ => []

/-- What is worth knowing before the actions are run; `target` is the schema that they lead to. -/
def warningsFor (target : Schema) (actions : List Action) : List Warning :=
  actions.flatMap fun a => foreignKeyWarnings target a ++ rebuildWarnings a

/-! ## Migrations -/

/-- The statements that undo the actions, the last action first. -/
def downStatements (actions : List Action) : List Sql.Statement := actions.reverse.flatMap (·.down)

/-- The migration made of the given actions. -/
def compileActions (allowDestructive : Bool) (version : Nat) (name : String) (actions : List Action)
    (target : Schema) : Except Error Migration := do
  if actions.isEmpty then .error (.migration (.emptyMigration name))
  if !allowDestructive then
    match actions.find? (·.isDestructive) with
    | some a => .error (.migration (.destructiveActionBlocked version a))
    | none => pure ()
  let up ← liftGeneration (Sql.renderAll (actions.flatMap (·.up)))
  let down ← liftGeneration (Sql.renderAll (downStatements actions))
  liftMigration ((draft version name actions).generate up down (warningsFor target actions))

/-- The migration that creates a schema, tables before those that refer to them. -/
def compileInitial (allowDestructive : Bool) (schema : Schema) (version : Nat) (name : String) :
    Except Error Migration := do
  refuseFaulty schema.errors
  let order ← liftSchema schema.dependencyOrder
  compileActions allowDestructive version name (order.map .createTable) schema

/-- The migration from one schema to another. -/
def compileDiff (allowDestructive : Bool) (current target : Schema) (hints : RenameHints)
    (version : Nat) (name : String) : Except Error Migration := do
  refuseFaulty target.errors
  let diff := SchemaDiff.between current target hints
  if diff.isEmpty then .error (.migration (.emptyMigration name))
  let targetOrder ← liftSchema target.dependencyOrder
  let currentOrder ← liftSchema current.dependencyOrder
  compileActions allowDestructive version name
    (actionsBetween current target currentOrder targetOrder diff) target

end SchemaCompiler.Migration

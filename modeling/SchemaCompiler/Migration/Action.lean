import SchemaCompiler.Schema.Table

/-!
# Migration actions

A migration is a list of actions, each one change of a database.  An action knows the statements that
carry it out and the statements that undo it; an action that loses data or objects cannot be undone by
statements, and is answered by a comment that says what to restore.

* `Action` — the actions, and their description in words.
* `Action.isDestructive`, `Action.requiresBackup`, `Action.rollback` — what running one means.
* `rebuildStatements` — how a table is replaced by another with the same rows.
* `Action.up`, `Action.down` — the statements of both directions.
-/

namespace SchemaCompiler.Migration

/-- One change of a database. -/
inductive Action where
  /-- Creates the table and its indexes. -/
  | createTable (table : Table)
  | dropTable (table : Table)
  | renameTable (old new : String)
  | addColumn (table : String) (column : Column)
  | dropColumn (table : String) (column : Column)
  | renameColumn (table old new : String)
  /-- Replaces a table, keeping the columns that both definitions have.  The dependents are the tables
  whose rows an `ON DELETE` action would write to while the old table is dropped. -/
  | alterTable (old new : Table) (dependents : List String)
  | createIndex (index : Index)
  | dropIndex (index : Index)
  deriving DecidableEq, Repr

namespace Action

/-- The action in words. -/
def describe : Action → String
  | .createTable t => "create table " ++ t.name
  | .dropTable t => "drop table " ++ t.name
  | .renameTable old new => "rename table " ++ old ++ " to " ++ new
  | .addColumn table c => "add column " ++ table ++ "." ++ c.name
  | .dropColumn table c => "drop column " ++ table ++ "." ++ c.name
  | .renameColumn table old new => "rename column " ++ table ++ "." ++ old ++ " to " ++ new
  | .alterTable _ new _ => "rebuild table " ++ new.name
  | .createIndex i => "create index " ++ i.name
  | .dropIndex i => "drop index " ++ i.name

/-- The table that the action touches, by its name afterwards. -/
def table : Action → String
  | .createTable t | .dropTable t => t.name
  | .renameTable _ new => new
  | .addColumn table _ | .dropColumn table _ | .renameColumn table _ _ => table
  | .alterTable _ new _ => new.name
  | .createIndex i | .dropIndex i => i.table

/-! ## Consequences -/

/-- The names of the columns of `old` that `new` does not have. -/
def lostColumns (old new : Table) : List String :=
  (old.columns.filter fun c => !new.hasColumn c.name).map (·.name)

/-- Whether the action can lose data or objects. -/
def isDestructive : Action → Bool
  | .dropTable _ | .dropColumn _ _ | .dropIndex _ => true
  | .alterTable old new dependents => !(lostColumns old new).isEmpty || !dependents.isEmpty
  | .createTable _ | .renameTable _ _ | .addColumn _ _ | .renameColumn _ _ _ | .createIndex _ => false

/-- Whether a backup should be taken before the action is run. -/
def requiresBackup : Action → Bool
  | .alterTable _ _ _ => true
  | a => a.isDestructive

/-- How an action is undone. -/
inductive Rollback where
  /-- What was created is dropped. -/
  | dropCreated
  | inverseRename
  /-- The table is replaced by its old definition. -/
  | rebuildPrevious
  /-- By hand; the down section says only what to restore. -/
  | restoreFromBackup
  deriving DecidableEq, Repr

/-- How the action is undone. -/
def rollback (a : Action) : Rollback :=
  if a.isDestructive then .restoreFromBackup
  else
    match a with
    | .renameTable _ _ | .renameColumn _ _ _ => .inverseRename
    | .alterTable _ _ _ => .rebuildPrevious
    | _ => .dropCreated

end Action

/-! ## Replacing a table -/

/-- The name under which the new definition is created. -/
def stagingName (table : String) : String := "_" ++ table ++ "_new"

/-- The new definition as it is created at first: under another name, without comment and indexes. -/
def staged (t : Table) : Table := { t with name := stagingName t.name, comment := none, indexes := [] }

/-- The names of the columns of `new` that `old` has too. -/
def sharedColumns (old new : Table) : List String :=
  (new.columns.filter fun c => old.hasColumn c.name).map (·.name)

/-- Replaces a table by another one.  The new definition is created under a name of its own, the rows
are copied, and the copy takes the place of the old table; the old table's indexes go with it, so the
new ones are created at the end.

Foreign keys are switched off meanwhile, so that dropping the old table does not reach into the tables
that refer to it.  Inside a transaction SQLite ignores that switch; the check of references is put off
there until the new table has the old name. -/
def rebuildStatements (old new : Table) : List Sql.Statement :=
  let shared := sharedColumns old new
  [.pragma "foreign_keys" (some "OFF"), .pragma "defer_foreign_keys" (some "ON"),
      (staged new).toStatement]
    ++ (if shared.isEmpty then [] else [.copyRows old.name (stagingName new.name) shared])
    ++ [.dropTable old.name false, .renameTable (stagingName new.name) new.name]
    ++ new.indexStatements
    ++ [.pragma "foreign_key_check" none, .pragma "foreign_keys" (some "ON")]

/-! ## Statements -/

namespace Action

/-- The statements that carry the action out. -/
def up : Action → List Sql.Statement
  | .createTable t => t.statements
  | .dropTable t => [.dropTable t.name false]
  | .renameTable old new => [.renameTable old new]
  | .addColumn table c => [.addColumn table (c.toDef true)]
  | .dropColumn table c => [.dropColumn table c.name]
  | .renameColumn table old new => [.renameColumn table old new]
  | .alterTable old new _ => rebuildStatements old new
  | .createIndex i => [i.toStatement]
  | .dropIndex i => [.dropIndex i.name false]

/-- What has to be restored by hand after a rebuild. -/
def rebuildRemedies (old new : Table) (dependents : List String) : List String :=
  let lost := lostColumns old new
  (if lost.isEmpty then [] else
    ["restore columns " ++ ", ".intercalate lost ++ " of table " ++ new.name ++ " from a backup"])
  ++ (if dependents.isEmpty then [] else
    ["restore rows of " ++ ", ".intercalate dependents ++ " changed by ON DELETE actions while "
      ++ new.name ++ " was rebuilt"])

/-- What has to be done by hand to undo the action. -/
def remedy : Action → String
  | .dropTable t => "restore table " ++ t.name ++ " and its rows from a backup"
  | .dropColumn table c =>
    "restore column " ++ table ++ "." ++ c.name ++ " (" ++ c.scalarType.sqlName
      ++ ") and its values from a backup"
  | .dropIndex i =>
    "recreate index " ++ i.name ++ " on " ++ i.table ++ " (" ++ ", ".intercalate i.columns ++ ")"
  | .alterTable old new dependents => "; ".intercalate (rebuildRemedies old new dependents)
  | a => a.describe

/-- The statements that undo the action. -/
def down (a : Action) : List Sql.Statement :=
  if a.isDestructive then [.comment ("MANUAL ROLLBACK: " ++ a.remedy)]
  else
    match a with
    | .createTable t => [.dropTable t.name false]
    | .renameTable old new => [.renameTable new old]
    | .addColumn table c => [.dropColumn table c.name]
    | .renameColumn table old new => [.renameColumn table new old]
    | .alterTable old new _ => rebuildStatements new old
    | .createIndex i => [i.dropStatement]
    | .dropTable _ | .dropColumn _ _ | .dropIndex _ => []

end Action

end SchemaCompiler.Migration

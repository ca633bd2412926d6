import Mathlib.Data.Multiset.MapFold
import SchemaCompiler.Proofs.Database.Creation

/-!
# Rows under SQL statements

What statements do to the rows of a database, on top of what they do to its schema.  A table holds a multiset
of rows, and a row gives each column of its table a value.  Columns are found by their names here too, so the
order in which a table declares them does not count.

Two things are left open, and what follows holds for all of them (`Engine`): the value that a column gets to
which nothing is written, and what becomes of other tables when a table is dropped while foreign keys are
enforced.  Statements are carried out one by one, outside a transaction, so that enforcement can be switched.
Whether a constraint of the table would refuse a row is not asked.

* `Row`, `Store` — rows, and a database with rows.
* `Engine.inserted` — a row as it is inserted with the values of some columns.
* `Store.exec`, `Store.execAll` — a statement and a list of statements, undefined where the database answers
  with an error or where values are needed that the statement does not have.
* `Store.schema_execAll` — on the schema statements act as without rows.
* `Store.exec_createTable`, `Store.exec_copyRows` and so on — what single statements do.
-/

namespace SchemaCompiler

open Text (sameName folded folded_eq_iff)

variable {β : Type}

/-- A row: its values by the folded names of the columns. -/
abbrev Row (β : Type) : Type := String → Option β

/-- The row has a value for every column of the table, and for nothing else. -/
def Row.Fits (row : Row β) (t : CatalogTable Definition) : Prop := ∀ k, (row k).isSome = t.hasColumn k

/-- A row with some values. -/
def Row.of (values : List (String × β)) : Row β := fun k => values.lookup k

/-- A row with a value under the name of each column fits. -/
lemma Row.fits_of {values : List (String × β)} {t : CatalogTable Definition}
    (h : values.map Prod.fst = t.columns.map (·.name)) : (Row.of values).Fits t := by
  intro k
  have hhas : t.hasColumn k = (values.map Prod.fst).any (· == k) := by
    rw [h, CatalogTable.hasColumn, List.any_map]
    rfl
  rw [hhas, Row.of]
  clear h hhas
  induction values with
  | nil => rfl
  | cons p rest ih =>
      rw [List.lookup_cons, List.map_cons, List.any_cons, ← ih]
      cases hp : k == p.1 with
      | true => simp [beq_iff_eq.1 hp]
      | false => simp [Ne.symm (beq_eq_false_iff_ne.1 hp)]

/-- A database with rows. -/
structure Store (β : Type) where
  schema : Database
  /-- The rows of each table. -/
  rows : String → Multiset (Row β)
  /-- Whether foreign keys are enforced. -/
  enforced : Bool

/-- What the rules below do not say. -/
structure Engine (β : Type) where
  /-- The value of a column to which nothing is written. -/
  fill : CatalogTable Definition → String → β
  /-- The rows of all tables when one is about to be dropped while foreign keys are enforced; undefined where
  that is refused. -/
  release : Store β → String → Option (String → Multiset (Row β))

namespace Engine

/-- A row of a table as it is inserted with the values that another row has in the given columns. -/
def inserted (e : Engine β) (t : CatalogTable Definition) (columns : List String) (row : Row β) : Row β :=
  fun k => if t.hasColumn k then (if columns.any (folded · == k) then row k else some (e.fill t k)) else none

variable (e : Engine β) {t : CatalogTable Definition} {columns : List String} {row : Row β} {k : String}

lemma inserted_of_mem (hk : t.hasColumn k = true) (hmem : ∃ c ∈ columns, folded c = k) :
    e.inserted t columns row k = row k := by
  rw [inserted, if_pos hk, if_pos]
  simpa using hmem

lemma inserted_of_no_column (hk : t.hasColumn k = false) : e.inserted t columns row k = none := by
  simp [inserted, hk]

/-- An inserted row fits its table if the values that are copied are there. -/
lemma fits_inserted (h : ∀ c ∈ columns, (row (folded c)).isSome = true) :
    (e.inserted t columns row).Fits t := by
  intro k
  cases hk : t.hasColumn k with
  | false => rw [e.inserted_of_no_column hk, Option.isSome_none]
  | true =>
      rw [inserted, if_pos hk]
      split_ifs with hmem
      · obtain ⟨c, hc, rfl⟩ : ∃ c ∈ columns, folded c = k := by simpa using hmem
        exact h c hc
      · rfl

end Engine

namespace Store

/-- The rows after a statement.  Queries that write have parameters, whose values are not known. -/
def rowsAfter (e : Engine β) (s : Store β) : Sql.Statement → Option (String → Multiset (Row β))
  | .createTable t => some <|
    if (s.schema.tables (folded t.name)).isSome then s.rows else Function.update s.rows (folded t.name) 0
  | .dropTable name _ =>
    (if s.enforced && (s.schema.tables (folded name)).isSome then e.release s (folded name)
      else some s.rows).map (Function.update · (folded name) 0)
  | .renameTable source target => some <|
    Function.update (Function.update s.rows (folded source) 0) (folded target) (s.rows (folded source))
  | .addColumn table column => (s.schema.tables (folded table)).map fun t =>
    Function.update s.rows (folded table) ((s.rows (folded table)).map fun row =>
      Function.update row (folded column.name) (some (e.fill (t.addColumn column.held) (folded column.name))))
  | .dropColumn table column => some <|
    Function.update s.rows (folded table) ((s.rows (folded table)).map fun row =>
      Function.update row (folded column) none)
  | .renameColumn table source target => some <|
    Function.update s.rows (folded table) ((s.rows (folded table)).map fun row =>
      Function.update (Function.update row (folded source) none) (folded target) (row (folded source)))
  | .copyRows source target columns =>
    (s.schema.tables (folded source)).bind fun old => (s.schema.tables (folded target)).bind fun new =>
      if columns.all fun c => old.hasColumn (folded c) && new.hasColumn (folded c) then
        some (Function.update s.rows (folded target)
          (s.rows (folded target) + (s.rows (folded source)).map (e.inserted new columns)))
      else none
  | .createIndex _ | .dropIndex _ _ | .pragma _ _ | .select _ _ _ _ | .comment _ => some s.rows
  | .insert _ _ _ | .update _ _ _ _ | .delete _ _ => none

/-- Whether foreign keys are enforced after a statement, given whether they were before. -/
def enforcedAfter (enforced : Bool) : Sql.Statement → Bool
  | .pragma name value => if name = "foreign_keys" then value.elim enforced (· == "ON") else enforced
  | .createTable _ | .dropTable _ _ | .renameTable _ _ | .addColumn _ _ | .dropColumn _ _
  | .renameColumn _ _ _ | .createIndex _ | .dropIndex _ _ | .copyRows _ _ _ | .select _ _ _ _
  | .insert _ _ _ | .update _ _ _ _ | .delete _ _ | .comment _ => enforced

/-- The database after a statement. -/
def exec (e : Engine β) (s : Store β) (statement : Sql.Statement) : Option (Store β) :=
  (s.schema.exec statement).bind fun schema =>
    (s.rowsAfter e statement).map fun rows => ⟨schema, rows, enforcedAfter s.enforced statement⟩

/-- The database after a list of statements. -/
def execAll (e : Engine β) (s : Store β) (statements : List Sql.Statement) : Option (Store β) :=
  statements.foldlM (exec e) s

variable {e : Engine β} {s s' : Store β}

lemma exec_of {statement : Sql.Statement} {schema : Database} {rows : String → Multiset (Row β)}
    (hschema : s.schema.exec statement = some schema) (hrows : s.rowsAfter e statement = some rows) :
    s.exec e statement = some ⟨schema, rows, enforcedAfter s.enforced statement⟩ := by
  rw [exec, hschema, Option.bind_some, hrows, Option.map_some]

lemma execAll_append (as bs : List Sql.Statement) :
    s.execAll e (as ++ bs) = (s.execAll e as).bind (·.execAll e bs) := List.foldlM_append

lemma execAll_cons (statement : Sql.Statement) (rest : List Sql.Statement) :
    s.execAll e (statement :: rest) = (s.exec e statement).bind (·.execAll e rest) := rfl

lemma execAll_singleton (statement : Sql.Statement) : s.execAll e [statement] = s.exec e statement := by
  simp [execAll]

/-- **On the schema statements act as without rows.** -/
lemma schema_execAll {statements : List Sql.Statement} (h : s.execAll e statements = some s') :
    s.schema.execAll statements = some s'.schema := by
  induction statements generalizing s with
  | nil => rw [← Option.some.inj h]; rfl
  | cons statement rest ih =>
      rw [execAll_cons, Option.bind_eq_some_iff] at h
      obtain ⟨mid, hmid, hrest⟩ := h
      obtain ⟨schema, hschema, hrows⟩ := Option.bind_eq_some_iff.1 hmid
      obtain ⟨rows, -, rfl⟩ := Option.map_eq_some_iff.1 hrows
      rw [Database.execAll_cons, hschema, Option.bind_some]
      exact ih hrest

/-- Index definitions leave rows and enforcement alone. -/
lemma execAll_createIndexes {is : List Index} {db : Database}
    (h : s.schema.execAll (is.map (·.toStatement)) = some db) :
    s.execAll e (is.map (·.toStatement)) = some { s with schema := db } := by
  induction is generalizing s with
  | nil =>
      rw [← Option.some.inj h]
      rfl
  | cons i rest ih =>
      rw [List.map_cons, Database.execAll_cons, Option.bind_eq_some_iff] at h
      obtain ⟨mid, hmid, hrest⟩ := h
      rw [List.map_cons, execAll_cons, exec_of hmid rfl, Option.bind_some]
      exact ih (s := { s with schema := mid }) hrest

/-! ## What single statements do -/

section Statements

variable {tables : Catalog Definition} {indexes : String → Option CatalogIndex}
  {rows : String → Multiset (Row β)} {enforced : Bool}

/-- A valid table is created without rows if it has a column and its name is free. -/
lemma exec_createTable {t : Table} (hv : t.Valid) (hcolumns : t.columns ≠ [])
    (htable : tables (folded t.name) = none) (hindex : indexes (folded t.name) = none) :
    exec e ⟨⟨tables, indexes⟩, rows, enforced⟩ t.toStatement =
      some ⟨⟨Function.update tables (folded t.name) (some (defined.table t)), indexes⟩,
        Function.update rows (folded t.name) 0, enforced⟩ := by
  refine exec_of ((Database.exec_toStatement hv htable).trans (if_pos ⟨hcolumns, hindex⟩)) ?_
  simp only [rowsAfter, Table.toStatement, htable, Option.isSome_none, Bool.false_eq_true, if_false]

/-- Rows are copied if both tables have the columns. -/
lemma exec_copyRows {source target : String} {columns : List String} {old new : CatalogTable Definition}
    (hsource : tables (folded source) = some old) (htarget : tables (folded target) = some new)
    (hcolumns : ∀ c ∈ columns, old.hasColumn (folded c) = true ∧ new.hasColumn (folded c) = true) :
    exec e ⟨⟨tables, indexes⟩, rows, enforced⟩ (.copyRows source target columns) =
      some ⟨⟨tables, indexes⟩, Function.update rows (folded target)
        (rows (folded target) + (rows (folded source)).map (e.inserted new columns)), enforced⟩ := by
  have hall : (columns.all fun c => old.hasColumn (folded c) && new.hasColumn (folded c)) = true := by
    simpa using hcolumns
  refine exec_of (rfl : Database.exec ⟨tables, indexes⟩ _ = some ⟨tables, indexes⟩) ?_
  simp only [rowsAfter, hsource, htarget, Option.bind_some, hall, if_true]

/-- A table is dropped with its rows and its indexes, and nothing else happens while foreign keys are not
enforced. -/
lemma exec_dropTable {name : String} {ifExists : Bool} (hthere : (tables (folded name)).isSome = true) :
    exec e ⟨⟨tables, indexes⟩, rows, false⟩ (.dropTable name ifExists) =
      some ⟨⟨Function.update tables (folded name) none,
          fun k => (indexes k).filter (·.owner != folded name)⟩,
        Function.update rows (folded name) 0, false⟩ := by
  refine exec_of (Database.exec_eq_some_iff.2 ⟨rfl, ?_, rfl⟩) rfl
  rw [Catalog.exec, ← Option.not_isSome, hthere, Bool.not_true, Bool.and_false, if_neg Bool.false_ne_true]
  exact Catalog.drop_eq_some_iff.2 ⟨hthere, rfl⟩

/-- A table gets a name that is free. -/
lemma exec_renameTable {source target : String} {t : CatalogTable Definition}
    (hsource : tables (folded source) = some t) (htable : tables (folded target) = none)
    (hindex : indexes (folded target) = none) :
    exec e ⟨⟨tables, indexes⟩, rows, enforced⟩ (.renameTable source target) =
      some ⟨⟨fun k => (Function.update (Function.update tables (folded source) none) (folded target)
            (some t) k).map (·.retargetTable (folded source) (folded target)),
          fun k => (indexes k).map (·.renameTable (folded source) (folded target))⟩,
        Function.update (Function.update rows (folded source) 0) (folded target) (rows (folded source)),
        enforced⟩ :=
  exec_of (Database.exec_eq_some_iff.2 ⟨Option.isNone_iff_eq_none.2 hindex,
    Catalog.renameTable_eq_some_iff.2 ⟨t, hsource, htable, rfl⟩, rfl⟩) rfl

/-- A setting concerns at most the enforcement of foreign keys. -/
lemma exec_pragma {db : Database} {name : String} {value : Option String} :
    exec e ⟨db, rows, enforced⟩ (.pragma name value) =
      some ⟨db, rows, enforcedAfter enforced (.pragma name value)⟩ :=
  exec_of (rfl : db.exec _ = some db) rfl

end Statements

end Store

end SchemaCompiler

import SchemaCompiler.Proofs.Access.Bindings
import SchemaCompiler.Proofs.Database.Creation
import SchemaCompiler.Proofs.Schema.Declarations

/-!
# Columns with different values

Whether a column has different values in all rows is asked in two places.  Validation asks it of the end of a
foreign key, and the access code asks it of a column that gets a look-up; both ask the table
(`Table.isUniqueColumn`).  The database asks nobody, it does what the statements say.  A foreign key whose end
the database does not keep unique fails when rows are written, and a look-up by such a column loses rows.

The statements have five places that keep a single column unique: a key or `UNIQUE` on the column itself, a
key or `UNIQUE` constraint over this column alone, and a unique index.  A table says the same in flags,
constraints and kinds of indexes, and the rules of `Table.errors` are what makes the two agree: there is one
key, so a marked column is written with an inline key or there is a key constraint; and an index that is
unique has neither a condition nor columns that it carries, which would make further keys of it.

They do not agree on a list that names the column more than once.  It is over this column alone all the
same, so the database keeps the column unique, and no rule forbids it; the table looks for lists of one
entry.

* `Sql.Enforces` — statements keep a column unique.
* `Table.isUniqueColumn_iff`, `Table.enforces_iff` — the five places, in a table and in its statements.
* `Table.enforces_iff_isUniqueColumn_or_repeats` — how far the two agree.
* **`unique_columns_enforced`** — what this means for validation and access code.
-/

namespace SchemaCompiler

open Text (sameName)

/-! ## What statements enforce -/

namespace Sql

/-- The definition of a column keeps its values apart. -/
def ColumnDef.IsUnique (d : ColumnDef) : Prop :=
  .unique ∈ d.constraints ∨ ∃ autoincrement, .primaryKey autoincrement ∈ d.constraints

/-- A list names a column and nothing else. -/
def NamesOnly (column : String) (names : List String) : Prop :=
  names ≠ [] ∧ ∀ name ∈ names, sameName name column = true

/-- A constraint of a table keeps the values of one column apart: it lists this column and nothing else. -/
def TableConstraintDef.IsUniqueOn (d : TableConstraintDef) (column : String) : Prop :=
  ∃ names, NamesOnly column names ∧ (d = .primaryKey names ∨ d = .unique names)

/-- **Statements keep the values of one column of a table apart**, by the column's own definition, by a
constraint over this column alone, or by a unique index over all rows with this column for its only term. -/
inductive Enforces (statements : List Statement) (table column : String) : Prop
  | column {d : CreateTable} {c : ColumnDef} (created : .createTable d ∈ statements)
      (table_name : sameName d.name table = true) (defined : c ∈ d.columns)
      (name : sameName c.name column = true) (unique : c.IsUnique)
  | constraint {d : CreateTable} {k : TableConstraintDef} (created : .createTable d ∈ statements)
      (table_name : sameName d.name table = true) (demanded : k ∈ d.constraints)
      (unique : k.IsUniqueOn column)
  | index {i : CreateIndex} {names : List String} (created : .createIndex i ∈ statements)
      (table_name : sameName i.table table = true) (unique : i.unique = true)
      (unconditional : i.condition = none) (terms : i.terms = names.map .column)
      (only : NamesOnly column names)

/-- What some statements enforce more statements enforce. -/
lemma Enforces.of_subset {statements more : List Statement} {table column : String}
    (h : Enforces statements table column) (hsub : statements ⊆ more) : Enforces more table column := by
  cases h with
  | column created table_name defined name unique =>
      exact .column (hsub created) table_name defined name unique
  | constraint created table_name demanded unique =>
      exact .constraint (hsub created) table_name demanded unique
  | index created table_name unique unconditional terms only =>
      exact .index (hsub created) table_name unique unconditional terms only

end Sql

/-! ## Columns and indexes -/

/-- A column is unique by its own definition if it is marked so, or if the key is written on it. -/
lemma Column.isUnique_toDef_iff (c : Column) (inlineKey : Bool) :
    (c.toDef inlineKey).IsUnique ↔ c.unique = true ∨ (c.primaryKey = true ∧ inlineKey = true) := by
  simp only [Sql.ColumnDef.IsUnique, Column.toDef, List.mem_append, List.mem_map]
  cases c.unique <;> cases c.primaryKey <;> cases inlineKey <;> simp

/-- A unique index covers all rows and carries nothing. -/
lemma Index.plain_of_faults {i : Index} (h : i.faults = []) (hunique : i.kind = .unique) :
    i.condition = none ∧ i.carried = [] := by
  constructor <;> by_contra hne <;> simp [Index.faults, hunique, Option.isSome_iff_ne_none, hne] at h

lemma Index.terms_eq_map_iff {i : Index} (h : i.faults = []) (hunique : i.kind = .unique)
    {names : List String} : i.terms = names.map .column ↔ i.columns = names := by
  rw [Index.terms, if_neg (by simp [hunique]), (plain_of_faults h hunique).2, List.append_nil]
  exact (List.map_injective_iff.2 fun _ _ => Sql.IndexTerm.column.inj).eq_iff

/-! ## Tables -/

namespace Table

variable {t : Table} {name : String}

lemma isOnly_iff {names : List String} :
    isOnly name names = true ↔ ∃ k, names = [k] ∧ sameName k name = true := by
  rcases names with _ | ⟨k, _ | ⟨second, rest⟩⟩ <;> simp [isOnly]

/-- A list names a column and nothing else, and names it more than once. -/
def Repeated (column : String) (names : List String) : Prop := Sql.NamesOnly column names ∧ 1 < names.length

lemma namesOnly_iff {names : List String} :
    Sql.NamesOnly name names ↔ isOnly name names = true ∨ Repeated name names := by
  rcases names with _ | ⟨k, _ | ⟨second, rest⟩⟩ <;> simp [Sql.NamesOnly, Repeated, isOnly]

/-- A column of the table is unique by its own definition. -/
def DefinesUnique (t : Table) (column : String) : Prop :=
  ∃ c ∈ t.columns, sameName c.name column = true ∧ (c.toDef t.keyConstraint?.isNone).IsUnique

/-- A key, a `UNIQUE` constraint or a unique index of the table lists columns in a certain way. -/
def Lists (t : Table) (way : List String → Prop) : Prop :=
  (∃ names, way names ∧ (.primaryKey names ∈ t.constraints ∨ .unique names ∈ t.constraints)) ∨
    ∃ i ∈ t.indexes, i.kind = .unique ∧ way i.columns

lemma lists_or {p q : List String → Prop} :
    (t.Lists fun names => p names ∨ q names) ↔ t.Lists p ∨ t.Lists q := by
  simp only [Lists, or_and_right, and_or_left, exists_or]
  exact (or_congr_left or_or_or_comm).trans or_or_or_comm

/-- **A table keeps a column unique by a list that repeats it**: a key, a `UNIQUE` constraint or a unique
index names the column more than once and nothing else. -/
def Repeats (t : Table) (column : String) : Prop := t.Lists (Repeated column)

/-! ### The statements of a table -/

lemma createTable_mem_statements {d : Sql.CreateTable} :
    .createTable d ∈ t.statements ↔ t.toStatement = .createTable d := by
  simp [statements, indexStatements, Index.toStatement, eq_comm]

lemma createIndex_mem_statements {i : Sql.CreateIndex} :
    .createIndex i ∈ t.statements ↔ ∃ j ∈ t.indexes, j.toStatement = .createIndex i := by
  simp [statements, indexStatements, toStatement]

/-- No index of a table without errors breaks a rule by itself. -/
lemma faults_of_errors (h : t.errors = []) {i : Index} (hi : i ∈ t.indexes) : i.faults = [] := by
  simp only [errors, List.append_eq_nil_iff] at h
  have hi := ((indexes_of_indexesErrors h.2).1 i hi).2
  simp only [indexErrors, List.append_eq_nil_iff, List.map_eq_nil_iff] at hi
  exact hi.1.2

/-- A table without errors has no key constraint but the first. -/
lemma primaryKey_mem_constraints_iff (h : t.errors = []) {key : List String} :
    .primaryKey key ∈ t.constraints ↔ t.keyConstraint? = some key := by
  simp only [errors, List.append_eq_nil_iff] at h
  rw [← Option.mem_toList, ← (keys_of_keyErrors h.1.1.2).1, List.mem_filterMap]
  refine ⟨fun hmem => ⟨_, hmem, rfl⟩, ?_⟩
  rintro ⟨c, hc, hkey⟩
  cases c with
  | primaryKey cs => exact Option.some.inj hkey ▸ hc
  | unique | check => cases hkey

/-- A key is that of the only key constraint, or it is the only column that is marked. -/
lemma primaryKey_eq_cons_iff (h : t.errors = []) {first : String} {rest : List String} :
    t.primaryKey = first :: rest ↔ .primaryKey (first :: rest) ∈ t.constraints ∨
      (t.keyConstraint? = none ∧ rest = [] ∧ ∃ c ∈ t.columns, c.primaryKey = true ∧ c.name = first) := by
  have hmark : (∃ c ∈ t.columns, c.primaryKey = true ∧ c.name = first) ↔ first ∈ t.markedKey := by
    simp [markedKey, and_assoc]
  rw [primaryKey_mem_constraints_iff h, hmark, primaryKey]
  simp only [errors, List.append_eq_nil_iff] at h
  cases hkey : t.keyConstraint? with
  | some key => simp
  | none =>
      have hlength := (keys_of_keyErrors h.1.1.2).2 hkey
      rcases hmarks : t.markedKey with _ | ⟨mark, _ | ⟨second, others⟩⟩
      · simp
      · simp [@eq_comm _ mark, and_comm]
      · simp [hmarks] at hlength

lemma isOnly_primaryKey_iff (h : t.errors = []) : isOnly name t.primaryKey = true ↔
    (∃ names, isOnly name names = true ∧ .primaryKey names ∈ t.constraints) ∨
      (t.keyConstraint? = none ∧ ∃ c ∈ t.columns, c.primaryKey = true ∧ sameName c.name name = true) := by
  simp only [isOnly_iff, primaryKey_eq_cons_iff h]
  constructor
  · rintro ⟨k, hkey | ⟨hnone, -, c, hc, hmarked, rfl⟩, hk⟩
    · exact .inl ⟨_, ⟨k, rfl, hk⟩, hkey⟩
    · exact .inr ⟨hnone, c, hc, hmarked, hk⟩
  · rintro (⟨_, ⟨k, rfl, hk⟩, hkey⟩ | ⟨hnone, c, hc, hmarked, hk⟩)
    · exact ⟨k, .inl hkey, hk⟩
    · exact ⟨c.name, .inr ⟨hnone, trivial, c, hc, hmarked, rfl⟩, hk⟩

/-- A column is unique by its own definition if it is marked so, or if it is the key that is written on it. -/
lemma definesUnique_iff : t.DefinesUnique name ↔
    (∃ c ∈ t.columns, sameName c.name name = true ∧ c.unique = true) ∨
      (t.keyConstraint? = none ∧ ∃ c ∈ t.columns, c.primaryKey = true ∧ sameName c.name name = true) := by
  simp only [DefinesUnique, Column.isUnique_toDef_iff, Option.isNone_iff_eq_none]
  constructor
  · rintro ⟨c, hc, hname, hunique | ⟨hmarked, hnone⟩⟩
    · exact .inl ⟨c, hc, hname, hunique⟩
    · exact .inr ⟨hnone, c, hc, hmarked, hname⟩
  · rintro (⟨c, hc, hname, hunique⟩ | ⟨hnone, c, hc, hmarked, hname⟩)
    · exact ⟨c, hc, hname, .inl hunique⟩
    · exact ⟨c, hc, hname, .inr ⟨hmarked, hnone⟩⟩

lemma any_unique_column?_iff (h : t.errors = []) : (t.column? name).any (·.unique) = true ↔
    ∃ c ∈ t.columns, sameName c.name name = true ∧ c.unique = true := by
  rw [Option.any_eq_true]
  constructor
  · rintro ⟨c, hc, hunique⟩
    exact ⟨c, List.mem_of_find?_eq_some hc, by simpa using List.find?_some hc, hunique⟩
  · rintro ⟨c, hc, hname, hunique⟩
    exact ⟨c, column?_of_mem (valid_of_errors h).columns hc hname, hunique⟩

/-- **Where a table says that a column is unique.** -/
lemma isUniqueColumn_iff (h : t.errors = []) : t.isUniqueColumn name = true ↔
    t.DefinesUnique name ∨ t.Lists (isOnly name · = true) := by
  have hindex : (t.indexes.any fun i => i.isUnique && isOnly name i.columns) = true ↔
      ∃ i ∈ t.indexes, i.kind = .unique ∧ isOnly name i.columns = true := by
    simp only [List.any_eq_true, Bool.and_eq_true, Index.isUnique, beq_iff_eq]
  rw [isUniqueColumn, Bool.or_eq_true, Bool.or_eq_true, Bool.or_eq_true, definesUnique_iff, Lists]
  refine Iff.trans (or_congr (or_congr (or_congr (isOnly_primaryKey_iff h) (any_unique_column?_iff h))
    (?constraint : _ ↔ ∃ names, isOnly name names = true ∧ .unique names ∈ t.constraints)) hindex) ?_
  case constraint =>
    rw [List.any_eq_true]
    constructor
    · rintro ⟨c, hc, honly⟩
      cases c with
      | unique cs => exact ⟨cs, honly, hc⟩
      | primaryKey | check => cases honly
    · rintro ⟨names, honly, hc⟩
      exact ⟨_, hc, honly⟩
  simp only [and_or_left, exists_or, or_assoc, or_comm, or_left_comm]

/-- Every spelling of a column gives the same answer. -/
lemma isUniqueColumn_congr {other : String} (h : sameName name other = true) :
    t.isUniqueColumn name = t.isUniqueColumn other := by
  have hsame := Text.sameName_congr_right h
  have honly : isOnly name = isOnly other := funext fun names => by
    rcases names with _ | ⟨k, _ | ⟨second, rest⟩⟩ <;> simp [isOnly, hsame]
  simp only [isUniqueColumn, column?, honly, hsame]

/-- **Where the statements of a table keep a column unique.** -/
lemma enforces_iff (h : t.errors = []) : Sql.Enforces t.statements t.name name ↔
    t.DefinesUnique name ∨ t.Lists (Sql.NamesOnly name) := by
  have hcreated : .createTable _ ∈ t.statements := createTable_mem_statements.2 rfl
  constructor
  · rintro (⟨hcreated, -, hmem, hk, hunique⟩ | ⟨hcreated, -, hmem, names, honly, hdemand⟩ |
      ⟨hcreated, -, hunique, -, hterms, honly⟩)
    · obtain rfl := Sql.Statement.createTable.inj (createTable_mem_statements.1 hcreated)
      obtain ⟨c, hc, rfl⟩ := List.mem_map.1 hmem
      exact .inl ⟨c, hc, hk, hunique⟩
    · obtain rfl := Sql.Statement.createTable.inj (createTable_mem_statements.1 hcreated)
      obtain ⟨d, hd, rfl⟩ := List.mem_map.1 hmem
      refine .inr (.inl ⟨names, honly, ?_⟩)
      cases d with
      | primaryKey cs =>
          obtain rfl : cs = names := by simpa [TableConstraint.toDef] using hdemand
          exact .inl hd
      | unique cs =>
          obtain rfl : cs = names := by simpa [TableConstraint.toDef] using hdemand
          exact .inr hd
      | check => simp [TableConstraint.toDef] at hdemand
    · obtain ⟨i, hi, heq⟩ := createIndex_mem_statements.1 hcreated
      obtain rfl := Sql.Statement.createIndex.inj heq
      have hkind : i.kind = .unique := by simpa [Index.isUnique] using hunique
      obtain rfl := (Index.terms_eq_map_iff (faults_of_errors h hi) hkind).1 hterms
      exact .inr (.inr ⟨i, hi, hkind, honly⟩)
  · rintro (⟨c, hc, hname, hunique⟩ | ⟨names, honly, hkey | hdemand⟩ | ⟨i, hi, hkind, honly⟩)
    · exact .column hcreated (Text.sameName_refl _) (List.mem_map_of_mem hc) hname hunique
    · exact .constraint hcreated (Text.sameName_refl _) (List.mem_map_of_mem hkey) ⟨names, honly, .inl rfl⟩
    · exact .constraint hcreated (Text.sameName_refl _) (List.mem_map_of_mem hdemand) ⟨names, honly, .inr rfl⟩
    · have hfaults := faults_of_errors h hi
      refine .index (createIndex_mem_statements.2 ⟨i, hi, rfl⟩) ?_ (by simp [Index.isUnique, hkind])
        (Index.plain_of_faults hfaults hkind).1 ((Index.terms_eq_map_iff hfaults hkind).2 rfl) honly
      rw [(valid_of_errors h).owned i hi]
      exact Text.sameName_refl _

/-- **What the statements of a table enforce of a single column** is what the table says, and what a list that
repeats the column enforces. -/
theorem enforces_iff_isUniqueColumn_or_repeats (h : t.errors = []) :
    Sql.Enforces t.statements t.name name ↔ t.isUniqueColumn name = true ∨ t.Repeats name := by
  have honly : Sql.NamesOnly name = fun names => isOnly name names = true ∨ Repeated name names :=
    funext fun names => propext namesOnly_iff
  rw [enforces_iff h, isUniqueColumn_iff h, honly, lists_or, or_assoc]
  rfl

end Table

/-! ## Foreign keys and look-ups -/

/-- A foreign key without errors ends at a column that its table says is unique. -/
lemma Schema.unique_of_foreignKeyErrors {s : Schema} {t : Table} {c : Column} {k : ForeignKey}
    (h : s.foreignKeyErrors t c k = []) : ∃ u d, s.table? k.table = some u ∧
      u.column? k.column = some d ∧ u.isUniqueColumn k.column = true := by
  unfold foreignKeyErrors at h
  cases hfind : s.table? k.table with
  | none => simp [hfind] at h
  | some u =>
      cases hcolumn : u.column? k.column with
      | none => simp [hfind, Table.hasColumn, hcolumn] at h
      | some d =>
          refine ⟨u, d, rfl, hcolumn, ?_⟩
          by_contra hno
          simp [hfind, Table.hasColumn, hcolumn, hno] at h

/-- The end of a foreign key of a schema without errors is kept unique by the statements of its table, and
these are among the statements that create the schema. -/
lemma Schema.enforces_of_foreignKey {s : Schema} (h : s.errors = []) {t : Table} (ht : t ∈ s.tables)
    {c : Column} {k : ForeignKey} (hk : (c, k) ∈ t.foreignKeys) : ∃ u d, s.table? k.table = some u ∧
      u.column? k.column = some d ∧ Sql.Enforces u.statements u.name d.name ∧
      ∀ text, s.ddl = .ok text → ∃ statements body, Sql.renderAll statements = .ok body ∧
        text = body ++ "\n" ∧ Sql.Enforces statements u.name d.name := by
  have htables : s.tableErrors [] s.tables = [] := (List.append_eq_nil_iff.1 h).1
  obtain ⟨u, d, hu, hd, hunique⟩ := unique_of_foreignKeyErrors ((mem_of_tableErrors htables ht).2 _ hk)
  have humem := (mem_of_table?_eq_some hu).1
  have huerrors := (mem_of_tableErrors htables humem).1
  have hname : sameName d.name k.column = true := by simpa using List.find?_some hd
  have henforced : Sql.Enforces u.statements u.name d.name := by
    refine (Table.enforces_iff_isUniqueColumn_or_repeats huerrors).2 (.inl ?_)
    rw [Table.isUniqueColumn_congr hname]
    exact hunique
  refine ⟨u, d, hu, hd, henforced, fun text htext => ?_⟩
  obtain ⟨order, body, horder, hbody, rfl⟩ := ddl_eq_ok_iff.1 htext
  refine ⟨_, body, hbody, rfl, henforced.of_subset fun q hq => ?_⟩
  exact List.mem_flatMap.2 ⟨u, (perm_of_dependencyOrder horder).mem_iff.2 humem, hq⟩

namespace Access.Plan

/-- A look-up by a unique column is by a column that the table says is unique. -/
lemma exists_lookup {t : Table} {language : TargetLanguage} {operations : List Operation}
    (h : operationsOf t language = .ok operations) {o : Operation} (ho : o ∈ operations)
    (hkind : o.kind = .findByUnique) : ∃ c ∈ t.columns, t.isUniqueColumn c.name = true ∧
      (lookupDraft t language c).Written o := by
  obtain ⟨d, hd, hwritten⟩ := exists_draft h ho
  rw [hwritten.kind] at hkind
  rcases mem_drafts_iff.1 hd with rfl | rfl | rfl | ⟨-, rfl⟩ | rfl | ⟨c, hc, hlookup, rfl⟩
  case inr.inr.inr.inr.inr =>
    simp only [hasLookup, Bool.and_eq_true] at hlookup
    exact ⟨c, hc, hlookup.2, hwritten⟩
  all_goals cases hkind

end Access.Plan

/-- **Unique columns are unique in the database.**  For every table without errors and every spelling of a
column, the statements keep the column unique exactly if the table says so or a list of the table repeats
the column and names nothing else.  So the two agree except where only such a list keeps the column unique.

And so every foreign key of the table ends, in every valid schema with this table, at a column that the
emitted statements keep unique, and every look-up of a plan that finds one row is by such a column: it selects
by this column and takes its value for the only key. -/
theorem unique_columns_enforced {t : Table} (h : t.errors = []) :
    (∀ name,
      (Sql.Enforces t.statements t.name name ↔ t.isUniqueColumn name = true ∨ t.Repeats name) ∧
      ((t.isUniqueColumn name = true ↔ Sql.Enforces t.statements t.name name) ↔
        (t.Repeats name → t.isUniqueColumn name = true))) ∧
    (∀ s : Schema, s.errors = [] → t ∈ s.tables → ∀ c k, (c, k) ∈ t.foreignKeys →
      ∃ u d, s.table? k.table = some u ∧ u.column? k.column = some d ∧
        Sql.Enforces u.statements u.name d.name ∧
        ∀ text, s.ddl = .ok text → ∃ statements body, Sql.renderAll statements = .ok body ∧
          text = body ++ "\n" ∧ Sql.Enforces statements u.name d.name) ∧
    (∀ (language : TargetLanguage) (p : Access.Plan), Access.Plan.ofTable t language = .ok p →
      ∀ o ∈ p.operations, o.kind = .findByUnique →
      ∃ c ∈ t.columns,
        Access.Plan.statementText (.select t.name [c.name] [] false) = .ok o.sql ∧
        o.keys.map (·.column) = [c.name] ∧ Sql.Enforces t.statements t.name c.name) := by
  refine ⟨fun name => ?_, fun s hs ht c k hk => Schema.enforces_of_foreignKey hs ht hk,
    fun language p hplan o ho hkind => ?_⟩
  · have henforces : Sql.Enforces t.statements t.name name ↔ _ :=
      Table.enforces_iff_isUniqueColumn_or_repeats h
    refine ⟨henforces, ?_⟩
    rw [henforces]
    tauto
  · obtain ⟨-, -, hoperations, -⟩ := Access.Plan.ofTable_eq_ok hplan
    obtain ⟨c, hc, hunique, hwritten⟩ := Access.Plan.exists_lookup hoperations ho hkind
    refine ⟨c, hc, hwritten.sql, ?_, (Table.enforces_iff_isUniqueColumn_or_repeats h).2 (.inl hunique)⟩
    rw [hwritten.keys]
    rfl

/-- Editions are told apart by their number, by a code and by their place on the shelf, each said in another
way and in other letters than the column. -/
def editionTable : Table where
  name := "editions"
  columns := [.ofType "isbn" .text, .ofType "code" .text, .ofType "shelf" .integer, .ofType "title" .text]
  constraints := [.primaryKey ["ISBN"], .unique ["Code"]]
  indexes := [(Index.ofColumns "one_per_shelf" "editions" ["Shelf"]).asUnique,
    Index.ofColumns "by_title" "editions" ["title"]]

lemma editionTable_not_repeats (column : String) : ¬ editionTable.Repeats column := by
  rintro (⟨names, ⟨-, hlong⟩, hkey | hunique⟩ | ⟨i, hi, -, -, hlong⟩)
  · obtain rfl : names = ["ISBN"] := by simpa [editionTable] using hkey
    simp at hlong
  · obtain rfl : names = ["Code"] := by simpa [editionTable] using hunique
    simp at hlong
  · have hshort : ∀ i ∈ editionTable.indexes, i.columns.length = 1 := by decide +kernel
    exact absurd (hshort i hi) (Nat.ne_of_gt hlong)

/-- Loans refer to editions by the code. -/
def loanTable : Table where
  name := "loans"
  columns := [(Column.ofType "id" .integer).asPrimaryKey,
    (Column.ofType "edition" .text).referring "Editions" "CODE"]

/-- Loans and editions. -/
def loanSchema : Schema where
  tables := [loanTable, editionTable]
  relationships := []
  distinct := by decide +kernel

/-- The place on the shelf is unique and the title is not, the code to which loans refer is unique in the
text that creates the schema, and so is the column by which the first look-up selects. -/
theorem loanSchema_enforced : editionTable.errors = [] ∧
    Sql.Enforces editionTable.statements "editions" "SHELF" ∧
    ¬ Sql.Enforces editionTable.statements "editions" "title" ∧
    loanSchema.errors = [] ∧
    (∃ text statements body, loanSchema.ddl = .ok text ∧ Sql.renderAll statements = .ok body ∧
      text = body ++ "\n" ∧ Sql.Enforces statements "editions" "code") ∧
    ∃ p, Access.Plan.ofTable editionTable .typeScript = .ok p ∧
      ∃ o ∈ p.operations, o.kind = .findByUnique ∧ ∃ c ∈ editionTable.columns,
        o.keys.map (·.column) = [c.name] ∧ Sql.Enforces editionTable.statements "editions" c.name := by
  have herrors : editionTable.errors = [] := by decide +kernel
  have hvalid : loanSchema.errors = [] := by decide +kernel
  obtain ⟨htable, -, hlookup⟩ := unique_columns_enforced herrors
  obtain ⟨-, hforeign, -⟩ := unique_columns_enforced (t := loanTable) (by decide +kernel)
  obtain ⟨order, horder, hnames⟩ : ∃ order, loanSchema.dependencyOrder = .ok order ∧
      ∀ name ∈ (order.flatMap (·.statements)).flatMap (·.names), Sql.identifierFault name = none :=
    ⟨_, rfl, by decide +kernel⟩
  obtain ⟨body, hbody⟩ := Sql.exists_renderAll hnames
  have hddl : loanSchema.ddl = .ok (body ++ "\n") :=
    Schema.ddl_eq_ok_iff.2 ⟨order, body, horder, hbody, rfl⟩
  obtain ⟨p, hp, hany⟩ := Access.Plan.exists_ok (x := Access.Plan.ofTable editionTable .typeScript)
    (f := fun p => p.operations.any (·.kind == .findByUnique)) (b := true) (by decide +kernel)
  obtain ⟨o, ho, hlook⟩ := List.any_eq_true.1 hany
  have hkind : o.kind = .findByUnique := eq_of_beq hlook
  obtain ⟨u, d, hu, hd, -, htext⟩ := hforeign loanSchema hvalid List.mem_cons_self
    ((Column.ofType "edition" .text).referring "Editions" "CODE") ⟨"Editions", "CODE"⟩ (by decide +kernel)
  obtain rfl : editionTable = u := Option.some.inj hu
  obtain rfl : Column.ofType "code" .text = d := Option.some.inj hd
  obtain ⟨statements, body', hbody', htext', henforced⟩ := htext _ hddl
  obtain ⟨c, hc, -, hkey, hunique⟩ := hlookup .typeScript p hp o ho hkind
  refine ⟨herrors, ?_, ?_, hvalid, ⟨_, statements, body', hddl, hbody', htext', henforced⟩,
    p, hp, o, ho, hkind, c, hc, hkey, hunique⟩
  · exact (htable "SHELF").1.2 (.inl (by decide +kernel))
  · exact fun htitle => ((htable "title").1.1 htitle).elim (by decide +kernel)
      (editionTable_not_repeats "title")

/-- Accounts have an address, which a constraint names twice. -/
def accountTable : Table where
  name := "accounts"
  columns := [(Column.ofType "id" .integer).asPrimaryKey, .ofType "email" .text]
  constraints := [.unique ["email", "email"]]

/-- **A unique column that is overlooked.**  The constraint is over the address alone, and so the statements
keep it unique, but the table says that it is not. -/
theorem accountTable_overlooked : accountTable.errors = [] ∧ accountTable.hasColumn "email" = true ∧
    Sql.Enforces accountTable.statements "accounts" "email" ∧
      accountTable.isUniqueColumn "email" = false := by
  refine ⟨by decide +kernel, by decide +kernel, ?_, by decide +kernel⟩
  exact .constraint (Table.createTable_mem_statements.2 rfl) (by decide) List.mem_cons_self
    ⟨["email", "email"], ⟨by simp, by decide⟩, .inr rfl⟩

end SchemaCompiler

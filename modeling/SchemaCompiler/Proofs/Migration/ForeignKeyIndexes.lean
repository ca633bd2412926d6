import SchemaCompiler.Proofs.Migration.ColumnChanges
import SchemaCompiler.Proofs.Migration.Creation
import SchemaCompiler.Proofs.Schema.Uniqueness

/-!
# Foreign keys without an index

A join over a foreign key, and a cascade along it, looks up rows by the column that refers.  If no index leads
with that column the database reads the whole table, and the migration that brings the column says so in a
warning.  The warning is computed from an action, and the indexes are read from the table in the target.

SQLite keeps an index, or the order of the rows itself, for a key, for a column that is `UNIQUE`, for a
`UNIQUE` constraint and for every index that is created; `Sql.Leads` reads this off the statements, and
`Table.Led` off the table.  The compiler (`isIndexed`) looks for a key, for a mark and for an index, but not
for a constraint.  So there is never a warning too few, and there is one too many for each foreign key that
only a `UNIQUE` constraint leads with.

* `Table.led_iff_leads` — table and statements agree.
* `mem_warningsFor_iff` — the warnings of a list of actions.
* `CompiledFor.exists_table` — every foreign key that a migration brings belongs to a table of the target.
* **`missing_index_warnings_iff`** — when the warnings are those and only those that are due.
-/

namespace SchemaCompiler

open Text (sameName)

/-! ## What a look-up can use -/

/-- **Statements let a look-up by a column of a table find its rows**: the column is a key or unique by its
own definition, a key or `UNIQUE` constraint begins with it, or an index does. -/
inductive Sql.Leads (statements : List Statement) (table column : String) : Prop
  | column {d : CreateTable} {c : ColumnDef} (created : .createTable d ∈ statements)
      (table_name : sameName d.name table = true) (defined : c ∈ d.columns)
      (name : sameName c.name column = true) (unique : c.IsUnique)
  | constraint {d : CreateTable} {first : String} {rest : List String}
      (created : .createTable d ∈ statements) (table_name : sameName d.name table = true)
      (demanded : .primaryKey (first :: rest) ∈ d.constraints ∨ .unique (first :: rest) ∈ d.constraints)
      (name : sameName first column = true)
  | index {i : CreateIndex} {first : String} {rest : List IndexTerm}
      (created : .createIndex i ∈ statements) (table_name : sameName i.table table = true)
      (terms : i.terms = .column first :: rest) (name : sameName first column = true)

namespace Index

lemma leadsWith_iff {i : Index} {column : String} : i.leadsWith column = true ↔
    i.kind ≠ .expression ∧ ∃ first rest, i.columns = first :: rest ∧ sameName first column = true := by
  rw [leadsWith, Bool.and_eq_true, bne_iff_ne]
  refine and_congr_right fun _ => ?_
  cases i.columns <;> simp

/-- The first term of an index without faults is a column exactly if its first key is one; columns that the
index carries come after its keys. -/
lemma terms_eq_column_cons_iff {i : Index} (h : i.faults = []) {first : String} :
    (∃ rest, i.terms = .column first :: rest) ↔
      i.kind ≠ .expression ∧ ∃ rest, i.columns = first :: rest := by
  have hcolumns : i.columns ≠ [] := by
    intro hnil
    simp [faults, hnil] at h
  obtain ⟨key, keys, hkeys⟩ := List.exists_cons_of_ne_nil hcolumns
  rw [terms, hkeys]
  by_cases hkind : i.kind = .expression <;> simp [hkind]

end Index

namespace Table

variable {t : Table} {column : String}

/-- A key, a mark on the column or an index leads with the column. -/
def LedOutsideConstraints (t : Table) (column : String) : Prop :=
  (∃ first rest, t.primaryKey = first :: rest ∧ sameName first column = true) ∨
  (∃ c, t.column? column = some c ∧ c.unique = true) ∨
  ∃ i ∈ t.indexes, i.kind ≠ .expression ∧
    ∃ first rest, i.columns = first :: rest ∧ sameName first column = true

/-- A `UNIQUE` constraint begins with the column. -/
def LedByConstraint (t : Table) (column : String) : Prop :=
  ∃ first rest, .unique (first :: rest) ∈ t.constraints ∧ sameName first column = true

/-- **Something leads with the column**, so that a look-up by it does not read the whole table. -/
def Led (t : Table) (column : String) : Prop := t.LedOutsideConstraints column ∨ t.LedByConstraint column

/-- The compiler looks everywhere but at the constraints. -/
lemma isIndexed_iff : Migration.isIndexed t column = true ↔ t.LedOutsideConstraints column := by
  have hkey : (t.primaryKey.head?).any (sameName · column) = true ↔
      ∃ first rest, t.primaryKey = first :: rest ∧ sameName first column = true := by
    cases t.primaryKey <;> simp
  have hmark : (t.column? column).any (·.unique) = true ↔
      ∃ c, t.column? column = some c ∧ c.unique = true := by
    cases t.column? column <;> simp
  rw [Migration.isIndexed, Bool.or_eq_true, Bool.or_eq_true, or_assoc, List.any_eq_true]
  simp only [Index.leadsWith_iff]
  exact or_congr hkey (or_congr hmark Iff.rfl)

/-- **Table and statements agree** about what leads with a column. -/
theorem led_iff_leads (h : t.errors = []) : t.Led column ↔ Sql.Leads t.statements t.name column := by
  have hvalid := valid_of_errors h
  have hdefined : .createTable _ ∈ t.statements := createTable_mem_statements.2 rfl
  have hname : sameName t.name t.name = true := Text.sameName_refl _
  constructor
  · rintro ((⟨k, keys, hkey, hk⟩ | ⟨c, hc, hunique⟩ | ⟨i, hi, hkind, k, keys, hkeys, hk⟩) |
      ⟨k, keys, hmem, hk⟩)
    · rcases (primaryKey_eq_cons_iff h).1 hkey with hmem | ⟨hnone, -, c, hc, hmarked, rfl⟩
      · exact .constraint hdefined hname (.inl (List.mem_map_of_mem hmem)) hk
      · refine .column hdefined hname (List.mem_map_of_mem hc) hk ?_
        exact (Column.isUnique_toDef_iff c _).2 (.inr ⟨hmarked, by simp [hnone]⟩)
    · have hfound : sameName c.name column = true := by simpa using List.find?_some hc
      exact .column hdefined hname (List.mem_map_of_mem (List.mem_of_find?_eq_some hc)) hfound
        ((Column.isUnique_toDef_iff c _).2 (.inl hunique))
    · obtain ⟨rest, hterms⟩ :=
        (Index.terms_eq_column_cons_iff (faults_of_errors h hi)).2 ⟨hkind, keys, hkeys⟩
      refine .index (createIndex_mem_statements.2 ⟨i, hi, rfl⟩) ?_ hterms hk
      rw [hvalid.owned i hi]
      exact hname
    · exact .constraint hdefined hname (.inr (List.mem_map_of_mem hmem)) hk
  · rintro (⟨hcreated, -, hmem, hk, hunique⟩ | ⟨hcreated, -, hmem, hk⟩ | ⟨hcreated, -, hterms, hk⟩)
    · obtain rfl := Sql.Statement.createTable.inj (createTable_mem_statements.1 hcreated)
      obtain ⟨c, hc, rfl⟩ := List.mem_map.1 hmem
      rcases (Column.isUnique_toDef_iff c _).1 hunique with hunique | ⟨hmarked, hinline⟩
      · exact .inl (.inr (.inl ⟨c, column?_of_mem hvalid.columns hc hk, hunique⟩))
      · have hkey := (primaryKey_eq_cons_iff h).2
          (.inr ⟨Option.isNone_iff_eq_none.1 hinline, rfl, c, hc, hmarked, rfl⟩)
        exact .inl (.inl ⟨c.name, [], hkey, hk⟩)
    · obtain rfl := Sql.Statement.createTable.inj (createTable_mem_statements.1 hcreated)
      have hdemand : ∀ d : Sql.TableConstraintDef, d ∈ t.constraints.map (·.toDef) →
          ∃ c ∈ t.constraints, c.toDef = d := fun d hd => by simpa using hd
      rcases hmem with hmem | hmem <;> obtain ⟨c, hc, hdef⟩ := hdemand _ hmem <;>
        cases c <;> simp only [TableConstraint.toDef, Sql.TableConstraintDef.primaryKey.injEq,
          Sql.TableConstraintDef.unique.injEq, reduceCtorEq] at hdef
      · subst hdef
        exact .inl (.inl ⟨_, _, (primaryKey_eq_cons_iff h).2 (.inl hc), hk⟩)
      · subst hdef
        exact .inr ⟨_, _, hc, hk⟩
    · obtain ⟨i, hi, heq⟩ := createIndex_mem_statements.1 hcreated
      obtain rfl := Sql.Statement.createIndex.inj heq
      obtain ⟨hkind, keys, hkeys⟩ :=
        (Index.terms_eq_column_cons_iff (faults_of_errors h hi)).1 ⟨_, hterms⟩
      exact .inl (.inr (.inr ⟨i, hi, hkind, _, keys, hkeys, hk⟩))

end Table

namespace Migration

variable {current target : Schema} {actions : List Action} {table column : String} {m : Migration}

/-! ## The warnings of actions -/

/-- **An action brings a foreign key**: it creates the table or rebuilds it with this column, or it adds the
column. -/
inductive Action.Brings : Action → String → String → Prop
  | create {t : Table} {c : Column} (hc : c ∈ t.columns) (refers : c.references.isSome = true) :
      Brings (.createTable t) t.name c.name
  | rebuild {old new : Table} {dependents : List String} {c : Column} (hc : c ∈ new.columns)
      (refers : c.references.isSome = true) : Brings (.alterTable old new dependents) new.name c.name
  | add {table : String} {c : Column} (refers : c.references.isSome = true) :
      Brings (.addColumn table c) table c.name

lemma mem_foreignKeys_names_iff {t : Table} : column ∈ t.foreignKeys.map (fun (c, _) => c.name) ↔
    ∃ c ∈ t.columns, c.references.isSome = true ∧ c.name = column := by
  simp only [Table.foreignKeys, List.mem_map, List.mem_filterMap, Option.map_eq_some_iff,
    Option.isSome_iff_exists]
  constructor
  · rintro ⟨_, ⟨c, hc, k, hk, rfl⟩, rfl⟩
    exact ⟨c, hc, ⟨k, hk⟩, rfl⟩
  · rintro ⟨c, hc, ⟨k, hk⟩, rfl⟩
    exact ⟨(c, k), ⟨c, hc, k, hk, rfl⟩, rfl⟩

lemma mem_broughtForeignKeys_iff {a : Action} :
    a.table = table ∧ column ∈ broughtForeignKeys a ↔ a.Brings table column := by
  constructor
  · rintro ⟨rfl, hmem⟩
    cases a with
    | createTable t =>
        obtain ⟨c, hc, hrefers, rfl⟩ := mem_foreignKeys_names_iff.1 hmem
        exact .create hc hrefers
    | alterTable old new dependents =>
        obtain ⟨c, hc, hrefers, rfl⟩ := mem_foreignKeys_names_iff.1 hmem
        exact .rebuild hc hrefers
    | addColumn table c =>
        by_cases hrefers : c.references.isSome = true
        · obtain rfl : column = c.name := by simpa [broughtForeignKeys, hrefers] using hmem
          exact .add hrefers
        · simp [broughtForeignKeys, hrefers] at hmem
    | _ => cases hmem
  · intro h
    cases h with
    | create hc hrefers => exact ⟨rfl, mem_foreignKeys_names_iff.2 ⟨_, hc, hrefers, rfl⟩⟩
    | rebuild hc hrefers => exact ⟨rfl, mem_foreignKeys_names_iff.2 ⟨_, hc, hrefers, rfl⟩⟩
    | add hrefers => exact ⟨rfl, by simp [broughtForeignKeys, hrefers]⟩

/-- **The warnings about missing indexes**: one for each foreign key that an action brings, unless the table
has something other than a constraint that leads with it. -/
lemma mem_warningsFor_iff : .missingForeignKeyIndex table column ∈ warningsFor target actions ↔
    ∃ a ∈ actions, a.Brings table column ∧
      ∀ u, target.table? table = some u → ¬ u.LedOutsideConstraints column := by
  have hrebuild : ∀ a, Warning.missingForeignKeyIndex table column ∉ rebuildWarnings a := by
    intro a
    cases a <;> simp [rebuildWarnings]
  have hforeign : ∀ a, Warning.missingForeignKeyIndex table column ∈ foreignKeyWarnings target a ↔
      a.Brings table column ∧ ∀ u, target.table? table = some u → ¬ u.LedOutsideConstraints column := by
    intro a
    have hlooked : ∀ name, (target.table? table).any (isIndexed · name) = false ↔
        ∀ u, target.table? table = some u → ¬ u.LedOutsideConstraints name := by
      intro name
      simp only [← Table.isIndexed_iff]
      cases target.table? table <;> simp
    rw [← mem_broughtForeignKeys_iff]
    simp only [foreignKeyWarnings, List.mem_map, List.mem_filter, Bool.not_eq_true',
      Warning.missingForeignKeyIndex.injEq]
    constructor
    · rintro ⟨name, ⟨hbrought, hnone⟩, rfl, rfl⟩
      exact ⟨⟨rfl, hbrought⟩, (hlooked name).1 hnone⟩
    · rintro ⟨⟨rfl, hbrought⟩, hnone⟩
      exact ⟨column, ⟨hbrought, (hlooked column).2 hnone⟩, rfl, rfl⟩
  simp only [warningsFor, List.mem_flatMap, List.mem_append, hforeign, hrebuild, or_false]

/-! ## Migrations -/

/-- A migration that creates a schema, or that leads to it from another one. -/
inductive CompiledFor (target : Schema) (m : Migration) : Prop
  | initial {allow : Bool} {version : Nat} {name : String}
      (compiled : compileInitial allow target version name = .ok m)
  | diff {allow : Bool} {current : Schema} {hints : RenameHints} {version : Nat} {name : String}
      (compiled : compileDiff allow current target hints version name = .ok m)

/-- A schema that is compiled has no errors and an order of dependency. -/
lemma compileActions_of_compileInitial {allow : Bool} {version : Nat} {name : String}
    (h : compileInitial allow target version name = .ok m) :
    target.errors = [] ∧ ∃ order, target.dependencyOrder = .ok order ∧
      compileActions allow version name (order.map .createTable) target = .ok m := by
  have herrors := (refuseFaulty_bind_eq_ok_iff.1 h).1
  cases horder : target.dependencyOrder with
  | ok order => exact ⟨herrors, order, rfl, (compileInitial_eq_ok_iff herrors horder).1 h⟩
  | error e => simp [compileInitial, herrors, horder, refuseFaulty, liftSchema, Except.mapError, bind,
      Except.bind] at h

namespace CompiledFor

/-- Only a schema without errors is compiled. -/
lemma errors_eq_nil (h : CompiledFor target m) : target.errors = [] := by
  cases h with
  | initial h => exact (compileActions_of_compileInitial h).1
  | diff h => exact (layout_of_compileDiff h).1

/-- The warnings are those of the actions. -/
lemma warnings_eq (h : CompiledFor target m) : m.warnings = warningsFor target m.actions := by
  have hactions : ∀ {allow version name actions},
      compileActions allow version name actions target = .ok m →
        m.warnings = warningsFor target m.actions := by
    intro allow version name actions h
    obtain ⟨-, -, up, down, -, -, rfl⟩ := compileActions_eq_ok_iff.1 h
    rfl
  cases h with
  | initial h =>
      obtain ⟨-, _, -, h⟩ := compileActions_of_compileInitial h
      exact hactions h
  | diff h =>
      obtain ⟨-, -, _, _, -, -, h⟩ := compileDiff_eq_ok_iff.1 h
      exact hactions h

/-- **Every foreign key that a migration brings belongs to a table of the target**, and it is spelled there as
in the action. -/
theorem exists_table (h : CompiledFor target m) {a : Action} (ha : a ∈ m.actions)
    (hbrings : a.Brings table column) : ∃ u, target.table? table = some u := by
  have hfound : ∀ {u : Table}, u ∈ target.tables → ∃ w, target.table? u.name = some w :=
    fun hu => ⟨_, Schema.table?_eq_some_iff.2 ⟨hu, Text.sameName_refl _⟩⟩
  cases h with
  | initial h =>
      obtain ⟨-, order, horder, h⟩ := compileActions_of_compileInitial h
      rw [(createsInOrder_of_compileActions h).actions] at ha
      obtain ⟨t, ht, rfl⟩ := List.mem_map.1 ha
      cases hbrings
      exact hfound ((Schema.perm_of_dependencyOrder horder).mem_iff.1 ht)
  | diff h =>
      obtain ⟨-, -, l, hactions⟩ := layout_of_compileDiff h
      rw [hactions] at ha
      cases hbrings with
      | @create t =>
          have hmem : t ∈ l.created := by simpa [Layout.actions, Layout.renames, Layout.changes] using ha
          exact hfound (l.mem_created.1 hmem).1
      | rebuild =>
          obtain ⟨b, hb, -, rfl, -⟩ : ∃ b ∈ l.rebuilt, b.old = _ ∧ b.new = _ ∧ l.dependents b = _ := by
            simpa [Layout.actions, Layout.renames, Layout.changes] using ha
          exact hfound (l.mem_rebuilt.1 hb).1
      | add =>
          obtain ⟨u, hu, rfl, -⟩ := l.addition_of_mem ha
          exact hfound hu

end CompiledFor

/-- **A warning stands for a foreign key without an index.**  The warnings about missing indexes are those
for the columns that the migration brings and that nothing leads with in the target, exactly if every column
that it brings and that a `UNIQUE` constraint leads with is also led outside the constraints.  None is ever
missing: a column that nothing leads with has its warning.  And what leads with a column is what its
statements make SQLite keep for it. -/
theorem missing_index_warnings_iff (h : CompiledFor target m) :
    ((∀ table column, .missingForeignKeyIndex table column ∈ m.warnings ↔
        (∃ a ∈ m.actions, a.Brings table column) ∧
          ∃ u, target.table? table = some u ∧ ¬ u.Led column) ↔
      ∀ table column, (∃ a ∈ m.actions, a.Brings table column) →
        ∀ u, target.table? table = some u → u.LedByConstraint column → u.LedOutsideConstraints column) ∧
    (∀ table column, (∃ a ∈ m.actions, a.Brings table column) →
      ∃ u, target.table? table = some u ∧
        (¬ u.Led column → .missingForeignKeyIndex table column ∈ m.warnings) ∧
        (u.Led column ↔ Sql.Leads u.statements u.name column)) := by
  have hmem : ∀ {table column}, .missingForeignKeyIndex table column ∈ m.warnings ↔
      ∃ a ∈ m.actions, a.Brings table column ∧
        ∀ u, target.table? table = some u → ¬ u.LedOutsideConstraints column := by
    intro table column
    rw [h.warnings_eq]
    exact mem_warningsFor_iff
  refine ⟨⟨fun hexact table column hbrings u hu hconstraint => ?_, fun hled table column => ?_⟩,
    fun table column hbrings => ?_⟩
  · by_contra hnot
    obtain ⟨a, ha, hb⟩ := hbrings
    have hwarned := hmem.2 ⟨a, ha, hb, fun w hw => Option.some.inj (hu.symm.trans hw) ▸ hnot⟩
    obtain ⟨-, w, hw, hnone⟩ := (hexact table column).1 hwarned
    obtain rfl := Option.some.inj (hu.symm.trans hw)
    exact hnone (.inr hconstraint)
  · rw [hmem]
    constructor
    · rintro ⟨a, ha, hb, hnone⟩
      obtain ⟨u, hu⟩ := h.exists_table ha hb
      refine ⟨⟨a, ha, hb⟩, u, hu, ?_⟩
      rintro (houtside | hconstraint)
      · exact hnone u hu houtside
      · exact hnone u hu (hled table column ⟨a, ha, hb⟩ u hu hconstraint)
    · rintro ⟨⟨a, ha, hb⟩, u, hu, hnone⟩
      refine ⟨a, ha, hb, fun w hw houtside => ?_⟩
      obtain rfl := Option.some.inj (hu.symm.trans hw)
      exact hnone (.inl houtside)
  · obtain ⟨a, ha, hb⟩ := hbrings
    obtain ⟨u, hu⟩ := h.exists_table ha hb
    have herrors := (Schema.mem_of_tableErrors (List.append_eq_nil_iff.1 h.errors_eq_nil).1
      (Schema.table?_eq_some_iff.1 hu).1).1
    refine ⟨u, hu, fun hnone => hmem.2 ⟨a, ha, hb, fun w hw houtside => ?_⟩, Table.led_iff_leads herrors⟩
    obtain rfl := Option.some.inj (hu.symm.trans hw)
    exact hnone (.inl houtside)

/-- Guests who visit. -/
def visitSchema : Schema where
  tables := [
    { name := "guests", columns := [(Column.ofType "id" .integer).asPrimaryKey] },
    { name := "visits", columns := [(Column.ofType "id" .integer).asPrimaryKey] }]
  relationships := []
  distinct := by decide +kernel

/-- Visits by a guest to a host, where only the guest is indexed, and a key to the house for each guest, which
no two guests share. -/
def hostSchema : Schema where
  tables := [
    { name := "guests", columns := [(Column.ofType "id" .integer).asPrimaryKey] },
    { name := "visits",
      columns := [(Column.ofType "id" .integer).asPrimaryKey,
        ((Column.ofType "guest" .integer).referring "guests" "id").asNullable,
        ((Column.ofType "host" .integer).referring "guests" "id").asNullable],
      indexes := [.ofColumns "by_guest" "visits" ["Guest", "id"]] },
    { name := "keys",
      columns := [(Column.ofType "id" .integer).asPrimaryKey,
        (Column.ofType "owner" .integer).referring "guests" "id"],
      indexes := [.ofColumns "by_owner" "keys" ["owner"]],
      constraints := [.unique ["owner"]] }]
  relationships := []
  distinct := by decide +kernel

/-- Of the three foreign keys only the host has a warning. -/
theorem hostSchema_warned : ∃ m, compileDiff false visitSchema hostSchema {} 1 "hosts" = .ok m ∧
    .missingForeignKeyIndex "visits" "host" ∈ m.warnings ∧
    .missingForeignKeyIndex "visits" "guest" ∉ m.warnings ∧
    .missingForeignKeyIndex "keys" "owner" ∉ m.warnings := by
  obtain ⟨m, hm, hactions⟩ : ∃ m, compileDiff false visitSchema hostSchema {} 1 "hosts" = .ok m ∧
      m.actions = plainActions visitSchema hostSchema {} := exists_compileDiff (by decide +kernel)
  have hwarned := (missing_index_warnings_iff (.diff hm)).1.2 fun table column _ u hu hconstraint => by
    obtain ⟨first, rest, hmem, hname⟩ := hconstraint
    have hall : ∀ u ∈ hostSchema.tables, ∀ k ∈ u.constraints,
        ∃ i ∈ u.indexes, i.kind ≠ .expression ∧ k = .unique i.columns := by decide +kernel
    obtain ⟨i, hi, hkind, heq⟩ := hall u (Schema.table?_eq_some_iff.1 hu).1 _ hmem
    exact .inr (.inr ⟨i, hi, hkind, first, rest, (TableConstraint.unique.inj heq).symm, hname⟩)
  have hled : ∀ table column, (hostSchema.table? table).any (isIndexed · column) = true →
      .missingForeignKeyIndex table column ∉ m.warnings := by
    intro table column hindexed hmem
    obtain ⟨-, u, hu, hnone⟩ := (hwarned table column).1 hmem
    rw [hu] at hindexed
    exact hnone (.inl (Table.isIndexed_iff.1 hindexed))
  refine ⟨m, hm, (hwarned "visits" "host").2 ⟨?_, _, rfl, ?_⟩, hled _ _ (by decide +kernel),
    hled _ _ (by decide +kernel)⟩
  · refine ⟨.addColumn "visits" (((Column.ofType "host" .integer).referring "guests" "id").asNullable), ?_,
      .add rfl⟩
    rw [hactions]
    decide +kernel
  · rintro (houtside | ⟨_, _, hmem, -⟩)
    · exact absurd (Table.isIndexed_iff.2 houtside) (by decide +kernel)
    · cases hmem

/-- Members with one badge each. -/
def badgeSchema : Schema where
  tables := [
    { name := "members", columns := [(Column.ofType "id" .integer).asPrimaryKey] },
    { name := "badges",
      columns := [(Column.ofType "id" .integer).asPrimaryKey,
        (Column.ofType "member" .integer).referring "members" "id"],
      constraints := [.unique ["member"]] }]
  relationships := []
  distinct := by decide +kernel

/-- SQLite keeps an index for the `UNIQUE` constraint, and the migration that creates the table warns of its
absence. -/
theorem badgeSchema_warned_in_vain : ∃ m u, compileInitial false badgeSchema 1 "badges" = .ok m ∧
    badgeSchema.table? "badges" = some u ∧ u.Led "member" ∧ Sql.Leads u.statements "badges" "member" ∧
    .missingForeignKeyIndex "badges" "member" ∈ m.warnings := by
  have horder : badgeSchema.dependencyOrder = .ok badgeSchema.tables := by rfl
  obtain ⟨m, hm⟩ : ∃ m, compileActions false 1 "badges" (badgeSchema.tables.map .createTable)
      badgeSchema = .ok m :=
    exists_compileActions_creations_iff.2 ⟨List.cons_ne_nil _ _, by decide +kernel⟩
  have hcompiled := (compileInitial_eq_ok_iff (by decide +kernel) horder).2 hm
  have hled : ∀ u, badgeSchema.table? "badges" = some u → u.Led "member" := by
    rintro u hu
    obtain rfl := Option.some.inj hu
    exact .inr ⟨_, [], List.mem_cons_self, by decide +kernel⟩
  refine ⟨m, _, hcompiled, rfl, hled _ rfl, (Table.led_iff_leads (by decide +kernel)).1 (hled _ rfl), ?_⟩
  rw [CompiledFor.warnings_eq (.initial hcompiled), mem_warningsFor_iff,
    (createsInOrder_of_compileActions hm).actions]
  refine ⟨_, List.mem_map_of_mem (List.mem_cons_of_mem _ List.mem_cons_self),
    .create (c := (Column.ofType "member" .integer).referring "members" "id") (by decide +kernel) rfl,
    fun u hu houtside => ?_⟩
  obtain rfl := Option.some.inj hu
  exact absurd (Table.isIndexed_iff.2 houtside) (by decide +kernel)

end Migration
end SchemaCompiler

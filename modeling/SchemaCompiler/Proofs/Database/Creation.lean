import SchemaCompiler.Proofs.Database.Indexes
import SchemaCompiler.Proofs.Schema.Ordering
import SchemaCompiler.Schema.Ddl

/-!
# Creating a schema in an empty database

The text that creates a schema creates one table after the other, each followed by its indexes.  After
some of the tables the database holds exactly those tables and their indexes (`Database.storing`), and the
next table either extends that or is refused.  Validation rules out almost everything for which it could
be refused: columns of one name, indexes on columns that are not there, indexes of one name.  Two things it
does not look at, a table without columns and an index with the name of a table, and these two decide
(`Creatable`) whether the schema runs.

* `Creatable` — every table has a column, and no index has the name of a table.
* `Database.empty`, `Database.storing` — the empty database, and one that holds tables with their indexes.
* `Database.execAll_statements` — one more table.
* **`Schema.execAll_ddl`** — a valid schema runs exactly when it is creatable.
-/

namespace SchemaCompiler

open Text (sameName folded folded_eq_iff folded_ne_iff)

/-! ## What validation leaves open -/

/-- Every table has a column, and no index has the name of a table. -/
structure Creatable (tables : List Table) : Prop where
  columns : ∀ t ∈ tables, t.columns ≠ []
  apart : ∀ t ∈ tables, ∀ i ∈ t.indexes, ∀ u ∈ tables, sameName i.name u.name = false

namespace Creatable

variable {done rest : List Table} {t : Table}

instance (tables : List Table) : Decidable (Creatable tables) :=
  decidable_of_iff ((∀ t ∈ tables, t.columns ≠ []) ∧
      ∀ t ∈ tables, ∀ i ∈ t.indexes, ∀ u ∈ tables, sameName i.name u.name = false)
    ⟨fun ⟨h, h'⟩ => ⟨h, h'⟩, fun ⟨h, h'⟩ => ⟨h, h'⟩⟩

lemma of_subset (h : Creatable rest) (hsub : done ⊆ rest) : Creatable done :=
  ⟨fun t ht => h.columns t (hsub ht), fun t ht i hi u hu => h.apart t (hsub ht) i hi u (hsub hu)⟩

lemma nil : Creatable [] := ⟨by simp, by simp⟩

/-- What one more table asks for: itself a column and a name that no index has, and for each of its
indexes a name that no table has. -/
lemma append_iff (h : Creatable done) : Creatable (done ++ [t]) ↔
    (t.columns ≠ [] ∧ ∀ u ∈ done, ∀ i ∈ u.indexes, sameName i.name t.name = false) ∧
      ∀ i ∈ t.indexes, ∀ u ∈ done ++ [t], sameName i.name u.name = false := by
  constructor
  · intro ht
    exact ⟨⟨ht.columns t (by simp), fun u hu i hi => ht.apart u (by simp [hu]) i hi t (by simp)⟩,
      fun i hi => ht.apart t (by simp) i hi⟩
  · rintro ⟨⟨hcolumns, hname⟩, hindexes⟩
    refine ⟨fun u hu => ?_, fun u hu i hi v hv => ?_⟩
    · rcases List.mem_append.1 hu with hu | hu
      · exact h.columns u hu
      · exact List.mem_singleton.1 hu ▸ hcolumns
    · rcases List.mem_append.1 hu with hu | hu
      · rcases List.mem_append.1 hv with hv | hv
        · exact h.apart u hu i hi v hv
        · exact List.mem_singleton.1 hv ▸ hname u hu i hi
      · exact hindexes i (List.mem_singleton.1 hu ▸ hi) v hv

end Creatable

namespace Database

/-! ## Databases that hold tables -/

/-- The database without tables. -/
def empty : Database where
  tables := fun _ => none
  indexes := fun _ => none

/-- The database that holds tables with their indexes. -/
def storing (tables : List Table) : Database where
  tables := Catalog.of defined tables
  indexes k := ((tables.flatMap (·.indexes)).find? fun i => folded i.name == k).map (·.held)

lemma storing_nil : storing [] = empty := rfl

lemma storing_tables_append {done : List Table} {t : Table}
    (hnew : ∀ u ∈ done, sameName u.name t.name = false) :
    (storing (done ++ [t])).tables =
      Function.update (storing done).tables (folded t.name) (some (defined.table t)) := by
  funext k
  simp only [storing, Catalog.of, List.find?_append]
  by_cases hk : k = folded t.name
  · subst hk
    have hnone : done.find? (fun u => folded u.name == folded t.name) = none :=
      List.find?_eq_none.2 fun u hu => by simpa using folded_ne_iff.2 (hnew u hu)
    simp [hnone]
  · simp [hk, Ne.symm hk, Catalog.of]

lemma storing_indexes_append {done : List Table} {t : Table} (k : String) :
    (storing (done ++ [t])).indexes k = ((storing done).indexes k).or (t.indexAt k) := by
  simp [storing, Table.indexAt, Option.map_or]

lemma storing_indexes_eq_none_iff {tables : List Table} {k : String} :
    (storing tables).indexes k = none ↔ ∀ t ∈ tables, ∀ i ∈ t.indexes, folded i.name ≠ k := by
  simp only [storing, Option.map_eq_none_iff, List.find?_eq_none, List.mem_flatMap, beq_iff_eq]
  exact ⟨fun h t ht i hi => h i ⟨t, ht, hi⟩, fun h i ⟨t, ht, hi⟩ => h t ht i hi⟩

/-- What a search finds does not depend on the order where one element can be found at most. -/
lemma find?_eq_of_perm {β : Type} {l l' : List β} {p : β → Bool} (hperm : l.Perm l')
    (h : ∀ a ∈ l, ∀ b ∈ l, p a = true → p b = true → a = b) : l.find? p = l'.find? p := by
  cases hfind : l.find? p with
  | none =>
      exact (List.find?_eq_none.2 fun b hb => List.find?_eq_none.1 hfind b (hperm.mem_iff.2 hb)).symm
  | some a =>
      have ha := List.mem_of_find?_eq_some hfind
      cases hfind' : l'.find? p with
      | none =>
          exact absurd (List.find?_some hfind) (List.find?_eq_none.1 hfind' a (hperm.mem_iff.1 ha))
      | some b =>
          have hb := hperm.mem_iff.2 (List.mem_of_find?_eq_some hfind')
          rw [h a ha b hb (List.find?_some hfind) (List.find?_some hfind')]

/-- The tables of a valid schema in any order make the same database. -/
lemma storing_of_perm {s : Schema} (hv : s.Valid) {order : List Table} (hperm : order.Perm s.tables) :
    storing order = holding s := by
  refine Database.ext (funext fun k => ?_) (funext fun k => ?_)
  · simp only [storing, holding, Catalog.of]
    refine congrArg _ (find?_eq_of_perm hperm fun t ht u hu htk huk => ?_)
    refine DistinctNames.eq_of_folded s.distinct (hperm.mem_iff.1 ht) (hperm.mem_iff.1 hu) ?_
    exact (beq_iff_eq.1 htk).trans (beq_iff_eq.1 huk).symm
  · simp only [storing, holding]
    refine congrArg _ (find?_eq_of_perm (hperm.flatMap_right _) fun i hi j hj hik hjk => ?_)
    obtain ⟨t, ht, hi⟩ := List.mem_flatMap.1 hi
    obtain ⟨u, hu, hj⟩ := List.mem_flatMap.1 hj
    exact (hv.index_unique (hperm.mem_iff.1 ht) (hperm.mem_iff.1 hu) hi hj
      (folded_eq_iff.1 ((beq_iff_eq.1 hik).trans (beq_iff_eq.1 hjk).symm))).2

/-! ## The statements of one table -/

variable {db : Database} {t : Table}

/-- A valid table is created if it has a column and its name is free. -/
lemma exec_toStatement (hv : t.Valid) (hfree : db.tables (folded t.name) = none) :
    db.exec t.toStatement =
      if t.columns ≠ [] ∧ db.indexes (folded t.name) = none then
        some ⟨Function.update db.tables (folded t.name) (some (defined.table t)), db.indexes⟩
      else none := by
  have hcolumns : (t.columns.map (·.toDef t.keyConstraint?.isNone)).Pairwise
      fun a b => sameName a.name b.name = false := List.pairwise_map.2 hv.columns
  have haccepts : db.accepts t.toStatement = true ↔
      t.columns ≠ [] ∧ db.indexes (folded t.name) = none := by
    simp [accepts, Table.toStatement, hcolumns, and_comm]
  have htables : db.tables.exec t.toStatement =
      some (Function.update db.tables (folded t.name) (some (defined.table t))) := by
    rw [← held_toStatement t]
    simp [Catalog.exec, Table.toStatement, Catalog.create, hfree]
  simp only [exec, haccepts, htables]
  rfl

/-- Where its table and its columns are there, an index is refused only for a name that a table has. -/
lemma accepts_index (hv : t.Valid) {e : CatalogTable Definition}
    (htable : db.tables (folded t.name) = some e)
    (hcolumns : ∀ x, e.hasColumn x = (defined.table t).hasColumn x) {i : Index} (hi : i ∈ t.indexes) :
    db.accepts i.toStatement = (db.tables (folded i.name)).isNone := by
  have hterms : ∀ name, .column name ∈ i.terms → t.hasColumn name = true := by
    have hindexed := hv.indexed i hi
    unfold Index.terms
    unfold Index.namedColumns at hindexed
    split_ifs with hkind
    · simp
    · rw [if_neg hkind] at hindexed
      simpa using hindexed
  simp only [accepts, Index.toStatement, hv.owned i hi, htable, Option.any_some]
  refine (congrArg _ ?_).trans (Bool.and_true _)
  rw [Bool.or_eq_true]
  refine Or.inr (List.all_eq_true.2 fun term hterm => ?_)
  cases term with
  | column name => exact ((hcolumns _).trans (defined.hasColumn_table t name)).trans (hterms name hterm)
  | expression e => rfl

/-- The indexes of a table are created if no table has one of their names. -/
lemma execAll_indexes {is : List Index} (hv : t.Valid) {e : CatalogTable Definition}
    (htable : db.tables (folded t.name) = some e)
    (hcolumns : ∀ x, e.hasColumn x = (defined.table t).hasColumn x) (his : is ⊆ t.indexes) :
    db.execAll (is.map (·.toStatement)) =
      if ∀ i ∈ is, db.tables (folded i.name) = none then
        some ⟨db.tables, fun k =>
          (db.indexes k).or ((is.find? fun i => folded i.name == k).map (·.held))⟩
      else none := by
  have hrun : ∀ {db' : Database}, db.execAll (is.map (·.toStatement)) = some db' →
      db' = ⟨db.tables, fun k =>
        (db.indexes k).or ((is.find? fun i => folded i.name == k).map (·.held))⟩ := fun h =>
    Database.ext (execAll_createIndexes h).1 (funext (execAll_createIndexes h).2)
  have hsuccess : (db.execAll (is.map (·.toStatement))).isSome = true ↔
      ∀ i ∈ is, db.tables (folded i.name) = none := by
    clear hrun
    induction is generalizing db with
    | nil => simp [execAll]
    | cons i rest ih =>
        rw [List.map_cons, execAll_cons, List.forall_mem_cons]
        have haccepts := accepts_index hv htable hcolumns (his List.mem_cons_self)
        cases hname : db.tables (folded i.name) with
        | some e => simp [exec, haccepts, hname]
        | none =>
            have hexec : db.exec i.toStatement =
                some ⟨db.tables, fun k => indexAfter k (db.indexes k) i.toStatement⟩ := by
              simp only [exec, haccepts, hname]
              rfl
            rw [hexec, Option.bind_some]
            have hrest := @ih ⟨db.tables, fun k => indexAfter k (db.indexes k) i.toStatement⟩ htable
              fun j hj => his (List.mem_cons_of_mem _ hj)
            simpa using hrest
  cases hall : db.execAll (is.map (·.toStatement)) with
  | some db' => rw [if_pos (hsuccess.1 (by simp [hall])), hrun hall]
  | none => rw [if_neg (mt hsuccess.2 (by simp [hall]))]

/-- **One more table.**  Where the tables before are there with their indexes, a valid table of another
name is created with its indexes exactly if all of them together are creatable. -/
theorem execAll_statements {done : List Table} (hdone : Creatable done) (hv : t.Valid)
    (hnew : ∀ u ∈ done, sameName u.name t.name = false) :
    (storing done).execAll t.statements =
      if Creatable (done ++ [t]) then some (storing (done ++ [t])) else none := by
  have hfree : (storing done).tables (folded t.name) = none :=
    Catalog.of_eq_none_iff.2 fun u hu => folded_ne_iff.2 (hnew u hu)
  have hname : (storing done).indexes (folded t.name) = none ↔
      ∀ u ∈ done, ∀ i ∈ u.indexes, sameName i.name t.name = false := by
    simp only [storing_indexes_eq_none_iff, folded_ne_iff]
  have hindexes : (∀ i ∈ t.indexes, (storing (done ++ [t])).tables (folded i.name) = none) ↔
      ∀ i ∈ t.indexes, ∀ u ∈ done ++ [t], sameName i.name u.name = false := by
    simp only [storing, Catalog.of_eq_none_iff, folded_ne_iff]
    exact forall₂_congr fun i _ => forall₂_congr fun u _ => by rw [Text.sameName_comm]
  rw [Table.statements, execAll_cons, exec_toStatement hv hfree, ← storing_tables_append hnew]
  simp only [hdone.append_iff, ← hname, ← hindexes]
  by_cases hcreated : t.columns ≠ [] ∧ (storing done).indexes (folded t.name) = none
  · rw [if_pos hcreated, Option.bind_some, Table.indexStatements,
      execAll_indexes hv (e := defined.table t) (by simp [storing_tables_append hnew]) (fun _ => rfl)
        (List.Subset.refl _)]
    simp only [and_iff_right hcreated]
    split_ifs
    · exact congrArg some (Database.ext rfl (funext fun k => (storing_indexes_append k).symm))
    · rfl
  · rw [if_neg hcreated, if_neg fun h => hcreated h.1]
    rfl

/-- **Table after table.** -/
theorem execAll_tables {done rest : List Table} (hdone : Creatable done) (hv : ∀ t ∈ rest, t.Valid)
    (hdistinct : DistinctNames (done ++ rest)) :
    (storing done).execAll (rest.flatMap (·.statements)) =
      if Creatable (done ++ rest) then some (storing (done ++ rest)) else none := by
  induction rest generalizing done with
  | nil => simp [execAll, hdone]
  | cons t rest ih =>
      have hnew : ∀ u ∈ done, sameName u.name t.name = false := fun u hu =>
        (List.pairwise_append.1 hdistinct).2.2 u hu t List.mem_cons_self
      have hsplit : done ++ t :: rest = done ++ [t] ++ rest := by simp
      rw [execAll_flatMap_cons, execAll_statements hdone (hv t List.mem_cons_self) hnew, hsplit]
      rw [hsplit] at hdistinct
      split_ifs with hnext hall hall
      · rw [Option.bind_some, ih hnext (fun u hu => hv u (List.mem_cons_of_mem _ hu)) hdistinct,
          if_pos hall]
      · rw [Option.bind_some, ih hnext (fun u hu => hv u (List.mem_cons_of_mem _ hu)) hdistinct,
          if_neg hall]
      · exact absurd (hall.of_subset (List.subset_append_left _ _)) hnext
      · rfl

end Database

/-! ## The schema -/

namespace Schema

variable {s : Schema} {text : String}

/-- The text of a schema is that of its tables in the order of dependency. -/
lemma ddl_eq_ok_iff : s.ddl = .ok text ↔ ∃ order body, s.dependencyOrder = .ok order ∧
    Sql.renderAll (order.flatMap (·.statements)) = .ok body ∧ text = body ++ "\n" := by
  unfold ddl
  cases horder : s.dependencyOrder with
  | error e => simp [liftSchema, Except.mapError, bind, Except.bind]
  | ok order =>
      cases hbody : Sql.renderAll (order.flatMap (·.statements)) <;>
        simp [hbody, liftSchema, liftGeneration, Except.mapError, bind, Except.bind, pure, Except.pure,
          eq_comm]

/-- **A valid schema runs exactly when it is creatable.**  The statements whose text creates the schema
then leave an empty database with the tables and indexes of the schema and nothing else; otherwise one of
them is refused. -/
theorem execAll_ddl (herrors : s.errors = []) (hddl : s.ddl = .ok text) :
    ∃ order body, s.dependencyOrder = .ok order ∧
      Sql.renderAll (order.flatMap (·.statements)) = .ok body ∧ text = body ++ "\n" ∧
      Database.empty.execAll (order.flatMap (·.statements)) =
        if Creatable s.tables then some (.holding s) else none := by
  obtain ⟨order, body, horder, hbody, htext⟩ := ddl_eq_ok_iff.1 hddl
  refine ⟨order, body, horder, hbody, htext, ?_⟩
  have hv := valid_of_errors herrors
  have hperm := perm_of_dependencyOrder horder
  have hdistinct : DistinctNames ([] ++ order) :=
    (List.Perm.pairwise_iff (fun h => by rwa [Text.sameName_comm]) hperm).2 s.distinct
  have hcreatable : Creatable ([] ++ order) ↔ Creatable s.tables :=
    ⟨fun h => h.of_subset hperm.symm.subset, fun h => h.of_subset hperm.subset⟩
  rw [← Database.storing_nil,
    Database.execAll_tables .nil (fun t ht => hv.tables t (hperm.mem_iff.1 ht)) hdistinct]
  simp only [hcreatable]
  rw [List.nil_append, Database.storing_of_perm hv hperm]

/-- Labels and what they are put on. -/
def labelSchema : Schema where
  tables := [
    { name := "labels", columns := [(Column.ofType "id" .integer).asPrimaryKey,
        (Column.ofType "item" .integer).referring "items" "id", .ofType "text" .text],
      indexes := [.ofColumns "by_text" "labels" ["text"], .ofColumns "by_item" "labels" ["item"]] },
    { name := "items", columns := [(Column.ofType "id" .integer).asPrimaryKey] }]
  relationships := []
  distinct := by decide +kernel

/-- The tables are created in the order of dependency, each with its indexes. -/
theorem labelSchema_runs : ∃ text order, labelSchema.errors = [] ∧ labelSchema.ddl = .ok text ∧
    labelSchema.dependencyOrder = .ok order ∧
    Database.empty.execAll (order.flatMap (·.statements)) = some (.holding labelSchema) := by
  have herrors : labelSchema.errors = [] := by decide +kernel
  obtain ⟨order, horder, hnames⟩ : ∃ order, labelSchema.dependencyOrder = .ok order ∧
      ∀ name ∈ (order.flatMap (·.statements)).flatMap (·.names), Sql.identifierFault name = none :=
    ⟨_, rfl, by decide +kernel⟩
  obtain ⟨body, hbody⟩ := Sql.exists_renderAll hnames
  have hddl : labelSchema.ddl = .ok (body ++ "\n") := ddl_eq_ok_iff.2 ⟨order, body, horder, hbody, rfl⟩
  obtain ⟨order, body, horder, -, -, hrun⟩ := execAll_ddl herrors hddl
  exact ⟨_, order, herrors, hddl, horder, hrun.trans (if_pos (by decide +kernel))⟩

/-- Tags with an index that is called like the table. -/
def tagSchema : Schema where
  tables := [
    { name := "tags", columns := [(Column.ofType "id" .integer).asPrimaryKey, .ofType "label" .text],
      indexes := [.ofColumns "tags" "tags" ["label"]] }]
  relationships := []
  distinct := by decide +kernel

/-- The schema is valid and has a text, but the second statement of it is refused. -/
theorem tagSchema_refused : ∃ text order, tagSchema.errors = [] ∧ tagSchema.ddl = .ok text ∧
    tagSchema.dependencyOrder = .ok order ∧
    Database.empty.execAll (order.flatMap (·.statements)) = none := by
  obtain ⟨body, hbody⟩ : ∃ body, Sql.renderAll (tagSchema.tables.flatMap (·.statements)) = .ok body :=
    Sql.exists_renderAll (by decide +kernel)
  exact ⟨_, tagSchema.tables, by decide +kernel, ddl_eq_ok_iff.2 ⟨_, body, rfl, hbody, rfl⟩, rfl,
    Option.isNone_iff_eq_none.1 (by decide +kernel)⟩

end Schema

end SchemaCompiler

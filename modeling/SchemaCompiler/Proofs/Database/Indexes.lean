import Mathlib.Data.List.Induction
import SchemaCompiler.Proofs.Database.Actions

/-!
# The indexes of a schema and what renames make of them

A database that holds a valid schema has exactly the indexes that the schema declares, under names that
are all different.  Renames carry them along.  What the compiler expects of them is `Renames.applyToIndex`,
which renames every key; the database renames keys that are columns and leaves expressions alone.  The two
agree on an index exactly if none of its expressions is spelled like a renamed column
(`held_applyToIndex_iff`).

* `Database.holding_indexes_eq_some_iff` — the indexes of a database that holds a schema.
* `Renames.heldIndex` — a declared index after the renames, as the database keeps it.
* `Migration.Layout.foldl_renames` — the renames of a migration lead to it.
-/

namespace SchemaCompiler

open Text (sameName folded folded_eq_iff folded_ne_iff)

variable {s : Schema}

/-! ## The indexes of a schema -/

/-- In a valid schema an index name belongs to one index of one table. -/
lemma Schema.Valid.index_unique (hv : s.Valid) {t u : Table} (ht : t ∈ s.tables) (hu : u ∈ s.tables)
    {i j : Index} (hi : i ∈ t.indexes) (hj : j ∈ u.indexes) (h : sameName i.name j.name = true) :
    t = u ∧ i = j := by
  have hlower : Text.toLowercase i.name = Text.toLowercase j.name := Text.toLowercase_eq_of_sameName h
  have htu : t = u := by
    refine eq_of_pairwise_not (R := fun t u : Table => ∃ i ∈ t.indexes, ∃ j ∈ u.indexes,
      Text.toLowercase i.name = Text.toLowercase j.name) ?_ (hv.indexes.imp ?_) ht hu
      ⟨i, hi, j, hj, hlower⟩
    · rintro a b ⟨i, hi, j, hj, h⟩
      exact ⟨j, hj, i, hi, h.symm⟩
    · rintro a b h ⟨i, hi, j, hj, heq⟩
      exact h i hi j hj heq
  subst htu
  exact ⟨rfl, eq_of_pairwise_not (R := fun i j : Index => Text.toLowercase i.name = Text.toLowercase j.name)
    (fun _ _ h => h.symm) (hv.tables t ht).indexes hi hj hlower⟩

namespace Database

lemma holding_indexes_eq_none_iff {k : String} :
    (holding s).indexes k = none ↔ ∀ t ∈ s.tables, ∀ i ∈ t.indexes, folded i.name ≠ k := by
  simp only [holding, Option.map_eq_none_iff, List.find?_eq_none, List.mem_flatMap, beq_iff_eq]
  exact ⟨fun h t ht i hi => h i ⟨t, ht, hi⟩, fun h i ⟨t, ht, hi⟩ => h t ht i hi⟩

/-- **The indexes of a database that holds a valid schema are those that the schema declares.** -/
theorem holding_indexes_eq_some_iff (hv : s.Valid) {k : String} {x : CatalogIndex} :
    (holding s).indexes k = some x ↔
      ∃ t ∈ s.tables, ∃ i ∈ t.indexes, folded i.name = k ∧ i.held = x := by
  simp only [holding, Option.map_eq_some_iff]
  constructor
  · rintro ⟨i, hfind, rfl⟩
    obtain ⟨t, ht, hi⟩ := List.mem_flatMap.1 (List.mem_of_find?_eq_some hfind)
    exact ⟨t, ht, i, hi, by simpa using List.find?_some hfind, rfl⟩
  · rintro ⟨t, ht, i, hi, rfl, rfl⟩
    cases hfind : (s.tables.flatMap (·.indexes)).find? (fun j => folded j.name == folded i.name) with
    | none =>
        have := List.find?_eq_none.1 hfind i (List.mem_flatMap.2 ⟨t, ht, hi⟩)
        simp at this
    | some j =>
        obtain ⟨u, hu, hj⟩ := List.mem_flatMap.1 (List.mem_of_find?_eq_some hfind)
        have hji : folded j.name = folded i.name := by simpa using List.find?_some hfind
        exact ⟨j, rfl, by rw [(hv.index_unique hu ht hj hi (folded_eq_iff.1 hji)).2]⟩

/-- In a database that holds a valid schema every index lies on a table. -/
lemma holding_owned (hv : s.Valid) : (holding s).Owned := by
  intro k x hx
  obtain ⟨t, ht, i, hi, -, rfl⟩ := (holding_indexes_eq_some_iff hv).1 hx
  have howner : i.held.owner = folded t.name := congrArg folded ((hv.tables t ht).owned i hi)
  have hentry := Catalog.of_apply_mem (v := defined) s.distinct ht
  rw [howner]
  simp [holding, hentry]

end Database

/-- Of indexes with different names a look-up finds the one with the name. -/
lemma Table.indexAt_of_mem {t : Table}
    (ht : t.indexes.Pairwise fun i j => Text.toLowercase i.name ≠ Text.toLowercase j.name) {i : Index}
    (hi : i ∈ t.indexes) : t.indexAt (folded i.name) = some i.held := by
  rw [Table.indexAt, Option.map_eq_some_iff]
  cases hfind : t.indexes.find? (fun j => folded j.name == folded i.name) with
  | none =>
      have := List.find?_eq_none.1 hfind i hi
      simp at this
  | some j =>
      have hji : folded j.name = folded i.name := by simpa using List.find?_some hfind
      have : j = i := eq_of_pairwise_not
        (R := fun i j : Index => Text.toLowercase i.name = Text.toLowercase j.name)
        (fun _ _ h => h.symm) ht (List.mem_of_find?_eq_some hfind) hi
        (Text.toLowercase_eq_of_sameName (folded_eq_iff.1 hji))
      exact ⟨j, rfl, by rw [this]⟩

lemma Table.indexAt_eq_none_iff {t : Table} {k : String} :
    t.indexAt k = none ↔ ∀ i ∈ t.indexes, folded i.name ≠ k := by
  simp [Table.indexAt]

/-! ## Indexes under renames -/

namespace Renames

/-- A declared index after the renames as the database keeps it, given the new name of its table. -/
def heldIndex (r : Renames) (table : String) (i : Index) : CatalogIndex where
  owner := folded table
  terms := if i.kind = .expression then i.columns.map .expression
    else (i.columns ++ i.carried).map fun x => .column (folded (r.newColumn table x))
  unique := i.isUnique
  condition := i.condition

/-- No expression of an index is spelled like a column that is renamed. -/
def LeavesExpressions (r : Renames) (table : String) (i : Index) : Prop :=
  i.kind = .expression → ∀ e ∈ i.columns, r.newColumn table e = e

lemma leavesExpressions_iff {r : Renames} {table : String} {i : Index} (hk : i.kind = .expression) :
    r.LeavesExpressions table i ↔ i.columns.map (r.newColumn table) = i.columns := by
  conv_rhs => rhs; rw [← List.map_id i.columns]
  simp only [LeavesExpressions, hk, forall_const, List.map_inj_left, id]

lemma heldIndex_congr (r : Renames) {m n : String} (h : sameName m n = true) (i : Index) :
    r.heldIndex m i = r.heldIndex n i := by
  simp only [heldIndex, folded_eq_iff.2 h, r.newColumn_congr h]

/-- A renamed index as the compiler has it, in the database. -/
lemma held_applyToIndex (r : Renames) {t : Table} {i : Index} (hi : i.table = t.name) (table : String) :
    (r.applyToIndex t.name table i).held = { r.heldIndex table i with
      terms := if i.kind = .expression then (i.columns.map (r.newColumn table)).map .expression
        else (i.columns ++ i.carried).map fun x => .column (folded (r.newColumn table x)) } := by
  have htable : (r.applyToIndex t.name table i).table = table := by simp [applyToIndex, hi]
  have hterms := Index.terms_held (r.applyToIndex t.name table i)
  simp only [applyToIndex, ← List.map_append, List.map_map] at hterms
  rw [CatalogIndex.mk.injEq]
  refine ⟨congrArg folded htable, hterms.trans ?_, rfl, rfl⟩
  simp only [List.map_map]
  rfl

/-- **Where the compiler and the database agree on a renamed index.** -/
theorem held_applyToIndex_iff (r : Renames) {t : Table} {i : Index} (hi : i.table = t.name)
    (table : String) :
    (r.applyToIndex t.name table i).held = r.heldIndex table i ↔ r.LeavesExpressions table i := by
  have hinj : Function.Injective Sql.IndexTerm.expression := fun a b h => by simpa using h
  rw [held_applyToIndex r hi, CatalogIndex.mk.injEq]
  simp only [true_and, and_true]
  by_cases hk : i.kind = .expression
  · rw [if_pos hk, heldIndex, if_pos hk, (List.map_injective_iff.2 hinj).eq_iff,
      leavesExpressions_iff hk]
  · rw [if_neg hk, heldIndex, if_neg hk]
    exact iff_of_true rfl fun h => absurd h hk

/-! ### One rename after another -/

lemma foldl_replaced_tables {L : List (String × String)}
    (hne : ∀ q ∈ L, ∀ p ∈ L, sameName q.2 p.1 = false) (x : String) :
    L.foldl (fun o p => replaced (folded p.1) (folded p.2) o) (folded x)
      = folded ((⟨L, []⟩ : Renames).newTable x) := by
  induction L using List.reverseRecOn with
  | nil => rfl
  | append_singleton P p ih =>
      rw [List.foldl_append, ih fun q hq p' hp' => hne q (by simp [hq]) p' (by simp [hp']),
        folded_newTable_append fun q hq => hne q (by simp [hq]) p (by simp)]
      rfl

lemma foldl_replaced_columns {L : List (String × String)} {Q : List ColumnRename}
    (hne : ∀ q ∈ Q, ∀ c ∈ Q, sameName q.table c.table = true → sameName q.new c.old = false)
    (table x : String) :
    Q.foldl (fun o c => if folded table = folded c.table then
        replaced (folded c.old) (folded c.new) o else o) (folded x)
      = folded ((⟨L, Q⟩ : Renames).newColumn table x) := by
  induction Q using List.reverseRecOn with
  | nil => rfl
  | append_singleton P c ih =>
      rw [List.foldl_append, ih fun q hq c' hc' => hne q (by simp [hq]) c' (by simp [hc']),
        folded_newColumn_append fun q hq => hne q (by simp [hq]) c (by simp)]
      rfl

end Renames

namespace CatalogIndex

/-- What a column rename makes of a key of an index of `owner`. -/
def termAfter (owner : String) (term : Sql.IndexTerm) (c : ColumnRename) : Sql.IndexTerm :=
  if owner = folded c.table then renameTerm (folded c.old) (folded c.new) term else term

lemma renameColumn_eq (i : CatalogIndex) (c : ColumnRename) :
    i.renameColumn (folded c.table) (folded c.old) (folded c.new)
      = { i with terms := i.terms.map (termAfter i.owner · c) } := by
  unfold renameColumn termAfter
  split_ifs <;> simp

lemma foldl_termAfter_expression (owner e : String) (Q : List ColumnRename) :
    Q.foldl (termAfter owner) (.expression e) = .expression e := by
  induction Q with
  | nil => rfl
  | cons c rest ih =>
      have hstep : termAfter owner (.expression e) c = .expression e := by
        unfold termAfter
        split_ifs <;> rfl
      rw [List.foldl_cons, hstep, ih]

lemma foldl_termAfter_column (owner x : String) (Q : List ColumnRename) :
    Q.foldl (termAfter owner) (.column x) = .column (Q.foldl (fun o c =>
      if owner = folded c.table then replaced (folded c.old) (folded c.new) o else o) x) := by
  induction Q generalizing x with
  | nil => rfl
  | cons c rest ih =>
      have hstep : termAfter owner (.column x) c = .column (if owner = folded c.table then
          replaced (folded c.old) (folded c.new) x else x) := by
        unfold termAfter
        split_ifs <;> rfl
      rw [List.foldl_cons, hstep, ih, List.foldl_cons]

end CatalogIndex

namespace Migration

lemma foldl_renames_none (k : String) (L : List (String × String)) (Q : List ColumnRename) :
    (L.map (fun p => Action.renameTable p.1 p.2)
      ++ Q.map (fun c => Action.renameColumn c.table c.old c.new)).foldl
        (fun x a => a.indexAfter k x) none = none := by
  rw [List.foldl_append, List.foldl_map, List.foldl_map]
  have htables : L.foldl (fun x p => (Action.renameTable p.1 p.2).indexAfter k x) none = none := by
    induction L with
    | nil => rfl
    | cons p rest ih => exact ih
  rw [htables]
  induction Q with
  | nil => rfl
  | cons c rest ih => exact ih

lemma foldl_renameTables (k : String) (L : List (String × String)) (i : CatalogIndex) :
    (L.map fun p => Action.renameTable p.1 p.2).foldl (fun x a => a.indexAfter k x) (some i)
      = some { i with owner := L.foldl (fun o p => replaced (folded p.1) (folded p.2) o) i.owner } := by
  induction L generalizing i with
  | nil => rfl
  | cons p rest ih => exact ih (i.renameTable (folded p.1) (folded p.2))

lemma foldl_renameColumns (k : String) (Q : List ColumnRename) (i : CatalogIndex) :
    (Q.map fun c => Action.renameColumn c.table c.old c.new).foldl (fun x a => a.indexAfter k x) (some i)
      = some { i with terms := i.terms.map fun t => Q.foldl (CatalogIndex.termAfter i.owner) t } := by
  induction Q generalizing i with
  | nil => simp
  | cons c rest ih =>
      have hstep := ih (i.renameColumn (folded c.table) (folded c.old) (folded c.new))
      rw [List.map_cons, List.foldl_cons]
      refine hstep.trans ?_
      rw [CatalogIndex.renameColumn_eq]
      simp only [List.map_map, Function.comp_def, List.foldl_cons]

/-- **The renames of a migration carry an index along.** -/
theorem Layout.foldl_renames {current target : Schema} {r : Renames} (l : Layout current target r)
    (hfits : r.Fits current target) (hapart : TablesApart r.tables) (k : String) {t : Table} {i : Index}
    (hi : i.table = t.name) :
    l.renames.foldl (fun x a => a.indexAfter k x) (some i.held)
      = some (r.heldIndex (r.newTable t.name) i) := by
  have htables := Renames.foldl_replaced_tables (L := r.tables)
    (fun q hq p hp => hfits.tablesFit.new_ne_old hq hp) t.name
  have hcolumns := Renames.foldl_replaced_columns (L := r.tables) (Q := (r.inOrder target).columns)
    (fun q hq c hc hqc => ColumnsFit.new_ne_old current.distinct hfits.tablesFit hapart
      (Renames.columnsFit_inOrder hfits hapart) hq hc hqc)
  have howner : i.held.owner = folded t.name := congrArg folded hi
  have hnew : folded ((⟨r.tables, []⟩ : Renames).newTable t.name) = folded (r.newTable t.name) := rfl
  rw [renames, List.foldl_append, foldl_renameTables, howner, htables, foldl_renameColumns, hnew]
  rw [Renames.heldIndex, Option.some.injEq, CatalogIndex.mk.injEq]
  refine ⟨rfl, ?_, rfl, rfl⟩
  have hcolumn : ∀ x, (r.inOrder target).columns.foldl
      (CatalogIndex.termAfter (folded (r.newTable t.name))) (.column (folded x))
        = .column (folded (r.newColumn (r.newTable t.name) x)) := by
    intro x
    rw [CatalogIndex.foldl_termAfter_column, hcolumns, ← Renames.newColumn_inOrder hfits]
    rfl
  simp only [Index.held, Index.terms]
  split_ifs
  · simp [Sql.IndexTerm.held, CatalogIndex.foldl_termAfter_expression]
  · simp only [List.map_map, Function.comp_def, Sql.IndexTerm.held, hcolumn]

end Migration

end SchemaCompiler

import SchemaCompiler.Proofs.Migration.Soundness
import SchemaCompiler.Proofs.Migration.Staging
import Mathlib.Data.List.Nodup

/-!
# Columns that come and go by themselves

A table that is not rebuilt is changed column by column.  Its columns are added going up and dropped again
going down, or dropped going up and not brought back; a column that is renamed is in none of these actions.
Each of these statements says which column it is about, and the comparison has found that column in one of
the two tables only.

* `addColumn_mem_up_iff`, `dropColumn_mem_up`, `dropColumn_mem_down` — the actions that statements on
  columns come from.
* `Layout.addition_of_mem`, `Layout.removal_of_mem` — the table of such an action, and the tables that have
  the column.
* `Layout.column_ne_of_split` — no two actions are about one column.
* `Layout.changes_split` — all of them run between the renames and the indexes that are created by themselves.
-/

namespace SchemaCompiler.Migration

open Text (sameName folded folded_ne_iff)

variable {current target : Schema} {r : Renames} {t u : Table} {c : Column} {a : Action}
  {table column : String} {d : Sql.ColumnDef}

/-! ## Statements on columns -/

lemma addColumn_not_mem_statements (t : Table) : .addColumn table d ∉ t.statements := by
  simp [Table.statements, Table.indexStatements, Table.toStatement, Index.toStatement]

/-- A rebuild adds no columns. -/
lemma addColumn_not_mem_rebuildStatements (old new : Table) :
    .addColumn table d ∉ rebuildStatements old new := by
  by_cases hshared : sharedColumns old new = [] <;>
    simp [rebuildStatements, hshared, Table.indexStatements, Table.toStatement, Index.toStatement]

lemma addColumn_mem_up_iff {a : Action} :
    .addColumn table d ∈ a.up ↔ ∃ c : Column, a = .addColumn table c ∧ d = c.toDef true := by
  cases a with
  | createTable t => simp [Action.up, addColumn_not_mem_statements]
  | alterTable old new dependents => simp [Action.up, addColumn_not_mem_rebuildStatements]
  | addColumn other c => simp [Action.up, and_assoc, eq_comm]
  | _ => simp [Action.up, Index.toStatement]

/-- Nothing is undone by adding a column. -/
lemma addColumn_not_mem_down (a : Action) : .addColumn table d ∉ a.down := by
  unfold Action.down
  split_ifs
  · simp
  · cases a <;> simp [Index.dropStatement, addColumn_not_mem_rebuildStatements]

/-- A statement that is no comment and takes an action back is a statement of the opposite action, or drops
an index that was created. -/
lemma mem_down {s : Sql.Statement} (h : s ∈ a.down) (hs : ∀ text, s ≠ .comment text) :
    a.isDestructive = false ∧ (s ∈ a.undo.up ∨ ∃ i, a = .createIndex i ∧
      s = .dropIndex i.name true) := by
  cases hsafe : a.isDestructive with
  | true =>
      simp only [Action.down, hsafe, if_true, List.mem_singleton] at h
      exact absurd h (hs _)
  | false =>
      rcases Action.down_eq hsafe with hdown | ⟨i, rfl, hdown⟩ <;> rw [hdown] at h
      · exact ⟨rfl, Or.inl h⟩
      · exact ⟨rfl, Or.inr ⟨i, rfl, List.mem_singleton.1 h⟩⟩

lemma dropColumn_mem_up (h : .dropColumn table column ∈ a.up) :
    ∃ c : Column, a = .dropColumn table c ∧ c.name = column := by
  cases a with
  | alterTable old new _ =>
      by_cases hshared : sharedColumns old new = [] <;>
        simp [Action.up, rebuildStatements, hshared, Table.indexStatements, Table.toStatement,
          Index.toStatement] at h
  | dropColumn other c =>
      simp only [Action.up, List.mem_singleton, Sql.Statement.dropColumn.injEq] at h
      exact ⟨c, by rw [h.1], h.2.symm⟩
  | _ => simp [Action.up, Table.statements, Table.indexStatements, Table.toStatement,
      Index.toStatement] at h

lemma dropColumn_mem_down (h : .dropColumn table column ∈ a.down) :
    ∃ c : Column, a = .addColumn table c ∧ c.name = column := by
  obtain ⟨hsafe, hundo | ⟨i, -, hi⟩⟩ := mem_down h (by simp)
  · obtain ⟨c, hc, rfl⟩ := dropColumn_mem_up hundo
    cases a <;> simp_all [Action.undo, Action.isDestructive]
  · cases hi

/-! ## Columns of a table that is changed in place -/

/-- What is added and dropped without a rebuild. -/
lemma inPlace_columns {old : Table} (h : TableChange.needsRebuild old u = false) :
    (∀ c ∈ TableChange.columnsMissingFrom u old, c.canAddInPlace = true) ∧
      ∀ c ∈ TableChange.columnsMissingFrom old u, TableChange.canDropInPlace c = true := by
  simp only [TableChange.needsRebuild, Bool.or_eq_false_iff, List.any_eq_false] at h
  exact ⟨fun c hc => by simpa using h.1.2 c hc, fun c hc => by simpa using h.2 c hc⟩

/-- The column that an action adds or drops, with its table. -/
def Action.column? : Action → Option (String × String)
  | .addColumn table c | .dropColumn table c => some (folded table, folded c.name)
  | .createTable _ | .dropTable _ | .renameTable _ _ | .renameColumn _ _ _ | .alterTable _ _ _
  | .createIndex _ | .dropIndex _ => none

namespace Layout

variable (l : Layout current target r)

/-- The actions on a table that is changed in place. -/
lemma mem_tail_at (hm : Migratable current target r) (hu : u ∈ target.tables) {old : Table}
    (hf : r.fate current u = .inPlace old) (ha : a ∈ l.tail) (htable : folded a.table = folded u.name) :
    (∃ c ∈ TableChange.columnsMissingFrom u old, a = .addColumn u.name c) ∨
      (∃ c ∈ TableChange.columnsMissingFrom old u, a = .dropColumn u.name c) ∨
      ∃ i ∈ indexesMissingFrom u old, a = .createIndex i := by
  have hmem : a ∈ l.tail.filter fun a => folded a.table == folded u.name :=
    List.mem_filter.2 ⟨ha, beq_iff_eq.2 htable⟩
  rw [l.tail_at hm hu, tailOf, changesOf, hf] at hmem
  simpa [Fate.newIndexes, or_assoc, eq_comm] using hmem

/-- The columns that are added to a table and dropped from it all have different names. -/
lemma nodup_columns_tailOf (hcolumns : (r.apply t u.name).columns.Pairwise fun a b =>
      sameName a.name b.name = false) (hu : u.Valid)
    (hf : r.fate current u = .inPlace (r.apply t u.name)) :
    ((l.tailOf u).filterMap (·.column?)).Nodup := by
  have hnodup : ∀ {cs : List Column}, (cs.Pairwise fun a b => sameName a.name b.name = false) →
      (cs.map fun c => (folded u.name, folded c.name)).Nodup := fun hcs =>
    List.pairwise_map.2 (hcs.imp fun {a b} hab heq => folded_ne_iff.2 hab (Prod.mk.inj heq).2)
  have hshape : (l.tailOf u).filterMap (·.column?)
      = (TableChange.columnsMissingFrom u (r.apply t u.name)).map (fun c => (folded u.name, folded c.name))
        ++ (TableChange.columnsMissingFrom (r.apply t u.name) u).map
          fun c => (folded u.name, folded c.name) := by
    have hcreates : ((indexesMissingFrom u (r.apply t u.name)).map Action.createIndex).filterMap
        (·.column?) = [] := by simp [List.filterMap_map, Action.column?]
    have hadds : ∀ cs : List Column, (cs.map (Action.addColumn u.name)).filterMap (·.column?)
        = cs.map fun c => (folded u.name, folded c.name) := fun cs => by
      rw [List.filterMap_map, ← List.filterMap_eq_map]
      rfl
    have hdrops : ∀ cs : List Column, (cs.map (Action.dropColumn u.name)).filterMap (·.column?)
        = cs.map fun c => (folded u.name, folded c.name) := fun cs => by
      rw [List.filterMap_map, ← List.filterMap_eq_map]
      rfl
    rw [tailOf, changesOf, hf]
    simp only [Fate.newIndexes, List.filterMap_append, hcreates, hadds, hdrops, List.append_nil]
  rw [hshape]
  refine List.nodup_append.2 ⟨hnodup (hu.columns.filter _), hnodup (hcolumns.filter _), ?_⟩
  rintro _ hx _ hy rfl
  obtain ⟨c, hc, rfl⟩ := List.mem_map.1 hx
  obtain ⟨d, hd, heq⟩ := List.mem_map.1 hy
  have hmissing : (r.apply t u.name).hasColumn c.name = false := by simpa using (List.mem_filter.1 hc).2
  exact folded_ne_iff.2 (Table.hasColumn_eq_false_iff.1 hmissing d (List.mem_filter.1 hd).1)
    (Prod.ext_iff.1 heq).2

/-- A column is added or dropped by one action only. -/
lemma column_ne_of_split (hm : Migratable current target r)
    (hcolumns : ColumnsApart (r.inOrder target).columns) (hu : u ∈ target.tables)
    (hs : r.source current u = some t) (hf : r.fate current u = .inPlace (r.apply t u.name))
    {pre post : List Action} (htail : l.tail = pre ++ a :: post) {q : String × String}
    (ha : a.column? = some q) (hq : q.1 = folded u.name) {b : Action} (hb : b ∈ pre ++ post) :
    b.column? ≠ some q := by
  have htable : ∀ {a : Action}, a.column? = some q → folded a.table = folded u.name := by
    intro a ha
    cases a <;> simp only [Action.column?, Option.some.injEq, reduceCtorEq] at ha <;>
      rw [← hq, ← ha] <;> rfl
  have hnodup := l.nodup_columns_tailOf (Renames.columns_apply hm.fits hcolumns hu hs
    (hm.current_valid.tables t (Renames.mem_of_source hs).1).columns) (hm.target_valid.tables u hu) hf
  rw [← l.tail_at hm hu, htail, List.filter_append, List.filter_cons_of_pos (by simp [htable ha]),
    List.filterMap_append, List.filterMap_cons_some ha, List.nodup_middle, List.nodup_cons,
    ← List.filterMap_append, ← List.filter_append] at hnodup
  intro hbq
  exact hnodup.1 (List.mem_filterMap.2 ⟨b, List.mem_filter.2 ⟨hb, by simp [htable hbq]⟩, hbq⟩)

/-- A column that an action adds is missing from the old table. -/
lemma addition_of_mem (h : .addColumn table c ∈ l.actions) :
    ∃ u ∈ target.tables, u.name = table ∧ ∃ t, r.source current u = some t ∧
      r.fate current u = .inPlace (r.apply t u.name) ∧ TableChange.needsRebuild (r.apply t u.name) u = false ∧
      c ∈ TableChange.columnsMissingFrom u (r.apply t u.name) := by
  obtain ⟨u, hu, c', hc, heq⟩ : ∃ u ∈ target.tables, ∃ c' ∈ (r.fate current u).additions u,
      Action.addColumn u.name c' = .addColumn table c := by
    simpa [actions, renames, changes] using h
  obtain ⟨htable, rfl⟩ := Action.addColumn.inj heq
  obtain ⟨old, hf, hc⟩ := Fate.mem_additions_iff.1 hc
  obtain ⟨t, hs, rfl, hkept⟩ := Renames.fate_eq_inPlace_iff.1 hf
  exact ⟨u, hu, htable, t, hs, hf, hkept, hc⟩

/-- A column that an action drops is missing from the new table. -/
lemma removal_of_mem (h : .dropColumn table c ∈ l.actions) :
    ∃ u ∈ target.tables, u.name = table ∧ ∃ t, r.source current u = some t ∧
      r.fate current u = .inPlace (r.apply t u.name) ∧ TableChange.needsRebuild (r.apply t u.name) u = false ∧
      c ∈ TableChange.columnsMissingFrom (r.apply t u.name) u := by
  obtain ⟨u, hu, c', hc, heq⟩ : ∃ u ∈ target.tables, ∃ c' ∈ (r.fate current u).removals u,
      Action.dropColumn u.name c' = .dropColumn table c := by
    simpa [actions, renames, changes] using h
  obtain ⟨htable, rfl⟩ := Action.dropColumn.inj heq
  obtain ⟨old, hf, hc⟩ := Fate.mem_removals_iff.1 hc
  obtain ⟨t, hs, rfl, hkept⟩ := Renames.fate_eq_inPlace_iff.1 hf
  exact ⟨u, hu, htable, t, hs, hf, hkept, hc⟩

/-- An action on a column stands among the changes. -/
lemma changes_split {pre post : List Action} (h : l.actions = pre ++ a :: post)
    (ha : a.column?.isSome = true) :
    ∃ p q, l.changes = p ++ a :: q ∧ pre = l.head ++ p ∧
      post = q ++ (target.tables.flatMap fun u => (r.fate current u).newIndexes u).map .createIndex := by
  have hparts : l.head ++ l.changes ++ (target.tables.flatMap fun u =>
      (r.fate current u).newIndexes u).map .createIndex = pre ++ a :: post := h
  refine split_middle hparts (fun hmem => ?_) fun hmem => ?_
  · rcases l.mem_head hmem with ⟨_, rfl⟩ | ⟨_, _, rfl⟩ | ⟨_, _, rfl⟩ <;> simp [Action.column?] at ha
  · obtain ⟨_, -, rfl⟩ := List.mem_map.1 hmem
    simp [Action.column?] at ha

end Layout

end SchemaCompiler.Migration

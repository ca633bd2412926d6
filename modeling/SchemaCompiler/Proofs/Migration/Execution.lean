import SchemaCompiler.Proofs.Migration.Layout

/-!
# Running actions

An action changes the tables of a database, or is refused because a table or a column is missing or is
there already.  Apart from renames an action looks at one table and changes that one, so that a list of
such actions is many independent lists, one for each table.  That is how the middle part of a migration
is run here: table by table (`runAll_iff`), with the few actions that one table gets
(`Layout.changes_at`).

* `Action.run`, `runAll` — an action and a list of actions on a catalog.
* `Action.entry` — an action on the only table that it looks at.
* `runAll_iff` — actions on single tables, run table by table.
* `Layout.changes_at`, `Layout.changes_elsewhere` — what the layout of a migration has for one table.
-/

namespace SchemaCompiler.Migration

open Text (sameName folded folded_eq_iff)

variable {α : Type} {v : View α}

/-! ## Actions on a catalog -/

/-- The tables after an action; indexes are no tables. -/
def Action.run (v : View α) (c : Catalog α) : Action → Option (Catalog α)
  | .createTable t => c.create (folded t.name) (v.table t)
  | .dropTable t => c.drop (folded t.name)
  | .renameTable old new => c.renameTable (folded old) (folded new)
  | .addColumn table column => c.addColumn (folded table) (v.column (.named table) column)
  | .dropColumn table column => c.dropColumn (folded table) (folded column.name)
  | .renameColumn table old new => c.renameColumn (folded table) (folded old) (folded new)
  | .alterTable old new _ => (c.drop (folded old.name)).bind (·.create (folded new.name) (v.table new))
  | .createIndex _ | .dropIndex _ => some c

/-- The tables after a list of actions. -/
def runAll (v : View α) (c : Catalog α) (actions : List Action) : Option (Catalog α) :=
  actions.foldlM (Action.run v) c

lemma runAll_append (c : Catalog α) (as bs : List Action) :
    runAll v c (as ++ bs) = (runAll v c as).bind (runAll v · bs) := List.foldlM_append

lemma runAll_cons (c : Catalog α) (a : Action) (as : List Action) :
    runAll v c (a :: as) = (a.run v c).bind (runAll v · as) := rfl

/-- Actions on indexes change no table. -/
lemma runAll_dropIndexes (c : Catalog α) (is : List Index) :
    runAll v c (is.map .dropIndex) = some c := by
  induction is with
  | nil => rfl
  | cons i is ih => exact ih

lemma runAll_createIndexes (c : Catalog α) (is : List Index) :
    runAll v c (is.map .createIndex) = some c := by
  induction is with
  | nil => rfl
  | cons i is ih => exact ih

lemma runAll_renameTables (c : Catalog α) (L : List (String × String)) :
    runAll v c (L.map fun p => .renameTable p.1 p.2) = c.renameTables L := List.foldlM_map ..

lemma runAll_renameColumns (c : Catalog α) (Q : List ColumnRename) :
    runAll v c (Q.map fun q => .renameColumn q.table q.old q.new) = c.renameColumns Q :=
  List.foldlM_map ..

/-! ## Actions on one table -/

/-- An action that looks at one table only. -/
def Action.IsLocal : Action → Prop
  | .renameTable _ _ | .renameColumn _ _ _ => False
  | .alterTable old new _ => sameName old.name new.name = true
  | .createTable _ | .dropTable _ | .addColumn _ _ | .dropColumn _ _ | .createIndex _
  | .dropIndex _ => True

/-- What an action makes of the table that it looks at. -/
def Action.entry (v : View α) (e : Option (CatalogTable α)) :
    Action → Option (Option (CatalogTable α))
  | .createTable t => match e with
    | none => some (some (v.table t))
    | some _ => none
  | .dropTable _ => e.map fun _ => none
  | .addColumn table c => e.bind fun t =>
    if t.hasColumn (folded c.name) then none else some (some (t.addColumn (v.column (.named table) c)))
  | .dropColumn _ c => e.bind fun t =>
    if t.hasColumn (folded c.name) then some (some (t.dropColumn (folded c.name))) else none
  | .alterTable _ new _ => e.map fun _ => some (v.table new)
  | .renameTable _ _ | .renameColumn _ _ _ | .createIndex _ | .dropIndex _ => some e

/-- A list of actions on the table that they all look at. -/
def entryAll (v : View α) (e : Option (CatalogTable α)) (actions : List Action) :
    Option (Option (CatalogTable α)) := actions.foldlM (Action.entry v) e

/-- A catalog that has one entry replaced. -/
lemma eq_update_iff {c d : Catalog α} {k : String} {e : Option (CatalogTable α)} :
    d = Function.update c k e ↔ d k = e ∧ ∀ x, x ≠ k → d x = c x := Function.eq_update_iff

/-- **A local action changes the table that it looks at, and no other.** -/
lemma Action.run_eq_some_iff {c d : Catalog α} {a : Action} (ha : a.IsLocal) :
    a.run v c = some d ↔ a.entry v (c (folded a.table)) = some (d (folded a.table)) ∧
      ∀ k, k ≠ folded a.table → d k = c k := by
  cases a with
  | createTable t =>
      simp only [run, entry, table, Catalog.create_eq_some_iff, eq_update_iff]
      rcases c (folded t.name) with _ | e <;> simp [@eq_comm _ (d _)]
  | dropTable t =>
      simp only [run, entry, table, Catalog.drop_eq_some_iff, eq_update_iff]
      rcases c (folded t.name) with _ | e <;> simp [@eq_comm _ (d _)]
  | addColumn table column =>
      simp only [run, entry, Action.table, Catalog.addColumn_eq_some_iff, eq_update_iff]
      cases h : c (folded table) with
      | none => simp
      | some t => cases hc : t.hasColumn (folded column.name) <;>
          simp [hc, View.column, @eq_comm _ (d _)]
  | dropColumn table column =>
      simp only [run, entry, Action.table, Catalog.dropColumn_eq_some_iff, eq_update_iff]
      cases h : c (folded table) with
      | none => simp
      | some t => cases hc : t.hasColumn (folded column.name) <;> simp [hc, @eq_comm _ (d _)]
  | alterTable old new dependents =>
      have hname : folded old.name = folded new.name := folded_eq_iff.2 ha
      simp only [run, entry, Action.table, Option.bind_eq_some_iff, Catalog.drop_eq_some_iff,
        Catalog.create_eq_some_iff, hname]
      rcases c (folded new.name) with _ | e
      · simp
      · simp [eq_update_iff, @eq_comm _ (d _)]
  | createIndex i =>
      simp only [run, entry, Option.some.injEq]
      exact ⟨by rintro rfl; simp, fun h => funext fun k => by
        by_cases hk : k = folded (Action.createIndex i).table
        · rw [hk, h.1]
        · rw [h.2 k hk]⟩
  | dropIndex i =>
      simp only [run, entry, Option.some.injEq]
      exact ⟨by rintro rfl; simp, fun h => funext fun k => by
        by_cases hk : k = folded (Action.dropIndex i).table
        · rw [hk, h.1]
        · rw [h.2 k hk]⟩
  | renameTable old new => exact ha.elim
  | renameColumn table old new => exact ha.elim

/-- **Local actions run table by table.** -/
theorem runAll_iff {c d : Catalog α} {actions : List Action} (h : ∀ a ∈ actions, a.IsLocal) :
    runAll v c actions = some d ↔
      ∀ k, entryAll v (c k) (actions.filter fun a => folded a.table == k) = some (d k) := by
  induction actions generalizing c with
  | nil => simp [runAll, entryAll, funext_iff]
  | cons a rest ih =>
      have hrest := fun c => ih (c := c) fun b hb => h b (List.mem_cons_of_mem _ hb)
      simp only [runAll_cons, Option.bind_eq_some_iff, hrest,
        Action.run_eq_some_iff (h a List.mem_cons_self)]
      constructor
      · rintro ⟨c', ⟨hentry, hframe⟩, hall⟩ k
        by_cases hk : k = folded a.table
        · subst hk
          rw [List.filter_cons_of_pos (by simp), entryAll, List.foldlM_cons, hentry]
          exact hall _
        · rw [List.filter_cons_of_neg (by simpa using Ne.symm hk), ← hframe k hk]
          exact hall k
      · intro hall
        have hhead := hall (folded a.table)
        rw [List.filter_cons_of_pos (by simp), entryAll, List.foldlM_cons, Option.bind_eq_bind,
          Option.bind_eq_some_iff] at hhead
        obtain ⟨e, he, hd⟩ := hhead
        refine ⟨Function.update c (folded a.table) e, ⟨by simpa using he, fun k hk => by simp [hk]⟩,
          fun k => ?_⟩
        by_cases hk : k = folded a.table
        · subst hk
          rw [Function.update_self]
          exact hd
        · have := hall k
          rw [List.filter_cons_of_neg (by simpa using Ne.symm hk)] at this
          rwa [Function.update_of_ne hk]

/-! ## The actions of one table -/

variable {current target : Schema} {r : Renames} {u : Table}

namespace Layout

variable (l : Layout current target r)

/-- The place of a table that is dropped is not taken. -/
lemma no_source_of_dropped {t : Table} (ht : t ∈ l.dropped) :
    t ∈ current.tables ∧ ∀ u ∈ target.tables, r.source current u ≠ some t := by
  obtain ⟨hmem, hnone⟩ := (l.mem_dropped t).1 ht
  exact ⟨hmem, fun u hu hs => hnone u hu t hs rfl⟩

/-- The changes of one table. -/
def changesOf (u : Table) : List Action :=
  match r.fate current u with
  | .created => [.createTable u]
  | .rebuilt old => [.alterTable old u (l.dependents ⟨old, u⟩)]
  | .inPlace old => (TableChange.columnsMissingFrom u old).map (.addColumn u.name)
      ++ (TableChange.columnsMissingFrom old u).map (.dropColumn u.name)

lemma filter_created (hu : u ∈ target.tables) :
    (l.created.map Action.createTable).filter (fun a => folded a.table == folded u.name)
      = match r.fate current u with
        | .created => [.createTable u]
        | .rebuilt _ | .inPlace _ => [] := by
  have hpair : l.created.Pairwise fun a b => folded a.name ≠ folded b.name :=
    l.distinct_created.imp Text.folded_ne_iff.2
  have hfilter : (l.created.map Action.createTable).filter
      (fun a => folded a.table == folded u.name)
        = (l.created.filter fun t => folded t.name == folded u.name).map Action.createTable :=
    List.filter_map
  rw [hfilter]
  by_cases hs : r.source current u = none
  · have hmem : u ∈ l.created := l.mem_created.2 ⟨hu, hs⟩
    rw [filter_key_of_mem (fun t : Table => folded t.name) hpair hmem, Renames.fate_eq_created_iff.2 hs]
    rfl
  · have hnil : l.created.filter (fun t => folded t.name == folded u.name) = [] := by
      refine List.filter_eq_nil_iff.2 fun t ht htu => ?_
      obtain ⟨htarget, htnone⟩ := l.mem_created.1 ht
      have htu : t = u := DistinctNames.eq_of_folded target.distinct htarget hu (beq_iff_eq.1 htu)
      exact hs (htu ▸ htnone)
    rw [hnil]
    cases hf : r.fate current u with
    | created => exact absurd (Renames.fate_eq_created_iff.1 hf) hs
    | rebuilt _ | inPlace _ => rfl

lemma filter_rebuilt (hu : u ∈ target.tables) :
    (l.rebuilt.map fun b => Action.alterTable b.old b.new (l.dependents b)).filter
        (fun a => folded a.table == folded u.name)
      = match r.fate current u with
        | .rebuilt old => [.alterTable old u (l.dependents ⟨old, u⟩)]
        | .created | .inPlace _ => [] := by
  have hpair : l.rebuilt.Pairwise fun a b => folded a.new.name ≠ folded b.new.name :=
    l.distinct_rebuilt.imp Text.folded_ne_iff.2
  have hfilter : (l.rebuilt.map fun b => Action.alterTable b.old b.new (l.dependents b)).filter
      (fun a => folded a.table == folded u.name)
        = (l.rebuilt.filter fun b => folded b.new.name == folded u.name).map
            fun b => Action.alterTable b.old b.new (l.dependents b) := List.filter_map
  rw [hfilter]
  by_cases hr : ∃ old, r.fate current u = .rebuilt old
  · obtain ⟨old, hold⟩ := hr
    have hmem : (⟨old, u⟩ : Rebuild) ∈ l.rebuilt := l.mem_rebuilt.2 ⟨hu, hold⟩
    rw [hold]
    exact congrArg (List.map _) (filter_key_of_mem (fun b : Rebuild => folded b.new.name) hpair hmem)
  · have hnil : l.rebuilt.filter (fun b => folded b.new.name == folded u.name) = [] := by
      refine List.filter_eq_nil_iff.2 fun b hb hbu => hr ⟨b.old, ?_⟩
      obtain ⟨hnew, hfate⟩ := l.mem_rebuilt.1 hb
      rwa [DistinctNames.eq_of_folded target.distinct hnew hu (beq_iff_eq.1 hbu)] at hfate
    rw [hnil]
    cases hf : r.fate current u with
    | rebuilt old => exact absurd ⟨old, hf⟩ hr
    | created | inPlace _ => rfl

/-- The changes before the first table is dropped. -/
def settling : List Action :=
  l.created.map Action.createTable
    ++ target.tables.flatMap (fun u => ((r.fate current u).additions u).map (Action.addColumn u.name))
    ++ l.rebuilt.map (fun b => Action.alterTable b.old b.new (l.dependents b))
    ++ target.tables.flatMap (fun u => ((r.fate current u).removals u).map (Action.dropColumn u.name))

lemma changes_eq : l.changes = l.settling ++ l.dropped.map .dropTable := rfl

/-- What is changed before the drops has its place in the new schema. -/
lemma exists_of_mem_settling {a : Action} (ha : a ∈ l.settling) :
    ∃ u ∈ target.tables, folded u.name = folded a.table := by
  simp only [settling, List.mem_append, List.mem_map, List.mem_flatMap] at ha
  rcases ha with ((⟨t, ht, rfl⟩ | ⟨u, hu, c, -, rfl⟩) | ⟨b, hb, rfl⟩) | ⟨u, hu, c, -, rfl⟩
  · exact ⟨t, (l.mem_created.1 ht).1, rfl⟩
  · exact ⟨u, hu, rfl⟩
  · exact ⟨b.new, (l.mem_rebuilt.1 hb).1, rfl⟩
  · exact ⟨u, hu, rfl⟩

/-- What a table of the new schema gets of the changes before the drops. -/
lemma settling_at (hu : u ∈ target.tables) :
    l.settling.filter (fun a => folded a.table == folded u.name) = l.changesOf u := by
  have hadded := DistinctNames.filter_flatMap target.distinct (fun a : Action => folded a.table)
    (f := fun u => ((r.fate current u).additions u).map (.addColumn u.name))
    (fun t _ a ha => by obtain ⟨c, -, rfl⟩ := List.mem_map.1 ha; rfl) hu
  have hremoved := DistinctNames.filter_flatMap target.distinct (fun a : Action => folded a.table)
    (f := fun u => ((r.fate current u).removals u).map (.dropColumn u.name))
    (fun t _ a ha => by obtain ⟨c, -, rfl⟩ := List.mem_map.1 ha; rfl) hu
  simp only [settling, List.filter_append, l.filter_created hu, hadded, l.filter_rebuilt hu, hremoved,
    changesOf]
  cases r.fate current u <;> simp [Fate.additions, Fate.removals]

lemma settling_elsewhere {k : String} (hk : ∀ u ∈ target.tables, folded u.name ≠ k) :
    l.settling.filter (fun a => folded a.table == k) = [] :=
  List.filter_eq_nil_iff.2 fun a ha hak => by
    obtain ⟨u, hu, hname⟩ := l.exists_of_mem_settling ha
    exact hk u hu (hname.trans (beq_iff_eq.1 hak))

lemma filter_drops (dropped : List Table) (k : String) :
    (dropped.map Action.dropTable).filter (fun a => folded a.table == k)
      = (dropped.filter fun t => folded t.name == k).map .dropTable := List.filter_map

/-- What is dropped has a name that is not in the new schema. -/
lemma dropped_name_ne (hfits : r.Fits current target) (hapart : TablesApart r.tables) {t : Table}
    (ht : t ∈ l.dropped) (hu : u ∈ target.tables) : folded t.name ≠ folded u.name := by
  obtain ⟨hmem, hnone⟩ := l.no_source_of_dropped ht
  exact Text.folded_ne_iff.2 ((Renames.name_of_no_source hfits hapart hmem hnone).2 u hu)

/-- What a table of the new schema gets of the changes. -/
theorem changes_at (hfits : r.Fits current target) (hapart : TablesApart r.tables)
    (hu : u ∈ target.tables) :
    l.changes.filter (fun a => folded a.table == folded u.name) = l.changesOf u := by
  have hdropped : l.dropped.filter (fun t => folded t.name == folded u.name) = [] :=
    List.filter_eq_nil_iff.2 fun t ht htu => l.dropped_name_ne hfits hapart ht hu (beq_iff_eq.1 htu)
  rw [changes_eq, List.filter_append, l.settling_at hu, filter_drops, hdropped, List.map_nil,
    List.append_nil]

/-- What is left of the changes under a name that is not in the new schema. -/
theorem changes_elsewhere {k : String} (hk : ∀ u ∈ target.tables, folded u.name ≠ k) :
    l.changes.filter (fun a => folded a.table == k)
      = (l.dropped.filter fun t => folded t.name == k).map .dropTable := by
  rw [changes_eq, List.filter_append, l.settling_elsewhere hk, filter_drops, List.nil_append]

/-- Every change looks at one table only. -/
lemma local_of_mem_changes {a : Action} (ha : a ∈ l.changes) : a.IsLocal := by
  simp only [changes, List.mem_append, List.mem_map, List.mem_flatMap] at ha
  rcases ha with (((⟨t, -, rfl⟩ | ⟨u, -, c, -, rfl⟩) | ⟨b, hb, rfl⟩) | ⟨u, -, c, -, rfl⟩) |
    ⟨t, -, rfl⟩
  · trivial
  · trivial
  · obtain ⟨t, -, hold, -⟩ := Renames.fate_eq_rebuilt_iff.1 (l.mem_rebuilt.1 hb).2
    change sameName b.old.name b.new.name = true
    rw [← hold, Renames.name_apply, Text.sameName_refl]
  · trivial
  · trivial

/-- The run of a whole migration: the renames at once, and then the changes table by table. -/
theorem runAll_iff (hfits : r.Fits current target) {d : Catalog α} :
    runAll v (Catalog.of v current.tables) l.actions = some d ↔
      TablesApart r.tables ∧ ColumnsApart (r.inOrder target).columns ∧
        ∀ k, entryAll v (Catalog.of v (r.applyAll current.tables) k)
          (l.changes.filter fun a => folded a.table == k) = some (d k) := by
  have hrenames : runAll v (Catalog.of v current.tables) l.renames
      = ((Catalog.of v current.tables).renameTables r.tables).bind
          (·.renameColumns (r.inOrder target).columns) := by
    rw [renames, runAll_append, runAll_renameTables]
    simp only [runAll_renameColumns]
  simp only [actions, runAll_append, runAll_dropIndexes, runAll_createIndexes, Option.bind_some,
    Option.bind_fun_some, hrenames]
  rw [Option.bind_eq_some_iff]
  simp only [Renames.rename_run_iff hfits,
    Migration.runAll_iff fun a ha => l.local_of_mem_changes ha]
  constructor
  · rintro ⟨-, ⟨htables, hcolumns, rfl⟩, h⟩
    exact ⟨htables, hcolumns, h⟩
  · rintro ⟨htables, hcolumns, h⟩
    exact ⟨_, ⟨htables, hcolumns, rfl⟩, h⟩

end Layout

end SchemaCompiler.Migration

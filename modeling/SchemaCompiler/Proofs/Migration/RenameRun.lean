import SchemaCompiler.Proofs.Migration.Rollback
import SchemaCompiler.Proofs.Migration.Soundness

/-!
# When the renames of a migration can be carried out

A hint counts if its old name is gone and its new name is new, and this is looked up in the two schemas.  A
migration carries its renames out one after another, on a database that the renames before have changed.
Two hints that both count can claim one name; then the second rename finds its old name gone or its new name
taken.  If it is a column whose new name is taken, the comparison takes it for the other one, and the column
is gone without an action that says so.  An index, too, can have the new name of a table.

`compileDiff_renames_iff` says that nothing else can go wrong.

* `Action.Ready`, `RenamesReady` — what a rename needs of the database that it meets.
* `RenamesAgree` — the renames share no names with one another, and no index has the new name of a table.
* `Layout.renamesReady_iff` — exactly then the renames can be carried out.
* `Accounted`, `Layout.accounted` — what becomes of a column of the old schema.
* **`compileDiff_renames_iff`** — when renames can be carried out and all columns are accounted for.
-/

namespace SchemaCompiler

open Text (sameName folded folded_eq_iff folded_ne_iff)
open TableChange (needsRebuild columnsMissingFrom)

/-! ## Statements that are carried out -/

namespace Database

/-- A statement is carried out if the database accepts it and its tables allow it. -/
lemma exists_exec_iff {db : Database} {s : Sql.Statement} :
    (∃ db', db.exec s = some db') ↔ db.accepts s = true ∧ ∃ c, db.tables.exec s = some c := by
  unfold exec
  split_ifs with h
  · simp [h, Option.map_eq_some_iff]
  · simp [h]

/-- Statements that the tables allow are carried out if the database accepts them one after another.  What
makes it accept them is an invariant `J` of the statements still to come and of the indexes. -/
lemma exists_execAll_map {β : Type} {f : β → Sql.Statement}
    {J : List β → (String → Option CatalogIndex) → Prop}
    (hstep : ∀ (b : β) (bs : List β) (db : Database), J (b :: bs) db.indexes →
      db.accepts (f b) = true ∧ J bs fun k => indexAfter k (db.indexes k) (f b))
    (bs : List β) (db : Database) (hstart : J bs db.indexes) {c : Catalog Definition}
    (hrun : bs.foldlM (fun c b => c.exec (f b)) db.tables = some c) :
    ∃ db', db.execAll (bs.map f) = some db' ∧ db'.tables = c := by
  induction bs generalizing db with
  | nil => exact ⟨db, rfl, Option.some.inj hrun⟩
  | cons b rest ih =>
      rw [List.foldlM_cons, Option.bind_eq_bind, Option.bind_eq_some_iff] at hrun
      obtain ⟨tables, htables, hrun⟩ := hrun
      obtain ⟨haccepts, hnext⟩ := hstep b rest db hstart
      obtain ⟨mid, hmid⟩ := exists_exec_iff.2 ⟨haccepts, tables, htables⟩
      obtain ⟨-, hexec, hindexes⟩ := exec_eq_some_iff.1 hmid
      obtain rfl : tables = mid.tables := Option.some.inj (htables.symm.trans hexec)
      obtain ⟨db', hdb', hc⟩ := ih mid (hindexes ▸ hnext) hrun
      exact ⟨db', by rw [List.map_cons, execAll_cons, hmid, Option.bind_some, hdb'], hc⟩

variable {db : Database} {c : Catalog Definition}

/-- Different indexes that are there can be dropped. -/
lemma exists_execAll_dropIndexes {is : List Index}
    (hdistinct : is.Pairwise fun i j => folded i.name ≠ folded j.name)
    (hthere : ∀ i ∈ is, (db.indexes (folded i.name)).isSome = true) :
    ∃ db', db.execAll (is.map fun i => .dropIndex i.name false) = some db' ∧ db'.tables = db.tables := by
  have hrun : is.foldlM (fun (c : Catalog Definition) i => c.exec (.dropIndex i.name false)) db.tables
      = some db.tables := by
    clear hdistinct hthere
    induction is with
    | nil => rfl
    | cons i rest ih => rw [List.foldlM_cons, Catalog.exec, Option.bind_eq_bind, Option.bind_some, ih]
  refine exists_execAll_map (J := fun (is : List Index) indexes =>
    (is.Pairwise fun i j => folded i.name ≠ folded j.name) ∧
      ∀ i ∈ is, (indexes (folded i.name)).isSome = true) ?_ is db ?_ hrun
  · rintro i is db ⟨hpair, hall⟩
    rw [List.pairwise_cons] at hpair
    refine ⟨by simpa [accepts] using hall i (by simp), hpair.2, fun j hj => ?_⟩
    simpa [indexAfter, hpair.1 j hj] using hall j (by simp [hj])
  · exact ⟨hdistinct, hthere⟩

/-- Tables can be renamed where the tables allow it and no index has one of the new names. -/
lemma exists_execAll_renameTables {L : List (String × String)}
    (hrun : db.tables.renameTables L = some c) (hfree : ∀ p ∈ L, db.indexes (folded p.2) = none) :
    ∃ db', db.execAll (L.map fun p => .renameTable p.1 p.2) = some db' ∧ db'.tables = c := by
  refine exists_execAll_map (J := fun (L : List (String × String)) indexes =>
    ∀ p ∈ L, indexes (folded p.2) = none) (fun p L db hall => ?_) L db hfree hrun
  refine ⟨by simp [accepts, hall p (by simp)], fun q hq => ?_⟩
  simp [indexAfter, hall q (by simp [hq])]

/-- Columns can be renamed where the tables allow it. -/
lemma exists_execAll_renameColumns {Q : List ColumnRename}
    (hrun : db.tables.renameColumns Q = some c) :
    ∃ db', db.execAll (Q.map fun q => .renameColumn q.table q.old q.new) = some db' ∧ db'.tables = c :=
  exists_execAll_map (J := fun _ _ => True) (fun _ _ _ _ => ⟨rfl, trivial⟩) Q db trivial hrun

end Database

namespace Migration

/-! ## What renames need -/

namespace Action

/-- An action that renames a table or a column. -/
def IsRename : Action → Prop
  | .renameTable _ _ | .renameColumn _ _ _ => True
  | .createTable _ | .dropTable _ | .addColumn _ _ | .dropColumn _ _ | .alterTable _ _ _
  | .createIndex _ | .dropIndex _ => False

/-- What a rename needs of a database: the old name is there and the new one is free.  Tables and indexes
share one name space. -/
def Ready (db : Database) : Action → Prop
  | .renameTable old new => (db.tables (folded old)).isSome = true ∧ db.tables (folded new) = none ∧
    db.indexes (folded new) = none
  | .renameColumn table old new => ∃ t, db.tables (folded table) = some t ∧
    t.hasColumn (folded old) = true ∧ t.hasColumn (folded new) = false
  | .createTable _ | .dropTable _ | .addColumn _ _ | .dropColumn _ _ | .alterTable _ _ _
  | .createIndex _ | .dropIndex _ => True

/-- A rename has what it needs exactly if its statement is carried out. -/
lemma ready_iff {db : Database} {a : Action} (ha : a.IsRename) :
    a.Ready db ↔ ∃ db', db.execAll a.up = some db' := by
  cases a with
  | renameTable old new =>
      simp only [up, Database.execAll_singleton, Database.exists_exec_iff, Catalog.exec,
        Catalog.renameTable_eq_some_iff, Database.accepts, Option.isNone_iff_eq_none, Ready,
        Option.isSome_iff_exists]
      constructor
      · rintro ⟨⟨t, ht⟩, htable, hindex⟩
        exact ⟨hindex, _, t, ht, htable, rfl⟩
      · rintro ⟨hindex, _, t, ht, htable, -⟩
        exact ⟨⟨t, ht⟩, htable, hindex⟩
  | renameColumn table old new =>
      simp only [up, Database.execAll_singleton, Database.exists_exec_iff, Catalog.exec,
        Catalog.renameColumn_eq_some_iff, Database.accepts, true_and, Ready]
      constructor
      · rintro ⟨t, ht, hold, hnew⟩
        exact ⟨_, t, ht, hold, hnew, rfl⟩
      · rintro ⟨_, t, ht, hold, hnew, -⟩
        exact ⟨t, ht, hold, hnew⟩
  | createTable _ | dropTable _ | addColumn _ _ | dropColumn _ _ | alterTable _ _ _ | createIndex _
  | dropIndex _ => exact ha.elim

end Action

/-- Every rename of a list has what it needs at its place, when the actions run in order. -/
def RenamesReady (start : Database) (actions : List Action) : Prop :=
  ∀ before a after, actions = before ++ a :: after → a.IsRename →
    ∃ db, start.execAll (before.flatMap (·.up)) = some db ∧ a.Ready db

/-- Only what stands before the last rename matters. -/
lemma renamesReady_append_iff {start : Database} {as bs : List Action} (hbs : ∀ b ∈ bs, ¬ b.IsRename) :
    RenamesReady start (as ++ bs) ↔ RenamesReady start as := by
  constructor
  · rintro h before a after rfl ha
    exact h before a (after ++ bs) (by simp) ha
  · intro h before a after heq ha
    rcases List.append_eq_append_iff.1 heq with ⟨mid, -, htail⟩ | ⟨mid, hhead, htail⟩
    · exact absurd ha (hbs a (by simp [htail]))
    · cases mid with
      | nil =>
          rw [List.nil_append] at htail
          exact absurd ha (hbs a (by simp [← htail]))
      | cons b mid =>
          obtain ⟨rfl, -⟩ := List.cons_eq_cons.1 htail
          exact h before a mid hhead ha

/-- In a list that runs, every rename has what it needs. -/
lemma renamesReady_of_execAll {start db : Database} {actions : List Action}
    (h : start.execAll (actions.flatMap (·.up)) = some db) : RenamesReady start actions := by
  rintro before a after rfl ha
  rw [List.flatMap_append, Database.execAll_append, Option.bind_eq_some_iff] at h
  obtain ⟨mid, hmid, hrest⟩ := h
  rw [Database.execAll_flatMap_cons, Option.bind_eq_some_iff] at hrest
  obtain ⟨next, hnext, -⟩ := hrest
  exact ⟨mid, hmid, (Action.ready_iff ha).2 ⟨next, hnext⟩⟩

/-- A list that ends in a rename runs if its renames have what they need. -/
lemma RenamesReady.exists_execAll {start : Database} {as : List Action} {a : Action} (ha : a.IsRename)
    (h : RenamesReady start (as ++ [a])) :
    ∃ db, start.execAll ((as ++ [a]).flatMap (·.up)) = some db := by
  obtain ⟨mid, hmid, hready⟩ := h as a [] rfl ha
  obtain ⟨db, hdb⟩ := (Action.ready_iff ha).1 hready
  refine ⟨db, ?_⟩
  rw [List.flatMap_append, Database.execAll_append, hmid, Option.bind_some]
  simpa using hdb

/-! ## Renames that get in each other's way -/

/-- No index that is still there when the tables are renamed has one of their new names. -/
def NewNamesFree (current target : Schema) (r : Renames) : Prop :=
  ∀ p ∈ r.tables, ∀ t ∈ current.tables, ∀ i ∈ t.indexes, sameName i.name p.2 = true →
    DropsIndex current target r t i

/-- The renames share no names with one another or with an index. -/
structure RenamesAgree (current target : Schema) (r : Renames) : Prop where
  tables : TablesApart r.tables
  columns : ColumnsApart r.columns
  free : NewNamesFree current target r

variable {current target : Schema} {r : Renames} {t : Table}

/-- Renames that share no names in the order of a migration share none at all. -/
lemma columnsApart_of_inOrder (hfits : r.Fits current target)
    (h : ColumnsApart (r.inOrder target).columns) : ColumnsApart r.columns := by
  refine List.pairwise_iff_forall_sublist.2 fun {c d} hcd hname => ?_
  obtain ⟨u, hu, huc, -⟩ := hfits.of_mem_columns (hcd.subset (by simp : c ∈ [c, d]))
  have hkeep : [c, d].filter (fun x => sameName x.table u.name) = [c, d] := by
    refine List.filter_eq_self.2 fun x hx => ?_
    rcases List.mem_pair.1 hx with rfl | rfl
    · exact Text.sameName_symm huc
    · exact Text.sameName_trans (Text.sameName_symm hname) (Text.sameName_symm huc)
  have hof : [(c.old, c.new), (d.old, d.new)].Sublist (r.columnsOf u.name) := by
    have := (hcd.filter fun x => sameName x.table u.name).map fun x => (x.old, x.new)
    rwa [hkeep] at this
  have hin : [(⟨u.name, c.old, c.new⟩ : ColumnRename), ⟨u.name, d.old, d.new⟩].Sublist
      (r.inOrder target).columns := by
    have := hof.map fun p : String × String => (⟨u.name, p.1, p.2⟩ : ColumnRename)
    rw [← Renames.filter_inOrder hu (Text.sameName_refl u.name)] at this
    exact this.trans List.filter_sublist
  exact (List.pairwise_pair.1 (h.sublist hin)) (Text.sameName_refl u.name)

namespace Layout

variable (l : Layout current target r)

/-- No two indexes that are dropped by themselves have one name. -/
lemma distinct_goneIndexes (hm : Migratable current target r) :
    (target.tables.flatMap fun u => (r.fate current u).goneIndexes u).Pairwise
      fun i j => folded i.name ≠ folded j.name := by
  refine List.pairwise_flatMap.2 ⟨fun u hu => ?_, target.distinct.imp_of_mem ?_⟩
  · cases hf : r.fate current u with
    | created => exact List.Pairwise.nil
    | rebuilt old => exact List.Pairwise.nil
    | inPlace old =>
        obtain ⟨t, hs, rfl, -⟩ := Renames.fate_eq_inPlace_iff.1 hf
        have hpair := pairwise_indexes_apply
          (hm.current_valid.tables t (Renames.mem_of_source hs).1) r u.name
        exact (hpair.imp fun h heq =>
          h (Text.toLowercase_eq_of_sameName (folded_eq_iff.1 heq))).filter _
  · intro u w hu hw huw i hi j hj hname
    obtain ⟨t, hs, -, ⟨i', hi', rfl⟩, -⟩ := (mem_goneIndexes (hm.target_valid.tables u hu)).1 hi
    obtain ⟨t', hs', -, ⟨j', hj', rfl⟩, -⟩ := (mem_goneIndexes (hm.target_valid.tables w hw)).1 hj
    obtain ⟨rfl, -⟩ := hm.current_valid.index_unique (Renames.mem_of_source hs).1
      (Renames.mem_of_source hs').1 hi' hj' (folded_eq_iff.1 hname)
    rw [source_injective hm.fits hm.apart hu hw hs hs', Text.sameName_refl] at huw
    exact absurd huw (by decide)

/-- An index that is dropped by itself is an index of the old schema. -/
lemma holding_of_goneIndexes (hm : Migratable current target r) {j : Index}
    (hj : j ∈ target.tables.flatMap fun u => (r.fate current u).goneIndexes u) :
    ((Database.holding current).indexes (folded j.name)).isSome = true := by
  obtain ⟨u, hu, hj⟩ := List.mem_flatMap.1 hj
  obtain ⟨t, hs, -, ⟨i, hi, rfl⟩, -⟩ := (mem_goneIndexes (hm.target_valid.tables u hu)).1 hj
  have hname : (r.applyToIndex t.name u.name i).name = i.name := rfl
  rw [hname, (Database.holding_indexes_eq_some_iff hm.current_valid).2
    ⟨t, (Renames.mem_of_source hs).1, i, hi, rfl, rfl⟩]
  rfl

/-- The statements up to the renames. -/
lemma up_head : l.head.flatMap (·.up)
    = (target.tables.flatMap fun u => (r.fate current u).goneIndexes u).map
        (fun i => Sql.Statement.dropIndex i.name false)
      ++ (r.tables.map (fun p => Sql.Statement.renameTable p.1 p.2)
        ++ (r.inOrder target).columns.map fun c => Sql.Statement.renameColumn c.table c.old c.new) := by
  simp only [head, renames, List.flatMap_append, List.flatMap_map, Action.up]
  simp only [← List.map_eq_flatMap]

/-- **The renames of a migration run** if they do not get in each other's way and no index in theirs. -/
theorem exists_execAll_head (hm : Migratable current target r)
    (hcolumns : ColumnsApart (r.inOrder target).columns) (hfree : NewNamesFree current target r) :
    ∃ db, (Database.holding current).execAll (l.head.flatMap (·.up)) = some db := by
  obtain ⟨db₁, hdrops, htables₁⟩ := Database.exists_execAll_dropIndexes (distinct_goneIndexes hm)
    fun j => holding_of_goneIndexes hm
  have hindexes : ∀ p ∈ r.tables, db₁.indexes (folded p.2) = none := by
    intro p hp
    have hdrops' : (Database.holding current).execAll (((target.tables.flatMap fun u =>
        (r.fate current u).goneIndexes u).map Action.dropIndex).flatMap (·.up)) = some db₁ := by
      simpa [List.flatMap_map, Action.up, ← List.map_eq_flatMap] using hdrops
    rw [Database.indexes_execAll_up (Database.holding_owned hm.current_valid) (fun a ha => by
      obtain ⟨i, -, rfl⟩ := List.mem_map.1 ha; trivial) hdrops' (folded p.2)]
    refine (indexAfterAll_dropIndexes _ _ _).trans ?_
    split_ifs with hgone
    · rfl
    · refine Database.holding_indexes_eq_none_iff.2 fun t ht i hi hname => hgone ?_
      rw [← hname]
      exact (exists_gone_iff hm ht hi).2 (hfree p hp t ht i hi (folded_eq_iff.1 hname))
  have hrun := (Renames.rename_run_iff (v := defined) hm.fits).2
    ⟨hm.apart, hcolumns, rfl⟩
  have htables : (Database.holding current).tables = Catalog.of defined current.tables := rfl
  rw [Option.bind_eq_some_iff, ← htables, ← htables₁] at hrun
  obtain ⟨c, htables₂, hrun⟩ := hrun
  obtain ⟨db₂, hrenames, rfl⟩ := Database.exists_execAll_renameTables htables₂ hindexes
  obtain ⟨db₃, hcols, -⟩ := Database.exists_execAll_renameColumns hrun
  exact ⟨db₃, by rw [l.up_head, Database.execAll_append, hdrops, Option.bind_some,
    Database.execAll_append, hrenames, Option.bind_some, hcols]⟩

/-- Where the renames have what they need, no index is in their way. -/
lemma newNamesFree_of_ready (hm : Migratable current target r)
    (h : RenamesReady (Database.holding current) l.head) : NewNamesFree current target r := by
  intro p hp t ht i hi hname
  by_contra hkept
  obtain ⟨L₁, L₂, hsplit⟩ := List.append_of_mem hp
  obtain ⟨db, hdb, -, -, hnone⟩ := h
    ((target.tables.flatMap fun u => (r.fate current u).goneIndexes u).map Action.dropIndex
      ++ L₁.map fun p => Action.renameTable p.1 p.2) (.renameTable p.1 p.2)
    (L₂.map (fun p => Action.renameTable p.1 p.2)
      ++ (r.inOrder target).columns.map fun c => Action.renameColumn c.table c.old c.new)
    (by simp [head, renames, hsplit]) trivial
  have hheld := (Database.holding_indexes_eq_some_iff hm.current_valid).2 ⟨t, ht, i, hi, rfl, rfl⟩
  rw [Database.indexes_execAll_up (Database.holding_owned hm.current_valid) (fun a ha => by
      rcases List.mem_append.1 ha with ha | ha <;> obtain ⟨_, -, rfl⟩ := List.mem_map.1 ha <;> trivial)
      hdb, ← folded_eq_iff.2 hname, hheld, List.foldl_append] at hnone
  have hdrops := indexAfterAll_dropIndexes (folded i.name) (some i.held)
    (target.tables.flatMap fun u => (r.fate current u).goneIndexes u)
  rw [if_neg fun hgone => hkept ((exists_gone_iff hm ht hi).1 hgone), indexAfterAll] at hdrops
  rw [hdrops, foldl_renameTables] at hnone
  exact absurd hnone (by simp)

/-- **When the renames of a migration can be carried out.** -/
theorem renamesReady_iff (hcurrent : current.Valid) (htarget : target.Valid)
    (hfits : r.Fits current target) :
    RenamesReady (Database.holding current) l.actions ↔ RenamesAgree current target r := by
  have hlate : ∀ a ∈ l.tail, ¬ a.IsRename := fun a ha => by
    cases l.late_of_mem_tail ha <;> exact id
  rw [l.actions_eq, renamesReady_append_iff hlate]
  constructor
  · intro h
    rcases List.eq_nil_or_concat l.renames with hnil | ⟨as, a, hlast⟩
    · obtain ⟨htables, hcolumns⟩ := List.append_eq_nil_iff.1 hnil
      rw [List.map_eq_nil_iff] at htables hcolumns
      refine ⟨by simp [htables, TablesApart], columnsApart_of_inOrder hfits ?_, ?_⟩
      · rw [hcolumns]
        exact List.Pairwise.nil
      · rw [NewNamesFree, htables]
        simp
    · have ha : a.IsRename := by
        have hmem : a ∈ l.renames := by simp [hlast]
        rcases List.mem_append.1 hmem with hmem | hmem <;> obtain ⟨_, -, rfl⟩ := List.mem_map.1 hmem <;>
          trivial
      have hrun : ∃ db, (Database.holding current).execAll (l.head.flatMap (·.up)) = some db := by
        rw [head, hlast, List.concat_eq_append, ← List.append_assoc] at h ⊢
        exact h.exists_execAll ha
      obtain ⟨db, hdb⟩ := hrun
      obtain ⟨htables, hcolumns, -⟩ := l.execAll_head hcurrent hfits hdb
      exact ⟨htables, columnsApart_of_inOrder hfits hcolumns,
        l.newNamesFree_of_ready ⟨hcurrent, htarget, hfits, htables⟩ h⟩
  · intro h
    obtain ⟨db, hdb⟩ := l.exists_execAll_head ⟨hcurrent, htarget, hfits, h.tables⟩
      (Renames.columnsApart_inOrder h.columns) h.free
    exact renamesReady_of_execAll hdb

end Layout

/-! ## What becomes of a column -/

/-- What can become of a column `c` of an old table `t`.  A column for which nothing of this holds is gone
without an action that says so. -/
inductive Accounted (current target : Schema) (r : Renames) (actions : List Action) (t : Table)
    (c : Column) : Prop
  /-- The table that takes the place of its table has it, under a name that no other column is given. -/
  | kept {u : Table} (hu : u ∈ target.tables) (hs : r.source current u = some t)
      (hhas : u.hasColumn (r.newColumn u.name c.name) = true)
      (hown : ∀ d ∈ t.columns,
        sameName (r.newColumn u.name d.name) (r.newColumn u.name c.name) = true → d = c)
  /-- It is dropped under its new name. -/
  | dropped {u : Table} (hs : r.source current u = some t) {d : Column}
      (hd : d.name = r.newColumn u.name c.name) (h : .dropColumn u.name d ∈ actions)
  /-- It is left out of a rebuild, which is known to lose it. -/
  | leftOut {u : Table} (hs : r.source current u = some t) {old : Table} {dependents : List String}
      (h : .alterTable old u dependents ∈ actions)
      (hlost : r.newColumn u.name c.name ∈ Action.lostColumns old u)
  /-- Its table is dropped. -/
  | tableDropped (h : .dropTable t ∈ actions)
  /-- Its table stays as it is. -/
  | untouched (hname : r.newTable t.name = t.name)
      (h : ∀ a ∈ actions, sameName a.table t.name = false)

namespace Layout

variable (l : Layout current target r)

/-- No action has to do with a table that is overlooked. -/
lemma untouched_of_overlooked (hm : Migratable current target r) (ht : Overlooked current target r t) :
    ∀ a ∈ l.actions, sameName a.table t.name = false := by
  obtain ⟨hmem, hs, u, hu, s, hsource, hlower⟩ := ht
  have hnone := (Renames.name_of_no_source hm.fits hm.apart hmem hs).2
  have hother : ∀ w ∈ target.tables, sameName w.name t.name = false := fun w hw => by
    rw [Text.sameName_comm]
    exact hnone w hw
  intro a ha
  rw [l.actions_eq, List.mem_append] at ha
  rcases ha with ha | ha
  · simp only [head, renames, List.mem_append, List.mem_map, List.mem_flatMap] at ha
    rcases ha with ⟨i, ⟨w, hw, hi⟩, rfl⟩ | ⟨p, hp, rfl⟩ | ⟨c, hc, rfl⟩
    · obtain ⟨t', hs', -, ⟨i', hi', rfl⟩, -⟩ := (mem_goneIndexes (hm.target_valid.tables w hw)).1 hi
      have howned := (hm.current_valid.tables t' (Renames.mem_of_source hs').1).owned i' hi'
      simpa [Action.table, Renames.applyToIndex, howned] using hother w hw
    · rw [Action.table, Text.sameName_comm]
      exact (hm.fits.of_mem hp).2.2.2 t hmem
    · obtain ⟨w, hw, hcw, -⟩ := Renames.mem_inOrder.1 hc
      rw [Action.table, hcw]
      exact hother w hw
  · cases l.late_of_mem_tail ha with
    | create hw _ | add hw _ | rebuild hw _ | remove hw _ => exact hother _ hw
    | index hw hi =>
        rw [Action.table, (hm.target_valid.tables _ hw).owned _ (mem_of_newIndexes hi)]
        exact hother _ hw
    | drop hd =>
        by_contra hname
        rw [Bool.not_eq_false] at hname
        obtain ⟨hdmem, hdnone⟩ := (l.mem_dropped _).1 hd
        rw [DistinctNames.eq_of_sameName current.distinct hdmem hmem hname] at hdnone
        exact hdnone u hu s hsource hlower

/-- **No column is gone unseen** if no two renames share a name. -/
theorem accounted (hm : Migratable current target r) (hcolumns : ColumnsApart r.columns)
    (ht : t ∈ current.tables) {c : Column} (hc : c ∈ t.columns) :
    Accounted current target r l.actions t c := by
  rcases l.lot_of_table ht with ⟨u, hu, hs⟩ | hd | ho
  · cases hhas : u.hasColumn (r.newColumn u.name c.name) with
    | true =>
        have hpair := List.pairwise_map.1 (Renames.columns_apply hm.fits
          (Renames.columnsApart_inOrder hcolumns) hu hs (hm.current_valid.tables t ht).columns)
        refine .kept hu hs hhas fun d hd hname => ?_
        exact eq_of_pairwise_not (R := fun a b : Column =>
            sameName (r.newColumn u.name a.name) (r.newColumn u.name b.name) = true)
          (fun _ _ => Text.sameName_symm) (hpair.imp Bool.eq_false_iff.1) hd hc hname
    | false =>
        have hlost : r.applyToColumn u.name c ∈ columnsMissingFrom (r.apply t u.name) u :=
          List.mem_filter.2 ⟨List.mem_map_of_mem hc, by simpa [Renames.applyToColumn] using hhas⟩
        cases hrebuild : needsRebuild (r.apply t u.name) u with
        | true =>
            have hmem : ⟨r.apply t u.name, u⟩ ∈ l.rebuilt :=
              l.mem_rebuilt.2 ⟨hu, Renames.fate_eq_rebuilt_iff.2 ⟨t, hs, rfl, hrebuild⟩⟩
            have haction : .alterTable (r.apply t u.name) u (l.dependents ⟨r.apply t u.name, u⟩)
                ∈ l.actions := by
              simp only [actions, changes, List.mem_append, List.mem_map]
              exact Or.inl (Or.inr (Or.inl (Or.inl (Or.inr ⟨_, hmem, rfl⟩))))
            exact .leftOut hs haction (List.mem_map.2 ⟨_, hlost, rfl⟩)
        | false =>
            have hmem : r.applyToColumn u.name c ∈ (r.fate current u).removals u := by
              rwa [Renames.fate_eq_inPlace_iff.2 ⟨t, hs, rfl, hrebuild⟩]
            have haction : .dropColumn u.name (r.applyToColumn u.name c) ∈ l.actions := by
              simp only [actions, changes, List.mem_append, List.mem_flatMap, List.mem_map]
              exact Or.inl (Or.inr (Or.inl (Or.inr ⟨u, hu, _, hmem, rfl⟩)))
            exact .dropped hs rfl haction
  · exact .tableDropped (by simp [actions, changes, hd])
  · exact .untouched (Renames.name_of_no_source hm.fits hm.apart ht ho.2.1).1
      (l.untouched_of_overlooked hm ho)

end Layout

/-! ## The whole migration -/

variable {hints : RenameHints} {allow : Bool} {version : Nat} {name : String} {m : Migration}

/-- **When the hints yield renames that can be carried out.**  In a migration every rename finds its old
name there and its new name free, and every column of the old schema is accounted for, exactly if the hints
that count do not claim the same names and no index has one of the new names. -/
theorem compileDiff_renames_iff (hcurrent : current.errors = [])
    (h : compileDiff allow current target hints version name = .ok m) :
    (RenamesReady (Database.holding current) m.actions ∧
      ∀ t ∈ current.tables, ∀ c ∈ t.columns,
        Accounted current target (Renames.resolve current target hints) m.actions t c) ↔
      RenamesAgree current target (Renames.resolve current target hints) := by
  obtain ⟨htarget, -, l, hactions⟩ := layout_of_compileDiff h
  have hvalid := Schema.valid_of_errors hcurrent
  have hvalid' := Schema.valid_of_errors htarget
  have hfits := Renames.resolve_fits current target hints
  rw [hactions, l.renamesReady_iff hvalid hvalid' hfits]
  exact ⟨fun h => h.1, fun hagree => ⟨hagree, fun t ht c hc =>
    l.accounted ⟨hvalid, hvalid', hfits, hagree.tables⟩ hagree.columns ht hc⟩⟩

/-- Posts that become articles, with titles that become headlines. -/
theorem magazineSchema_renames_ready : ∃ m,
    compileDiff false postSchema magazineSchema magazineHints 1 "magazine" = .ok m ∧
      RenamesReady (Database.holding postSchema) m.actions ∧
      ∀ t ∈ postSchema.tables, ∀ c ∈ t.columns, Accounted postSchema magazineSchema
        (Renames.resolve postSchema magazineSchema magazineHints) m.actions t c := by
  obtain ⟨m, hm, -⟩ := exists_magazine
  have hother : ∀ p ∈ (Renames.resolve postSchema magazineSchema magazineHints).tables,
      ∀ t ∈ postSchema.tables, ∀ i ∈ t.indexes, sameName i.name p.2 = false := by decide +kernel
  refine ⟨m, hm, (compileDiff_renames_iff (by decide +kernel) hm).2
    ⟨by decide +kernel, by decide +kernel, fun p hp t ht i hi hname => ?_⟩⟩
  rw [hother p hp t ht i hi] at hname
  exact absurd hname (by decide)

/-- People with a mail address and a phone number. -/
def contactSchema : Schema where
  tables := [
    { name := "contacts", columns := [(Column.ofType "id" .integer).asPrimaryKey, .ofType "mail" .text,
      .ofType "phone" .text] }]
  relationships := []
  distinct := by decide +kernel

/-- People with one address. -/
def addressSchema : Schema where
  tables := [
    { name := "contacts", columns := [(Column.ofType "id" .integer).asPrimaryKey,
      .ofType "address" .text] }]
  relationships := []
  distinct := by decide +kernel

/-- Both the mail address and the phone number become the address. -/
def addressHints : RenameHints where
  columns := [⟨"contacts", "mail", "address"⟩, ⟨"contacts", "phone", "address"⟩]

/-- The second rename finds its new name taken, and the phone numbers are gone without an action that says
so: the migration needs no permission. -/
theorem addressSchema_renames_clash : contactSchema.errors = [] ∧ addressSchema.errors = [] ∧
    ∃ m, compileDiff false contactSchema addressSchema addressHints 1 "address" = .ok m ∧
      ¬ RenamesReady (Database.holding contactSchema) m.actions ∧
      ∃ t ∈ contactSchema.tables, ∃ c ∈ t.columns, c.name = "phone" ∧
        ¬ Accounted contactSchema addressSchema
          (Renames.resolve contactSchema addressSchema addressHints) m.actions t c := by
  obtain ⟨m, hm, hactions⟩ : ∃ m,
      compileDiff false contactSchema addressSchema addressHints 1 "address" = .ok m ∧
        m.actions = plainActions contactSchema addressSchema addressHints :=
          exists_compileDiff (by decide +kernel)
  have hrenames : m.actions = [.renameColumn "contacts" "mail" "address",
      .renameColumn "contacts" "phone" "address"] := hactions.trans (by decide +kernel)
  refine ⟨by decide +kernel, by decide +kernel, m, hm, fun hready => ?_, _, List.mem_singleton_self _,
    .ofType "phone" .text, by decide +kernel, rfl, fun haccounted => ?_⟩
  · obtain ⟨db, hdb, t, ht, -, hfree⟩ := hready [.renameColumn "contacts" "mail" "address"]
      (.renameColumn "contacts" "phone" "address") [] hrenames trivial
    have htaken : ((Database.holding contactSchema).execAll
        ([Action.renameColumn "contacts" "mail" "address"].flatMap (·.up))).map
          (fun db => (db.tables (folded "contacts")).map (·.hasColumn (folded "address")))
        = some (some true) := by decide +kernel
    rw [hdb, Option.map_some, ht, Option.map_some, hfree] at htaken
    exact absurd htaken (by decide)
  · cases haccounted with
    | kept hu hs hhas hown =>
        rw [List.mem_singleton.1 hu] at hown
        exact absurd (hown (.ofType "mail" .text) (by decide +kernel) (by decide +kernel))
          (by decide +kernel)
    | dropped _ _ h => simp [hrenames] at h
    | leftOut _ h _ => simp [hrenames] at h
    | tableDropped h => simp [hrenames] at h
    | untouched _ h =>
        exact absurd (h (.renameColumn "contacts" "mail" "address") (by simp [hrenames]))
          (by decide +kernel)

end Migration

end SchemaCompiler

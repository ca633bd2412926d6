import SchemaCompiler.Proofs.Migration.Execution

/-!
# A migration leads to the new tables

Running the actions of a migration on the tables of the old schema ends in the tables of the new one.  The
run is never refused, whatever the renames, the rebuilds and the tables that come and go, provided that
no two hints share a name and that the small forms of the old table names are different.

* `declared` — tables with everything that is declared of a column, its comment aside.
* `Catalog.Agrees` — the same tables up to the order of columns.
* **`compileDiff_reaches_target`** — the theorem.

After the renames every table of the new schema has a fate, and the proof looks at one table at a time.
A table that is created or rebuilt is what the new schema says.  The case with an argument is that of a
table changed in place: there the columns that stay are those whose definitions do not differ, and the
rest of the columns come from the additions (`agrees_inPlace`).
-/

namespace SchemaCompiler

open Text (sameName folded folded_eq_iff folded_ne_iff)
open TableChange (columnsMissingFrom needsRebuild alteredColumns columnDiffers)

variable {α : Type}

/-- Tables with everything that is declared of a column; a comment is no part of a database. -/
def declared : View Column where
  attributes _ c := { c with name := "", references := none, comment := none }
  stable _ _ _ _ := rfl

/-! ## Agreement up to the order of columns -/

/-- Two tables with the same constraints and, in some order, the same columns. -/
structure CatalogTable.Agrees (t s : CatalogTable α) : Prop where
  columns : t.columns.Perm s.columns
  constraints : t.constraints = s.constraints

lemma CatalogTable.Agrees.refl (t : CatalogTable α) : t.Agrees t := ⟨.refl _, rfl⟩

/-- Two databases with the same tables up to the order of columns. -/
def Catalog.Agrees (c d : Catalog α) : Prop := ∀ k, Option.Rel CatalogTable.Agrees (c k) (d k)

/-! ## Columns of different names -/

/-- Columns of different names are different columns. -/
lemma nodup_columns {columns : List (CatalogColumn α)}
    (h : columns.Pairwise fun a b => a.name ≠ b.name) : columns.Nodup :=
  h.imp fun hne heq => hne (congrArg CatalogColumn.name heq)

lemma View.pairwise_columns (v : View α) (s : Table) {columns : List Column}
    (h : columns.Pairwise fun a b => sameName a.name b.name = false) :
    (columns.map (v.column s)).Pairwise fun a b => a.name ≠ b.name :=
  List.pairwise_map.2 (h.imp folded_ne_iff.2)

/-- **Renames keep the columns of a table apart.** -/
lemma Renames.columns_apply {current target : Schema} {r : Renames} (hfits : r.Fits current target)
    (hcolumns : ColumnsApart (r.inOrder target).columns) {u t : Table} (hu : u ∈ target.tables)
    (hs : r.source current u = some t)
    (ht : t.columns.Pairwise fun a b => sameName a.name b.name = false) :
    (r.apply t u.name).columns.Pairwise fun a b => sameName a.name b.name = false := by
  have hmem : ∀ c ∈ (r.inOrder target).columns, sameName c.table u.name = true →
      t.hasColumn c.new = false := by
    intro c hc hcu
    obtain ⟨w, hw, hcw, d, hd, hdw, -, hnew⟩ := mem_inOrder.1 hc
    obtain ⟨w', hw', hwd, -, -, t', ht', -, hfree⟩ := hfits.of_mem_columns hd
    have hwu : w' = u := by
      refine DistinctNames.eq_of_sameName target.distinct hw' hu ?_
      rw [hcw] at hcu
      exact Text.sameName_trans hwd (Text.sameName_trans hdw hcu)
    rw [hwu, hs, Option.some.injEq] at ht'
    rwa [ht', ← hnew]
  have hname : ∀ c : Column, (r.applyToColumn u.name c).name = (r.inOrder target).newColumn u.name c.name :=
    fun c => (newColumn_inOrder hfits _ _).symm
  refine List.pairwise_map.2 (ht.imp_of_mem fun {a b} ha hb hab => ?_)
  rw [hname, hname]
  by_contra h
  rw [Bool.not_eq_false] at h
  rcases (r.inOrder target).newColumn_cases u.name a.name with ⟨c, hc, hcu, hca, hcn⟩ | ⟨-, hcn⟩ <;>
    rcases (r.inOrder target).newColumn_cases u.name b.name with ⟨d, hd, hdu, hdb, hdn⟩ | ⟨-, hdn⟩ <;>
    rw [hcn, hdn] at h
  · have hcd : c = d := by
      refine eq_of_pairwise_not
        (R := fun c d : ColumnRename => sameName c.table d.table = true ∧ sameName c.new d.new = true)
        (fun _ _ h => ⟨Text.sameName_symm h.1, Text.sameName_symm h.2⟩)
        (hcolumns.imp fun h hcd => ?_) hc hd
        ⟨Text.sameName_trans hcu (Text.sameName_symm hdu), h⟩
      rw [(h hcd.1).2] at hcd
      exact absurd hcd.2 (by decide)
    subst hcd
    rw [Text.sameName_trans (Text.sameName_symm hca) hdb] at hab
    exact absurd hab (by decide)
  · have := Table.hasColumn_eq_false_iff.1 (hmem c hc hcu) b hb
    rw [Text.sameName_symm h] at this
    exact absurd this (by decide)
  · have := Table.hasColumn_eq_false_iff.1 (hmem d hd hdu) a ha
    rw [h] at this
    exact absurd this (by decide)
  · rw [h] at hab
    exact absurd hab (by decide)

end SchemaCompiler

namespace SchemaCompiler.Migration

open Text (sameName folded folded_eq_iff folded_ne_iff)
open TableChange (columnsMissingFrom needsRebuild alteredColumns columnDiffers)

variable {α : Type} {v : View α}

/-! ## Columns that come and go -/

/-- Additions to a table end up behind its columns. -/
lemma entryAll_addColumns (table : String) (columns : List Column) {t : CatalogTable α}
    (hpair : columns.Pairwise fun a b => sameName a.name b.name = false)
    (hfree : ∀ c ∈ columns, t.hasColumn (folded c.name) = false) :
    entryAll v (some t) (columns.map (.addColumn table))
      = some (some { t with columns := t.columns ++ columns.map (v.column (.named table)) }) := by
  induction columns generalizing t with
  | nil => simp [entryAll]
  | cons c rest ih =>
      rw [List.pairwise_cons] at hpair
      have hc : t.hasColumn (folded c.name) = false := hfree c (by simp)
      have hnext : ∀ d ∈ rest, (t.addColumn (v.column (.named table) c)).hasColumn (folded d.name)
          = false := by
        intro d hd
        have hold := CatalogTable.hasColumn_eq_false_iff.1 (hfree d (by simp [hd]))
        refine CatalogTable.hasColumn_eq_false_iff.2 fun x hx => ?_
        rcases List.mem_append.1 hx with hx | hx
        · exact hold x hx
        · rw [List.mem_singleton.1 hx]
          exact folded_ne_iff.2 (hpair.1 d hd)
      have hstep : Action.entry v (some t) (.addColumn table c)
          = some (some (t.addColumn (v.column (.named table) c))) := by
        simp [Action.entry, hc]
      rw [List.map_cons, entryAll, List.foldlM_cons, hstep]
      refine (ih hpair.2 hnext).trans ?_
      simp [CatalogTable.addColumn]

/-- Drops from a table leave the columns of other names. -/
lemma entryAll_dropColumns (table : String) (columns : List Column) {t : CatalogTable α}
    (hpair : columns.Pairwise fun a b => sameName a.name b.name = false)
    (hthere : ∀ c ∈ columns, t.hasColumn (folded c.name) = true) :
    entryAll v (some t) (columns.map (.dropColumn table))
      = some (some { t with
          columns := t.columns.filter fun x => ∀ c ∈ columns, x.name ≠ folded c.name }) := by
  induction columns generalizing t with
  | nil => simp [entryAll]
  | cons c rest ih =>
      rw [List.pairwise_cons] at hpair
      have hc : t.hasColumn (folded c.name) = true := hthere c (by simp)
      have hnext : ∀ d ∈ rest, (t.dropColumn (folded c.name)).hasColumn (folded d.name) = true := by
        intro d hd
        obtain ⟨x, hx, hxd⟩ := CatalogTable.hasColumn_iff.1 (hthere d (by simp [hd]))
        refine CatalogTable.hasColumn_iff.2 ⟨x, List.mem_filter.2 ⟨hx, ?_⟩, hxd⟩
        rw [decide_eq_true_eq, hxd]
        exact (folded_ne_iff.2 (hpair.1 d hd)).symm
      have hstep : Action.entry v (some t) (.dropColumn table c)
          = some (some (t.dropColumn (folded c.name))) := by
        simp [Action.entry, hc]
      rw [List.map_cons, entryAll, List.foldlM_cons, hstep]
      refine (ih hpair.2 hnext).trans ?_
      simp [CatalogTable.dropColumn, List.filter_filter, Bool.and_comm]

/-! ## A table changed in place -/

/-- Columns whose definitions do not differ are declared alike. -/
lemma declared_column_eq {t s : Table} {old new : Column} (hname : sameName old.name new.name = true)
    (h : columnDiffers old new = false) : declared.column t old = declared.column s new := by
  have heq : { old with name := new.name, comment := new.comment } = new := by
    simpa [columnDiffers] using h
  rw [← heq]
  simp [View.column, declared, folded_eq_iff.2 hname]

/-- What a table that needs no rebuild has in common with the one that it becomes. -/
lemma inPlace_facts {old new : Table} (h : needsRebuild old new = false) :
    old.constraints = new.constraints ∧ ∀ c ∈ new.columns, ∀ b, old.column? c.name = some b →
      columnDiffers b c = false := by
  simp only [needsRebuild, Bool.or_eq_false_iff, Bool.not_eq_false', List.isEmpty_iff] at h
  obtain ⟨⟨⟨haltered, hconstraints⟩, -⟩, -⟩ := h
  refine ⟨by simpa using hconstraints, fun c hc b hb => ?_⟩
  have := List.filterMap_eq_nil_iff.1 haltered c hc
  simpa [hb] using this

/-- A column of the old table that the new one has as well, in its new definition. -/
lemma declared_of_column? {old new : Table} (h : needsRebuild old new = false) {c b : Column}
    (hc : c ∈ new.columns) (hb : old.column? c.name = some b) :
    b ∈ old.columns ∧ sameName b.name c.name = true ∧
      declared.column old b = declared.column new c := by
  have hname : sameName b.name c.name = true := by simpa using List.find?_some hb
  exact ⟨List.mem_of_find?_eq_some hb, hname,
    declared_column_eq hname ((inPlace_facts h).2 c hc b hb)⟩

/-- The columns after a change in place: the old ones that the new table has, and the new ones. -/
def columnsInPlace (old new : Table) : List (CatalogColumn Column) :=
  ((declared.table old).columns ++ (columnsMissingFrom new old).map (declared.column new)).filter
    fun x => ∀ c ∈ columnsMissingFrom old new, x.name ≠ folded c.name

lemma entryAll_inPlace {old new : Table}
    (hold : old.columns.Pairwise fun a b => sameName a.name b.name = false)
    (hnew : new.columns.Pairwise fun a b => sameName a.name b.name = false) :
    entryAll declared (some (declared.table old))
        ((columnsMissingFrom new old).map (.addColumn new.name)
          ++ (columnsMissingFrom old new).map (.dropColumn new.name))
      = some (some { declared.table old with columns := columnsInPlace old new }) := by
  have hadd := entryAll_addColumns (v := declared) new.name (columnsMissingFrom new old)
    (t := declared.table old) (hnew.filter _) fun c hc => by
      rw [View.hasColumn_table]
      simpa using (List.mem_filter.1 hc).2
  have hdrop := entryAll_dropColumns (v := declared) new.name (columnsMissingFrom old new)
    (t := { declared.table old with columns := (declared.table old).columns
      ++ (columnsMissingFrom new old).map (declared.column new) }) (hold.filter _) fun c hc => by
      refine CatalogTable.hasColumn_iff.2 ⟨declared.column old c, List.mem_append_left _ ?_, rfl⟩
      exact List.mem_map_of_mem (List.mem_filter.1 hc).1
  rw [entryAll, List.foldlM_append, Option.bind_eq_bind]
  exact Option.bind_eq_some_iff.2 ⟨_, hadd, hdrop⟩

lemma mem_columnsInPlace {old new : Table}
    (hold : old.columns.Pairwise fun a b => sameName a.name b.name = false)
    (h : needsRebuild old new = false) (x : CatalogColumn Column) :
    x ∈ columnsInPlace old new ↔ x ∈ (declared.table new).columns := by
  rw [columnsInPlace, List.mem_filter, decide_eq_true_iff]
  simp only [View.table, List.mem_filter, List.mem_append, List.mem_map, columnsMissingFrom,
    Bool.not_eq_true']
  constructor
  · rintro ⟨⟨b, hb, rfl⟩ | ⟨c, ⟨hc, -⟩, rfl⟩, hkept⟩
    · have hhas : new.hasColumn b.name = true := by
        by_contra hno
        exact hkept b ⟨hb, by simpa using hno⟩ rfl
      obtain ⟨c, hc, hcb⟩ := Table.hasColumn_iff.1 hhas
      have hlook := Table.column?_of_mem hold hb (Text.sameName_symm hcb)
      exact ⟨c, hc, (declared_of_column? h hc hlook).2.2.symm⟩
    · exact ⟨c, hc, rfl⟩
  · rintro ⟨c, hc, rfl⟩
    have hkept : ∀ d, d ∈ old.columns ∧ new.hasColumn d.name = false →
        (declared.column new c).name ≠ folded d.name := by
      rintro d ⟨-, hd⟩
      exact folded_ne_iff.2 (Table.hasColumn_eq_false_iff.1 hd c hc)
    refine ⟨?_, hkept⟩
    cases hlook : old.column? c.name with
    | none => exact Or.inr ⟨c, ⟨hc, by simp [Table.hasColumn, hlook]⟩, rfl⟩
    | some b =>
        obtain ⟨hb, -, heq⟩ := declared_of_column? h hc hlook
        exact Or.inl ⟨b, hb, heq⟩

/-- **A table changed in place becomes the new one.**  Of its old columns those stay that the new table
has as well. -/
lemma agrees_inPlace {old new : Table}
    (hold : old.columns.Pairwise fun a b => sameName a.name b.name = false)
    (hnew : new.columns.Pairwise fun a b => sameName a.name b.name = false)
    (h : needsRebuild old new = false) :
    ({ declared.table old with columns := columnsInPlace old new } : CatalogTable Column).Agrees
      (declared.table new) := by
  have hpair : ((declared.table old).columns ++ (columnsMissingFrom new old).map
      (declared.column new)).Pairwise fun a b => a.name ≠ b.name := by
    refine List.pairwise_append.2 ⟨declared.pairwise_columns old hold,
      declared.pairwise_columns new (hnew.filter _), fun a ha b hb => ?_⟩
    obtain ⟨x, hx, rfl⟩ := List.mem_map.1 ha
    obtain ⟨y, hy, rfl⟩ := List.mem_map.1 hb
    have hmissing : old.hasColumn y.name = false := by simpa using (List.mem_filter.1 hy).2
    exact folded_ne_iff.2 (Table.hasColumn_eq_false_iff.1 hmissing x hx)
  refine ⟨?_, by simp [View.table, (inPlace_facts h).1]⟩
  refine (List.perm_ext_iff_of_nodup (nodup_columns (hpair.filter _))
    (nodup_columns (declared.pairwise_columns new hnew))).2 fun x => ?_
  exact mem_columnsInPlace hold h x

/-! ## The whole migration -/

variable {current target : Schema} {hints : RenameHints} {r : Renames} {allow : Bool} {version : Nat}
  {name : String} {m : Migration}

/-- The changes of a table of the new schema lead to it from what the renames have left. -/
lemma entryAll_changesOf (l : Layout current target r) (hcurrent : current.Valid)
    (htarget : target.Valid) (hfits : r.Fits current target) (htables : TablesApart r.tables)
    (hcolumns : ColumnsApart (r.inOrder target).columns) {u : Table} (hu : u ∈ target.tables) :
    ∃ e, entryAll declared (Catalog.of declared (r.applyAll current.tables) (folded u.name))
        (l.changesOf u) = some (some e) ∧ e.Agrees (declared.table u) := by
  cases hfate : r.fate current u with
  | created =>
      have hnone := Renames.of_applyAll_eq_none_iff (v := declared).2
        (Renames.newTable_ne_of_no_source hfits htables hu (Renames.fate_eq_created_iff.1 hfate))
      refine ⟨_, ?_, .refl _⟩
      rw [hnone, Layout.changesOf, hfate]
      rfl
  | rebuilt old =>
      obtain ⟨t, ht, -, -⟩ := Renames.fate_eq_rebuilt_iff.1 hfate
      refine ⟨_, ?_, .refl _⟩
      rw [Renames.of_applyAll_of_source hfits htables hu ht, Layout.changesOf, hfate]
      rfl
  | inPlace old =>
      obtain ⟨t, ht, rfl, hkept⟩ := Renames.fate_eq_inPlace_iff.1 hfate
      have hmem := (Renames.mem_of_source ht).1
      have hold := Renames.columns_apply hfits hcolumns hu ht (hcurrent.tables t hmem).columns
      have hnew := (htarget.tables u hu).columns
      refine ⟨_, ?_, agrees_inPlace hold hnew hkept⟩
      rw [Renames.of_applyAll_of_source hfits htables hu ht, Layout.changesOf, hfate]
      exact entryAll_inPlace hold hnew

/-- Under a name that is not in the new schema there is nothing left in the end. -/
lemma entryAll_elsewhere (l : Layout current target r) (hfits : r.Fits current target)
    (htables : TablesApart r.tables)
    (hlower : current.tables.Pairwise fun a b => Text.toLowercase a.name ≠ Text.toLowercase b.name)
    {k : String} (hk : ∀ u ∈ target.tables, folded u.name ≠ k) :
    entryAll declared (Catalog.of declared (r.applyAll current.tables) k)
      (l.changes.filter fun a => folded a.table == k) = some none := by
  rw [l.changes_elsewhere hk]
  have hdropped : ∀ t ∈ current.tables, folded (r.newTable t.name) = k →
      t ∈ l.dropped ∧ r.newTable t.name = t.name := by
    intro t ht htk
    have hnone : ∀ u ∈ target.tables, r.source current u ≠ some t := fun u hu hs =>
      hk u hu ((folded_eq_iff.2 (Renames.newTable_of_source hfits htables hu hs)).symm.trans htk)
    refine ⟨(l.mem_dropped t).2 ⟨ht, fun u hu s hs hst => ?_⟩,
      (Renames.name_of_no_source hfits htables ht hnone).1⟩
    exact not_overlooked hlower t ⟨ht, hnone, u, hu, s, hs, hst⟩
  by_cases ht : ∃ t ∈ current.tables, folded (r.newTable t.name) = k
  · obtain ⟨t, ht, htk⟩ := ht
    obtain ⟨hmem, hself⟩ := hdropped t ht htk
    have hentry := (Renames.of_applyAll_eq_some_iff (v := declared) current.distinct hfits.tablesFit
      htables).2 ⟨t, ht, htk, rfl⟩
    rw [hself] at htk
    subst htk
    rw [hentry, filter_key_of_mem (fun t : Table => folded t.name)
      (l.dropped_distinct.imp folded_ne_iff.2) hmem]
    rfl
  · push Not at ht
    have hnil : l.dropped.filter (fun t => folded t.name == k) = [] := by
      refine List.filter_eq_nil_iff.2 fun t htd htk => ?_
      obtain ⟨hmem, hnone⟩ := l.no_source_of_dropped htd
      refine ht t hmem ?_
      rw [(Renames.name_of_no_source hfits htables hmem hnone).1]
      exact beq_iff_eq.1 htk
    rw [hnil, Renames.of_applyAll_eq_none_iff.2 ht]
    rfl

/-- **A migration leads from the old tables to the new ones.**  Its actions run without meeting a missing
table or column, or one that is there already, and end in the tables of the new schema. -/
theorem compileDiff_reaches_target (hcurrent : current.errors = [])
    (hlower : current.tables.Pairwise fun a b => Text.toLowercase a.name ≠ Text.toLowercase b.name)
    (htables : TablesApart hints.tables) (hcolumns : ColumnsApart hints.columns)
    (h : compileDiff allow current target hints version name = .ok m) :
    ∃ c, runAll declared (Catalog.of declared current.tables) m.actions = some c ∧
      c.Agrees (Catalog.of declared target.tables) := by
  obtain ⟨htarget, -, l, hactions⟩ := layout_of_compileDiff h
  have hfits := Renames.resolve_fits current target hints
  have htables' : TablesApart (Renames.resolve current target hints).tables :=
    Renames.apart_resolve htables
  have hcolumns' : ColumnsApart ((Renames.resolve current target hints).inOrder target).columns :=
    Renames.columnsApart_inOrder (Renames.columnsApart_resolve hcolumns)
  have hentry : ∀ k, ∃ e, entryAll declared
      (Catalog.of declared ((Renames.resolve current target hints).applyAll current.tables) k)
        (l.changes.filter fun a => folded a.table == k) = some e ∧
      Option.Rel CatalogTable.Agrees e (Catalog.of declared target.tables k) := by
    intro k
    by_cases hk : ∃ u ∈ target.tables, folded u.name = k
    · obtain ⟨u, hu, rfl⟩ := hk
      obtain ⟨e, he, hagrees⟩ := entryAll_changesOf l (Schema.valid_of_errors hcurrent)
        (Schema.valid_of_errors htarget) hfits htables' hcolumns' hu
      refine ⟨some e, by rw [l.changes_at hfits htables' hu, he], ?_⟩
      rw [Catalog.of_apply_mem target.distinct hu]
      exact .some hagrees
    · push Not at hk
      refine ⟨none, entryAll_elsewhere l hfits htables' hlower hk, ?_⟩
      rw [Catalog.of_eq_none_iff.2 hk]
      exact .none
  choose d hrun hagrees using hentry
  refine ⟨d, ?_, hagrees⟩
  rw [hactions]
  exact (l.runAll_iff hfits).2 ⟨htables', hcolumns', hrun⟩

/-- People with an address, and a log. -/
def peopleSchema : Schema where
  tables := [
    { name := "person", columns := [(Column.ofType "id" .integer).asPrimaryKey, .ofType "mail" .text] },
    { name := "log", columns := [(Column.ofType "id" .integer).asPrimaryKey] }]
  relationships := []
  distinct := by decide +kernel

/-- Members, whose address may be missing, and events. -/
def memberSchema : Schema where
  tables := [
    { name := "Member", columns := [(Column.ofType "email" .text).asNullable,
      (Column.ofType "id" .integer).asPrimaryKey] },
    { name := "event", columns := [(Column.ofType "id" .integer).asPrimaryKey] }]
  relationships := []
  distinct := by decide +kernel

/-- People become members. -/
def memberHints : RenameHints where
  tables := [("person", "member")]
  columns := [⟨"member", "mail", "email"⟩]

/-- A migration that renames, creates, rebuilds and drops. -/
theorem memberSchema_reached : ∃ m,
    compileDiff true peopleSchema memberSchema memberHints 1 "members" = .ok m ∧
      ∃ c, runAll declared (Catalog.of declared peopleSchema.tables) m.actions = some c ∧
        c.Agrees (Catalog.of declared memberSchema.tables) := by
  obtain ⟨m, hm, -⟩ : ∃ m, compileDiff true peopleSchema memberSchema memberHints 1 "members" = .ok m ∧
      m.actions = plainActions peopleSchema memberSchema memberHints := exists_compileDiff (by decide +kernel)
  exact ⟨m, hm, compileDiff_reaches_target (by decide +kernel) (by decide +kernel) (by decide +kernel)
    (by decide +kernel) hm⟩

end SchemaCompiler.Migration

import SchemaCompiler.Proofs.Database.Undo

/-!
# A table that stays where it is

While one table is changed in place, most of what a migration does concerns other tables: they are created,
rebuilt and dropped.  A run that neither drops nor renames a table leaves little of that in it.  Its
columns come and go with the statements that say so, its constraints stay, and so do its indexes unless a
statement drops or creates one.

One thing reaches across.  A rebuild renames its staging table, and a foreign key that mentions it follows.
So the table is known up to the names that its foreign keys mention, which is what `CatalogTable.outline`
leaves.

* `Sql.Statement.Leaves`, `Migration.Action.Spares` — statements and actions that leave a table where it is.
* `Database.leaves_up`, `Database.leaves_down` — the statements of such an action leave it there.
* `Sql.Statement.alter` — what a statement makes of the table.
* `Database.outline_execAll` — the table after a run.
* `Database.index_of_execAll`, `Database.index_execAll` — the indexes after a run, and those that stay.
-/

namespace SchemaCompiler

open Text (sameName folded folded_eq_iff)

variable {α : Type}

/-! ## Outlines -/

/-- The column without the names that its foreign keys mention. -/
def CatalogColumn.outline (c : CatalogColumn α) : CatalogColumn α :=
  { c with targets := c.targets.map fun _ => ("", "") }

/-- The table without the names that its foreign keys mention. -/
def CatalogTable.outline (t : CatalogTable α) : CatalogTable α :=
  { t with columns := t.columns.map (·.outline) }

namespace CatalogTable

variable {t : CatalogTable α}

lemma outline_retargetTable (old new : String) : (t.retargetTable old new).outline = t.outline := by
  simp [outline, retargetTable, CatalogColumn.outline, CatalogColumn.retargetTable, Function.comp_def]

lemma outline_retargetColumn (table old new : String) :
    (t.retargetColumn table old new).outline = t.outline := by
  simp [outline, retargetColumn, CatalogColumn.outline, CatalogColumn.retargetColumn, Function.comp_def]

lemma outline_addColumn (c : CatalogColumn α) : (t.addColumn c).outline = t.outline.addColumn c.outline := by
  simp [outline, addColumn]

lemma outline_dropColumn (name : String) : (t.dropColumn name).outline = t.outline.dropColumn name := by
  simp [outline, dropColumn, List.filter_map, Function.comp_def, CatalogColumn.outline]

end CatalogTable

/-! ## Statements -/

namespace Sql.Statement

/-- The statement leaves the table called `k` where it is, and the names of its columns alone. -/
def Leaves (k : String) : Statement → Prop
  | .dropTable table _ | .renameTable table _ | .renameColumn table _ _ => folded table ≠ k
  | .createTable _ | .addColumn _ _ | .dropColumn _ _ | .createIndex _ | .dropIndex _ _ | .copyRows _ _ _
  | .pragma _ _ | .select _ _ _ _ | .insert _ _ _ | .update _ _ _ _ | .delete _ _ | .comment _ => True

/-- What the statement makes of the table called `k`, if it leaves the table where it is. -/
def alter (k : String) (t : CatalogTable Definition) : Statement → CatalogTable Definition
  | .addColumn table c => if folded table = k then t.addColumn c.held.outline else t
  | .dropColumn table c => if folded table = k then t.dropColumn (folded c) else t
  | .createTable _ | .dropTable _ _ | .renameTable _ _ | .renameColumn _ _ _ | .createIndex _
  | .dropIndex _ _ | .copyRows _ _ _ | .pragma _ _ | .select _ _ _ _ | .insert _ _ _ | .update _ _ _ _
  | .delete _ _ | .comment _ => t

variable {k : String} {t : CatalogTable Definition} {statements : List Statement}
  {x : CatalogColumn Definition}

lemma constraints_foldl_alter : (statements.foldl (alter k) t).constraints = t.constraints := by
  induction statements generalizing t with
  | nil => rfl
  | cons s rest ih =>
      rw [List.foldl_cons, ih]
      cases s <;> simp only [alter] <;> split_ifs <;> rfl

/-- A column was there, or a statement adds it. -/
lemma mem_of_foldl_alter (h : x ∈ (statements.foldl (alter k) t).columns) :
    x ∈ t.columns ∨
      ∃ table c, .addColumn table c ∈ statements ∧ folded table = k ∧ c.held.outline = x := by
  induction statements generalizing t with
  | nil => exact Or.inl h
  | cons s rest ih =>
      rcases ih h with hx | ⟨table, c, hc, htable, hx⟩
      · cases s with
        | addColumn table c =>
            simp only [alter] at hx
            split_ifs at hx with htable
            · rcases List.mem_append.1 hx with hx | hx
              · exact Or.inl hx
              · exact Or.inr ⟨table, c, by simp, htable, (List.mem_singleton.1 hx).symm⟩
            · exact Or.inl hx
        | dropColumn table c =>
            simp only [alter] at hx
            split_ifs at hx
            · exact Or.inl (List.mem_filter.1 hx).1
            · exact Or.inl hx
        | _ => exact Or.inl hx
      · exact Or.inr ⟨table, c, List.mem_cons_of_mem _ hc, htable, hx⟩

/-- A column that was there or is added stays if no statement drops one of its name. -/
lemma mem_foldl_alter (h : x ∈ t.columns ∨
      ∃ table c, .addColumn table c ∈ statements ∧ folded table = k ∧ c.held.outline = x)
    (hkept : ∀ table c, .dropColumn table c ∈ statements → folded table = k → x.name ≠ folded c) :
    x ∈ (statements.foldl (alter k) t).columns := by
  induction statements generalizing t with
  | nil =>
      rcases h with h | ⟨_, _, h, -⟩
      · exact h
      · cases h
  | cons s rest ih =>
      refine ih ?_ fun table c hc => hkept table c (List.mem_cons_of_mem _ hc)
      have hstay : x ∈ t.columns → x ∈ (s.alter k t).columns := by
        intro hx
        cases s with
        | addColumn table c =>
            simp only [alter]
            split_ifs
            · exact List.mem_append_left _ hx
            · exact hx
        | dropColumn table c =>
            simp only [alter]
            split_ifs with htable
            · exact List.mem_filter.2 ⟨hx, by simpa using hkept table c List.mem_cons_self htable⟩
            · exact hx
        | _ => exact hx
      rcases h with hx | ⟨table, c, hc, htable, hx⟩
      · exact Or.inl (hstay hx)
      · rcases List.mem_cons.1 hc with rfl | hc
        · exact Or.inl (by simp [alter, htable, CatalogTable.addColumn, hx])
        · exact Or.inr ⟨table, c, hc, htable, hx⟩

end Sql.Statement

namespace Database

open Sql (Statement)

variable {db db' : Database} {k : String} {s : Statement} {statements : List Statement}

/-! ## The table after a run -/

/-- A statement that leaves a table where it is, seen in that table. -/
lemma outline_exec (h : db.exec s = some db') (hs : s.Leaves k) {t : CatalogTable Definition}
    (ht : (db.tables k).map (·.outline) = some t) :
    (db'.tables k).map (·.outline) = some (s.alter k t) := by
  obtain ⟨-, htables, -⟩ := exec_eq_some_iff.1 h
  cases s with
  | createTable table =>
      simp only [Catalog.exec] at htables
      split_ifs at htables
      · rwa [← Option.some.inj htables]
      · obtain ⟨hfree, hd⟩ := Catalog.create_eq_some_iff.1 htables
        have hne : k ≠ folded table.name := by
          rintro rfl
          simp [hfree] at ht
        rwa [hd, Function.update_of_ne hne]
  | dropTable table ifExists =>
      simp only [Catalog.exec] at htables
      split_ifs at htables
      · rwa [← Option.some.inj htables]
      · rw [(Catalog.drop_eq_some_iff.1 htables).2, Function.update_of_ne (Ne.symm hs)]
        exact ht
  | renameTable source target =>
      obtain ⟨e, -, hfree, hd⟩ := Catalog.renameTable_eq_some_iff.1 htables
      have hne : k ≠ folded target := by
        rintro rfl
        simp [hfree] at ht
      simp only [hd, Function.update_of_ne hne, Function.update_of_ne (Ne.symm hs), Option.map_map,
        Function.comp_def, CatalogTable.outline_retargetTable]
      exact ht
  | addColumn table c =>
      obtain ⟨e, he, -, hd⟩ := Catalog.addColumn_eq_some_iff.1 htables
      simp only [Statement.alter]
      split_ifs with htable
      · subst htable
        rw [he, Option.map_some, Option.some.injEq] at ht
        rw [hd, Function.update_self, Option.map_some, CatalogTable.outline_addColumn, ht]
      · rwa [hd, Function.update_of_ne (Ne.symm htable)]
  | dropColumn table c =>
      obtain ⟨e, he, -, hd⟩ := Catalog.dropColumn_eq_some_iff.1 htables
      simp only [Statement.alter]
      split_ifs with htable
      · subst htable
        rw [he, Option.map_some, Option.some.injEq] at ht
        rw [hd, Function.update_self, Option.map_some, CatalogTable.outline_dropColumn, ht]
      · rwa [hd, Function.update_of_ne (Ne.symm htable)]
  | renameColumn table source target =>
      obtain ⟨e, -, -, -, hd⟩ := Catalog.renameColumn_eq_some_iff.1 htables
      simp only [hd, Option.map_map, Function.comp_def, Catalog.columnRenamed, if_neg (Ne.symm hs),
        CatalogTable.outline_retargetColumn]
      exact ht
  | createIndex _ | dropIndex _ _ | copyRows _ _ _ | pragma _ _ | select _ _ _ _ | insert _ _ _
  | update _ _ _ _ | delete _ _ | comment _ => rwa [← Option.some.inj htables]

/-- **A run that leaves a table where it is** does to it what the statements say. -/
theorem outline_execAll (h : db.execAll statements = some db') (hs : ∀ s ∈ statements, s.Leaves k)
    {t : CatalogTable Definition} (ht : (db.tables k).map (·.outline) = some t) :
    (db'.tables k).map (·.outline) = some (statements.foldl (Statement.alter k) t) := by
  induction statements generalizing db t with
  | nil => rwa [← Option.some.inj h]
  | cons s rest ih =>
      rw [execAll_cons, Option.bind_eq_some_iff] at h
      obtain ⟨mid, hmid, hrest⟩ := h
      exact ih hrest (fun s hs' => hs s (by simp [hs'])) (outline_exec hmid (hs s (by simp)) ht)

lemma isSome_exec (h : db.exec s = some db') (hs : s.Leaves k) (hk : (db.tables k).isSome = true) :
    (db'.tables k).isSome = true := by
  obtain ⟨t, ht⟩ := Option.isSome_iff_exists.1 hk
  obtain ⟨t', ht', -⟩ := Option.map_eq_some_iff.1 (outline_exec h hs (by rw [ht]; rfl))
  simp [ht']

/-- The table is still there. -/
lemma isSome_execAll (h : db.execAll statements = some db') (hs : ∀ s ∈ statements, s.Leaves k)
    (hk : (db.tables k).isSome = true) : (db'.tables k).isSome = true := by
  induction statements generalizing db with
  | nil => rwa [← Option.some.inj h]
  | cons s rest ih =>
      rw [execAll_cons, Option.bind_eq_some_iff] at h
      obtain ⟨mid, hmid, hrest⟩ := h
      exact ih hrest (fun s hs' => hs s (by simp [hs'])) (isSome_exec hmid (hs s (by simp)) hk)

/-! ## The indexes of the table after a run -/

variable {n : String} {i : CatalogIndex}

lemma index_of_exec (h : db.exec s = some db') (hs : s.Leaves k) (hk : (db.tables k).isSome = true)
    (hi : db'.indexes n = some i) (howner : i.owner = k) :
    db.indexes n = some i ∨ ∃ j, s = .createIndex j ∧ folded j.name = n ∧ j.held = i := by
  obtain ⟨-, htables, hindexes⟩ := exec_eq_some_iff.1 h
  rw [hindexes] at hi
  cases s with
  | dropTable table ifExists => exact Or.inl (Option.filter_eq_some_iff.1 hi).1
  | renameTable source target =>
      obtain ⟨j, hj, rfl⟩ := Option.map_eq_some_iff.1 hi
      obtain ⟨e, -, hfree, -⟩ := Catalog.renameTable_eq_some_iff.1 htables
      have hsource : j.owner ≠ folded source := by
        rintro hsource
        have howner : folded target = k := by simpa [CatalogIndex.renameTable, hsource] using howner
        simp [← howner, hfree] at hk
      rw [CatalogIndex.renameTable, replaced_of_ne hsource]
      exact Or.inl hj
  | renameColumn table source target =>
      obtain ⟨j, hj, rfl⟩ := Option.map_eq_some_iff.1 hi
      have hne : j.owner ≠ folded table := fun heq => hs (heq.symm.trans howner)
      rw [CatalogIndex.renameColumn, if_neg hne]
      exact Or.inl hj
  | createIndex j =>
      simp only [indexAfter] at hi
      split_ifs at hi with hn
      · rcases Option.or_eq_some_iff.1 hi with hi | ⟨-, hi⟩
        · exact Or.inl hi
        · exact Or.inr ⟨j, rfl, hn, Option.some.inj hi⟩
      · exact Or.inl hi
  | dropIndex name ifExists =>
      simp only [indexAfter] at hi
      split_ifs at hi
      exact Or.inl hi
  | createTable _ | addColumn _ _ | dropColumn _ _ | copyRows _ _ _ | pragma _ _ | select _ _ _ _
  | insert _ _ _ | update _ _ _ _ | delete _ _ | comment _ => exact Or.inl hi

/-- **An index of the table after a run** was there before, or a statement creates it. -/
theorem index_of_execAll (h : db.execAll statements = some db') (hs : ∀ s ∈ statements, s.Leaves k)
    (hk : (db.tables k).isSome = true) (hi : db'.indexes n = some i) (howner : i.owner = k) :
    db.indexes n = some i ∨ ∃ j, .createIndex j ∈ statements ∧ folded j.name = n ∧ j.held = i := by
  induction statements generalizing db with
  | nil => exact Or.inl (Option.some.inj h ▸ hi)
  | cons s rest ih =>
      rw [execAll_cons, Option.bind_eq_some_iff] at h
      obtain ⟨mid, hmid, hrest⟩ := h
      have hthere := isSome_exec hmid (hs s (by simp)) hk
      rcases ih hrest (fun s hs' => hs s (by simp [hs'])) hthere with hmid' | ⟨j, hj, hn, hheld⟩
      · rcases index_of_exec hmid (hs s (by simp)) hk hmid' howner with hdb | ⟨j, rfl, hn, hheld⟩
        · exact Or.inl hdb
        · exact Or.inr ⟨j, by simp, hn, hheld⟩
      · exact Or.inr ⟨j, by simp [hj], hn, hheld⟩

/-- An index that is dropped and not created again is not there. -/
lemma no_index_of_execAll {before after : List Statement} {name : String} {ifExists : Bool}
    (h : db.execAll (before ++ .dropIndex name ifExists :: after) = some db')
    (hs : ∀ s ∈ before ++ .dropIndex name ifExists :: after, s.Leaves k)
    (hk : (db.tables k).isSome = true)
    (hafter : ∀ j, .createIndex j ∈ after → folded j.table ≠ k)
    (hi : db'.indexes (folded name) = some i) : i.owner ≠ k := by
  intro howner
  rw [execAll_append, Option.bind_eq_some_iff] at h
  obtain ⟨mid, hmid, h⟩ := h
  rw [execAll_cons, Option.bind_eq_some_iff] at h
  obtain ⟨dropped, hdropped, hrest⟩ := h
  have hmidk := isSome_execAll hmid (fun s hs' => hs s (by simp [hs'])) hk
  have hthere := isSome_exec hdropped (hs _ (by simp)) hmidk
  rcases index_of_execAll hrest (fun s hs' => hs s (by simp [hs'])) hthere hi howner
    with hold | ⟨j, hj, -, rfl⟩
  · rw [(exec_eq_some_iff.1 hdropped).2.2] at hold
    simp [indexAfter] at hold
  · exact hafter j hj howner

lemma index_exec (h : db.exec s = some db') (hs : s.Leaves k) (hi : db.indexes n = some i)
    (howner : i.owner = k) (hkept : ∀ name ifExists, s = .dropIndex name ifExists → folded name ≠ n) :
    db'.indexes n = some i := by
  have hindexes := congrFun (exec_eq_some_iff.1 h).2.2 n
  rw [hi] at hindexes
  rw [hindexes]
  cases s with
  | dropTable table ifExists =>
      have hne : i.owner ≠ folded table := fun heq => hs (heq.symm.trans howner)
      simp [indexAfter, hne]
  | renameTable source target =>
      have hne : i.owner ≠ folded source := fun heq => hs (heq.symm.trans howner)
      simp [indexAfter, CatalogIndex.renameTable, replaced_of_ne hne]
  | renameColumn table source target =>
      have hne : i.owner ≠ folded table := fun heq => hs (heq.symm.trans howner)
      simp [indexAfter, CatalogIndex.renameColumn, hne]
  | createIndex j => simp [indexAfter]
  | dropIndex name ifExists => exact if_neg (hkept name ifExists rfl)
  | createTable _ | addColumn _ _ | dropColumn _ _ | copyRows _ _ _ | pragma _ _ | select _ _ _ _
  | insert _ _ _ | update _ _ _ _ | delete _ _ | comment _ => rfl

/-- **An index of the table stays** if no statement drops it. -/
theorem index_execAll (h : db.execAll statements = some db') (hs : ∀ s ∈ statements, s.Leaves k)
    (hi : db.indexes n = some i) (howner : i.owner = k)
    (hkept : ∀ name ifExists, .dropIndex name ifExists ∈ statements → folded name ≠ n) :
    db'.indexes n = some i := by
  induction statements generalizing db with
  | nil => rwa [← Option.some.inj h]
  | cons s rest ih =>
      rw [execAll_cons, Option.bind_eq_some_iff] at h
      obtain ⟨mid, hmid, hrest⟩ := h
      exact ih hrest (fun s hs' => hs s (by simp [hs']))
        (index_exec hmid (hs s (by simp)) hi howner fun name ifExists heq =>
          hkept name ifExists (by simp [heq]))
        fun name ifExists hmem => hkept name ifExists (by simp [hmem])

end Database

/-! ## Actions -/

namespace Migration

/-- The action leaves the table called `k` where it is, in both directions. -/
def Action.Spares (k : String) : Action → Prop
  | .createTable t | .dropTable t => folded t.name ≠ k
  | .alterTable old new _ => folded old.name ≠ k ∧ folded new.name ≠ k
  | .renameTable old new => folded old ≠ k ∧ folded new ≠ k
  | .renameColumn table _ _ => folded table ≠ k
  | .addColumn _ _ | .dropColumn _ _ | .createIndex _ | .dropIndex _ => True

end Migration

namespace Database

open Sql (Statement)
open Migration

variable {db db' : Database} {k : String} {a : Action}

/-- The staging table of a rebuild is not a table that is there. -/
lemma leaves_rebuild {old new : Table} (h : db.execAll (rebuildStatements old new) = some db')
    (hk : (db.tables k).isSome = true) (hold : folded old.name ≠ k) :
    ∀ s ∈ rebuildStatements old new, s.Leaves k := by
  have hstaging : folded (stagingName new.name) ≠ k := by
    rintro rfl
    simp only [rebuildStatements, List.cons_append, execAll_cons, Option.bind_eq_some_iff] at h
    obtain ⟨db1, h1, db2, h2, created, h3, -⟩ := h
    obtain rfl := exec_of_unchanged (fun _ => rfl) (fun _ _ => rfl) h1
    obtain rfl := exec_of_unchanged (fun _ => rfl) (fun _ _ => rfl) h2
    have hfree := (Catalog.create_eq_some_iff.1 (exec_eq_some_iff.1 h3).2.1).1
    simp only [staged] at hfree
    simp [hfree] at hk
  intro s hs
  simp only [rebuildStatements, List.mem_append, List.mem_cons, List.not_mem_nil, or_false,
    Table.indexStatements, List.mem_map] at hs
  rcases hs with (((((rfl | rfl | rfl) | hcopy) | rfl | rfl) | ⟨i, -, rfl⟩) | rfl | rfl)
  · trivial
  · trivial
  · trivial
  · split_ifs at hcopy
    · cases hcopy
    · rw [List.mem_singleton.1 hcopy]
      trivial
  · exact hold
  · exact hstaging
  · trivial
  · trivial
  · trivial

/-- **The statements of an action that spares a table leave it where it is.** -/
theorem leaves_up (ha : a.Spares k) (hk : (db.tables k).isSome = true)
    (h : db.execAll a.up = some db') : ∀ s ∈ a.up, s.Leaves k := by
  cases a with
  | alterTable old new dependents => exact leaves_rebuild h hk ha.1
  | createTable t =>
      intro s hs
      simp only [Action.up, Table.statements, List.mem_cons, Table.indexStatements, List.mem_map] at hs
      rcases hs with rfl | ⟨i, -, rfl⟩ <;> trivial
  | renameTable old new =>
      intro s hs
      rw [List.mem_singleton.1 hs]
      exact ha.1
  | dropTable t | addColumn table c | dropColumn table c | renameColumn table old new | createIndex i
  | dropIndex i =>
      intro s hs
      rw [List.mem_singleton.1 hs]
      exact ha

/-- The same for its down statements. -/
theorem leaves_down (ha : a.Spares k) (hk : (db.tables k).isSome = true)
    (h : db.execAll a.down = some db') : ∀ s ∈ a.down, s.Leaves k := by
  cases hsafe : a.isDestructive with
  | true =>
      intro s hs
      simp only [Action.down, hsafe, if_true, List.mem_singleton] at hs
      rw [hs]
      trivial
  | false =>
      have hundo : a.undo.Spares k := by
        cases a with
        | alterTable old new dependents => exact ⟨ha.2, ha.1⟩
        | renameTable old new => exact ⟨ha.2, ha.1⟩
        | _ => exact ha
      rcases Action.down_eq hsafe with hdown | ⟨i, -, hdown⟩ <;> rw [hdown] at h ⊢
      · exact leaves_up hundo hk h
      · intro s hs
        rw [List.mem_singleton.1 hs]
        trivial

/-- Lists of statements of which each leaves a table where it is, as long as it is there. -/
lemma leaves_execAll {β : Type} {f : β → List Statement} {bs : List β}
    (hstep : ∀ b ∈ bs, ∀ db db' : Database, (db.tables k).isSome = true → db.execAll (f b) = some db' →
      ∀ s ∈ f b, s.Leaves k)
    (hk : (db.tables k).isSome = true) (h : db.execAll (bs.flatMap f) = some db') :
    ∀ s ∈ bs.flatMap f, s.Leaves k := by
  induction bs generalizing db with
  | nil => simp
  | cons b rest ih =>
      rw [execAll_flatMap_cons, Option.bind_eq_some_iff] at h
      obtain ⟨mid, hmid, hrest⟩ := h
      have hfirst := hstep b (by simp) db mid hk hmid
      have hthen := ih (fun b hb => hstep b (by simp [hb])) (isSome_execAll hmid hfirst hk) hrest
      intro s hs
      rw [List.flatMap_cons, List.mem_append] at hs
      exact hs.elim (hfirst s) (hthen s)

end Database

end SchemaCompiler

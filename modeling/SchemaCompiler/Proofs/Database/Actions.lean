import SchemaCompiler.Proofs.Database.Basic
import SchemaCompiler.Proofs.Migration.Execution

/-!
# Actions as statements

What the statements of an action do to a database, read as one step.  For tables this is `Action.run`
again, with one exception: a rebuild goes through a staging table, and that it comes to replacing the
table depends on no foreign key mentioning the staging table (`Catalog.replace_of_staged`).  For indexes
the step is `Action.indexAfter`, which looks at one index name at a time: an action takes the indexes of a
table away, brings indexes of its own where their names are free, or renames.

* `Database.Owned` — every index lies on a table; statements keep it so.
* `Action.takes`, `Action.brings`, `Action.indexAfter` — the step of an action on an index name.
* `execAll_rebuild` — the statements of a rebuild.
* `indexes_execAll_up`, `tables_execAll_up` — the statements of a list of actions.
-/

namespace SchemaCompiler

open Text (sameName folded folded_eq_iff)

namespace Database

variable {db db' : Database}

/-! ## Runs of statements -/

lemma exec_eq_some_iff {s : Sql.Statement} :
    db.exec s = some db' ↔ db.accepts s = true ∧ db.tables.exec s = some db'.tables ∧
      db'.indexes = fun k => indexAfter k (db.indexes k) s := by
  unfold exec
  split_ifs with h
  · simp only [Option.map_eq_some_iff, h, true_and]
    constructor
    · rintro ⟨tables, htables, rfl⟩
      exact ⟨htables, rfl⟩
    · rintro ⟨htables, hindexes⟩
      exact ⟨_, htables, by rw [← hindexes]⟩
  · simp [h]

lemma execAll_append (as bs : List Sql.Statement) :
    db.execAll (as ++ bs) = (db.execAll as).bind (·.execAll bs) := List.foldlM_append

lemma execAll_cons (s : Sql.Statement) (rest : List Sql.Statement) :
    db.execAll (s :: rest) = (db.exec s).bind (·.execAll rest) := rfl

lemma execAll_singleton (s : Sql.Statement) : db.execAll [s] = db.exec s := by
  simp [execAll]

/-- A run of an action's statements and of those that follow. -/
lemma execAll_flatMap_cons {β : Type} (f : β → List Sql.Statement) (a : β) (as : List β) :
    db.execAll ((a :: as).flatMap f) = (db.execAll (f a)).bind (·.execAll (as.flatMap f)) := by
  rw [List.flatMap_cons, execAll_append]

/-! ## Every index lies on a table -/

/-- Every index lies on a table. -/
def Owned (db : Database) : Prop := ∀ k i, db.indexes k = some i → (db.tables i.owner).isSome = true

lemma isSome_update_of_isSome {c : Catalog Definition} {k x : String} {t : CatalogTable Definition}
    (h : (c x).isSome = true) : (Function.update c k (some t) x).isSome = true := by
  by_cases hx : x = k
  · subst hx; simp
  · simpa [hx] using h

/-- **Statements leave no index without its table.** -/
theorem Owned.exec (h : db.Owned) {s : Sql.Statement} (hs : db.exec s = some db') : db'.Owned := by
  obtain ⟨haccepts, htables, hindexes⟩ := exec_eq_some_iff.1 hs
  intro k i hi
  rw [hindexes] at hi
  cases s with
  | createTable t =>
      have hi := h k i hi
      simp only [Catalog.exec] at htables
      split_ifs at htables with hskip
      · rwa [← Option.some.inj htables]
      · rw [(Catalog.create_eq_some_iff.1 htables).2]
        exact isSome_update_of_isSome hi
  | dropTable name ifExists =>
      obtain ⟨hi, howner⟩ := Option.filter_eq_some_iff.1 hi
      have hi := h k i hi
      simp only [Catalog.exec] at htables
      split_ifs at htables with hskip
      · rwa [← Option.some.inj htables]
      · rw [(Catalog.drop_eq_some_iff.1 htables).2, Function.update_of_ne (by simpa using howner)]
        exact hi
  | renameTable source target =>
      obtain ⟨j, hj, rfl⟩ := Option.map_eq_some_iff.1 hi
      obtain ⟨t, ht, hfree, hd⟩ := Catalog.renameTable_eq_some_iff.1 htables
      have hj := h k j hj
      rw [hd]
      simp only [CatalogIndex.renameTable, Option.isSome_map]
      by_cases howner : j.owner = folded source
      · simp [howner]
      · rw [replaced_of_ne howner]
        have hne : j.owner ≠ folded target := fun heq => by simp [heq, hfree] at hj
        simpa [hne, howner] using hj
  | addColumn table column =>
      have hi := h k i hi
      obtain ⟨t, ht, -, hd⟩ := Catalog.addColumn_eq_some_iff.1 htables
      rw [hd]
      exact isSome_update_of_isSome hi
  | dropColumn table column =>
      have hi := h k i hi
      obtain ⟨t, ht, -, hd⟩ := Catalog.dropColumn_eq_some_iff.1 htables
      rw [hd]
      exact isSome_update_of_isSome hi
  | renameColumn table source target =>
      obtain ⟨j, hj, rfl⟩ := Option.map_eq_some_iff.1 hi
      obtain ⟨t, ht, -, -, hd⟩ := Catalog.renameColumn_eq_some_iff.1 htables
      have howner : (j.renameColumn (folded table) (folded source) (folded target)).owner = j.owner := rfl
      rw [hd, howner]
      simpa using h k j hj
  | createIndex i' =>
      have hsame := (Option.some.inj htables)
      rw [← hsame]
      simp only [indexAfter] at hi
      split_ifs at hi with hk
      · rcases Option.or_eq_some_iff.1 hi with hi | ⟨-, hi⟩
        · exact h k i hi
        · rw [← Option.some.inj hi]
          simp only [accepts, Bool.and_eq_true] at haccepts
          cases htable : db.tables (folded i'.table) with
          | none => simp [htable] at haccepts
          | some t => simp [Sql.CreateIndex.held, htable]
      · exact h k i hi
  | dropIndex name ifExists =>
      have hsame := (Option.some.inj htables)
      rw [← hsame]
      simp only [indexAfter] at hi
      split_ifs at hi with hk
      exact h k i hi
  | copyRows _ _ _ | pragma _ _ | select _ _ _ _ | insert _ _ _ | update _ _ _ _ | delete _ _
  | comment _ =>
      rw [← Option.some.inj htables]
      exact h k i hi

lemma Owned.execAll (h : db.Owned) {statements : List Sql.Statement}
    (hs : db.execAll statements = some db') : db'.Owned := by
  induction statements generalizing db with
  | nil => exact Option.some.inj hs ▸ h
  | cons s rest ih =>
      rw [execAll_cons, Option.bind_eq_some_iff] at hs
      obtain ⟨mid, hmid, hrest⟩ := hs
      exact ih (h.exec hmid) hrest

end Database

/-! ## Replacing a table through a staging table -/

section Staging

variable {α : Type}

/-- Every foreign key of a table ends at a table of the catalog. -/
def CatalogTable.RefersIn (t : CatalogTable α) (c : Catalog α) : Prop :=
  ∀ x ∈ t.columns, ∀ g ∈ x.targets, (c g.1).isSome = true

/-- Every foreign key ends at a table. -/
def Catalog.Closed (c : Catalog α) : Prop := ∀ k t, c k = some t → t.RefersIn c

/-- A rename from a name that no foreign key mentions leaves the foreign keys alone. -/
lemma CatalogTable.RefersIn.retargetTable {t : CatalogTable α} {c : Catalog α} (h : t.RefersIn c)
    {old new : String} (hold : c old = none) : t.retargetTable old new = t := by
  have hcolumn : ∀ x ∈ t.columns, x.retargetTable old new = x := by
    intro x hx
    have htargets : x.targets.map (fun g => (replaced old new g.1, g.2)) = x.targets := by
      conv_rhs => rw [← List.map_id x.targets]
      refine List.map_congr_left fun g hg => ?_
      have hne : g.1 ≠ old := fun heq => by
        have := h x hx g hg
        simp [heq, hold] at this
      rw [replaced_of_ne hne, id]
    rw [CatalogColumn.retargetTable, htargets]
  have hcolumns : t.columns.map (·.retargetTable old new) = t.columns := by
    conv_rhs => rw [← List.map_id t.columns]
    exact List.map_congr_left hcolumn
  rw [CatalogTable.retargetTable, hcolumns]

/-- Replacing a table through a staging table replaces the table, and where a foreign key mentions the
staging table it mentions the table afterwards. -/
lemma Catalog.eq_of_staged {c d : Catalog α} {staging name : String} {t : CatalogTable α}
    (h : ((c.create staging t).bind (·.drop name)).bind (·.renameTable staging name) = some d) :
    c staging = none ∧ (c name).isSome = true ∧
      d = fun k => (Function.update c name (some t) k).map (·.retargetTable staging name) := by
  simp only [Option.bind_eq_some_iff, Catalog.create_eq_some_iff, Catalog.drop_eq_some_iff,
    Catalog.renameTable_eq_some_iff] at h
  obtain ⟨-, ⟨-, ⟨hfree, rfl⟩, hname, rfl⟩, e, he, -, rfl⟩ := h
  have hne : staging ≠ name := fun heq => by simp [heq] at he
  rw [Function.update_of_ne hne, Function.update_self, Option.some.injEq] at he
  subst he
  rw [Function.update_of_ne hne.symm] at hname
  refine ⟨hfree, hname, funext fun k => congrArg _ ?_⟩
  by_cases hk : k = name
  · subst hk
    simp
  · by_cases hks : k = staging
    · subst hks
      simp [hk, hfree]
    · simp [hk, hks]

/-- The tables are the same, whatever their foreign keys mention. -/
lemma Catalog.isSome_of_staged {c d : Catalog α} {staging name : String} {t : CatalogTable α}
    (h : ((c.create staging t).bind (·.drop name)).bind (·.renameTable staging name) = some d) (k : String) :
    (d k).isSome = (c k).isSome := by
  obtain ⟨-, hthere, rfl⟩ := eq_of_staged h
  rw [Option.isSome_map]
  by_cases hk : k = name
  · rw [hk, Function.update_self, Option.isSome_some, hthere]
  · rw [Function.update_of_ne hk]

/-- **Replacing a table through a staging table replaces the table.** -/
lemma Catalog.replace_of_staged {c d : Catalog α} {staging name : String} {t : CatalogTable α}
    (hc : c.Closed) (ht : t.RefersIn c)
    (h : ((c.create staging t).bind (·.drop name)).bind (·.renameTable staging name) = some d) :
    (c name).isSome = true ∧ d = Function.update c name (some t) := by
  obtain ⟨hfree, hthere, rfl⟩ := eq_of_staged h
  refine ⟨hthere, funext fun k => ?_⟩
  by_cases hk : k = name
  · subst hk
    simp [ht.retargetTable hfree]
  · rw [Function.update_of_ne hk]
    cases hck : c k with
    | none => rfl
    | some s => rw [Option.map_some, (hc k s hck).retargetTable hfree]

end Staging

/-! ## The step of an action on an index name -/

@[simp] lemma filter_const_true {β : Type} (x : Option β) : x.filter (fun _ => true) = x := by
  cases x <;> rfl

/-- The index of a table with a name. -/
def Table.indexAt (t : Table) (k : String) : Option CatalogIndex :=
  (t.indexes.find? fun i => folded i.name == k).map (·.held)

namespace Migration

/-- Whether the indexes of a table go away with an action. -/
def Action.takes (owner : String) : Action → Bool
  | .dropTable t | .alterTable t _ _ => owner == folded t.name
  | .createTable _ | .renameTable _ _ | .addColumn _ _ | .dropColumn _ _ | .renameColumn _ _ _
  | .createIndex _ | .dropIndex _ => false

/-- The index that an action creates under a name if the name is free. -/
def Action.brings (k : String) : Action → Option CatalogIndex
  | .createTable t | .alterTable _ t _ => t.indexAt k
  | .createIndex i => if folded i.name = k then some i.held else none
  | .dropTable _ | .renameTable _ _ | .addColumn _ _ | .dropColumn _ _ | .renameColumn _ _ _
  | .dropIndex _ => none

/-- An action that leaves the name of a table that it rebuilds. -/
def Action.KeepsName : Action → Prop
  | .alterTable old new _ => sameName old.name new.name = true
  | .createTable _ | .dropTable _ | .renameTable _ _ | .addColumn _ _ | .dropColumn _ _
  | .renameColumn _ _ _ | .createIndex _ | .dropIndex _ => True

/-- The index with a name after an action. -/
def Action.indexAfter (k : String) (x : Option CatalogIndex) (a : Action) : Option CatalogIndex :=
  match a with
  | .renameTable old new => x.map (·.renameTable (folded old) (folded new))
  | .renameColumn table old new => x.map (·.renameColumn (folded table) (folded old) (folded new))
  | .dropIndex i => if folded i.name = k then none else x
  | a => (x.filter fun i => !a.takes i.owner).or (a.brings k)

end Migration

namespace Database

open Migration

variable {db db' : Database}

/-- Index definitions in a row: where no index has the name, the first definition of it counts. -/
lemma execAll_createIndexes {is : List Index} (h : db.execAll (is.map (·.toStatement)) = some db') :
    db'.tables = db.tables ∧ ∀ k, db'.indexes k
      = (db.indexes k).or ((is.find? fun i => folded i.name == k).map (·.held)) := by
  induction is generalizing db with
  | nil => simp [← Option.some.inj h]
  | cons i rest ih =>
      rw [List.map_cons, execAll_cons, Option.bind_eq_some_iff] at h
      obtain ⟨mid, hmid, hrest⟩ := h
      obtain ⟨-, htables, hindexes⟩ := exec_eq_some_iff.1 hmid
      obtain ⟨htables', hindexes'⟩ := ih hrest
      refine ⟨htables'.trans (Option.some.inj htables).symm, fun k => ?_⟩
      rw [hindexes', hindexes]
      have hheld : Sql.CreateIndex.held ⟨i.name, i.table, i.isUnique, i.terms, i.condition⟩ = i.held :=
        rfl
      simp only [Index.toStatement, indexAfter, hheld]
      by_cases hk : folded i.name = k
      · rw [if_pos hk, Option.or_assoc, List.find?_cons_of_pos (by simpa using hk)]
        simp
      · rw [if_neg hk, List.find?_cons_of_neg (by simpa using hk)]

/-- Statements that concern rows and settings. -/
lemma exec_of_unchanged {s : Sql.Statement} (hs : ∀ c : Catalog Definition, c.exec s = some c)
    (hi : ∀ k x, indexAfter k x s = x) (h : db.exec s = some db') : db' = db := by
  obtain ⟨-, htables, hindexes⟩ := exec_eq_some_iff.1 h
  rw [hs, Option.some.injEq] at htables
  simp only [hi] at hindexes
  exact Database.ext htables.symm hindexes

/-- Copying rows changes no schema. -/
lemma execAll_copyRows {source target : String} {columns : List String}
    (h : db.execAll (if columns.isEmpty then [] else [.copyRows source target columns]) = some db') :
    db' = db := by
  split_ifs at h
  · exact (Option.some.inj h).symm
  · rw [execAll_singleton] at h
    exact exec_of_unchanged (fun _ => rfl) (fun _ _ => rfl) h

/-- **The statements of a rebuild.**  The indexes of the old table go and the new ones come where their
names are free; the table itself is replaced through the staging table. -/
theorem execAll_rebuild (howned : db.Owned) {old new : Table} (hname : sameName old.name new.name = true)
    (h : db.execAll (rebuildStatements old new) = some db') :
    (((db.tables.create (folded (stagingName new.name)) (defined.table new)).bind
        (·.drop (folded new.name))).bind
          (·.renameTable (folded (stagingName new.name)) (folded new.name)) = some db'.tables) ∧
      ∀ k, db'.indexes k = ((db.indexes k).filter fun i => !(i.owner == folded new.name)).or
        (new.indexAt k) := by
  have hfold : folded old.name = folded new.name := folded_eq_iff.2 hname
  simp only [rebuildStatements, List.cons_append, List.append_assoc, List.nil_append, execAll_cons,
    Option.bind_eq_some_iff] at h
  obtain ⟨db1, h1, db2, h2, created, h3, h⟩ := h
  obtain rfl := (exec_of_unchanged (fun _ => rfl) (fun _ _ => rfl) h1).symm
  obtain rfl := (exec_of_unchanged (fun _ => rfl) (fun _ _ => rfl) h2).symm
  rw [execAll_append, Option.bind_eq_some_iff] at h
  obtain ⟨copied, h4, h⟩ := h
  obtain rfl := (execAll_copyRows h4).symm
  simp only [execAll_cons, Option.bind_eq_some_iff] at h
  obtain ⟨dropped, h5, renamed, h6, h⟩ := h
  rw [execAll_append, Option.bind_eq_some_iff] at h
  obtain ⟨indexed, h7, h⟩ := h
  simp only [execAll_cons, Option.bind_eq_some_iff] at h
  obtain ⟨db8, h8, db9, h9, h⟩ := h
  obtain rfl := (exec_of_unchanged (fun _ => rfl) (fun _ _ => rfl) h8).symm
  obtain rfl := (exec_of_unchanged (fun _ => rfl) (fun _ _ => rfl) h9).symm
  obtain rfl := Option.some.inj h
  obtain ⟨-, htables3, hindexes3⟩ := exec_eq_some_iff.1 h3
  obtain ⟨-, htables5, hindexes5⟩ := exec_eq_some_iff.1 h5
  obtain ⟨-, htables6, hindexes6⟩ := exec_eq_some_iff.1 h6
  obtain ⟨htables7, hindexes7⟩ := execAll_createIndexes h7
  have hcreate : db.tables.create (folded (stagingName new.name)) (defined.table new)
      = some created.tables := (congrArg _ (held_toStatement (staged new))).symm.trans htables3
  have hdrop : created.tables.drop (folded new.name) = some dropped.tables := hfold ▸ htables5
  refine ⟨?_, fun k => ?_⟩
  · rw [hcreate, Option.bind_some, hdrop, Option.bind_some, htables7]
    exact htables6
  · have hfree : db.tables (folded (stagingName new.name)) = none :=
      (Catalog.create_eq_some_iff.1 hcreate).1
    have hrename : (dropped.indexes k).map (·.renameTable (folded (stagingName new.name))
        (folded new.name)) = dropped.indexes k := by
      rw [hindexes5, hindexes3]
      simp only [indexAfter, staged, Table.toStatement]
      cases hx : (db.indexes k).filter (·.owner != folded old.name) with
      | none => rfl
      | some i =>
          have hi := howned k i (Option.filter_eq_some_iff.1 hx).1
          have hne : i.owner ≠ folded (stagingName new.name) := fun heq => by
            simp [heq, hfree] at hi
          rw [Option.map_some, CatalogIndex.renameTable, replaced_of_ne hne]
    rw [hindexes7, hindexes6]
    simp only [indexAfter]
    rw [hrename, hindexes5, hindexes3, Table.indexAt, ← hfold]
    rfl

/-! ## Runs of actions -/

/-- **The indexes after the statements of an action.** -/
theorem indexes_up (howned : db.Owned) {a : Action} (hname : a.KeepsName)
    (h : db.execAll a.up = some db') (k : String) :
    db'.indexes k = a.indexAfter k (db.indexes k) := by
  have hone : ∀ {s : Sql.Statement}, db.execAll [s] = some db' →
      db'.indexes k = SchemaCompiler.indexAfter k (db.indexes k) s := by
    intro s hs
    rw [execAll_singleton] at hs
    rw [(exec_eq_some_iff.1 hs).2.2]
  cases a with
  | createTable t =>
      simp only [Action.up, Table.statements, execAll_cons, Option.bind_eq_some_iff] at h
      obtain ⟨mid, hmid, hrest⟩ := h
      rw [(execAll_createIndexes hrest).2, (exec_eq_some_iff.1 hmid).2.2]
      simp [Action.indexAfter, Action.takes, Action.brings, SchemaCompiler.indexAfter,
        Table.toStatement, Table.indexAt]
  | dropTable t => simpa [Action.indexAfter, Action.takes, Action.brings, SchemaCompiler.indexAfter,
      bne] using hone h
  | renameTable old new => exact hone h
  | addColumn table c => simpa [Action.indexAfter, Action.takes, Action.brings,
      SchemaCompiler.indexAfter] using hone h
  | dropColumn table c => simpa [Action.indexAfter, Action.takes, Action.brings,
      SchemaCompiler.indexAfter] using hone h
  | renameColumn table old new => exact hone h
  | alterTable old new dependents =>
      rw [(execAll_rebuild howned hname h).2]
      simp [Action.indexAfter, Action.takes, Action.brings, folded_eq_iff.2 hname]
  | createIndex i =>
      rw [hone h]
      have hheld : Sql.CreateIndex.held ⟨i.name, i.table, i.isUnique, i.terms, i.condition⟩ = i.held :=
        rfl
      simp only [Action.indexAfter, Action.takes, Action.brings, SchemaCompiler.indexAfter,
        Index.toStatement, hheld, Bool.not_false, filter_const_true]
      split_ifs <;> simp
  | dropIndex i => exact hone h

/-- The indexes after several lists of statements that each have the effect of an action. -/
lemma indexes_execAll {β : Type} {f : β → List Sql.Statement} {g : β → Action} {bs : List β}
    (howned : db.Owned)
    (hone : ∀ b ∈ bs, ∀ db db' : Database, db.Owned → db.execAll (f b) = some db' →
      ∀ k, db'.indexes k = (g b).indexAfter k (db.indexes k))
    (h : db.execAll (bs.flatMap f) = some db') (k : String) :
    db'.indexes k = (bs.map g).foldl (fun x a => a.indexAfter k x) (db.indexes k) := by
  induction bs generalizing db with
  | nil => rw [← Option.some.inj h]; rfl
  | cons b rest ih =>
      rw [execAll_flatMap_cons, Option.bind_eq_some_iff] at h
      obtain ⟨mid, hmid, hrest⟩ := h
      rw [ih (howned.execAll hmid) (fun b hb => hone b (by simp [hb])) hrest,
        hone b (by simp) db mid howned hmid k]
      rfl

/-- The indexes after the statements of several actions. -/
theorem indexes_execAll_up (howned : db.Owned) {actions : List Action}
    (hname : ∀ a ∈ actions, a.KeepsName) (h : db.execAll (actions.flatMap (·.up)) = some db')
    (k : String) :
    db'.indexes k = actions.foldl (fun x a => a.indexAfter k x) (db.indexes k) := by
  have := indexes_execAll (g := id) howned
    (fun a ha db db' howned h k => indexes_up howned (hname a ha) h k) h k
  rwa [List.map_id] at this

/-- **The tables after the statements of an action.**  A rebuild replaces its table if all foreign keys
end at tables. -/
theorem tables_up (howned : db.Owned) {a : Action} (hname : a.KeepsName)
    (hclosed : ∀ old new dependents, a = .alterTable old new dependents →
      db.tables.Closed ∧ (defined.table new).RefersIn db.tables)
    (h : db.execAll a.up = some db') : a.run defined db.tables = some db'.tables := by
  have hone : ∀ {s : Sql.Statement}, db.execAll [s] = some db' →
      db.tables.exec s = some db'.tables := by
    intro s hs
    rw [execAll_singleton] at hs
    exact (exec_eq_some_iff.1 hs).2.1
  cases a with
  | createTable t =>
      simp only [Action.up, Table.statements, execAll_cons, Option.bind_eq_some_iff] at h
      obtain ⟨mid, hmid, hrest⟩ := h
      rw [(execAll_createIndexes hrest).1, Action.run, ← held_toStatement]
      exact (exec_eq_some_iff.1 hmid).2.1
  | addColumn table c =>
      rw [Action.run, ← held_toDef]
      exact hone h
  | alterTable old new dependents =>
      obtain ⟨hc, hnew⟩ := hclosed old new dependents rfl
      obtain ⟨hthere, htables⟩ := Catalog.replace_of_staged hc hnew (execAll_rebuild howned hname h).1
      rw [Action.run, folded_eq_iff.2 hname, htables]
      exact Option.bind_eq_some_iff.2 ⟨_, Catalog.drop_eq_some_iff.2 ⟨hthere, rfl⟩,
        Catalog.create_eq_some_iff.2 ⟨by simp, by simp⟩⟩
  | dropTable _ | renameTable _ _ | dropColumn _ _ | renameColumn _ _ _ | createIndex _
  | dropIndex _ => exact hone h

/-- The tables after several lists of statements that each have the effect of an action as long as the
tables satisfy an invariant. -/
lemma tables_execAll {β : Type} {f : β → List Sql.Statement} {g : β → Action}
    {I : Catalog Definition → Prop} {bs : List β} (howned : db.Owned)
    (hstep : ∀ b ∈ bs, ∀ c d, I c → (g b).run defined c = some d → I d)
    (hone : ∀ b ∈ bs, ∀ db db' : Database, db.Owned → I db.tables → db.execAll (f b) = some db' →
      (g b).run defined db.tables = some db'.tables)
    (hstart : I db.tables) (h : db.execAll (bs.flatMap f) = some db') :
    runAll defined db.tables (bs.map g) = some db'.tables ∧ I db'.tables := by
  induction bs generalizing db with
  | nil => rw [← Option.some.inj h]; exact ⟨rfl, hstart⟩
  | cons b rest ih =>
      rw [execAll_flatMap_cons, Option.bind_eq_some_iff] at h
      obtain ⟨mid, hmid, hrest⟩ := h
      have hrun := hone b (by simp) db mid howned hstart hmid
      rw [List.map_cons, runAll_cons, hrun, Option.bind_some]
      exact ih (howned.execAll hmid) (fun b hb => hstep b (by simp [hb]))
        (fun b hb => hone b (by simp [hb])) (hstep b (by simp) _ _ hstart hrun) hrest

/-- The tables after the statements of several actions, given an invariant that lets tables be rebuilt. -/
theorem tables_execAll_up {I : Catalog Definition → Prop} (howned : db.Owned) {actions : List Action}
    (hname : ∀ a ∈ actions, a.KeepsName)
    (hstep : ∀ a ∈ actions, ∀ c d, I c → a.run defined c = some d → I d)
    (hclosed : ∀ old new dependents, .alterTable old new dependents ∈ actions → ∀ c, I c →
      c.Closed ∧ (defined.table new).RefersIn c)
    (hstart : I db.tables) (h : db.execAll (actions.flatMap (·.up)) = some db') :
    runAll defined db.tables actions = some db'.tables ∧ I db'.tables := by
  have := tables_execAll (g := id) howned hstep
    (fun a ha db db' howned hI h => tables_up howned (hname a ha)
      (fun old new dependents heq => hclosed old new dependents (heq ▸ ha) _ hI) h) hstart h
  rwa [List.map_id] at this

end Database

end SchemaCompiler

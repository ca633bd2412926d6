import SchemaCompiler.Proofs.Migration.Dependents
import SchemaCompiler.Proofs.Migration.IndexVacancy
import SchemaCompiler.Proofs.Migration.Rollback

/-!
# Whether a rebuild finds its staging name unused

A rebuild creates the new form of a table under a name made from that of the table, `_users_new` for
`users`, and nobody looks whether a table or an index has that name.  What is in the database when the
rebuild starts is known: the renames have been carried out, all new tables are there and no old table is
gone yet, and the indexes are those of the old schema as far as no action before has let their names go.

So a staging name is unused exactly if it is the name of no table of either schema, after the renames, and the
last action before the rebuild that has to do with an index of this name, if there is one, lets it go.  The
down section meets the same tables.

* `Database.Unused` — no table and no index has a name.
* `NoTable` — a name is that of no table of either schema.
* `Layout.split_rebuild` — what stands before and behind a rebuild.
* **`compileDiff_staging_iff`** — when a rebuild finds its staging name unused, in both directions.
-/

namespace SchemaCompiler

open Text (sameName folded folded_eq_iff folded_ne_iff)

/-! ## Tables that are there -/

/-- No table and no index has the name. -/
def Database.Unused (db : Database) (name : String) : Prop :=
  db.tables (folded name) = none ∧ db.indexes (folded name) = none

namespace Migration

/-- Exactly the tables that were there and those that are created are there. -/
lemma isSome_creations_iff {α : Type} {v : View α} {c d : Catalog α} {tables : List Table}
    (h : runAll v c (tables.map .createTable) = some d) (k : String) :
    (d k).isSome = true ↔ (c k).isSome = true ∨ ∃ t ∈ tables, folded t.name = k := by
  refine ⟨fun hd => ?_, isSome_of_creations h⟩
  induction tables generalizing c with
  | nil =>
      rw [← Option.some.inj h] at hd
      exact Or.inl hd
  | cons t rest ih =>
      rw [List.map_cons, runAll_cons, Option.bind_eq_some_iff] at h
      obtain ⟨mid, hmid, hrest⟩ := h
      obtain ⟨-, rfl⟩ := Catalog.create_eq_some_iff.1 hmid
      by_cases hk : folded t.name = k
      · exact Or.inr ⟨t, by simp, hk⟩
      · refine (ih hrest).imp (fun hc => ?_) fun ⟨s, hs, hsk⟩ => ⟨s, by simp [hs], hsk⟩
        rwa [Function.update_of_ne (Ne.symm hk)] at hc

end Migration

namespace Database

open Migration

variable {db db' : Database} {a : Action} {actions : List Action}

/-- The statements of an action that neither creates nor drops a table leave the same tables. -/
lemma isSome_up (howned : db.Owned) (hname : a.KeepsName) (hkeeps : a.KeepsTables)
    (h : db.execAll a.up = some db') (k : String) : (db'.tables k).isSome = (db.tables k).isSome := by
  have hrun : (∀ old new dependents, a ≠ .alterTable old new dependents) →
      a.run defined db.tables = some db'.tables := fun hne =>
    tables_up howned hname (fun old new dependents heq => absurd heq (hne old new dependents)) h
  cases a with
  | alterTable old new dependents => exact Catalog.isSome_of_staged (execAll_rebuild howned hname h).1 k
  | addColumn _ _ | dropColumn _ _ | createIndex _ | dropIndex _ =>
      refine isSome_of_run ?_ ?_ (hrun (by simp)) k <;> trivial
  | createTable _ | dropTable _ | renameTable _ _ | renameColumn _ _ _ => exact hkeeps.elim

lemma isSome_execAll_up (howned : db.Owned) (hname : ∀ a ∈ actions, a.KeepsName)
    (hkeeps : ∀ a ∈ actions, a.KeepsTables) (h : db.execAll (actions.flatMap (·.up)) = some db')
    (k : String) : (db'.tables k).isSome = (db.tables k).isSome := by
  induction actions generalizing db with
  | nil => rw [← Option.some.inj h]
  | cons a rest ih =>
      rw [execAll_flatMap_cons, Option.bind_eq_some_iff] at h
      obtain ⟨mid, hmid, hrest⟩ := h
      rw [ih (howned.execAll hmid) (fun b hb => hname b (by simp [hb])) (fun b hb => hkeeps b (by simp [hb]))
        hrest, isSome_up howned (hname a (by simp)) (hkeeps a (by simp)) hmid]

/-- So do the statements that take it back. -/
lemma isSome_execAll_down (howned : db.Owned) (hsafe : ∀ a ∈ actions, a.isDestructive = false)
    (hname : ∀ a ∈ actions, a.KeepsName) (hkeeps : ∀ a ∈ actions, a.undo.KeepsTables)
    (h : db.execAll (actions.flatMap (·.down)) = some db') (k : String) :
    (db'.tables k).isSome = (db.tables k).isSome := by
  induction actions generalizing db with
  | nil => rw [← Option.some.inj h]
  | cons a rest ih =>
      rw [execAll_flatMap_cons, Option.bind_eq_some_iff] at h
      obtain ⟨mid, hmid, hrest⟩ := h
      have hone : (mid.tables k).isSome = (db.tables k).isSome := by
        rcases Action.down_eq (hsafe a (by simp)) with hdown | ⟨i, rfl, hdown⟩ <;> rw [hdown] at hmid
        · exact isSome_up howned (hname a (by simp)).undo (hkeeps a (by simp)) hmid k
        · rw [execAll_singleton] at hmid
          rw [← Option.some.inj (exec_eq_some_iff.1 hmid).2.1]
      rw [ih (howned.execAll hmid) (fun b hb => hsafe b (by simp [hb])) (fun b hb => hname b (by simp [hb]))
        (fun b hb => hkeeps b (by simp [hb])) hrest, hone]

end Database

namespace Migration

variable {current target : Schema} {r : Renames} {old new : Table} {dependents : List String}
  {before after : List Action} {db : Database}

/-- The name is that of no table of either schema after the renames. -/
def NoTable (current target : Schema) (r : Renames) (name : String) : Prop :=
  (∀ t ∈ current.tables, sameName (r.newTable t.name) name = false) ∧
    ∀ u ∈ target.tables, sameName u.name name = false

lemma noTable_iff {name : String} :
    NoTable current target r name ↔ ¬ Renames.knownNames r current target (folded name) := by
  simp only [NoTable, Renames.knownNames, not_or, not_exists, not_and, folded_eq_iff, Bool.not_eq_true]

namespace Layout

variable (l : Layout current target r)

/-! ## Before and behind a rebuild -/

/-- The actions of the tail before the rebuilds. -/
def opening : List Action :=
  l.created.map .createTable
    ++ target.tables.flatMap fun u => ((r.fate current u).additions u).map (.addColumn u.name)

/-- The actions behind the rebuilds. -/
def closing : List Action :=
  target.tables.flatMap (fun u => ((r.fate current u).removals u).map (.dropColumn u.name))
    ++ l.dropped.map .dropTable
    ++ (target.tables.flatMap fun u => (r.fate current u).newIndexes u).map .createIndex

/-- The rebuilds. -/
def rebuilds : List Action := l.rebuilt.map fun b => .alterTable b.old b.new (l.dependents b)

lemma tail_eq_rebuilds : l.tail = l.opening ++ l.rebuilds ++ l.closing := by
  simp only [tail, changes, opening, rebuilds, closing, List.append_assoc]

/-- **What stands before and behind a rebuild**: the renames and new tables and columns, and other
rebuilds. -/
lemma split_rebuild (h : l.actions = before ++ .alterTable old new dependents :: after) :
    ∃ p q, l.rebuilds = p ++ .alterTable old new dependents :: q ∧
      before = l.head ++ (l.opening ++ p) ∧ after = q ++ l.closing ∧ old.name = new.name := by
  rw [l.actions_eq, l.tail_eq_rebuilds, ← List.append_assoc, ← List.append_assoc] at h
  have hhead : Action.alterTable old new dependents ∉ l.head := fun hmem =>
    l.not_plain_of_mem_head hmem trivial
  obtain ⟨p, q, hrebuilds, rfl, rfl⟩ := split_middle h
    (by simp [hhead, opening]) (by simp [closing])
  refine ⟨p, q, hrebuilds, by simp, rfl, ?_⟩
  have hmem : Action.alterTable old new dependents ∈ l.rebuilds := by simp [hrebuilds]
  obtain ⟨b, hb, heq⟩ := List.mem_map.1 hmem
  obtain ⟨rfl, rfl, -⟩ := Action.alterTable.inj heq
  obtain ⟨t, -, ht, -⟩ := Renames.fate_eq_rebuilt_iff.1 (l.mem_rebuilt.1 hb).2
  rw [← ht]
  rfl

variable {name : String} {p q : List Action}

lemma mem_rebuilds_keeps {a : Action} (ha : a ∈ l.rebuilds) : a.KeepsTables ∧ a.undo.KeepsTables := by
  obtain ⟨b, -, rfl⟩ := List.mem_map.1 ha
  exact ⟨trivial, trivial⟩

lemma tail_eq_of_split (h : l.rebuilds = p ++ q) : l.tail = (l.opening ++ p) ++ (q ++ l.closing) := by
  rw [l.tail_eq_rebuilds, h]
  simp

lemma actions_eq_of_split (h : l.rebuilds = p ++ q) :
    l.actions = (l.head ++ (l.opening ++ p)) ++ (q ++ l.closing) := by
  rw [l.actions_eq, l.tail_eq_of_split h, ← List.append_assoc]

/-- Every action up to a rebuild leaves the name of its table. -/
lemma keepsName_of_split (h : l.rebuilds = p ++ q) :
    ∀ a ∈ l.head ++ (l.opening ++ p), a.KeepsName := by
  intro a ha
  refine l.keepsName ?_
  rw [l.actions_eq_of_split h]
  exact List.mem_append_left _ ha

/-- **The tables when a rebuild starts** are those of both schemas, after the renames. -/
lemma isSome_of_opening (hcurrent : current.Valid) (htarget : target.Valid) (hfits : r.Fits current target)
    (hsplit : l.rebuilds = p ++ q)
    (h : (Database.holding current).execAll ((l.head ++ (l.opening ++ p)).flatMap (·.up)) = some db) :
    Migratable current target r ∧ db.Owned ∧
      ∀ k, (db.tables k).isSome = true ↔ Renames.knownNames r current target k := by
  have hname := l.keepsName_of_split hsplit
  simp only [opening, List.flatMap_append, Database.execAll_append, Option.bind_eq_some_iff] at h
  obtain ⟨db₁, hhead, db₃, ⟨db₂, hcreated, hadded⟩, hrebuilt⟩ := h
  obtain ⟨hapart, -, hrenamed⟩ := l.execAll_head hcurrent hfits hhead
  have howned₁ := (Database.holding_owned hcurrent).execAll hhead
  have howned₂ := howned₁.execAll hcreated
  have howned₃ := howned₂.execAll hadded
  refine ⟨⟨hcurrent, htarget, hfits, hapart⟩, howned₃.execAll hrebuilt, fun k => ?_⟩
  have hcreations := (Database.tables_execAll_up (I := fun _ => True) howned₁
    (fun a ha => by obtain ⟨t, -, rfl⟩ := List.mem_map.1 ha; trivial) (fun _ _ _ _ _ _ => trivial)
    (fun old new dependents ha => by obtain ⟨t, -, heq⟩ := List.mem_map.1 ha; cases heq) trivial
    hcreated).1
  have hold : (db₁.tables k).isSome = true ↔ ∃ t ∈ current.tables, folded (r.newTable t.name) = k := by
    rw [hrenamed, Option.isSome_iff_exists]
    simp only [Renames.of_applyAll_eq_some_iff current.distinct hfits.tablesFit hapart]
    exact ⟨fun ⟨_, t, ht, hk, _⟩ => ⟨t, ht, hk⟩, fun ⟨t, ht, hk⟩ => ⟨_, t, ht, hk, rfl⟩⟩
  rw [Database.isSome_execAll_up howned₃ (fun a ha => hname a (by simp [ha]))
      (fun a ha => (l.mem_rebuilds_keeps (by simp [hsplit, ha])).1) hrebuilt,
    Database.isSome_execAll_up howned₂ (fun a ha => hname a (by simp [opening, ha])) (fun a ha => by
      obtain ⟨u, -, ha⟩ := List.mem_flatMap.1 ha
      obtain ⟨c, -, rfl⟩ := List.mem_map.1 ha
      trivial) hadded,
    isSome_creations_iff hcreations, hold, Renames.knownNames]
  constructor
  · rintro (hk | ⟨u, hu, hk⟩)
    · exact Or.inl hk
    · exact Or.inr ⟨u, (l.mem_created.1 hu).1, hk⟩
  · rintro (hk | ⟨u, hu, hk⟩)
    · exact Or.inl hk
    · cases hs : r.source current u with
      | none => exact Or.inr ⟨u, l.mem_created.2 ⟨hu, hs⟩, hk⟩
      | some t => exact Or.inl ⟨t, (Renames.mem_of_source hs).1,
          (folded_eq_iff.2 (Renames.newTable_of_source hfits hapart hu hs)).trans hk⟩

/-- **A name when a rebuild starts.** -/
theorem unused_iff (hcurrent : current.Valid) (htarget : target.Valid) (hfits : r.Fits current target)
    (hsplit : l.rebuilds = p ++ q)
    (h : (Database.holding current).execAll ((l.head ++ (l.opening ++ p)).flatMap (·.up)) = some db) :
    db.Unused name ↔ NoTable current target r name ∧ Vacated current (l.head ++ (l.opening ++ p)) name := by
  obtain ⟨hm, -, htables⟩ := l.isSome_of_opening hcurrent htarget hfits hsplit h
  rw [Database.Unused, noTable_iff, ← htables, Bool.not_eq_true, Option.isSome_eq_false_iff,
    Option.isNone_iff_eq_none, ← l.vacated_iff hm (l.tail_eq_of_split hsplit),
    Database.indexes_execAll_up (Database.holding_owned hcurrent) (l.keepsName_of_split hsplit) h,
    List.foldl_append]
  rfl

variable (hsafe : ∀ a ∈ l.actions, a.isDestructive = false)

include hsafe in
/-- Behind the first rebuilds no action creates or drops a table, and none does when it is taken back. -/
lemma keepsTables_of_split (hsplit : l.rebuilds = p ++ q) {a : Action} (ha : a ∈ q ++ l.closing) :
    a.KeepsTables ∧ a.undo.KeepsTables := by
  rcases List.mem_append.1 ha with ha | ha
  · exact l.mem_rebuilds_keeps (by simp [hsplit, ha])
  · simp only [closing, l.dropped_eq_nil hsafe, List.map_nil, List.append_nil, List.mem_append,
      List.mem_flatMap, List.mem_map] at ha
    rcases ha with ⟨u, -, c, -, rfl⟩ | ⟨j, -, rfl⟩ <;> exact ⟨trivial, trivial⟩

include hsafe in
/-- **A name when the taking back of a rebuild starts.** -/
theorem unused_back_iff (hcurrent : current.Valid) (htarget : target.Valid) (hfits : r.Fits current target)
    (hsplit : l.rebuilds = p ++ q)
    (h : (Database.holding current).execAll (l.actions.flatMap (·.up) ++ downStatements (q ++ l.closing))
      = some db) :
    db.Unused name ↔ NoTable current target r name ∧
      VacatedBack current (l.head ++ (l.opening ++ p)) (q ++ l.closing) name := by
  have hmem : ∀ a ∈ q ++ l.closing, a ∈ l.actions := fun a ha => by
    rw [l.actions_eq_of_split hsplit]
    exact List.mem_append_right _ ha
  have hkeeps : ∀ a ∈ q ++ l.closing, a.KeepsTables ∧ a.undo.KeepsTables := fun a =>
    l.keepsTables_of_split hsafe hsplit
  rw [l.actions_eq_of_split hsplit, List.flatMap_append, List.append_assoc, Database.execAll_append,
    Option.bind_eq_some_iff] at h
  obtain ⟨db₁, hbefore, hrest⟩ := h
  rw [Database.execAll_append, Option.bind_eq_some_iff] at hrest
  obtain ⟨db₂, hafter, hdown⟩ := hrest
  obtain ⟨hm, howned₁, htables⟩ := l.isSome_of_opening hcurrent htarget hfits hsplit hbefore
  have howned₂ := howned₁.execAll hafter
  have hname : ∀ a ∈ q ++ l.closing, a.KeepsName := fun a ha => l.keepsName (hmem a ha)
  have hreverse : ∀ {P : Action → Prop}, (∀ a ∈ q ++ l.closing, P a) →
      ∀ a ∈ (q ++ l.closing).reverse, P a := fun hP a ha => hP a (List.mem_reverse.1 ha)
  have hthere : ∀ k, (db.tables k).isSome = (db₁.tables k).isSome := fun k => by
    rw [Database.isSome_execAll_down howned₂ (hreverse fun a ha => hsafe a (hmem a ha)) (hreverse hname)
        (hreverse fun a ha => (hkeeps a ha).2) hdown,
      Database.isSome_execAll_up howned₁ hname (fun a ha => (hkeeps a ha).1) hafter]
  have hcreate : ∀ a ∈ q ++ l.closing, ∀ t, a ≠ .createTable t := by
    rintro a ha t rfl
    exact (hkeeps _ ha).1
  have hindexes : db.indexes (folded name) = indexAfterAll (folded name) (indexAfterAll (folded name)
      (indexAfterAll (folded name) (l.before (folded name)) (l.opening ++ p)) (q ++ l.closing))
        ((q ++ l.closing).reverse.map (·.undo)) := by
    rw [Database.indexes_execAll_down howned₂ (hreverse fun a ha => hsafe a (hmem a ha)) (hreverse hname)
        hdown, Database.indexes_execAll_up howned₁ hname hafter,
      Database.indexes_execAll_up (Database.holding_owned hcurrent) (l.keepsName_of_split hsplit) hbefore,
      List.foldl_append (l := l.head)]
    rfl
  rw [Database.Unused, noTable_iff, ← htables, ← hthere, Bool.not_eq_true, Option.isSome_eq_false_iff,
    Option.isNone_iff_eq_none, ← l.vacatedBack_iff hsafe hm (l.tail_eq_of_split hsplit) hcreate, hindexes,
    indexAfterAll_append (folded name) _ (q ++ l.closing)]

end Layout

/-! ## The whole migration -/

variable {hints : RenameHints} {allow : Bool} {version : Nat} {title : String} {m : Migration}

/-- **When a rebuild finds its staging name unused.**  In the up section, whatever rebuild of a migration one
looks at, when the actions before it have been carried out; in the down section of a migration that is not
destructive, when all actions have been carried out and those behind the rebuild have been taken back.  Each
time the name is that of no table and no index exactly if it is the name of no table of either schema, after
the renames, and no index of this name has been left or brought. -/
theorem compileDiff_staging_iff (hcurrent : current.errors = [])
    (h : compileDiff allow current target hints version title = .ok m)
    (hsplit : m.actions = before ++ .alterTable old new dependents :: after) :
    (∀ db, (Database.holding current).execAll (before.flatMap (·.up)) = some db →
      (db.Unused (stagingName new.name) ↔
        NoTable current target (Renames.resolve current target hints) (stagingName new.name) ∧
          Vacated current before (stagingName new.name))) ∧
    (m.isDestructive = false → ∀ db,
      (Database.holding current).execAll (m.actions.flatMap (·.up) ++ downStatements after) = some db →
      (db.Unused (stagingName old.name) ↔
        NoTable current target (Renames.resolve current target hints) (stagingName old.name) ∧
          VacatedBack current (before ++ [.alterTable old new dependents]) after
            (stagingName old.name))) := by
  obtain ⟨htarget, -, l, hactions⟩ := layout_of_compileDiff h
  rw [hactions] at hsplit
  obtain ⟨p, q, hrebuilds, rfl, rfl, -⟩ := l.split_rebuild hsplit
  have hcurrent := Schema.valid_of_errors hcurrent
  have htarget := Schema.valid_of_errors htarget
  have hfits := Renames.resolve_fits current target hints
  refine ⟨fun db hrun => l.unused_iff hcurrent htarget hfits hrebuilds hrun, fun hsafe db hrun => ?_⟩
  have hall : ∀ a ∈ l.actions, a.isDestructive = false := by
    rw [← hactions]
    simpa [isDestructive] using hsafe
  have hnext : l.rebuilds = (p ++ [.alterTable old new dependents]) ++ q := by
    rw [hrebuilds]
    simp
  rw [hactions] at hrun
  have hback : db.Unused (stagingName old.name) ↔ _ :=
    l.unused_back_iff hall hcurrent htarget hfits hnext hrun
  rwa [← List.append_assoc, ← List.append_assoc, List.append_assoc l.head] at hback

/-- Articles that have just got their headline. -/
def headedTable : Table :=
  { name := "articles", columns := [(Column.ofType "id" .integer).asPrimaryKey, .ofType "headline" .text],
    indexes := [.ofColumns "by_title" "articles" ["headline"]] }

/-- Articles whose headline may be missing. -/
def headlessTable : Table :=
  { name := "articles",
    columns := [(Column.ofType "id" .integer).asPrimaryKey, (Column.ofType "headline" .text).asNullable],
    indexes := [.ofColumns "by_title" "articles" ["headline"]] }

/-- The actions of the magazine before the rebuild of its articles. -/
def magazineOpening : List Action :=
  [.renameTable "posts" "articles", .renameColumn "articles" "title" "headline",
    .createTable { name := "drafts", columns := [(Column.ofType "id" .integer).asPrimaryKey] }]

/-- A rebuild that finds its staging name unused, when it is run and when it is taken back. -/
theorem magazineSchema_staging_unused : ∃ m db db',
    compileDiff false postSchema magazineSchema magazineHints 1 "magazine" = .ok m ∧
      m.actions = magazineOpening ++ .alterTable headedTable headlessTable [] :: [] ∧
      m.isDestructive = false ∧
      (Database.holding postSchema).execAll (magazineOpening.flatMap (·.up)) = some db ∧
      db.Unused "_articles_new" ∧ Vacated postSchema magazineOpening "_articles_new" ∧
      (Database.holding postSchema).execAll (m.actions.flatMap (·.up) ++ downStatements []) = some db' ∧
      db'.Unused "_articles_new" ∧ VacatedBack postSchema
        (magazineOpening ++ [.alterTable headedTable headlessTable []]) [] "_articles_new" := by
  obtain ⟨m, hm, hactions⟩ := exists_magazine
  have hsplit : m.actions = magazineOpening ++ .alterTable headedTable headlessTable [] :: [] :=
    hactions.trans (by decide +kernel)
  have hsafe : m.isDestructive = false := by
    rw [isDestructive, hactions]
    decide +kernel
  have hunused : ∀ statements, ((Database.holding postSchema).execAll statements).any (fun db =>
      (db.tables (folded "_articles_new")).isNone && (db.indexes (folded "_articles_new")).isNone) = true →
      ∃ db, (Database.holding postSchema).execAll statements = some db ∧ db.Unused "_articles_new" := by
    intro statements h
    obtain ⟨db, hdb, hnone⟩ := (Option.any_eq_true _ _).1 h
    simp only [Bool.and_eq_true, Option.isNone_iff_eq_none] at hnone
    exact ⟨db, hdb, hnone⟩
  obtain ⟨db, hdb, hfree⟩ := hunused (magazineOpening.flatMap (·.up)) (by decide +kernel)
  obtain ⟨db', hdb', hfree'⟩ := hunused (m.actions.flatMap (·.up) ++ downStatements []) (by
    rw [hsplit]
    decide +kernel)
  obtain ⟨hup, hdown⟩ := compileDiff_staging_iff (by decide +kernel) hm hsplit
  exact ⟨m, db, db', hm, hsplit, hsafe, hdb, hfree, ((hup db hdb).1 hfree).2, hdb', hfree',
    ((hdown hsafe db' hdb').1 hfree').2⟩

/-- Users, and a table that has the name under which they are rebuilt. -/
def crowdedSchema : Schema where
  tables := [userTable, { name := "_users_new", columns := [(Column.ofType "id" .integer).asPrimaryKey] }]
  relationships := []
  distinct := by decide +kernel

/-- The same with users whose name may be missing. -/
def crowdedTarget : Schema where
  tables := [namelessTable, { name := "_users_new", columns := [(Column.ofType "id" .integer).asPrimaryKey] }]
  relationships := []
  distinct := by decide +kernel

/-- The rebuild finds its staging name taken, and its statements are not carried out. -/
theorem crowdedSchema_staging_taken : crowdedSchema.errors = [] ∧ crowdedTarget.errors = [] ∧ ∃ m,
    compileDiff false crowdedSchema crowdedTarget {} 1 "nameless" = .ok m ∧
      m.actions = [.alterTable userTable namelessTable []] ∧
      ¬ (Database.holding crowdedSchema).Unused (stagingName "users") ∧
      (Database.holding crowdedSchema).execAll (m.actions.flatMap (·.up)) = none := by
  obtain ⟨m, hm, hactions⟩ : ∃ m, compileDiff false crowdedSchema crowdedTarget {} 1 "nameless" = .ok m ∧
      m.actions = plainActions crowdedSchema crowdedTarget {} := exists_compileDiff (by decide +kernel)
  have hone : m.actions = [.alterTable userTable namelessTable []] := hactions.trans (by decide +kernel)
  refine ⟨by decide +kernel, by decide +kernel, m, hm, hone, fun h => ?_, ?_⟩
  · have hthere : ((Database.holding crowdedSchema).tables (folded (stagingName "users"))).isSome = true := by
      decide +kernel
    simp [h.1] at hthere
  · rw [hone, ← Option.isNone_iff_eq_none]
    decide +kernel

end Migration

end SchemaCompiler

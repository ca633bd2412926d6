import SchemaCompiler.Proofs.Database.Undo
import SchemaCompiler.Proofs.Migration.Statements

/-!
# The tables after a migration is taken back

The down section runs the opposites of the actions in reverse.  The renames come last there, and each of
them cancels with its original (`Catalog.renameTable_back`, `Catalog.renameColumn_back`).  The actions after
the renames look at one table each, so that they are taken back table by table: a table that was created
goes, columns that were added go from the end, and a table that was rebuilt gets its old definition.

A rebuild goes through a staging table, and it replaces its table only if no foreign key mentions that
one.  The staging name is free when it is taken, and all foreign keys end at tables that are there from the
creation of the new tables on until they are dropped (`Settled`).

* `Layout.tables_tail_undo` — the tail of a migration and its opposite cancel.
* `Layout.tables_renames_undo` — so do the renames.
-/

namespace SchemaCompiler

open Text (sameName folded folded_eq_iff)

variable {α : Type} {v : View α}

/-! ## Where foreign keys end -/

/-- Every foreign key of a table ends at one of the names. -/
def CatalogTable.RefersTo (t : CatalogTable α) (names : String → Prop) : Prop :=
  ∀ x ∈ t.columns, ∀ g ∈ x.targets, names g.1

/-- Every foreign key ends at one of the names. -/
def Catalog.RefersTo (c : Catalog α) (names : String → Prop) : Prop :=
  ∀ k t, c k = some t → t.RefersTo names

/-- Every foreign key ends at one of the names, and all of these are tables. -/
structure Catalog.Settled (c : Catalog α) (names : String → Prop) : Prop where
  refers : c.RefersTo names
  there : ∀ k, names k → (c k).isSome = true

lemma Catalog.Settled.refersIn {c : Catalog α} {names : String → Prop} (h : c.Settled names)
    {t : CatalogTable α} (ht : t.RefersTo names) : t.RefersIn c :=
  fun x hx g hg => h.there _ (ht x hx g hg)

lemma Catalog.Settled.closed {c : Catalog α} {names : String → Prop} (h : c.Settled names) :
    c.Closed := fun k t ht => h.refersIn (h.refers k t ht)

namespace Migration

/-- The foreign keys that an action brings end at the names. -/
def Action.RefersTo (v : View α) (names : String → Prop) : Action → Prop
  | .createTable t | .alterTable _ t _ => (v.table t).RefersTo names
  | .addColumn table c => ∀ g ∈ (v.column (.named table) c).targets, names g.1
  | .dropTable _ | .renameTable _ _ | .dropColumn _ _ | .renameColumn _ _ _ | .createIndex _
  | .dropIndex _ => True

/-- An action on one table that neither creates it nor drops it. -/
def Action.KeepsTables : Action → Prop
  | .createTable _ | .dropTable _ | .renameTable _ _ | .renameColumn _ _ _ => False
  | .addColumn _ _ | .dropColumn _ _ | .alterTable _ _ _ | .createIndex _ | .dropIndex _ => True

variable {names : String → Prop} {c d : Catalog α} {a : Action}

/-- Foreign keys end at the names still after an action that brings none to end elsewhere. -/
lemma refersTo_of_run (hlocal : a.IsLocal) (ha : a.RefersTo v names) (hc : c.RefersTo names)
    (h : a.run v c = some d) : d.RefersTo names := by
  obtain ⟨hentry, hframe⟩ := (Action.run_eq_some_iff hlocal).1 h
  intro k t ht
  by_cases hk : k = folded a.table
  · subst hk
    rw [ht] at hentry
    cases a with
    | createTable u =>
        cases hold : c (folded (Action.createTable u).table) with
        | none =>
            rw [hold] at hentry
            simp only [Action.entry, Option.some.injEq] at hentry
            exact hentry ▸ ha
        | some s =>
            rw [hold] at hentry
            cases hentry
    | dropTable u =>
        obtain ⟨s, -, hs⟩ := Option.map_eq_some_iff.1 hentry
        cases hs
    | addColumn table col =>
        obtain ⟨s, hs, hadd⟩ := Option.bind_eq_some_iff.1 hentry
        split_ifs at hadd
        simp only [Option.some.injEq] at hadd
        subst hadd
        intro x hx g hg
        rcases List.mem_append.1 hx with hx | hx
        · exact hc _ s hs x hx g hg
        · rw [List.mem_singleton.1 hx] at hg
          exact ha g hg
    | dropColumn table col =>
        obtain ⟨s, hs, hdrop⟩ := Option.bind_eq_some_iff.1 hentry
        split_ifs at hdrop
        simp only [Option.some.injEq] at hdrop
        subst hdrop
        exact fun x hx g hg => hc _ s hs x (List.mem_filter.1 hx).1 g hg
    | alterTable old new dependents =>
        obtain ⟨s, -, hs⟩ := Option.map_eq_some_iff.1 hentry
        simp only [Option.some.injEq] at hs
        exact hs ▸ ha
    | createIndex i => exact hc _ t (Option.some.inj hentry)
    | dropIndex i => exact hc _ t (Option.some.inj hentry)
    | renameTable _ _ => exact hlocal.elim
    | renameColumn _ _ _ => exact hlocal.elim
  · exact hc k t (hframe k hk ▸ ht)

lemma isSome_of_run (hlocal : a.IsLocal) (ha : a.KeepsTables) (h : a.run v c = some d) (k : String) :
    (d k).isSome = (c k).isSome := by
  obtain ⟨hentry, hframe⟩ := (Action.run_eq_some_iff hlocal).1 h
  by_cases hk : k = folded a.table
  · subst hk
    cases a with
    | addColumn table col =>
        obtain ⟨s, hs, hadd⟩ := Option.bind_eq_some_iff.1 hentry
        split_ifs at hadd
        rw [hs, ← Option.some.inj hadd]
        rfl
    | dropColumn table col =>
        obtain ⟨s, hs, hdrop⟩ := Option.bind_eq_some_iff.1 hentry
        split_ifs at hdrop
        rw [hs, ← Option.some.inj hdrop]
        rfl
    | alterTable old new dependents =>
        obtain ⟨s, hs, hnew⟩ := Option.map_eq_some_iff.1 hentry
        rw [hs, ← hnew]
        rfl
    | createIndex i => rw [Option.some.inj hentry]
    | dropIndex i => rw [Option.some.inj hentry]
    | createTable _ | dropTable _ | renameTable _ _ | renameColumn _ _ _ => exact ha.elim
  · rw [hframe k hk]

lemma settled_of_run (hlocal : a.IsLocal) (ha : a.RefersTo v names) (hkeeps : a.KeepsTables)
    (hc : c.Settled names) (h : a.run v c = some d) : d.Settled names :=
  ⟨refersTo_of_run hlocal ha hc.refers h,
    fun k hk => by rw [isSome_of_run hlocal hkeeps h]; exact hc.there k hk⟩

/-- Tables that are created are there, and so are those that were. -/
lemma isSome_of_creations {tables : List Table} (h : runAll v c (tables.map .createTable) = some d)
    {k : String} (hk : (c k).isSome = true ∨ ∃ t ∈ tables, folded t.name = k) : (d k).isSome = true := by
  induction tables generalizing c with
  | nil =>
      rw [← Option.some.inj h]
      simpa using hk
  | cons t rest ih =>
      rw [List.map_cons, runAll_cons, Option.bind_eq_some_iff] at h
      obtain ⟨mid, hmid, hrest⟩ := h
      obtain ⟨-, rfl⟩ := Catalog.create_eq_some_iff.1 hmid
      refine ih hrest ?_
      by_cases hkt : k = folded t.name
      · exact Or.inl (by simp [hkt])
      · rw [Function.update_of_ne hkt]
        refine hk.imp id ?_
        rintro ⟨s, hs, rfl⟩
        rcases List.mem_cons.1 hs with rfl | hs
        · exact absurd rfl hkt
        · exact ⟨s, hs, rfl⟩

/-! ## The tail of a migration -/

variable {current target : Schema} {r : Renames} {db db' : Database}

/-- The names under which tables are there once the new ones are created. -/
def Renames.knownNames (r : Renames) (current target : Schema) (k : String) : Prop :=
  (∃ t ∈ current.tables, folded (r.newTable t.name) = k) ∨ ∃ u ∈ target.tables, folded u.name = k

/-- The foreign keys of a new table end at new tables. -/
lemma refersTo_new (htarget : target.Valid) {u : Table} (hu : u ∈ target.tables) :
    (v.table u).RefersTo (Renames.knownNames r current target) := by
  intro x hx g hg
  obtain ⟨col, hcol, rfl⟩ := List.mem_map.1 hx
  obtain ⟨k, hk, rfl⟩ := List.mem_map.1 hg
  obtain ⟨w, hw, hname, -⟩ := htarget.foreign u hu col hcol k (by simpa using hk)
  exact Or.inr ⟨w, hw, folded_eq_iff.2 hname⟩

/-- The foreign keys of an old table end at old tables, renamed like these. -/
lemma refersTo_old (hcurrent : current.Valid) {t : Table} (ht : t ∈ current.tables) (new : String) :
    (v.table (r.apply t new)).RefersTo (Renames.knownNames r current target) := by
  rw [View.table_apply]
  intro x hx g hg
  obtain ⟨col, hcol, rfl⟩ := List.mem_map.1 hx
  obtain ⟨k, hk, rfl⟩ := List.mem_map.1 hg
  obtain ⟨w, hw, hname, -⟩ := hcurrent.foreign t ht col hcol k (by simpa using hk)
  exact Or.inl ⟨w, hw, r.folded_newTable_congr hname⟩

namespace Layout

variable (l : Layout current target r)

/-- The actions after the creation of tables. -/
def later : List Action :=
  target.tables.flatMap (fun u => ((r.fate current u).additions u).map (.addColumn u.name))
    ++ l.rebuilt.map (fun b => .alterTable b.old b.new (l.dependents b))
    ++ target.tables.flatMap (fun u => ((r.fate current u).removals u).map (.dropColumn u.name))
    ++ l.dropped.map .dropTable
    ++ (target.tables.flatMap fun u => (r.fate current u).newIndexes u).map .createIndex

lemma tail_eq : l.tail = l.created.map .createTable ++ l.later := by
  simp only [tail, changes, later, List.append_assoc]

/-- Actions after the renames look at one table, and so do their opposites. -/
lemma local_of_mem_tail {a : Action} (ha : a ∈ l.tail) : a.IsLocal ∧ a.undo.IsLocal := by
  have hname := l.keepsName_of_mem_tail ha
  cases l.late_of_mem_tail ha with
  | rebuild _ _ => exact ⟨hname, Text.sameName_symm hname⟩
  | create _ _ | add _ _ | remove _ _ | drop _ | index _ _ => exact ⟨trivial, trivial⟩

/-- An action and its opposite look at the same table. -/
lemma table_undo_of_mem_tail {a : Action} (ha : a ∈ l.tail) :
    folded a.undo.table = folded a.table := by
  have hname := l.keepsName_of_mem_tail ha
  cases l.late_of_mem_tail ha with
  | rebuild _ _ => exact folded_eq_iff.2 hname
  | create _ _ | add _ _ | remove _ _ | drop _ | index _ _ => rfl

/-- The opposites of the actions on one table are the opposites that look at it. -/
lemma filter_undo {as : List Action} (has : ∀ a ∈ as, a ∈ l.tail) (k : String) :
    (as.reverse.map (·.undo)).filter (fun a => folded a.table == k)
      = (as.filter fun a => folded a.table == k).reverse.map (·.undo) := by
  rw [List.filter_map, ← List.filter_reverse]
  refine congrArg _ (List.filter_congr fun a ha => ?_)
  simp only [Function.comp_apply, l.table_undo_of_mem_tail (has a (List.mem_reverse.1 ha))]

/-- The foreign keys that come with the tail of a migration, or with taking it back, end at tables. -/
lemma refersTo_of_mem_tail (hcurrent : current.Valid) (htarget : target.Valid) {a : Action}
    (ha : a ∈ l.tail) : a.RefersTo v (Renames.knownNames r current target) ∧
      a.undo.RefersTo v (Renames.knownNames r current target) := by
  cases l.late_of_mem_tail ha with
  | create hu _ => exact ⟨refersTo_new htarget hu, trivial⟩
  | add hu hc =>
      refine ⟨fun g hg => ?_, trivial⟩
      exact refersTo_new (v := v) htarget hu _ (List.mem_map_of_mem hc) g hg
  | rebuild hu hf =>
      obtain ⟨t, hs, rfl, -⟩ := Renames.fate_eq_rebuilt_iff.1 hf
      exact ⟨refersTo_new htarget hu, refersTo_old hcurrent (Renames.mem_of_source hs).1 _⟩
  | remove _ _ | drop _ | index _ _ => exact ⟨trivial, trivial⟩

variable (hsafe : ∀ a ∈ l.actions, a.isDestructive = false)

include hsafe in
/-- Without destructive actions the renames come first. -/
lemma head_eq_renames : l.head = l.renames := by
  rw [head, List.flatMap_eq_nil_iff.2 fun u hu => l.goneIndexes_eq_nil hsafe hu, List.map_nil,
    List.nil_append]

include hsafe in
lemma keepsTables_of_mem_later {a : Action} (ha : a ∈ l.later) :
    a.KeepsTables ∧ a.undo.KeepsTables := by
  simp only [later, l.dropped_eq_nil hsafe, List.map_nil, List.append_nil, List.mem_append,
    List.mem_map, List.mem_flatMap] at ha
  rcases ha with ((⟨u, -, c, -, rfl⟩ | ⟨b, -, rfl⟩) | ⟨u, -, c, -, rfl⟩) | ⟨i, -, rfl⟩ <;>
    exact ⟨trivial, trivial⟩

lemma mem_tail_of_mem_later {a : Action} (ha : a ∈ l.later) : a ∈ l.tail := by
  rw [l.tail_eq]
  exact List.mem_append_right _ ha

lemma mem_tail_of_mem_created {t : Table} (ht : t ∈ l.created) : .createTable t ∈ l.tail := by
  rw [l.tail_eq]
  exact List.mem_append_left _ (List.mem_map_of_mem ht)

/-- Foreign keys end at known names after the renames. -/
lemma refersTo_renamed (hm : Migratable current target r) :
    (Catalog.of v (r.applyAll current.tables)).RefersTo (Renames.knownNames r current target) := by
  intro k e he
  obtain ⟨t, ht, -, rfl⟩ := (Renames.of_applyAll_eq_some_iff current.distinct hm.fits.tablesFit
    hm.apart).1 he
  exact refersTo_old hm.current_valid ht _

include hsafe in
/-- **The statements of the tail run as its actions do,** and once its tables are created all foreign keys
end at tables. -/
lemma runAll_tail (hm : Migratable current target r) (howned : db.Owned)
    (hstart : db.tables = Catalog.of defined (r.applyAll current.tables))
    (h : db.execAll (l.tail.flatMap (·.up)) = some db') :
    runAll defined db.tables l.tail = some db'.tables ∧
      db'.tables.Settled (Renames.knownNames r current target) := by
  rw [l.tail_eq, List.flatMap_append, Database.execAll_append, Option.bind_eq_some_iff] at h
  obtain ⟨mid, hmid, hrest⟩ := h
  obtain ⟨hcreated, hrefers⟩ := Database.tables_execAll_up
    (I := fun c => c.RefersTo (Renames.knownNames r current target)) howned
    (fun a ha => by obtain ⟨t, -, rfl⟩ := List.mem_map.1 ha; trivial)
    (fun a ha c d hc hrun => by
      obtain ⟨t, ht, rfl⟩ := List.mem_map.1 ha
      have hmem := l.mem_tail_of_mem_created ht
      exact refersTo_of_run (l.local_of_mem_tail hmem).1
        (l.refersTo_of_mem_tail hm.current_valid hm.target_valid hmem).1 hc hrun)
    (fun old new dependents ha => by obtain ⟨t, -, heq⟩ := List.mem_map.1 ha; cases heq)
    (hstart ▸ refersTo_renamed hm) hmid
  have hsettled : mid.tables.Settled (Renames.knownNames r current target) := by
    refine ⟨hrefers, fun k hk => isSome_of_creations hcreated ?_⟩
    have hthere : ∀ t ∈ current.tables, (db.tables (folded (r.newTable t.name))).isSome = true := by
      intro t ht
      rw [hstart, (Renames.of_applyAll_eq_some_iff current.distinct hm.fits.tablesFit hm.apart).2
        ⟨t, ht, rfl, rfl⟩]
      rfl
    rcases hk with ⟨t, ht, rfl⟩ | ⟨u, hu, rfl⟩
    · exact Or.inl (hthere t ht)
    · cases hs : r.source current u with
      | none => exact Or.inr ⟨u, l.mem_created.2 ⟨hu, hs⟩, rfl⟩
      | some t =>
          refine Or.inl ?_
          rw [← folded_eq_iff.2 (Renames.newTable_of_source hm.fits hm.apart hu hs)]
          exact hthere t (Renames.mem_of_source hs).1
  obtain ⟨hlater, hend⟩ := Database.tables_execAll_up
    (I := fun c => c.Settled (Renames.knownNames r current target)) (howned.execAll hmid)
    (fun a ha => l.keepsName_of_mem_tail (l.mem_tail_of_mem_later ha))
    (fun a ha c d hc hrun => settled_of_run (l.local_of_mem_tail (l.mem_tail_of_mem_later ha)).1
      (l.refersTo_of_mem_tail hm.current_valid hm.target_valid (l.mem_tail_of_mem_later ha)).1
      (l.keepsTables_of_mem_later hsafe ha).1 hc hrun)
    (fun old new dependents ha c hc => ⟨hc.closed, hc.refersIn
      (l.refersTo_of_mem_tail hm.current_valid hm.target_valid (l.mem_tail_of_mem_later ha)).1⟩)
    hsettled hrest
  refine ⟨?_, hend⟩
  rw [l.tail_eq, runAll_append, hcreated, Option.bind_some, hlater]

include hsafe in
/-- **The down statements of the tail run as the opposite actions do.** -/
lemma runAll_tail_undo (hm : Migratable current target r) (howned : db.Owned)
    (hstart : db.tables.Settled (Renames.knownNames r current target))
    (h : db.execAll (l.tail.reverse.flatMap (·.down)) = some db') :
    runAll defined db.tables (l.tail.reverse.map (·.undo)) = some db'.tables := by
  have hsafe' : ∀ a ∈ l.tail, a.isDestructive = false := fun a ha =>
    hsafe a (by rw [l.actions_eq]; simp [ha])
  rw [l.tail_eq, List.reverse_append, List.flatMap_append, Database.execAll_append,
    Option.bind_eq_some_iff] at h
  obtain ⟨mid, hmid, hrest⟩ := h
  obtain ⟨hlater, -⟩ := Database.tables_execAll_down
    (I := fun c => c.Settled (Renames.knownNames r current target)) howned
    (fun a ha => hsafe' a (l.mem_tail_of_mem_later (List.mem_reverse.1 ha)))
    (fun a ha => l.keepsName_of_mem_tail (l.mem_tail_of_mem_later (List.mem_reverse.1 ha)))
    (fun a ha c d hc hrun => by
      have hmem := l.mem_tail_of_mem_later (List.mem_reverse.1 ha)
      exact settled_of_run (l.local_of_mem_tail hmem).2
        (l.refersTo_of_mem_tail hm.current_valid hm.target_valid hmem).2
        (l.keepsTables_of_mem_later hsafe (List.mem_reverse.1 ha)).2 hc hrun)
    (fun old new dependents ha c hc => ⟨hc.closed, hc.refersIn
      (l.refersTo_of_mem_tail hm.current_valid hm.target_valid
        (l.mem_tail_of_mem_later (List.mem_reverse.1 ha))).2⟩) hstart hmid
  obtain ⟨hcreated, -⟩ := Database.tables_execAll_down (I := fun _ => True) (howned.execAll hmid)
    (fun a ha => by
      obtain ⟨t, -, rfl⟩ := List.mem_map.1 (List.mem_reverse.1 ha)
      rfl)
    (fun a ha => by
      obtain ⟨t, -, rfl⟩ := List.mem_map.1 (List.mem_reverse.1 ha)
      trivial)
    (fun _ _ _ _ _ _ => trivial)
    (fun old new dependents ha => by
      obtain ⟨t, -, heq⟩ := List.mem_map.1 (List.mem_reverse.1 ha)
      cases heq) trivial hrest
  rw [l.tail_eq, List.reverse_append, List.map_append, runAll_append, hlater, Option.bind_some, hcreated]

include hsafe in
/-- **What the tail does to one table can be taken back.** -/
lemma entryAll_tail_undo (hm : Migratable current target r) (k : String)
    {e : Option (CatalogTable α)}
    (h : entryAll v (Catalog.of v (r.applyAll current.tables) k)
      (l.tail.filter fun a => folded a.table == k) = some e) :
    entryAll v e ((l.tail.filter fun a => folded a.table == k).reverse.map (·.undo))
      = some (Catalog.of v (r.applyAll current.tables) k) := by
  by_cases hk : ∃ u ∈ target.tables, folded u.name = k
  · obtain ⟨u, hu, rfl⟩ := hk
    rw [l.tail_at hm hu, tailOf, changesOf] at h ⊢
    have hremovals := l.removals_eq_nil hsafe hu
    cases hf : r.fate current u with
    | created =>
        simp only [hf] at h ⊢
        refine entryAll_undo (fun a ha e e' he => ?_) h
        obtain rfl : a = .createTable u := by simpa [Fate.newIndexes] using ha
        exact entry_undo_createTable u he
    | rebuilt old =>
        obtain ⟨t, hs, rfl, -⟩ := Renames.fate_eq_rebuilt_iff.1 hf
        simp only [hf] at h ⊢
        rw [Renames.of_applyAll_of_source hm.fits hm.apart hu hs] at h ⊢
        obtain rfl := Option.some.inj h
        rfl
    | inPlace old =>
        rw [hf] at hremovals
        simp only [hf] at h ⊢
        refine entryAll_undo (fun a ha e e' he => ?_) h
        have hnone : TableChange.columnsMissingFrom old u = [] := hremovals
        simp only [hnone, List.map_nil, List.append_nil, List.mem_append, List.mem_map] at ha
        rcases ha with ⟨c, -, rfl⟩ | ⟨i, -, rfl⟩
        · exact entry_undo_addColumn u.name c he
        · exact congrArg some (Option.some.inj he).symm
  · push Not at hk
    have hnil : l.tail.filter (fun a => folded a.table == k) = [] := by
      rw [l.tail_elsewhere hm.target_valid hk, l.dropped_eq_nil hsafe]
      rfl
    rw [hnil] at h ⊢
    obtain rfl := Option.some.inj h
    rfl

include hsafe in
/-- **The tail of a migration and its opposite cancel on tables.** -/
theorem tables_tail_undo (hm : Migratable current target r) {db₁ db₂ db₃ : Database}
    (howned : db₁.Owned) (hstart : db₁.tables = Catalog.of defined (r.applyAll current.tables))
    (hup : db₁.execAll (l.tail.flatMap (·.up)) = some db₂)
    (hdown : db₂.execAll (l.tail.reverse.flatMap (·.down)) = some db₃) : db₃.tables = db₁.tables := by
  obtain ⟨hrun, hsettled⟩ := l.runAll_tail hsafe hm howned hstart hup
  have hback := l.runAll_tail_undo hsafe hm (howned.execAll hup) hsettled hdown
  have hforth := (Migration.runAll_iff fun a ha => (l.local_of_mem_tail ha).1).1 hrun
  have hundone := (Migration.runAll_iff fun a ha => by
    obtain ⟨b, hb, rfl⟩ := List.mem_map.1 ha
    exact (l.local_of_mem_tail (List.mem_reverse.1 hb)).2).1 hback
  funext k
  have hentry := hundone k
  rw [l.filter_undo fun a ha => ha] at hentry
  have hforth := hforth k
  rw [hstart] at hforth ⊢
  rw [l.entryAll_tail_undo hsafe hm k hforth] at hentry
  exact (Option.some.inj hentry).symm

/-! ## The renames -/

/-- In a database that holds a valid schema nothing dangles. -/
lemma resolved_holding (hcurrent : current.Valid) : (Database.holding current).tables.Resolved := by
  have hentry := fun k e => Catalog.of_eq_some_iff (v := defined) (k := k) (e := e) current.distinct
  have hhas : ∀ (t : Table) (x : String), t.hasColumn x = true →
      (defined.table t).hasColumn (folded x) = true := fun t x hx => by
    rw [View.hasColumn_table, hx]
  refine ⟨fun k e he x hx g hg => ?_, fun k e he κ hκ x hx => ?_⟩
  · obtain ⟨t, ht, -, rfl⟩ := (hentry k e).1 he
    obtain ⟨col, hcol, rfl⟩ := List.mem_map.1 hx
    obtain ⟨f, hf, rfl⟩ := List.mem_map.1 hg
    obtain ⟨w, hw, hname, hcolumn⟩ := hcurrent.foreign t ht col hcol f (by simpa using hf)
    exact ⟨_, (hentry _ _).2 ⟨w, hw, folded_eq_iff.2 hname, rfl⟩, hhas w _ hcolumn⟩
  · obtain ⟨t, ht, -, rfl⟩ := (hentry k e).1 he
    obtain ⟨κ', hκ', rfl⟩ := List.mem_map.1 hκ
    rw [TableConstraint.columns_mapColumns] at hx
    obtain ⟨y, hy, rfl⟩ := List.mem_map.1 hx
    exact hhas t y ((hcurrent.tables t ht).constrained κ' hκ' y hy)

include hsafe in
/-- **The renames and their opposites cancel on tables.** -/
theorem tables_renames_undo (hcurrent : current.Valid) {db₁ db₃ db₄ : Database}
    (hup : (Database.holding current).execAll (l.head.flatMap (·.up)) = some db₁)
    (howned : db₃.Owned) (hsame : db₃.tables = db₁.tables)
    (hdown : db₃.execAll (l.head.reverse.flatMap (·.down)) = some db₄) :
    db₄.tables = (Database.holding current).tables := by
  have hshape : ∀ a ∈ l.head, (∃ old new, a = .renameTable old new) ∨
      ∃ table old new, a = .renameColumn table old new := by
    intro a ha
    rw [l.head_eq_renames hsafe, renames, List.mem_append, List.mem_map, List.mem_map] at ha
    rcases ha with ⟨p, -, rfl⟩ | ⟨c, -, rfl⟩
    · exact Or.inl ⟨_, _, rfl⟩
    · exact Or.inr ⟨_, _, _, rfl⟩
  obtain ⟨hforth, -⟩ := Database.tables_execAll_up (I := fun _ => True)
    (Database.holding_owned hcurrent) (fun a => l.keepsName_of_mem_head) (fun _ _ _ _ _ _ => trivial)
    (fun old new dependents ha => by
      rcases hshape _ ha with ⟨_, _, h⟩ | ⟨_, _, _, h⟩ <;> cases h) trivial hup
  obtain ⟨hback, -⟩ := Database.tables_execAll_down (I := fun _ => True) howned
    (fun a ha => by
      rcases hshape a (List.mem_reverse.1 ha) with ⟨_, _, rfl⟩ | ⟨_, _, _, rfl⟩ <;> rfl)
    (fun a ha => l.keepsName_of_mem_head (List.mem_reverse.1 ha)) (fun _ _ _ _ _ _ => trivial)
    (fun old new dependents ha => by
      rcases hshape _ (List.mem_reverse.1 ha) with ⟨_, _, h⟩ | ⟨_, _, _, h⟩ <;> cases h) trivial hdown
  have hundone := runAll_undo (I := Catalog.Resolved) (fun a ha c d hc hrun => by
    rcases hshape a ha with ⟨old, new, rfl⟩ | ⟨table, old, new, rfl⟩
    · exact ⟨hc.renameTable hrun, Catalog.renameTable_back hc hrun⟩
    · exact ⟨hc.renameColumn hrun, Catalog.renameColumn_back hc hrun⟩)
    (resolved_holding hcurrent) hforth
  rw [hsame, hundone] at hback
  exact (Option.some.inj hback).symm

end Layout

end Migration

end SchemaCompiler

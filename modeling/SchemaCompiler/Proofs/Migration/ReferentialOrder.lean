import SchemaCompiler.Proofs.Migration.Soundness
import SchemaCompiler.Proofs.Migration.TableUndo
import SchemaCompiler.Proofs.Schema.Ordering

/-!
# A migration respects foreign keys

While a migration runs, a table is created when every other table that it refers to is there already, and
a table is dropped when no other table refers to it any more.  Two orders of dependency meet here: tables
are created in that of the new schema and dropped against that of the old one, and in between the tables
that stay are changed.

Both halves come down to one question: to which names do the foreign keys of the tables refer that are
there at some point?  A table of the old schema refers to renamed tables of the old schema, itself and
those that it depends on (`refersTo_renamed_dependency`), a table of the new schema to tables of the new one
(`refersTo_dependency`).  When the first table is dropped, every table is of the second kind or is waiting
to be dropped itself (`Layout.run_of_dropped`), and of those that wait none depends on the one whose turn it
is.  While tables are created, or while their creation is taken back, every table is an old one or one that
was created before.

* `Catalog.HasTargets`, `Catalog.Unreferenced` — what a creation and a drop ask for.
* `Layout.Ordered` — the order of the tables that are created and of those that are dropped.
* **`compileDiff_respects_references`** — the theorem.
-/

namespace SchemaCompiler

open Text (sameName folded folded_eq_iff folded_ne_iff)

variable {α : Type} {v : View α}

namespace Catalog

/-- Every other table that a declared table refers to is there. -/
def HasTargets (c : Catalog α) (t : Table) : Prop :=
  ∀ p ∈ t.foreignKeys, sameName p.2.table t.name = false → (c (folded p.2.table)).isSome = true

/-- No other table refers to the table with a name. -/
def Unreferenced (c : Catalog α) (name : String) : Prop :=
  ∀ k e, c k = some e → k ≠ folded name → e.RefersTo fun x => x ≠ folded name

end Catalog

/-! ## To what a declared table refers -/

/-- A foreign key of a valid schema ends at the table itself or at one that it depends on. -/
lemma Schema.Valid.dependsOn {s : Schema} (hv : s.Valid) {t : Table} (ht : t ∈ s.tables)
    {p : Column × ForeignKey} (hp : p ∈ t.foreignKeys) :
    ∃ w ∈ s.tables, sameName w.name p.2.table = true ∧ (w = t ∨ s.DependsOn t w) := by
  obtain ⟨col, hcol, hmap⟩ := List.mem_filterMap.1 hp
  obtain ⟨k, hk, rfl⟩ := Option.map_eq_some_iff.1 hmap
  obtain ⟨w, hw, hname, -⟩ := hv.foreign t ht col hcol k hk
  refine ⟨w, hw, hname, or_iff_not_imp_left.2 fun hne => ⟨ht, hw, hne, (col, k), hp, ?_⟩⟩
  exact (Text.toLowercase_eq_of_sameName hname).symm

/-- The foreign keys in the columns of a declared table. -/
lemma mem_foreignKeys {t : Table} {col : Column} (hcol : col ∈ t.columns) {k : ForeignKey}
    (hk : k ∈ col.references.toList) : (col, k) ∈ t.foreignKeys :=
  List.mem_filterMap.2 ⟨col, hcol, by
    rw [Option.mem_toList.1 hk]
    rfl⟩

/-- A table refers to itself and to the tables that it depends on. -/
lemma refersTo_dependency {s : Schema} (hv : s.Valid) {t : Table} (ht : t ∈ s.tables) :
    (v.table t).RefersTo fun x => ∃ w ∈ s.tables, (w = t ∨ s.DependsOn t w) ∧ folded w.name = x := by
  intro x hx g hg
  obtain ⟨col, hcol, rfl⟩ := List.mem_map.1 hx
  obtain ⟨k, hk, rfl⟩ := List.mem_map.1 hg
  obtain ⟨w, hw, hname, hdep⟩ := hv.dependsOn ht (mem_foreignKeys hcol hk)
  exact ⟨w, hw, hdep, folded_eq_iff.2 hname⟩

/-- A renamed table refers to the new names of these tables. -/
lemma refersTo_renamed_dependency {s : Schema} (hv : s.Valid) {t : Table} (ht : t ∈ s.tables) (r : Renames)
    (new : String) : (v.table (r.apply t new)).RefersTo fun x =>
      ∃ w ∈ s.tables, (w = t ∨ s.DependsOn t w) ∧ folded (r.newTable w.name) = x := by
  rw [View.table_apply]
  intro x hx g hg
  obtain ⟨col, hcol, rfl⟩ := List.mem_map.1 hx
  obtain ⟨k, hk, rfl⟩ := List.mem_map.1 hg
  obtain ⟨w, hw, hname, hdep⟩ := hv.dependsOn ht (mem_foreignKeys hcol hk)
  exact ⟨w, hw, hdep, r.folded_newTable_congr hname⟩

lemma CatalogTable.RefersTo.imp {t : CatalogTable α} {p q : String → Prop} (h : t.RefersTo p)
    (hpq : ∀ x, p x → q x) : t.RefersTo q :=
  fun x hx g hg => hpq _ (h x hx g hg)

/-- Tables with the same columns refer to the same tables. -/
lemma CatalogTable.Agrees.refersTo {t s : CatalogTable α} (h : t.Agrees s) {p : String → Prop}
    (hs : s.RefersTo p) : t.RefersTo p :=
  fun x hx g hg => hs x (h.columns.mem_iff.1 hx) g hg

namespace Migration

/-! ## Ranks follow dependencies -/

lemma rank_lt_of_dependsOn {s : Schema} (hlower : s.LowercaseDistinct) {order : List Table}
    (horder : s.dependencyOrder = .ok order) {t u : Table} (h : s.DependsOn t u) :
    rank order u.name < rank order t.name := by
  have hdep := Schema.isDependencyOrder_of_dependencyOrder hlower horder
  obtain ⟨before, after, rfl⟩ := List.append_of_mem (hdep.perm.mem_iff.2 h.1)
  have hu : u ∈ before := hdep.follows before t after rfl u h
  have hdistinct : DistinctNames (before ++ t :: after) :=
    (List.Perm.pairwise_iff (fun h => by rwa [Text.sameName_comm]) hdep.perm).2 s.distinct
  have hnone : before.findIdx (fun w => sameName w.name t.name) = before.length :=
    List.findIdx_eq_length.2 fun w hw =>
      (List.pairwise_append.1 hdistinct).2.2 w hw t List.mem_cons_self
  have hsome : before.findIdx (fun w => sameName w.name u.name) < before.length :=
    List.findIdx_lt_length_of_exists ⟨u, hu, Text.sameName_refl u.name⟩
  simp only [rank, List.findIdx_append, hnone, if_pos hsome, lt_irrefl, if_false]
  omega

variable {current target : Schema} {hints : RenameHints} {r : Renames} {allow : Bool} {version : Nat}
  {name : String} {m : Migration}

namespace Layout

/-- No table is created before one that it depends on, and none is dropped before one that depends on
it. -/
structure Ordered (l : Layout current target r) : Prop where
  created : l.created.Pairwise fun a b => ¬ target.DependsOn a b
  dropped : l.dropped.Pairwise fun a b => ¬ current.DependsOn b a

/-! ## Up to the drops -/

variable {l : Layout current target r}

/-- An old table whose place nobody takes is dropped under its own name. -/
lemma mem_dropped_of_elsewhere (hm : Migratable current target r) (hlower : current.LowercaseDistinct)
    {k : String} (hk : ∀ u ∈ target.tables, folded u.name ≠ k) {t : Table} (ht : t ∈ current.tables)
    (htk : folded (r.newTable t.name) = k) : t ∈ l.dropped ∧ folded t.name = k := by
  have hnone : ∀ u ∈ target.tables, r.source current u ≠ some t := fun u hu hs =>
    hk u hu ((folded_eq_iff.2 (Renames.newTable_of_source hm.fits hm.apart hu hs)).symm.trans htk)
  refine ⟨(l.mem_dropped t).2 ⟨ht, fun u hu s hs hst => ?_⟩, ?_⟩
  · exact not_overlooked hlower t ⟨ht, hnone, u, hu, s, hs, hst⟩
  · rw [← htk, (Renames.name_of_no_source hm.fits hm.apart ht hnone).1]

/-- One name when some tables are dropped: what was settled for a table of the new schema, or an old table
that is still to be dropped. -/
lemma exists_entry_of_dropped (hm : Migratable current target r) (hlower : current.LowercaseDistinct)
    (hcolumns : ColumnsApart (r.inOrder target).columns) {first rest : List Table}
    (hsplit : l.dropped = first ++ rest) (k : String) :
    ∃ e, entryAll declared (Catalog.of declared (r.applyAll current.tables) k)
        ((l.settling ++ first.map Action.dropTable).filter fun a => folded a.table == k) = some e ∧
      ∀ e', e = some e' → (∃ u ∈ target.tables, folded u.name = k ∧ e'.Agrees (declared.table u)) ∨
        ∃ t ∈ rest, folded t.name = k ∧ declared.table (r.apply t (r.newTable t.name)) = e' := by
  have hfirst : first ⊆ l.dropped := hsplit ▸ List.subset_append_left _ _
  have hpair := l.dropped_distinct.imp folded_ne_iff.2
  rw [hsplit, List.pairwise_append] at hpair
  rw [List.filter_append, filter_drops]
  by_cases hk : ∃ u ∈ target.tables, folded u.name = k
  · obtain ⟨u, hu, rfl⟩ := hk
    have hnil : first.filter (fun t => folded t.name == folded u.name) = [] :=
      List.filter_eq_nil_iff.2 fun t ht htu =>
        l.dropped_name_ne hm.fits hm.apart (hfirst ht) hu (beq_iff_eq.1 htu)
    obtain ⟨e, he, hagrees⟩ := entryAll_changesOf l hm.current_valid hm.target_valid hm.fits hm.apart
      hcolumns hu
    refine ⟨some e, by rw [l.settling_at hu, hnil]; simpa using he, fun e' he' => ?_⟩
    obtain rfl := Option.some.inj he'
    exact Or.inl ⟨u, hu, rfl, hagrees⟩
  · push Not at hk
    rw [l.settling_elsewhere hk, List.nil_append]
    by_cases ht : ∃ t ∈ first, folded t.name = k
    · obtain ⟨t, ht, rfl⟩ := ht
      obtain ⟨hmem, hnone⟩ := l.no_source_of_dropped (hfirst ht)
      have hself := (Renames.name_of_no_source hm.fits hm.apart hmem hnone).1
      have hthere := (Renames.of_applyAll_eq_some_iff (v := declared) current.distinct
        hm.fits.tablesFit hm.apart).2 ⟨t, hmem, by rw [hself], rfl⟩
      rw [filter_key_of_mem (fun t : Table => folded t.name) hpair.1 ht, hthere]
      exact ⟨none, rfl, by simp⟩
    · push Not at ht
      rw [List.filter_eq_nil_iff.2 fun t hmem htk => ht t hmem (beq_iff_eq.1 htk)]
      refine ⟨_, rfl, fun e he => Or.inr ?_⟩
      obtain ⟨t, hmem, htk, hte⟩ := (Renames.of_applyAll_eq_some_iff current.distinct
        hm.fits.tablesFit hm.apart).1 he
      obtain ⟨hdropped, hname⟩ := mem_dropped_of_elsewhere (l := l) hm hlower hk hmem htk
      rw [hsplit, List.mem_append] at hdropped
      exact ⟨t, hdropped.resolve_left fun h => ht t h hname, hname, hte⟩

/-- **The database when some tables are dropped.**  The tables of the new schema are there, and apart from
them only the tables that are still to be dropped. -/
theorem run_of_dropped (hm : Migratable current target r) (hlower : current.LowercaseDistinct)
    (hcolumns : ColumnsApart (r.inOrder target).columns) {first rest : List Table}
    (hsplit : l.dropped = first ++ rest) :
    ∃ d, runAll declared (Catalog.of declared current.tables)
        (l.head ++ l.settling ++ first.map .dropTable) = some d ∧
      ∀ k e, d k = some e → (∃ u ∈ target.tables, folded u.name = k ∧ e.Agrees (declared.table u)) ∨
        ∃ t ∈ rest, folded t.name = k ∧ declared.table (r.apply t (r.newTable t.name)) = e := by
  choose d hrun hd using exists_entry_of_dropped hm hlower hcolumns hsplit
  refine ⟨d, ?_, hd⟩
  rw [List.append_assoc, runAll_append, (l.runAll_head_iff hm.fits).2 ⟨hm.apart, hcolumns, rfl⟩,
    Option.bind_some]
  refine (Migration.runAll_iff fun a ha => ?_).2 hrun
  refine l.local_of_mem_changes ?_
  rw [changes_eq, hsplit, List.map_append, ← List.append_assoc]
  exact List.mem_append_left _ ha

/-- **Nothing refers to a table that is dropped.** -/
theorem unreferenced_of_dropped (hm : Migratable current target r) (hlower : current.LowercaseDistinct)
    (hcolumns : ColumnsApart (r.inOrder target).columns) (hordered : l.Ordered)
    {first rest : List Table} {t : Table} (hsplit : l.dropped = first ++ t :: rest) :
    ∃ d, runAll declared (Catalog.of declared current.tables)
      (l.head ++ l.settling ++ first.map .dropTable) = some d ∧ d.Unreferenced t.name := by
  obtain ⟨d, hrun, hd⟩ := run_of_dropped hm hlower hcolumns hsplit
  have ht : t ∈ l.dropped := by simp [hsplit]
  obtain ⟨hmem, hnone⟩ := l.no_source_of_dropped ht
  have hself := (Renames.name_of_no_source hm.fits hm.apart hmem hnone).1
  refine ⟨d, hrun, fun k e he hk => ?_⟩
  rcases hd k e he with ⟨u, hu, -, hagrees⟩ | ⟨s, hs, hsk, rfl⟩
  · refine hagrees.refersTo ((refersTo_dependency hm.target_valid hu).imp fun x hx => ?_)
    obtain ⟨w, hw, -, rfl⟩ := hx
    exact (l.dropped_name_ne hm.fits hm.apart ht hw).symm
  · have hsmem : s ∈ rest := (List.mem_cons.1 hs).resolve_left fun h => hk (h ▸ hsk.symm)
    have hsdropped : s ∈ l.dropped := by simp [hsplit, hsmem]
    refine (refersTo_renamed_dependency hm.current_valid (l.no_source_of_dropped hsdropped).1 r _).imp
      fun x hx heq => ?_
    obtain ⟨w, hw, hdep, rfl⟩ := hx
    rw [← hself] at heq
    have hwt : w = t := DistinctNames.eq_of_sameName current.distinct hw hmem
      (Renames.sameName_of_newTable hm.fits.tablesFit hm.apart hw hmem (folded_eq_iff.1 heq))
    rcases hdep with hws | hdep
    · exact hk (by rw [← hsk, ← hws, hwt])
    · have hpair := hordered.dropped
      rw [hsplit, List.pairwise_append, List.pairwise_cons] at hpair
      exact hpair.2.1.1 s hsmem (hwt ▸ hdep)

/-! ## While tables are created -/

/-- The database when some tables are created holds the renamed old tables and these. -/
lemma entry_of_creations {tables : List Table} {c d : Catalog α}
    (h : runAll v c (tables.map .createTable) = some d) {k : String} {e : CatalogTable α}
    (he : d k = some e) : c k = some e ∨ ∃ t ∈ tables, folded t.name = k ∧ v.table t = e := by
  induction tables generalizing c with
  | nil => exact Or.inl (Option.some.inj h ▸ he)
  | cons t rest ih =>
      rw [List.map_cons, runAll_cons, Option.bind_eq_some_iff] at h
      obtain ⟨mid, hmid, hrest⟩ := h
      obtain ⟨-, rfl⟩ := Catalog.create_eq_some_iff.1 hmid
      rcases ih hrest with hold | ⟨s, hs, hsk, hse⟩
      · by_cases hkt : k = folded t.name
        · rw [hkt, Function.update_self, Option.some.injEq] at hold
          exact Or.inr ⟨t, List.mem_cons_self, hkt.symm, hold⟩
        · rw [Function.update_of_ne hkt] at hold
          exact Or.inl hold
      · exact Or.inr ⟨s, List.mem_cons_of_mem _ hs, hsk, hse⟩

/-- The run of a migration up to some point in the creation of tables. -/
lemma run_of_created (hm : Migratable current target r) (hlower : current.LowercaseDistinct)
    (hcolumns : ColumnsApart (r.inOrder target).columns) {first rest : List Table}
    (hsplit : l.created = first ++ rest) :
    ∃ c d, runAll declared (Catalog.of declared current.tables) (l.head ++ first.map .createTable)
        = some c ∧
      runAll declared (Catalog.of declared (r.applyAll current.tables)) (first.map .createTable)
        = some c ∧
      runAll declared c (rest.map .createTable ++ l.later) = some d ∧
      runAll declared (Catalog.of declared current.tables) l.actions = some d := by
  obtain ⟨d, hrun, -⟩ := run_of_dropped hm hlower hcolumns (List.append_nil l.dropped).symm
  have hhead := (l.runAll_head_iff (v := declared) hm.fits).2 ⟨hm.apart, hcolumns, rfl⟩
  have hall : runAll declared (Catalog.of declared current.tables) l.actions = some d := by
    rw [l.actions_eq, tail, changes_eq, ← List.append_assoc, ← List.append_assoc, runAll_append, hrun,
      Option.bind_some, runAll_createIndexes]
  have hstages : l.actions =
      l.head ++ (first.map .createTable ++ (rest.map .createTable ++ l.later)) := by
    rw [l.actions_eq, l.tail_eq, hsplit, List.map_append, List.append_assoc]
  have hsteps := hall
  rw [hstages, runAll_append, hhead, Option.bind_some, runAll_append, Option.bind_eq_some_iff] at hsteps
  obtain ⟨c, hc, hd⟩ := hsteps
  refine ⟨c, d, ?_, hc, hd, hall⟩
  rw [runAll_append, hhead, Option.bind_some, hc]

/-- **Everything that a table refers to is there when it is created.** -/
theorem hasTargets_of_created (hm : Migratable current target r) (hordered : l.Ordered)
    {first rest : List Table} {t : Table} (hsplit : l.created = first ++ t :: rest) {c : Catalog α}
    (hc : runAll v (Catalog.of v (r.applyAll current.tables)) (first.map .createTable) = some c) :
    c.HasTargets t := by
  have ht : t ∈ target.tables := (l.mem_created.1 (by simp [hsplit])).1
  intro p hp hother
  obtain ⟨w, hw, hname, hdep⟩ := hm.target_valid.dependsOn ht hp
  have hdep : target.DependsOn t w := hdep.resolve_left fun h => by
    rw [Text.sameName_comm, ← h, hname] at hother
    exact absurd hother (by decide)
  rw [← folded_eq_iff.2 hname]
  refine isSome_of_creations hc ?_
  cases hs : r.source current w with
  | some s => exact Or.inl (by rw [Renames.of_applyAll_of_source hm.fits hm.apart hw hs]; rfl)
  | none =>
      have hcreated : w ∈ l.created := l.mem_created.2 ⟨hw, hs⟩
      have hpair := hordered.created
      rw [hsplit, List.mem_append, List.mem_cons] at hcreated
      rw [hsplit, List.pairwise_append, List.pairwise_cons] at hpair
      rcases hcreated with hfirst | rfl | hrest
      · exact Or.inr ⟨w, hfirst, rfl⟩
      · exact absurd rfl hdep.2.2.1
      · exact absurd hdep (hpair.2.1.1 w hrest)

/-- **Nothing refers to a table that has just been created.** -/
theorem unreferenced_of_created (hm : Migratable current target r) (hordered : l.Ordered)
    {first rest : List Table} {t : Table} (hsplit : l.created = first ++ t :: rest) {c : Catalog α}
    (hc : runAll v (Catalog.of v (r.applyAll current.tables)) ((first ++ [t]).map .createTable)
      = some c) : c.Unreferenced t.name := by
  obtain ⟨ht, hnone⟩ := l.mem_created.1 (show t ∈ l.created by simp [hsplit])
  intro k e he hk
  rcases entry_of_creations hc he with hold | ⟨s, hs, hsk, rfl⟩
  · obtain ⟨s, hs, -, rfl⟩ := (Renames.of_applyAll_eq_some_iff current.distinct hm.fits.tablesFit
      hm.apart).1 hold
    refine (refersTo_renamed_dependency hm.current_valid hs r _).imp fun x hx => ?_
    obtain ⟨w, hw, -, rfl⟩ := hx
    exact Renames.newTable_ne_of_no_source hm.fits hm.apart ht hnone w hw
  · have hsfirst : s ∈ first := (List.mem_append.1 hs).resolve_right fun h =>
      hk (by rw [← hsk, List.mem_singleton.1 h])
    have hsmem : s ∈ target.tables := (l.mem_created.1 (show s ∈ l.created by simp [hsplit, hsfirst])).1
    refine (refersTo_dependency hm.target_valid hsmem).imp fun x hx heq => ?_
    obtain ⟨w, hw, hdep, rfl⟩ := hx
    obtain rfl := DistinctNames.eq_of_folded target.distinct hw ht heq
    rcases hdep with rfl | hdep
    · exact hk hsk.symm
    · have hpair := hordered.created
      rw [hsplit, List.pairwise_append] at hpair
      exact hpair.2.2 s hsfirst w List.mem_cons_self hdep

/-- **Taking back what follows some of the creations** leads back to the database after these. -/
theorem runAll_undo_later (hm : Migratable current target r)
    (hsafe : ∀ a ∈ l.actions, a.isDestructive = false) {first rest : List Table}
    (hsplit : l.created = first ++ rest) {c d : Catalog α}
    (hc : runAll v (Catalog.of v (r.applyAll current.tables)) (first.map .createTable) = some c)
    (hd : runAll v c (rest.map .createTable ++ l.later) = some d) :
    runAll v d ((rest.map Action.createTable ++ l.later).reverse.map (·.undo)) = some c := by
  have htail : l.tail = first.map .createTable ++ (rest.map .createTable ++ l.later) := by
    rw [l.tail_eq, hsplit, List.map_append, List.append_assoc]
  have hmem : ∀ a ∈ rest.map .createTable ++ l.later, a ∈ l.tail := fun a ha => by
    rw [htail]
    exact List.mem_append_right _ ha
  have hforth := (Migration.runAll_iff fun a ha => (l.local_of_mem_tail (hmem a ha)).1).1 hd
  have hcreated := (Migration.runAll_iff fun a ha =>
    (l.local_of_mem_tail (htail ▸ List.mem_append_left _ ha)).1).1 hc
  refine (Migration.runAll_iff fun a ha => ?_).2 fun k => ?_
  · obtain ⟨b, hb, rfl⟩ := List.mem_map.1 ha
    exact (l.local_of_mem_tail (hmem b (List.mem_reverse.1 hb))).2
  · rw [l.filter_undo hmem]
    have hparts : l.tail.filter (fun a => folded a.table == k) =
        (first.map Action.createTable).filter (fun a => folded a.table == k) ++
          (rest.map Action.createTable ++ l.later).filter (fun a => folded a.table == k) := by
      rw [htail, List.filter_append]
    cases hk : (first.map Action.createTable).filter (fun a => folded a.table == k) with
    | nil =>
        -- nothing was created here yet, so all that happens to the table is taken back
        have hsame := hcreated k
        rw [hk] at hsame hparts
        rw [List.nil_append] at hparts
        rw [← Option.some.inj hsame]
        have hentry := hforth k
        rw [← Option.some.inj hsame, ← hparts] at hentry
        rw [← hparts]
        exact l.entryAll_tail_undo hsafe hm k hentry
    | cons a others =>
        obtain ⟨ha, hak⟩ := List.mem_filter.1 (show a ∈ (first.map Action.createTable).filter
          (fun a => folded a.table == k) by simp [hk])
        obtain ⟨u, hu, rfl⟩ := List.mem_map.1 ha
        obtain ⟨hutarget, hsource⟩ := l.mem_created.1 (show u ∈ l.created by simp [hsplit, hu])
        obtain rfl : folded u.name = k := beq_iff_eq.1 hak
        have hone : l.tail.filter (fun a => folded a.table == folded u.name) = [.createTable u] := by
          rw [l.tail_at hm hutarget, tailOf, changesOf, Renames.fate_eq_created_iff.2 hsource]
          rfl
        have hnil : (rest.map Action.createTable ++ l.later).filter
            (fun a => folded a.table == folded u.name) = [] := by
          rw [hone, hk] at hparts
          simp only [List.cons_append, List.cons.injEq, List.nil_eq, List.append_eq_nil_iff] at hparts
          exact hparts.2.2
        have hentry := hforth (folded u.name)
        rw [hnil] at hentry ⊢
        rw [Option.some.inj hentry]
        rfl

/-! ## Where the creations and the drops stand -/

/-- An element of a list that comes from the middle part. -/
lemma split_of_middle {β γ : Type} {front back before after : List β} {middle : List γ} {f : γ → β}
    {b : β} (h : front ++ middle.map f ++ back = before ++ b :: after) (hfront : b ∉ front)
    (hback : b ∉ back) :
    ∃ (first : List γ) (x : γ) (rest : List γ), middle = first ++ x :: rest ∧ f x = b ∧
      before = front ++ first.map f ∧ after = rest.map f ++ back := by
  obtain ⟨p, q, hmiddle, rfl, rfl⟩ := split_middle h hfront hback
  obtain ⟨first, others, rfl, rfl, hothers⟩ := List.map_eq_append_iff.1 hmiddle
  obtain ⟨x, rest, rfl, rfl, rfl⟩ := List.map_eq_cons_iff.1 hothers
  exact ⟨first, x, rest, rfl, rfl, rfl, rfl⟩

/-- Tables are created between the renames and the later actions. -/
lemma split_at_creation {before after : List Action} {t : Table}
    (h : l.actions = before ++ Action.createTable t :: after) : ∃ first rest,
      l.created = first ++ t :: rest ∧ before = l.head ++ first.map .createTable ∧
        after = rest.map .createTable ++ l.later := by
  rw [l.actions_eq, l.tail_eq, ← List.append_assoc] at h
  obtain ⟨first, x, rest, hcreated, hx, hbefore, hafter⟩ := split_of_middle h
    (fun ha => l.not_plain_of_mem_head ha trivial) (by simp [later])
  obtain rfl := Action.createTable.inj hx
  exact ⟨first, rest, hcreated, hbefore, hafter⟩

/-- Tables are dropped when everything is settled. -/
lemma split_at_drop {before after : List Action} {t : Table}
    (h : l.actions = before ++ Action.dropTable t :: after) : ∃ first rest,
      l.dropped = first ++ t :: rest ∧ before = l.head ++ l.settling ++ first.map .dropTable := by
  rw [l.actions_eq, tail, changes_eq, ← List.append_assoc, ← List.append_assoc] at h
  obtain ⟨first, x, rest, hdropped, hx, hbefore, -⟩ := split_of_middle h (fun ha => by
      rcases List.mem_append.1 ha with ha | ha
      · exact l.not_plain_of_mem_head ha trivial
      · simp [settling] at ha)
    (by simp)
  obtain rfl := Action.dropTable.inj hx
  exact ⟨first, rest, hdropped, hbefore⟩

end Layout

/-! ## The theorem -/

/-- **A migration respects foreign keys.**  A table is created when every other table that it refers to is
there, and a table is dropped when no other table refers to it.  If nothing is destructive, the down section
takes the actions back in reverse, and the tables that were created are dropped when no other table refers
to them. -/
theorem compileDiff_respects_references (hcurrent : current.errors = [])
    (hlower : current.LowercaseDistinct) (hlower' : target.LowercaseDistinct)
    (htables : TablesApart hints.tables) (hcolumns : ColumnsApart hints.columns)
    (h : compileDiff allow current target hints version name = .ok m) :
    (∀ before t after, m.actions = before ++ Action.createTable t :: after →
        ∃ c, runAll declared (Catalog.of declared current.tables) before = some c ∧ c.HasTargets t) ∧
      (∀ before t after, m.actions = before ++ Action.dropTable t :: after →
        ∃ c, runAll declared (Catalog.of declared current.tables) before = some c ∧
          c.Unreferenced t.name) ∧
      (m.isDestructive = false →
        (∀ a ∈ m.actions, a.down = a.undo.up ∨ ∃ i, a = .createIndex i ∧ a.down = [i.dropStatement]) ∧
          ∃ d, runAll declared (Catalog.of declared current.tables) m.actions = some d ∧
            ∀ before t after, m.actions = before ++ Action.createTable t :: after →
              ∃ c, runAll declared d (after.reverse.map (·.undo)) = some c ∧
                c.Unreferenced t.name) := by
  obtain ⟨currentOrder, targetOrder, horder, horder', l, hactions, hcreated, hdropped⟩ :=
    ordered_layout_of_compileDiff h
  have hm : Migratable current target (Renames.resolve current target hints) :=
    ⟨Schema.valid_of_errors hcurrent, Schema.valid_of_errors (layout_of_compileDiff h).1,
      Renames.resolve_fits current target hints, Renames.apart_resolve htables⟩
  have hcolumns' : ColumnsApart ((Renames.resolve current target hints).inOrder target).columns :=
    Renames.columnsApart_inOrder (Renames.columnsApart_resolve hcolumns)
  have hordered : l.Ordered :=
    { created := hcreated.imp fun hle hdep => absurd (rank_lt_of_dependsOn hlower' horder' hdep)
        (not_lt.2 hle)
      dropped := hdropped.imp fun hle hdep => absurd (rank_lt_of_dependsOn hlower horder hdep)
        (not_lt.2 hle) }
  rw [Migration.isDestructive, hactions]
  refine ⟨fun before t after hsplit => ?_, fun before t after hsplit => ?_, fun hany => ?_⟩
  · obtain ⟨first, rest, hfirst, rfl, -⟩ := Layout.split_at_creation hsplit
    obtain ⟨c, d, hrun, hc, -, -⟩ := Layout.run_of_created hm hlower hcolumns' hfirst
    exact ⟨c, hrun, Layout.hasTargets_of_created hm hordered hfirst hc⟩
  · obtain ⟨first, rest, hfirst, rfl⟩ := Layout.split_at_drop hsplit
    exact Layout.unreferenced_of_dropped hm hlower hcolumns' hordered hfirst
  · have hsafe : ∀ a ∈ l.actions, a.isDestructive = false := by simpa using hany
    refine ⟨fun a ha => Action.down_eq (hsafe a ha), ?_⟩
    obtain ⟨-, d, -, -, -, hd⟩ :=
      Layout.run_of_created hm hlower hcolumns' (List.nil_append l.created).symm
    refine ⟨d, hd, fun before t after hsplit => ?_⟩
    obtain ⟨first, rest, hfirst, -, rfl⟩ := Layout.split_at_creation hsplit
    have hfirst' : l.created = (first ++ [t]) ++ rest := by simp [hfirst]
    obtain ⟨c, d', -, hc, hlater, hd'⟩ := Layout.run_of_created hm hlower hcolumns' hfirst'
    rw [hd, Option.some.injEq] at hd'
    subst hd'
    exact ⟨c, Layout.runAll_undo_later hm hsafe hfirst' hc hlater,
      Layout.unreferenced_of_created hm hordered hfirst hc⟩

/-- Orders of people. -/
def orderTable : Table where
  name := "orders"
  columns := [(Column.ofType "id" .integer).asPrimaryKey,
    (Column.ofType "person" .integer).referring "people" "id"]

/-- Loans of books to readers. -/
def loanTable : Table where
  name := "loans"
  columns := [(Column.ofType "id" .integer).asPrimaryKey,
    (Column.ofType "book" .integer).referring "books" "id",
    (Column.ofType "reader" .integer).referring "Readers" "id"]

/-- A shop. -/
def shopSchema : Schema where
  tables := [{ name := "people", columns := [(Column.ofType "id" .integer).asPrimaryKey] }, orderTable]
  relationships := []
  distinct := by decide +kernel

/-- The shop as a library. -/
def readingSchema : Schema where
  tables := [{ name := "readers", columns := [(Column.ofType "id" .integer).asPrimaryKey] },
    { name := "books", columns := [(Column.ofType "id" .integer).asPrimaryKey] }, loanTable]
  relationships := []
  distinct := by decide +kernel

/-- The people become readers. -/
def readerHints : RenameHints where
  tables := [("people", "readers")]
  columns := []

/-- The loans are created when the books and the renamed people are there, and the orders are dropped. -/
theorem readingSchema_respects_references : ∃ m,
    compileDiff true shopSchema readingSchema readerHints 1 "readers" = .ok m ∧
      (∃ before after c, m.actions = before ++ Action.createTable loanTable :: after ∧
        runAll declared (Catalog.of declared shopSchema.tables) before = some c ∧
        c.HasTargets loanTable) ∧
      ∃ before after c, m.actions = before ++ Action.dropTable orderTable :: after ∧
        runAll declared (Catalog.of declared shopSchema.tables) before = some c ∧
        c.Unreferenced orderTable.name := by
  obtain ⟨m, hm, hactions⟩ : ∃ m,
      compileDiff true shopSchema readingSchema readerHints 1 "readers" = .ok m ∧
        m.actions = plainActions shopSchema readingSchema readerHints :=
          exists_compileDiff (by decide +kernel)
  obtain ⟨hcreations, hdrops, -⟩ := compileDiff_respects_references (by decide +kernel)
    (by unfold Schema.LowercaseDistinct; decide +kernel)
    (by unfold Schema.LowercaseDistinct; decide +kernel) (by decide +kernel) (by decide +kernel) hm
  obtain ⟨hloans, horders⟩ :
      Action.createTable loanTable ∈ m.actions ∧ Action.dropTable orderTable ∈ m.actions := by
    rw [hactions]
    decide +kernel
  obtain ⟨before, after, hloans⟩ := List.append_of_mem hloans
  obtain ⟨before', after', horders⟩ := List.append_of_mem horders
  obtain ⟨c, hc, hthere⟩ := hcreations before loanTable after hloans
  obtain ⟨c', hc', hnone⟩ := hdrops before' orderTable after' horders
  exact ⟨m, hm, ⟨before, after, c, hloans, hc, hthere⟩, before', after', c', horders, hc', hnone⟩

end Migration

end SchemaCompiler

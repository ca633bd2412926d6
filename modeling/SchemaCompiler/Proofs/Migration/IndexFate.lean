import SchemaCompiler.Proofs.Migration.IndexRun

/-!
# The fate of an index name

One index name, followed through a migration.  It is taken by one index before the tail of the migration,
or free (`Layout.before`), and the tail has one action at most that brings it and one that takes it.  What
the name stands for in the end is then a matter of cases.

* `NamesFree` — no action creates an index under a name that a later action frees.
* `Layout.before_eq_some_iff` — what a name stands for before the tail.
* `Layout.after_of_free` — a name that is free belongs to the new index.
* `Layout.after_of_taken` — so does a name whose index goes away, if names are free in time.
* `Layout.after_of_late` — if they are not, the name is free in the end.
* `Layout.after_of_untaken` — an index whose table stays keeps its name.
-/

namespace SchemaCompiler.Migration

open Text (sameName folded folded_eq_iff folded_ne_iff)
open TableChange (needsRebuild)

/-! ## Names that are free in time -/

/-- The indexes that an action creates. -/
def Action.broughtIndexes : Action → List Index
  | .createTable t | .alterTable _ t _ => t.indexes
  | .createIndex i => [i]
  | .dropTable _ | .renameTable _ _ | .addColumn _ _ | .dropColumn _ _ | .renameColumn _ _ _
  | .dropIndex _ => []

/-- The indexes that go away with a table that an action removes or replaces. -/
def Action.takenIndexes : Action → List Index
  | .dropTable t | .alterTable t _ _ => t.indexes
  | .createTable _ | .renameTable _ _ | .addColumn _ _ | .dropColumn _ _ | .renameColumn _ _ _
  | .createIndex _ | .dropIndex _ => []

/-- No action creates an index under a name that is freed only by a later action. -/
def NamesFree (actions : List Action) : Prop :=
  actions.Pairwise fun a b => ∀ i ∈ a.broughtIndexes, ∀ j ∈ b.takenIndexes,
    sameName i.name j.name = false

instance : DecidablePred NamesFree := fun actions => inferInstanceAs (Decidable (actions.Pairwise _))

variable {current target : Schema} {r : Renames} {t u : Table} {i : Index} {k : String}

/-! ## An index name before the tail -/

/-- An index is dropped by itself: its table is changed in place and the new table does not have it. -/
def DropsIndex (current target : Schema) (r : Renames) (t : Table) (i : Index) : Prop :=
  ∃ u ∈ target.tables, r.source current u = some t ∧ needsRebuild (r.apply t u.name) u = false ∧
    r.applyToIndex t.name u.name i ∉ u.indexes

lemma indexAfterAll_dropIndexes (k : String) (x : Option CatalogIndex) (is : List Index) :
    indexAfterAll k x (is.map .dropIndex) = if ∃ i ∈ is, folded i.name = k then none else x := by
  induction is generalizing x with
  | nil => simp [indexAfterAll]
  | cons i rest ih =>
      rw [List.map_cons, indexAfterAll_cons, ih]
      by_cases hi : folded i.name = k <;> by_cases hrest : ∃ j ∈ rest, folded j.name = k <;>
        simp [Action.indexAfter, hi, hrest]

/-- A table takes the place of one old table at most, and no two tables that of one. -/
lemma source_injective (hfits : r.Fits current target) (hapart : TablesApart r.tables) {w : Table}
    (hu : u ∈ target.tables) (hw : w ∈ target.tables) (hut : r.source current u = some t)
    (hwt : r.source current w = some t) : u = w := by
  have h1 := Renames.newTable_of_source hfits hapart hu hut
  have h2 := Renames.newTable_of_source hfits hapart hw hwt
  exact DistinctNames.eq_of_sameName target.distinct hu hw
    (Text.sameName_trans (Text.sameName_symm h1) h2)

/-- The compiler's form of an index that stays and the form that the database has of it. -/
lemma heldIndex_eq_iff (hm : Migratable current target r) (hu : u ∈ target.tables)
    (hs : r.source current u = some t) (hi : i ∈ t.indexes) :
    r.heldIndex (r.newTable t.name) i = (r.applyToIndex t.name u.name i).held ↔
      r.LeavesExpressions u.name i := by
  have howned := (hm.current_valid.tables t (Renames.mem_of_source hs).1).owned i hi
  rw [r.heldIndex_congr (Renames.newTable_of_source hm.fits hm.apart hu hs), eq_comm,
    Renames.held_applyToIndex_iff r howned]

namespace Layout

variable (l : Layout current target r)

/-- An index name after the drops of indexes and the renames. -/
def before (k : String) : Option CatalogIndex :=
  indexAfterAll k ((Database.holding current).indexes k) l.head

lemma before_of_absent (h : ∀ t ∈ current.tables, ∀ i ∈ t.indexes, folded i.name ≠ k) :
    l.before k = none := by
  rw [before, head, Database.holding_indexes_eq_none_iff.2 h, indexAfterAll_append,
    indexAfterAll_dropIndexes, ite_self]
  exact foldl_renames_none k _ _

/-- The indexes that are dropped by themselves, found by one name. -/
lemma exists_gone_iff (hm : Migratable current target r) (ht : t ∈ current.tables) (hi : i ∈ t.indexes) :
    (∃ j ∈ target.tables.flatMap fun u => (r.fate current u).goneIndexes u,
      folded j.name = folded i.name) ↔ DropsIndex current target r t i := by
  constructor
  · rintro ⟨j, hj, hname⟩
    obtain ⟨u, hu, hj⟩ := List.mem_flatMap.1 hj
    obtain ⟨s, hs, hkept, ⟨i', hi', rfl⟩, hnot⟩ := (mem_goneIndexes (hm.target_valid.tables u hu)).1 hj
    obtain ⟨rfl, rfl⟩ := hm.current_valid.index_unique (Renames.mem_of_source hs).1 ht hi' hi
      (folded_eq_iff.1 hname)
    exact ⟨u, hu, hs, hkept, hnot⟩
  · rintro ⟨u, hu, hs, hkept, hnot⟩
    exact ⟨r.applyToIndex t.name u.name i, List.mem_flatMap.2 ⟨u, hu,
      (mem_goneIndexes (hm.target_valid.tables u hu)).2 ⟨t, hs, hkept, ⟨i, hi, rfl⟩, hnot⟩⟩, rfl⟩

lemma before_of_dropped (hm : Migratable current target r) (ht : t ∈ current.tables) (hi : i ∈ t.indexes)
    (h : DropsIndex current target r t i) : l.before (folded i.name) = none := by
  rw [before, head, indexAfterAll_append, indexAfterAll_dropIndexes,
    if_pos ((exists_gone_iff hm ht hi).2 h)]
  exact foldl_renames_none _ _ _

/-- An index that is not dropped by itself is carried along by the renames. -/
lemma before_of_kept (hm : Migratable current target r) (ht : t ∈ current.tables) (hi : i ∈ t.indexes)
    (h : ¬ DropsIndex current target r t i) :
    l.before (folded i.name) = some (r.heldIndex (r.newTable t.name) i) := by
  have hheld := (Database.holding_indexes_eq_some_iff hm.current_valid).2 ⟨t, ht, i, hi, rfl, rfl⟩
  rw [before, head, hheld, indexAfterAll_append, indexAfterAll_dropIndexes,
    if_neg fun hgone => h ((exists_gone_iff hm ht hi).1 hgone)]
  exact l.foldl_renames hm.fits hm.apart _ ((hm.current_valid.tables t ht).owned i hi)

/-- **What a name stands for before the tail**: an old index that is not dropped by itself, as the renames
have left it. -/
lemma before_eq_some_iff (hm : Migratable current target r) {x : CatalogIndex} : l.before k = some x ↔
    ∃ t ∈ current.tables, ∃ i ∈ t.indexes, folded i.name = k ∧ ¬ DropsIndex current target r t i ∧
      x = r.heldIndex (r.newTable t.name) i := by
  constructor
  · intro hx
    obtain ⟨t, ht, i, hi, rfl⟩ : ∃ t ∈ current.tables, ∃ i ∈ t.indexes, folded i.name = k := by
      by_contra habsent
      push Not at habsent
      rw [l.before_of_absent habsent] at hx
      cases hx
    have hstays : ¬ DropsIndex current target r t i := fun hdrops => by
      rw [l.before_of_dropped hm ht hi hdrops] at hx
      cases hx
    rw [l.before_of_kept hm ht hi hstays] at hx
    exact ⟨t, ht, i, hi, rfl, hstays, (Option.some.inj hx).symm⟩
  · rintro ⟨t, ht, i, hi, rfl, hstays, rfl⟩
    exact l.before_of_kept hm ht hi hstays

/-! ## An index name after the tail -/

/-- An index of a table changed in place is created by itself, unless an old index that stays has its
form. -/
lemma mem_newIndexes_of_before (hm : Migratable current target r) (hu : u ∈ target.tables) {j : Index}
    (hj : j ∈ u.indexes) (hs : r.source current u = some t)
    (hkept : needsRebuild (r.apply t u.name) u = false)
    (hnot : ∀ i ∈ t.indexes, r.applyToIndex t.name u.name i = j →
      l.before (folded j.name) ≠ some (r.heldIndex (r.newTable t.name) i)) :
    j ∈ (r.fate current u).newIndexes u := by
  refine (mem_newIndexes hm.current_valid).2 ⟨t, hs, hkept, hj, fun i hi heq => hnot i hi heq ?_⟩
  have hname : folded j.name = folded i.name := by rw [← heq]; rfl
  rw [hname]
  refine l.before_of_kept hm (Renames.mem_of_source hs).1 hi ?_
  rintro ⟨w, hw, hws, -, hnotin⟩
  rw [source_injective hm.fits hm.apart hw hu hws hs, heq] at hnotin
  exact hnotin hj

/-- The index that the only action of its name brings. -/
lemma bringer_spec (hm : Migratable current target r) (hu : u ∈ target.tables) {j : Index}
    (hj : j ∈ u.indexes)
    (hnew : ∀ old, r.fate current u = .inPlace old → j ∈ (r.fate current u).newIndexes u) :
    ∃ a, l.bringer u j = [a] ∧ a.brings (folded j.name) = some j.held ∧ j ∈ a.broughtIndexes ∧
      ∀ b ∈ l.tail, b.takes j.held.owner = true → b = a := by
  have howner : j.held.owner = folded u.name := congrArg folded ((hm.target_valid.tables u hu).owned j hj)
  have hat := Table.indexAt_of_mem (hm.target_valid.tables u hu).indexes hj
  have htakes := l.filter_takes hm hu
  rw [← howner] at htakes
  have hmem : ∀ b ∈ l.tail, b.takes j.held.owner = true →
      b ∈ l.tail.filter (·.takes j.held.owner) := fun b hb h => List.mem_filter.2 ⟨hb, h⟩
  rw [bringer]
  cases hf : r.fate current u with
  | created =>
      refine ⟨_, rfl, hat, hj, fun b hb h => ?_⟩
      have := hmem b hb h
      simp [htakes, hf] at this
  | rebuilt old =>
      refine ⟨_, rfl, hat, hj, fun b hb h => ?_⟩
      have := hmem b hb h
      simpa [htakes, hf] using this
  | inPlace old =>
      have hin := hnew old hf
      rw [hf] at hin
      refine ⟨.createIndex j, if_pos hin, if_pos rfl, List.mem_singleton_self _, fun b hb h => ?_⟩
      have := hmem b hb h
      simp [htakes, hf] at this

/-- **A name that is free before the tail belongs to the new index after it.** -/
lemma after_of_free (hm : Migratable current target r) (hbefore : l.before k = none) :
    indexAfterAll k none l.tail = (Database.holding target).indexes k := by
  have hplain : ∀ a ∈ l.tail, a.Plain := fun a ha => l.plain_of_mem_tail ha
  by_cases hk : ∃ u ∈ target.tables, ∃ j ∈ u.indexes, folded j.name = k
  · obtain ⟨u, hu, j, hj, rfl⟩ := hk
    obtain ⟨a, ha, hbrings, -, honly⟩ := l.bringer_spec hm hu hj fun old hf => by
      obtain ⟨t, hs, rfl, hkept⟩ := Renames.fate_eq_inPlace_iff.1 hf
      exact l.mem_newIndexes_of_before hm hu hj hs hkept fun i _ _ => by
        simp [hbefore]
    rw [(Database.holding_indexes_eq_some_iff hm.target_valid).2 ⟨u, hu, j, hj, rfl, rfl⟩]
    exact indexAfterAll_of_brought hplain
      ((l.filter_brings hm hu hj).trans ha) hbrings honly
  · push Not at hk
    rw [Database.holding_indexes_eq_none_iff.2 hk]
    exact indexAfterAll_of_not_brought hplain fun a ha => l.brings_eq_none hm.target_valid hk ha

/-- An index of the new schema lies on one of its tables. -/
lemma owner_of_holding (htarget : target.Valid) {y : CatalogIndex}
    (hy : (Database.holding target).indexes k = some y) :
    ∃ u ∈ target.tables, y.owner = folded u.name := by
  obtain ⟨u, hu, j, hj, -, rfl⟩ := (Database.holding_indexes_eq_some_iff htarget).1 hy
  exact ⟨u, hu, congrArg folded ((htarget.tables u hu).owned j hj)⟩

/-- A name is free in the end if its index goes away after its only other index was to be created. -/
lemma after_of_late {x : CatalogIndex} {a b a' b' : Action}
    (hbrings : l.tail.filter (fun a => (a.brings k).isSome) = [a'])
    (htakes : l.tail.filter (·.takes x.owner) = [b']) (hab : [a, b].Sublist l.tail)
    (ha : (a.brings k).isSome = true) (hb : b.takes x.owner = true) :
    indexAfterAll k (some x) l.tail = none := by
  have hplain : ∀ a ∈ l.tail, a.Plain := fun a ha => l.plain_of_mem_tail ha
  obtain ⟨r₁, r₂, htail, har, hbr⟩ := List.cons_sublist_iff.1 hab
  rw [List.singleton_sublist] at hbr
  rw [htail] at hbrings htakes hplain ⊢
  have htaken : r₁.filter (·.takes x.owner) = [] := by
    have hmem : b ∈ r₂.filter (·.takes x.owner) := List.mem_filter.2 ⟨hbr, hb⟩
    rw [List.filter_append] at htakes
    rcases List.append_eq_singleton_iff.1 htakes with ⟨h, -⟩ | ⟨-, h⟩
    · exact h
    · simp [h] at hmem
  have hbrought : r₂.filter (fun a => (a.brings k).isSome) = [] := by
    have hmem : a ∈ r₁.filter (fun a => (a.brings k).isSome) := List.mem_filter.2 ⟨har, ha⟩
    rw [List.filter_append] at hbrings
    rcases List.append_eq_singleton_iff.1 hbrings with ⟨h, -⟩ | ⟨-, h⟩
    · simp [h] at hmem
    · exact h
  rw [indexAfterAll_append, indexAfterAll_of_not_taken (fun a ha => hplain a (by simp [ha]))
    fun a ha => by simpa using List.filter_eq_nil_iff.1 htaken a ha]
  exact indexAfterAll_of_taken (fun a ha => hplain a (by simp [ha]))
    (fun a ha => by simpa using List.filter_eq_nil_iff.1 hbrought a ha) ⟨b, hbr, hb⟩

/-- **A name whose index goes away belongs to the new index in the end,** if that one is not created too
early. -/
lemma after_of_taken (hm : Migratable current target r) {x : CatalogIndex} (hbefore : l.before k = some x)
    (hfree : NamesFree l.tail) {b : Action} (hb : l.tail.filter (·.takes x.owner) = [b])
    (htaken : ∃ j ∈ b.takenIndexes, folded j.name = k) :
    indexAfterAll k (some x) l.tail = (Database.holding target).indexes k := by
  have hplain : ∀ a ∈ l.tail, a.Plain := fun a ha => l.plain_of_mem_tail ha
  obtain ⟨p, q, htail, hp, hbx, -⟩ := List.filter_eq_cons_iff.1 hb
  have hrest : ∀ a ∈ b :: q, a ∈ l.tail := fun a ha => by
    rw [htail]
    exact List.mem_append_right p ha
  have hstep : indexAfterAll k (some x) l.tail = indexAfterAll k none (b :: q) := by
    rw [htail] at hplain ⊢
    exact indexAfterAll_of_taken_by hplain (fun a ha => by simpa using hp a ha) hbx
  rw [hstep]
  by_cases hk : ∃ u ∈ target.tables, ∃ j ∈ u.indexes, folded j.name = k
  · obtain ⟨u, hu, j, hj, rfl⟩ := hk
    have hnew : ∀ old, r.fate current u = .inPlace old → j ∈ (r.fate current u).newIndexes u := by
      intro old hf
      obtain ⟨t, hs, rfl, hkept⟩ := Renames.fate_eq_inPlace_iff.1 hf
      refine l.mem_newIndexes_of_before hm hu hj hs hkept fun i _ _ hsome => ?_
      rw [hbefore, Option.some.injEq] at hsome
      have howner : x.owner = folded u.name := by
        rw [hsome]
        exact folded_eq_iff.2 (Renames.newTable_of_source hm.fits hm.apart hu hs)
      rw [howner, l.filter_takes hm hu, hf] at hb
      exact absurd hb (by simp)
    obtain ⟨a, ha, hbrings, hbrought, honly⟩ := l.bringer_spec hm hu hj hnew
    have hfilter := (l.filter_brings hm hu hj).trans ha
    have hap : a ∉ p := by
      intro hap
      rw [htail] at hfree
      obtain ⟨j', hj', hname⟩ := htaken
      have := (List.pairwise_append.1 hfree).2.2 a hap b (by simp) j hbrought j' hj'
      exact folded_ne_iff.2 this hname.symm
    have hpnil : p.filter (fun a => (a.brings (folded j.name)).isSome) = [] := by
      refine List.filter_eq_nil_iff.2 fun c hc hsome => hap ?_
      have hmem : c ∈ l.tail.filter (fun a => (a.brings (folded j.name)).isSome) :=
        List.mem_filter.2 ⟨by rw [htail]; simp [hc], hsome⟩
      rw [hfilter, List.mem_singleton] at hmem
      exact hmem ▸ hc
    rw [htail, List.filter_append, hpnil, List.nil_append] at hfilter
    rw [(Database.holding_indexes_eq_some_iff hm.target_valid).2 ⟨u, hu, j, hj, rfl, rfl⟩]
    exact indexAfterAll_of_brought (fun c hc => hplain c (hrest c hc)) hfilter hbrings
      fun c hc hct => honly c (hrest c hc) hct
  · push Not at hk
    rw [Database.holding_indexes_eq_none_iff.2 hk]
    exact indexAfterAll_of_not_brought (fun a ha => hplain a (hrest a ha))
      fun a ha => l.brings_eq_none hm.target_valid hk (hrest a ha)

/-! ## The four lots of an old table -/

/-- An old table is kept, dropped, or overlooked. -/
lemma lot_of_table (ht : t ∈ current.tables) :
    (∃ u ∈ target.tables, r.source current u = some t) ∨ t ∈ l.dropped ∨
      Overlooked current target r t := by
  by_cases hs : ∃ u ∈ target.tables, r.source current u = some t
  · exact Or.inl hs
  · push Not at hs
    by_cases hd : t ∈ l.dropped
    · exact Or.inr (Or.inl hd)
    · refine Or.inr (Or.inr ⟨ht, hs, ?_⟩)
      have := (l.mem_dropped t).not.1 hd
      push Not at this
      exact this ht

/-- What takes the indexes of a table whose place nobody takes. -/
lemma filter_takes_of_no_source (hm : Migratable current target r) (ht : t ∈ current.tables)
    (hs : ∀ u ∈ target.tables, r.source current u ≠ some t) :
    l.tail.filter (·.takes (folded (r.newTable t.name)))
      = (l.dropped.filter fun s => folded s.name == folded t.name).map .dropTable := by
  obtain ⟨hself, hnone⟩ := Renames.name_of_no_source hm.fits hm.apart ht hs
  rw [hself]
  exact l.filter_takes_elsewhere hm.target_valid fun u hu heq =>
    folded_ne_iff.2 (hnone u hu) heq.symm

lemma filter_takes_of_dropped (hm : Migratable current target r) (ht : t ∈ l.dropped) :
    l.tail.filter (·.takes (folded (r.newTable t.name))) = [.dropTable t] := by
  obtain ⟨hmem, hs⟩ := l.no_source_of_dropped ht
  rw [l.filter_takes_of_no_source hm hmem hs,
    filter_key_of_mem (fun t : Table => folded t.name)
      (l.dropped_distinct.imp folded_ne_iff.2) ht]
  rfl

lemma filter_takes_of_overlooked (hm : Migratable current target r) (ht : Overlooked current target r t) :
    l.tail.filter (·.takes (folded (r.newTable t.name))) = [] := by
  obtain ⟨hmem, hs, u, hu, s, hsource, hlower⟩ := ht
  rw [l.filter_takes_of_no_source hm hmem hs, List.map_eq_nil_iff,
    List.filter_eq_nil_iff]
  intro d hd hname
  obtain ⟨hdmem, hdnone⟩ := (l.mem_dropped d).1 hd
  rw [DistinctNames.eq_of_folded current.distinct hdmem hmem (beq_iff_eq.1 hname)] at hdnone
  exact hdnone u hu s hsource hlower

lemma filter_takes_of_source (hm : Migratable current target r) (hu : u ∈ target.tables)
    (hs : r.source current u = some t) :
    l.tail.filter (·.takes (folded (r.newTable t.name))) =
      if needsRebuild (r.apply t u.name) u then
        [.alterTable (r.apply t u.name) u (l.dependents ⟨r.apply t u.name, u⟩)] else [] := by
  rw [folded_eq_iff.2 (Renames.newTable_of_source hm.fits hm.apart hu hs),
    l.filter_takes hm hu, Renames.fate, hs]
  dsimp only
  split_ifs <;> rfl

/-- What alone takes the indexes of a table takes them. -/
lemma takes_of_filter {b : Action} {o : String} (h : l.tail.filter (·.takes o) = [b]) : b.takes o = true := by
  have hb : b ∈ l.tail.filter (·.takes o) := h ▸ List.mem_singleton_self b
  exact (List.mem_filter.1 hb).2

/-- **What is left of an index that nothing takes.** -/
lemma after_of_untaken (hm : Migratable current target r) (ht : t ∈ current.tables) (hi : i ∈ t.indexes)
    (hdrops : ¬ DropsIndex current target r t i)
    (htakes : l.tail.filter (·.takes (folded (r.newTable t.name))) = []) :
    indexAfterAll (folded i.name) (l.before (folded i.name)) l.tail
      = some (r.heldIndex (r.newTable t.name) i) := by
  rw [l.before_of_kept hm ht hi hdrops]
  exact indexAfterAll_of_not_taken (fun a ha => l.plain_of_mem_tail ha) fun a ha => by
    simpa [Renames.heldIndex] using List.filter_eq_nil_iff.1 htakes a ha

/-- An index of a table that is not changed in place is not dropped by itself. -/
lemma not_dropsIndex_of_no_source (hs : ∀ u ∈ target.tables, r.source current u ≠ some t) :
    ¬ DropsIndex current target r t i := fun ⟨u, hu, hsource, _⟩ => hs u hu hsource

lemma not_dropsIndex_of_source (hm : Migratable current target r) (hu : u ∈ target.tables)
    (hs : r.source current u = some t)
    (h : needsRebuild (r.apply t u.name) u = false → r.applyToIndex t.name u.name i ∈ u.indexes) :
    ¬ DropsIndex current target r t i := by
  rintro ⟨w, hw, hwt, hkept, hnot⟩
  rw [source_injective hm.fits hm.apart hw hu hwt hs] at hkept hnot
  exact hnot (h hkept)

/-- An index that an action of the tail takes is an old index that is still there. -/
lemma exists_of_taken (hm : Migratable current target r) {b : Action} (hb : b ∈ l.tail) {j : Index}
    (hj : j ∈ b.takenIndexes) :
    ∃ t ∈ current.tables, ∃ i ∈ t.indexes, folded i.name = folded j.name ∧
      l.before (folded i.name) = some (r.heldIndex (r.newTable t.name) i) ∧
      l.tail.filter (·.takes (folded (r.newTable t.name))) = [b] := by
  cases l.late_of_mem_tail hb with
  | rebuild hu hf =>
      obtain ⟨t, hs, rfl, hrebuild⟩ := Renames.fate_eq_rebuilt_iff.1 hf
      obtain ⟨i, hi, rfl⟩ := List.mem_map.1 hj
      have ht := (Renames.mem_of_source hs).1
      refine ⟨t, ht, i, hi, rfl, l.before_of_kept hm ht hi
        (not_dropsIndex_of_source hm hu hs fun h => ?_), ?_⟩
      · rw [hrebuild] at h
        exact absurd h (by decide)
      · rw [l.filter_takes_of_source hm hu hs, if_pos hrebuild]
  | drop ht =>
      obtain ⟨hmem, hs⟩ := l.no_source_of_dropped ht
      exact ⟨_, hmem, j, hj, rfl, l.before_of_kept hm hmem hj
        (not_dropsIndex_of_no_source hs), l.filter_takes_of_dropped hm ht⟩
  | create _ _ | add _ _ | remove _ _ | index _ _ => simp [Action.takenIndexes] at hj

/-- An action with an index of a name brings an index of that name. -/
lemma brings_isSome {a : Action} {j : Index} (hj : j ∈ a.broughtIndexes) :
    (a.brings (folded j.name)).isSome = true := by
  have hat : ∀ {t : Table}, j ∈ t.indexes → (t.indexAt (folded j.name)).isSome = true := by
    intro t ht
    rw [Option.isSome_iff_ne_none]
    exact fun hnone => Table.indexAt_eq_none_iff.1 hnone j ht rfl
  cases a with
  | createTable t => exact hat hj
  | alterTable old t dependents => exact hat hj
  | createIndex i =>
      rw [List.mem_singleton.1 hj]
      simp [Action.brings]
  | dropTable _ | renameTable _ _ | addColumn _ _ | dropColumn _ _ | renameColumn _ _ _
  | dropIndex _ => simp [Action.broughtIndexes] at hj

/-- Only the tail has actions that create and take indexes. -/
lemma namesFree_actions_iff : NamesFree l.actions ↔ NamesFree l.tail := by
  have hquiet : ∀ a ∈ l.head, a.broughtIndexes = [] ∧ a.takenIndexes = [] := by
    intro a ha
    rcases l.mem_head ha with ⟨_, rfl⟩ | ⟨_, _, rfl⟩ | ⟨_, _, rfl⟩ <;> exact ⟨rfl, rfl⟩
  rw [l.actions_eq, NamesFree, List.pairwise_append]
  refine ⟨fun h => h.2.1, fun h => ⟨?_, h, fun a ha b _ i hi => ?_⟩⟩
  · exact List.Pairwise.imp_of_mem (R := fun _ _ => True)
      (fun ha _ _ i hi => by simp [(hquiet _ ha).1] at hi) (List.pairwise_of_forall fun _ _ => trivial)
  · simp [(hquiet a ha).1] at hi

/-- An index of the new schema is brought by one action, or by none. -/
lemma filter_brings_singleton (hm : Migratable current target r) {a : Action} (ha : a ∈ l.tail)
    (hsome : (a.brings k).isSome = true) :
    ((Database.holding target).indexes k).isSome = true ∧
      ∃ a', l.tail.filter (fun a => (a.brings k).isSome) = [a'] := by
  obtain ⟨y, hy⟩ := Option.isSome_iff_exists.1 hsome
  obtain ⟨u, hu, j, hj, rfl, -, -⟩ := l.exists_of_brings hm.target_valid ha hy
  have hmem : a ∈ l.tail.filter (fun a => (a.brings (folded j.name)).isSome) :=
    List.mem_filter.2 ⟨ha, hsome⟩
  refine ⟨by rw [(Database.holding_indexes_eq_some_iff hm.target_valid).2 ⟨u, hu, j, hj, rfl, rfl⟩]; rfl,
    ?_⟩
  rw [l.filter_brings hm hu hj] at hmem ⊢
  rw [bringer] at hmem ⊢
  cases hf : r.fate current u with
  | created => exact ⟨_, rfl⟩
  | rebuilt old => exact ⟨_, rfl⟩
  | inPlace old =>
      simp only [hf] at hmem ⊢
      split_ifs at hmem ⊢ with hin
      · exact ⟨_, rfl⟩
      · simp at hmem

end Layout

end SchemaCompiler.Migration

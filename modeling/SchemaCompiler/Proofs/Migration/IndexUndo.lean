import SchemaCompiler.Proofs.Migration.IndexFate
import SchemaCompiler.Proofs.Migration.TableUndo

/-!
# The indexes after a migration is taken back

One index name again, followed through the tail of a migration and back.  Taking the tail back removes what
the tail has brought, so that in the end the name is free or belongs to the index that it belonged to at
first (`indexAfterAll_undo_or_none`), unless a rebuild is taken back that brings an index of its own.

* `Action.Retracts` — taking an action back leaves no index behind that was not there.
* `Layout.around` — an index name after the tail and its opposite.
* `Layout.undo_renames` — an index after the opposite renames.
* `Layout.back` — an index name in the end, with its four cases `Layout.back_of_absent`,
  `Layout.back_of_overlooked`, `Layout.back_of_kept` and `Layout.back_of_rebuilt`.
-/

namespace SchemaCompiler

open Text (sameName folded folded_eq_iff folded_ne_iff)
open TableChange (needsRebuild)

namespace Migration

/-! ## One index name there and back -/

section Retract

variable {k : String} {x : Option CatalogIndex} {as : List Action} {a : Action}

lemma indexAfterAll_of_unchanged (h : ∀ a ∈ as, a.indexAfter k x = x) : indexAfterAll k x as = x := by
  induction as with
  | nil => rfl
  | cons a rest ih =>
      rw [indexAfterAll_cons, h a (by simp), ih fun b hb => h b (by simp [hb])]

/-- A name that is freed for sure, and not taken again, is free. -/
lemma indexAfterAll_of_freed (hnone : ∀ a ∈ as, a.indexAfter k none = none) (ha : a ∈ as)
    (hfreed : ∀ x, a.indexAfter k x = none) : indexAfterAll k x as = none := by
  obtain ⟨pre, post, rfl⟩ := List.append_of_mem ha
  rw [indexAfterAll_append, indexAfterAll_cons, hfreed]
  exact indexAfterAll_of_unchanged fun b hb => hnone b (by simp [hb])

/-- Taking an action back leaves no index of a name behind that was not there before it. -/
structure Action.Retracts (k : String) (a : Action) : Prop where
  none : a.undo.indexAfter k none = none
  brought : ∀ y, a.brings k = some y → a.undo.indexAfter k (some y) = Option.none
  or_none : ∀ x, a.undo.indexAfter k x = x ∨ a.undo.indexAfter k x = Option.none

/-- **There and back, an index stays or goes,** and none comes. -/
lemma indexAfterAll_undo_or_none (hplain : ∀ a ∈ as, a.Plain) (h : ∀ a ∈ as, a.Retracts k)
    (x : Option CatalogIndex) :
    indexAfterAll k x (as ++ as.reverse.map (·.undo)) = x ∨
      indexAfterAll k x (as ++ as.reverse.map (·.undo)) = none := by
  induction as generalizing x with
  | nil => exact Or.inl rfl
  | cons a rest ih =>
      have ha := h a (by simp)
      have hrest := ih (fun b hb => hplain b (by simp [hb])) fun b hb => h b (by simp [hb])
      have hsplit : indexAfterAll k x (a :: rest ++ (a :: rest).reverse.map (·.undo))
          = a.undo.indexAfter k (indexAfterAll k (a.indexAfter k x)
              (rest ++ rest.reverse.map (·.undo))) := by
        rw [List.cons_append, indexAfterAll_cons, List.reverse_cons, List.map_append,
          ← List.append_assoc, indexAfterAll_append]
        rfl
      rw [hsplit]
      rcases hrest (a.indexAfter k x) with hmid | hmid <;> rw [hmid]
      · rw [Action.indexAfter_of_plain (hplain a (by simp))]
        cases hx : x.filter fun i => !a.takes i.owner with
        | some i =>
            rw [(Option.filter_eq_some_iff.1 hx).1, Option.some_or]
            exact ha.or_none _
        | none =>
            rw [Option.none_or]
            cases hy : a.brings k with
            | none => exact Or.inr ha.none
            | some y => exact Or.inr (ha.brought y hy)
      · exact Or.inr ha.none

/-- **There and back over a rebuild,** an index goes and the one that the opposite rebuild brings is there in
the end. -/
lemma indexAfterAll_undo_of_rebuild {p q : List Action} {i j : CatalogIndex}
    (hp : ∀ b ∈ p, b.Plain ∧ b.takes i.owner = false ∧ b.undo.indexAfter k (some j) = some j)
    (ha : a.Plain) (hundo : a.undo.Plain) (htaken : a.takes i.owner = true)
    (hnew : ∀ y, a.brings k = some y → a.undo.takes y.owner = true) (hold : a.undo.brings k = some j)
    (hq : ∀ b ∈ q, b.Plain ∧ b.Retracts k) :
    indexAfterAll k (some i) ((p ++ a :: q) ++ (p ++ a :: q).reverse.map (·.undo)) = some j := by
  have hlist : (p ++ a :: q) ++ (p ++ a :: q).reverse.map (·.undo)
      = p ++ a :: ((q ++ q.reverse.map (·.undo)) ++ a.undo :: p.reverse.map (·.undo)) := by simp
  have hnone : a.undo.indexAfter k none = some j := (Action.indexAfter_none hundo).trans hold
  -- behind the rebuild the name stands for a new index of the table, or for none
  have hmiddle : a.undo.indexAfter k (indexAfterAll k (a.brings k) (q ++ q.reverse.map (·.undo)))
      = some j := by
    rcases indexAfterAll_undo_or_none (fun b hb => (hq b hb).1) (fun b hb => (hq b hb).2)
      (a.brings k) with hstep | hstep <;> rw [hstep]
    · cases hy : a.brings k with
      | none => exact hnone
      | some y => exact (Action.indexAfter_of_taken hundo (hnew y hy)).trans hold
    · exact hnone
  rw [hlist, indexAfterAll_append, indexAfterAll_of_not_taken (fun b hb => (hp b hb).1)
    fun b hb => (hp b hb).2.1, indexAfterAll_cons, Action.indexAfter_of_taken ha htaken,
    indexAfterAll_append, indexAfterAll_cons, hmiddle]
  refine indexAfterAll_of_unchanged fun b hb => ?_
  obtain ⟨c, hc, rfl⟩ := List.mem_map.1 hb
  exact (hp c (List.mem_reverse.1 hc)).2.2

end Retract

/-! ## The opposites of the tail -/

variable {current target : Schema} {r : Renames} {t u : Table} {i : Index} {k : String} {a : Action}

namespace Layout

variable (l : Layout current target r)

/-- An index that comes back when an action of the tail is taken back is an old index of a table that the
action has rebuilt. -/
lemma exists_of_undo_brings (ha : a ∈ l.tail) {y : CatalogIndex} (hy : a.undo.brings k = some y) :
    ∃ u ∈ target.tables, ∃ t, r.source current u = some t ∧
      needsRebuild (r.apply t u.name) u = true ∧ folded a.table = folded u.name ∧
        ∃ i ∈ t.indexes, folded i.name = k := by
  cases l.late_of_mem_tail ha with
  | rebuild hu hf =>
      obtain ⟨t, hs, rfl, hrebuild⟩ := Renames.fate_eq_rebuilt_iff.1 hf
      obtain ⟨j, hj, -⟩ := Option.map_eq_some_iff.1 hy
      have hname : folded j.name = k := by simpa using List.find?_some hj
      obtain ⟨i, hi, rfl⟩ := List.mem_map.1 (List.mem_of_find?_eq_some hj)
      exact ⟨_, hu, t, hs, hrebuild, rfl, i, hi, hname⟩
  | create _ _ | add _ _ | remove _ _ | drop _ | index _ _ => simp [Action.undo, Action.brings] at hy

/-- An old index comes back with the rebuild of its own table only. -/
lemma source_of_undo_brings (hm : Migratable current target r) (ht : t ∈ current.tables) (hi : i ∈ t.indexes)
    (ha : a ∈ l.tail) (hsome : a.undo.brings (folded i.name) ≠ none) :
    ∃ u ∈ target.tables, r.source current u = some t ∧
      needsRebuild (r.apply t u.name) u = true ∧ folded a.table = folded u.name := by
  obtain ⟨y, hy⟩ := Option.ne_none_iff_exists'.1 hsome
  obtain ⟨u, hu, t', hs, hrebuild, htable, j, hj, hji⟩ := l.exists_of_undo_brings ha hy
  obtain ⟨rfl, -⟩ := hm.current_valid.index_unique (Renames.mem_of_source hs).1 ht hj hi
    (folded_eq_iff.1 hji)
  exact ⟨u, hu, hs, hrebuild, htable⟩

/-- The opposite of an action takes the indexes of the table of the action, if of any. -/
lemma table_of_undo_takes (ha : a ∈ l.tail) {o : String} (ho : a.undo.takes o = true) :
    folded a.table = o := by
  cases l.late_of_mem_tail ha with
  | create _ _ => exact (beq_iff_eq.1 ho).symm
  | rebuild _ _ => exact (beq_iff_eq.1 ho).symm
  | drop _ => exact (beq_iff_eq.1 ho).symm
  | add _ _ | remove _ _ | index _ _ => simp [Action.undo, Action.takes] at ho

lemma plain_undo (ha : a ∈ l.tail) (hindex : ∀ j, a ≠ .createIndex j) : a.undo.Plain := by
  cases l.late_of_mem_tail ha with
  | index _ _ => exact absurd rfl (hindex _)
  | create _ _ | add _ _ | rebuild _ _ | remove _ _ | drop _ => trivial

/-- The opposite of an action leaves an index alone that it does not take and that the action has not
created by itself. -/
lemma undo_indexAfter_of_not_taken (ha : a ∈ l.tail) {x : CatalogIndex}
    (htakes : a.undo.takes x.owner = false) (hname : ∀ j, a = .createIndex j → folded j.name ≠ k) :
    a.undo.indexAfter k (some x) = some x := by
  by_cases hindex : ∃ j, a = .createIndex j
  · obtain ⟨j, rfl⟩ := hindex
    exact if_neg (hname j rfl)
  · push Not at hindex
    exact Action.indexAfter_of_not_taken (l.plain_undo ha hindex) htakes

/-- A free name stays free under the opposite of an action that brings nothing back. -/
lemma undo_indexAfter_none (ha : a ∈ l.tail) (hback : a.undo.brings k = none) :
    a.undo.indexAfter k none = none := by
  by_cases hindex : ∃ j, a = .createIndex j
  · obtain ⟨j, rfl⟩ := hindex
    simp [Action.undo, Action.indexAfter]
  · push Not at hindex
    exact (Action.indexAfter_none (l.plain_undo ha hindex)).trans hback

variable (hsafe : ∀ a ∈ l.actions, a.isDestructive = false)

include hsafe in
/-- An action of the tail is retracted, unless an index of a rebuilt table comes back. -/
lemma retracts_of_mem_tail (htarget : target.Valid) (ha : a ∈ l.tail) (hback : a.undo.brings k = none) :
    a.Retracts k := by
  have hfilter : ∀ (x : Option CatalogIndex) (p : CatalogIndex → Bool),
      x.filter p = x ∨ x.filter p = none := by
    intro x p
    cases x with
    | none => exact Or.inl rfl
    | some i => by_cases hp : p i = true <;> simp [hp]
  have hat : ∀ u ∈ target.tables, ∀ y, u.indexAt k = some y → y.owner = folded u.name := by
    intro u hu y hy
    obtain ⟨j, hj, rfl⟩ := Option.map_eq_some_iff.1 hy
    exact congrArg folded ((htarget.tables u hu).owned j (List.mem_of_find?_eq_some hj))
  have hnot : a.isDestructive = false := hsafe a (by rw [l.actions_eq]; simp [ha])
  have hplain : ∀ b : Action, b.Plain → b.brings k = none → ∀ x, b.indexAfter k x
      = x.filter fun i => !b.takes i.owner := fun b hb hnone x => by
    rw [Action.indexAfter_of_plain hb, hnone, Option.or_none]
  cases l.late_of_mem_tail ha with
  | create hu hf =>
      have hstep := hplain (.dropTable _) trivial hback
      refine ⟨hstep none, fun y hy => (hstep _).trans ?_, fun x => ?_⟩
      · simp [Action.takes, hat _ hu y hy]
      · rw [Action.undo, hstep]
        exact hfilter _ _
  | add hu hc =>
      have hstep := hplain (.dropColumn _ _) trivial hback
      exact ⟨hstep none, fun y hy => by simp [Action.brings] at hy,
        fun x => Or.inl ((hstep x).trans (by simp [Action.takes]))⟩
  | rebuild hu hf =>
      have hstep := hplain (.alterTable _ _ _) trivial hback
      refine ⟨hstep none, fun y hy => (hstep _).trans ?_, fun x => ?_⟩
      · simp [Action.takes, hat _ hu y hy]
      · rw [Action.undo, hstep]
        exact hfilter _ _
  | index hu hi =>
      refine ⟨by simp [Action.undo, Action.indexAfter], fun y hy => ?_, fun x => ?_⟩
      · simp only [Action.brings] at hy
        split_ifs at hy with hname
        exact if_pos hname
      · simp only [Action.undo, Action.indexAfter]
        split_ifs
        · exact Or.inr rfl
        · exact Or.inl rfl
  | remove _ _ => exact absurd hnot (by simp [Action.isDestructive])
  | drop _ => exact absurd hnot (by simp [Action.isDestructive])

/-! ## An index name around the tail -/

/-- An index name after the tail and its opposite. -/
def around (k : String) : Option CatalogIndex :=
  indexAfterAll k (l.before k) (l.tail ++ l.tail.reverse.map (·.undo))

include hsafe in
lemma around_or_none (htarget : target.Valid) (hback : ∀ a ∈ l.tail, a.undo.brings k = none) :
    l.around k = l.before k ∨ l.around k = none :=
  indexAfterAll_undo_or_none (fun _ ha => l.plain_of_mem_tail ha)
    (fun a ha => l.retracts_of_mem_tail hsafe htarget ha (hback a ha)) _

/-- **An index that is neither taken nor named like a created one stays;** if one of its name is created by
itself it goes when that one is dropped. -/
lemma around_of_untaken (hback : ∀ a ∈ l.tail, a.undo.brings k = none)
    {x : CatalogIndex} (hbefore : l.before k = some x)
    (htakes : ∀ a ∈ l.tail, a.takes x.owner = false ∧ a.undo.takes x.owner = false) :
    l.around k = some x ↔ ∀ j, Action.createIndex j ∈ l.tail → folded j.name ≠ k := by
  have hforth : indexAfterAll k (some x) l.tail = some x :=
    indexAfterAll_of_not_taken (fun _ ha => l.plain_of_mem_tail ha) fun a ha => (htakes a ha).1
  rw [around, hbefore, indexAfterAll_append, hforth]
  constructor
  · rintro h j hj rfl
    have hmem : .dropIndex j ∈ l.tail.reverse.map (·.undo) :=
      List.mem_map.2 ⟨.createIndex j, List.mem_reverse.2 hj, rfl⟩
    have hgone : indexAfterAll (folded j.name) (some x) (l.tail.reverse.map (·.undo)) = none := by
      refine indexAfterAll_of_freed (fun a ha => ?_) hmem fun x => if_pos rfl
      obtain ⟨b, hb, rfl⟩ := List.mem_map.1 ha
      have hb := List.mem_reverse.1 hb
      exact l.undo_indexAfter_none hb (hback b hb)
    rw [hgone] at h
    exact absurd h (by simp)
  · intro h
    refine indexAfterAll_of_unchanged fun a ha => ?_
    obtain ⟨b, hb, rfl⟩ := List.mem_map.1 ha
    have hb := List.mem_reverse.1 hb
    exact l.undo_indexAfter_of_not_taken hb (htakes b hb).2 fun j hj => h j (hj ▸ hb)

/-- The actions before and behind the rebuild of a table are about other tables, and those before it
create no index by itself. -/
lemma tail_split (hm : Migratable current target r) (hu : u ∈ target.tables) {old : Table}
    (hf : r.fate current u = .rebuilt old) :
    ∃ p q : List Action, l.tail = p ++ Action.alterTable old u (l.dependents ⟨old, u⟩) :: q ∧
      (∀ a ∈ p, folded a.table ≠ folded u.name ∧ ∀ j, a ≠ .createIndex j) ∧
      ∀ a ∈ q, folded a.table ≠ folded u.name := by
  have hchanges := l.changes_at hm.fits hm.apart hu
  have htail := l.tail_at hm hu
  simp only [tailOf, changesOf, hf, Fate.newIndexes, List.map_nil, List.append_nil] at hchanges htail
  obtain ⟨p, q, hsplit, hp, -, -⟩ := List.filter_eq_cons_iff.1 hchanges
  have hptable : ∀ a ∈ p, folded a.table ≠ folded u.name := fun a ha => by simpa using hp a ha
  have hpnil : p.filter (fun a => folded a.table == folded u.name) = [] :=
    List.filter_eq_nil_iff.2 fun a ha => by simpa using hptable a ha
  refine ⟨p, q ++ (target.tables.flatMap fun u => (r.fate current u).newIndexes u).map .createIndex,
    by rw [tail, hsplit, List.append_assoc, List.cons_append], fun a ha => ⟨hptable a ha, ?_⟩, ?_⟩
  · rintro j rfl
    have hmem : Action.createIndex j ∈ l.changes := by rw [hsplit]; simp [ha]
    simp [changes] at hmem
  · rw [tail, hsplit, List.append_assoc, List.filter_append, hpnil, List.nil_append, List.cons_append,
      List.filter_cons_of_pos (by simp [Action.table]), List.cons.injEq] at htail
    exact fun a ha => by simpa using List.filter_eq_nil_iff.1 htail.2 a ha

include hsafe in
/-- **An index of a table that is rebuilt comes back as the compiler has renamed it.** -/
lemma around_of_rebuilt (hm : Migratable current target r) (hu : u ∈ target.tables)
    (hs : r.source current u = some t) (hrebuild : needsRebuild (r.apply t u.name) u = true)
    (hi : i ∈ t.indexes) :
    l.around (folded i.name) = some (r.applyToIndex t.name u.name i).held := by
  have ht := (Renames.mem_of_source hs).1
  have hbefore := l.before_of_kept hm ht hi
    (not_dropsIndex_of_source hm hu hs fun h => by rw [hrebuild] at h; exact absurd h (by decide))
  have hfate : r.fate current u = .rebuilt (r.apply t u.name) :=
    Renames.fate_eq_rebuilt_iff.2 ⟨t, hs, rfl, hrebuild⟩
  have hname := folded_eq_iff.2 (Renames.newTable_of_source hm.fits hm.apart hu hs)
  obtain ⟨p, q, htail, hp, hq⟩ := l.tail_split hm hu hfate
  have hmem : ∀ a, a ∈ p ∨ a ∈ q → a ∈ l.tail := fun a ha => by
    rw [htail]
    rcases ha with ha | ha <;> simp [ha]
  have hback : ∀ a ∈ l.tail, folded a.table ≠ folded u.name → a.undo.brings (folded i.name) = none := by
    intro a ha hne
    by_contra hsome
    obtain ⟨w, hw, hs', -, htable⟩ := l.source_of_undo_brings hm ht hi ha hsome
    rw [source_injective hm.fits hm.apart hw hu hs' hs] at htable
    exact hne htable
  have htakes : ∀ {x : CatalogIndex}, x.owner = folded u.name → ∀ a ∈ p,
      a.takes x.owner = false ∧ a.undo.takes x.owner = false := by
    intro x hx a ha
    refine ⟨?_, ?_⟩ <;> by_contra h <;> rw [Bool.not_eq_false, hx] at h
    · exact (hp a ha).1 (l.table_of_takes (hmem a (Or.inl ha)) h)
    · exact (hp a ha).1 (l.table_of_undo_takes (hmem a (Or.inl ha)) h)
  have howner : (r.applyToIndex t.name u.name i).held.owner = folded u.name := by
    simp [Index.held, Renames.applyToIndex, (hm.current_valid.tables t ht).owned i hi]
  have hgoes : (Action.alterTable (r.apply t u.name) u (l.dependents ⟨r.apply t u.name, u⟩)).takes
      (r.heldIndex (r.newTable t.name) i).owner = true := beq_iff_eq.2 hname
  have hreturns : (r.apply t u.name).indexAt (folded i.name)
      = some (r.applyToIndex t.name u.name i).held :=
    Table.indexAt_of_mem (i := r.applyToIndex t.name u.name i)
      (pairwise_indexes_apply (hm.current_valid.tables t ht) r u.name) (List.mem_map_of_mem hi)
  rw [around, hbefore, htail]
  refine indexAfterAll_undo_of_rebuild (fun a ha => ?_) trivial trivial hgoes (fun y hy => ?_) hreturns
    fun a ha => ?_
  · have ha' := hmem a (Or.inl ha)
    exact ⟨l.plain_of_mem_tail ha', (htakes (x := r.heldIndex (r.newTable t.name) i) hname a ha).1,
      l.undo_indexAfter_of_not_taken ha' (htakes howner a ha).2 fun j hj => absurd hj ((hp a ha).2 j)⟩
  · obtain ⟨j, hj, rfl⟩ := Option.map_eq_some_iff.1 hy
    exact beq_iff_eq.2 (congrArg folded
      ((hm.target_valid.tables u hu).owned j (List.mem_of_find?_eq_some hj)))
  · have ha' := hmem a (Or.inr ha)
    exact ⟨l.plain_of_mem_tail ha',
      l.retracts_of_mem_tail hsafe hm.target_valid ha' (hback a ha' (hq a ha))⟩

include hsafe in
/-- Nothing takes the indexes of a table that is overlooked, there or back. -/
lemma untaken_of_overlooked (hm : Migratable current target r) (ht : Overlooked current target r t)
    (ha : a ∈ l.tail) : a.takes (folded (r.newTable t.name)) = false ∧
      a.undo.takes (folded (r.newTable t.name)) = false := by
  obtain ⟨hself, hnone⟩ := Renames.name_of_no_source hm.fits hm.apart ht.1 ht.2.1
  have htable : folded a.table ≠ folded t.name := by
    intro h
    have hmem : a ∈ l.tail.filter (fun a => folded a.table == folded t.name) :=
      List.mem_filter.2 ⟨ha, beq_iff_eq.2 h⟩
    rw [l.tail_elsewhere hm.target_valid fun u hu heq => folded_ne_iff.2 (hnone u hu) heq.symm,
      l.dropped_eq_nil hsafe] at hmem
    cases hmem
  rw [hself]
  refine ⟨?_, ?_⟩ <;> by_contra h <;> rw [Bool.not_eq_false] at h
  · exact htable (l.table_of_takes ha h)
  · exact htable (l.table_of_undo_takes ha h)

/-- Nothing takes the indexes of a table that is changed in place, there or back. -/
lemma untaken_of_inPlace (hm : Migratable current target r) (hu : u ∈ target.tables) {old : Table}
    (hf : r.fate current u = .inPlace old) (ha : a ∈ l.tail) :
    a.takes (folded u.name) = false ∧ a.undo.takes (folded u.name) = false := by
  have hshape : folded a.table = folded u.name →
      a.takes (folded u.name) = false ∧ a.undo.takes (folded u.name) = false := by
    intro h
    have hmem : a ∈ l.tail.filter (fun a => folded a.table == folded u.name) :=
      List.mem_filter.2 ⟨ha, beq_iff_eq.2 h⟩
    rw [l.tail_at hm hu, tailOf, changesOf, hf] at hmem
    simp only [List.mem_append, List.mem_map] at hmem
    rcases hmem with (⟨c, -, rfl⟩ | ⟨c, -, rfl⟩) | ⟨j, -, rfl⟩ <;> exact ⟨rfl, rfl⟩
  refine ⟨?_, ?_⟩ <;> by_contra h <;> rw [Bool.not_eq_false] at h
  · exact absurd (hshape (l.table_of_takes ha h)).1 (by simp [h])
  · exact absurd (hshape (l.table_of_undo_takes ha h)).2 (by simp [h])

/-- An index comes back with the rebuild of its own table only. -/
lemma undo_brings_eq_none (hm : Migratable current target r) (ht : t ∈ current.tables)
    (hi : i ∈ t.indexes) (hkept : ∀ u ∈ target.tables, r.source current u = some t →
      needsRebuild (r.apply t u.name) u = false) (ha : a ∈ l.tail) :
    a.undo.brings (folded i.name) = none := by
  by_contra hsome
  obtain ⟨w, hw, hs, hrebuild, -⟩ := l.source_of_undo_brings hm ht hi ha hsome
  rw [hkept w hw hs] at hrebuild
  exact absurd hrebuild (by decide)

end Layout

/-! ## An index after the opposite renames -/

section RenamesBack

variable {tables : List Table} {L : List (String × String)} {Q : List ColumnRename}

/-- A table name comes back under the opposite renames. -/
lemma foldl_replaced_tables_back (hfit : TablesFit tables L) (hapart : TablesApart L)
    (ht : t ∈ tables) :
    L.reverse.foldl (fun o p => replaced (folded p.2) (folded p.1) o)
      (folded ((⟨L, []⟩ : Renames).newTable t.name)) = folded t.name := by
  induction L using List.reverseRecOn with
  | nil => rfl
  | append_singleton P p ih =>
      have hnew : folded ((⟨P, []⟩ : Renames).newTable t.name) ≠ folded p.2 := by
        rcases (⟨P, []⟩ : Renames).newTable_cases t.name with ⟨q, hq, -, hqn⟩ | ⟨-, hself⟩
        · rw [hqn]
          exact folded_ne_iff.2 ((List.pairwise_append.1 hapart).2.2 q hq p (by simp)).2
        · rw [hself]
          exact folded_ne_iff.2 ((hfit p (by simp)).2 t ht)
      rw [List.reverse_append, List.reverse_singleton, List.singleton_append, List.foldl_cons,
        Renames.folded_newTable_append fun q hq => hfit.new_ne_old (q := q) (by simp [hq]) (by simp),
        replaced_replaced hnew]
      exact ih hfit.left (List.pairwise_append.1 hapart).1

/-- A column name comes back under the opposite renames. -/
lemma foldl_replaced_columns_back (hd : DistinctNames tables) (hfit : TablesFit tables L)
    (htables : TablesApart L) (hcols : ColumnsFit tables ⟨L, Q⟩) (hapart : ColumnsApart Q)
    (ht : t ∈ tables) {x : String} (hx : t.hasColumn x = true) :
    Q.reverse.foldl (fun o c => if folded ((⟨L, []⟩ : Renames).newTable t.name) = folded c.table then
        replaced (folded c.new) (folded c.old) o else o)
      (folded ((⟨L, Q⟩ : Renames).newColumn ((⟨L, []⟩ : Renames).newTable t.name) x)) = folded x := by
  induction Q using List.reverseRecOn with
  | nil => rfl
  | append_singleton P c ih =>
      set table := (⟨L, []⟩ : Renames).newTable t.name
      have hne : ∀ q ∈ P, sameName q.table c.table = true → sameName q.new c.old = false :=
        fun q hq h => ColumnsFit.new_ne_old hd hfit htables hcols (by simp [hq]) (by simp) h
      have hback : folded table = folded c.table →
          folded ((⟨L, P⟩ : Renames).newColumn table x) ≠ folded c.new := by
        intro htable
        rcases (⟨L, P⟩ : Renames).newColumn_cases table x with ⟨q, hq, hqt, -, hqn⟩ | ⟨-, hself⟩
        · rw [hqn]
          exact folded_ne_iff.2 ((List.pairwise_append.1 hapart).2.2 q hq c (by simp)
            (Text.sameName_trans hqt (folded_eq_iff.1 htable))).2
        · rw [hself]
          have hfree := (ColumnsFit.of_mem_same_table hd hfit htables hcols (q := c) (by simp) ht
            (folded_eq_iff.1 htable)).2
          refine folded_ne_iff.2 (Bool.eq_false_iff.2 fun h => ?_)
          rw [t.hasColumn_congr h, hfree] at hx
          exact absurd hx (by decide)
      rw [List.reverse_append, List.reverse_singleton, List.singleton_append, List.foldl_cons,
        Renames.folded_newColumn_append hne]
      have hrest := ih hcols.left (List.pairwise_append.1 hapart).1
      by_cases htable : folded table = folded c.table
      · rw [if_pos htable, if_pos htable, replaced_replaced (hback htable)]
        exact hrest
      · rw [if_neg htable, if_neg htable]
        exact hrest

end RenamesBack

namespace Layout

variable (l : Layout current target r)

/-- The opposites of the renames, columns first. -/
lemma undo_renames_eq : l.renames.reverse.map (·.undo)
    = ((r.inOrder target).columns.reverse.map fun c => ⟨c.table, c.new, c.old⟩).map
        (fun c : ColumnRename => Action.renameColumn c.table c.old c.new)
      ++ (r.tables.reverse.map Prod.swap).map (fun p => Action.renameTable p.1 p.2) := by
  simp only [renames, List.reverse_append, List.map_append, ← List.map_reverse, List.map_map]
  rfl

/-- A free name stays free under the opposite renames. -/
lemma undo_renames_none (k : String) :
    indexAfterAll k none (l.renames.reverse.map (·.undo)) = none := by
  refine indexAfterAll_of_unchanged fun a ha => ?_
  rw [l.undo_renames_eq] at ha
  simp only [List.mem_append, List.mem_map] at ha
  rcases ha with ⟨_, -, rfl⟩ | ⟨_, -, rfl⟩ <;> rfl

/-- **An index comes back under the opposite renames,** if its key columns are columns of its table. -/
lemma undo_renames (hm : Migratable current target r)
    (hcolumns : ColumnsApart (r.inOrder target).columns) (ht : t ∈ current.tables)
    (hi : i.table = t.name)
    (hnamed : i.kind ≠ .expression → ∀ x ∈ i.columns ++ i.carried, t.hasColumn x = true) (k : String) :
    indexAfterAll k (some (r.heldIndex (r.newTable t.name) i)) (l.renames.reverse.map (·.undo))
      = some i.held := by
  have htables := foldl_replaced_tables_back hm.fits.tablesFit hm.apart ht
  have hcolumn : ∀ x, t.hasColumn x = true →
      ((r.inOrder target).columns.reverse.map fun c => (⟨c.table, c.new, c.old⟩ : ColumnRename)).foldl
        (CatalogIndex.termAfter (folded (r.newTable t.name)))
        (.column (folded (r.newColumn (r.newTable t.name) x))) = .column (folded x) := by
    intro x hx
    rw [CatalogIndex.foldl_termAfter_column, List.foldl_map, ← Renames.newColumn_inOrder hm.fits]
    exact congrArg _ (foldl_replaced_columns_back current.distinct hm.fits.tablesFit hm.apart
      (Renames.columnsFit_inOrder hm.fits hm.apart) hcolumns ht hx)
  rw [l.undo_renames_eq, indexAfterAll, List.foldl_append, foldl_renameColumns, foldl_renameTables,
    Option.some.injEq, CatalogIndex.mk.injEq]
  refine ⟨?_, ?_, rfl, rfl⟩
  · rw [List.foldl_map]
    exact htables.trans (congrArg folded hi.symm)
  · rw [Renames.heldIndex, Index.terms_held]
    split_ifs with hk
    · rw [List.map_map]
      exact List.map_congr_left fun e _ => CatalogIndex.foldl_termAfter_expression _ e _
    · rw [List.map_map]
      exact List.map_congr_left fun x hx => hcolumn x (hnamed hk x hx)

/-! ## An index name in the end -/

/-- An index name after a migration and its opposite. -/
def back (k : String) : Option CatalogIndex :=
  indexAfterAll k (l.around k) (l.renames.reverse.map (·.undo))

/-- The columns of an index are columns of its table. -/
lemma named_of_mem (hm : Migratable current target r) (ht : t ∈ current.tables) (hi : i ∈ t.indexes)
    (hk : i.kind ≠ .expression) : ∀ x ∈ i.columns ++ i.carried, t.hasColumn x = true := by
  have hnamed := (hm.current_valid.tables t ht).indexed i hi
  rwa [Index.namedColumns, if_neg hk] at hnamed

/-- An old index that is there after the tail and its opposite is there in the end. -/
lemma back_of_around (hm : Migratable current target r)
    (hcolumns : ColumnsApart (r.inOrder target).columns) (ht : t ∈ current.tables) (hi : i ∈ t.indexes)
    (h : l.around k = some (r.heldIndex (r.newTable t.name) i)) : l.back k = some i.held := by
  rw [back, h]
  exact l.undo_renames hm hcolumns ht ((hm.current_valid.tables t ht).owned i hi)
    (named_of_mem hm ht hi) k

variable (hsafe : ∀ a ∈ l.actions, a.isDestructive = false)

include hsafe in
/-- No index is dropped by itself. -/
lemma not_dropsIndex_of_safe (hm : Migratable current target r) (ht : t ∈ current.tables)
    (hi : i ∈ t.indexes) : ¬ DropsIndex current target r t i := by
  intro h
  obtain ⟨j, hj, -⟩ := (exists_gone_iff hm ht hi).2 h
  obtain ⟨u, hu, hj⟩ := List.mem_flatMap.1 hj
  rw [l.goneIndexes_eq_nil hsafe hu] at hj
  cases hj

include hsafe in
lemma back_of_absent (hm : Migratable current target r)
    (hk : ∀ t ∈ current.tables, ∀ i ∈ t.indexes, folded i.name ≠ k) : l.back k = none := by
  have hback : ∀ a ∈ l.tail, a.undo.brings k = none := by
    intro a ha
    by_contra hsome
    obtain ⟨y, hy⟩ := Option.ne_none_iff_exists'.1 hsome
    obtain ⟨w, hw, t, hs, -, -, j, hj, hji⟩ := l.exists_of_undo_brings ha hy
    exact hk t (Renames.mem_of_source hs).1 j hj hji
  have haround : l.around k = none := by
    rcases l.around_or_none hsafe hm.target_valid hback with h | h
    · exact h.trans (l.before_of_absent hk)
    · exact h
  rw [back, haround]
  exact l.undo_renames_none k

include hsafe in
/-- **An index of a table that is overlooked** comes back, unless an index of its name was created by
itself. -/
lemma back_of_overlooked (hm : Migratable current target r)
    (hcolumns : ColumnsApart (r.inOrder target).columns) (ht : Overlooked current target r t)
    (hi : i ∈ t.indexes) :
    l.back (folded i.name) = some i.held ↔
      ∀ j, Action.createIndex j ∈ l.tail → folded j.name ≠ folded i.name := by
  have hbefore := l.before_of_kept hm ht.1 hi (l.not_dropsIndex_of_safe hsafe hm ht.1 hi)
  have hbrings : ∀ a ∈ l.tail, a.undo.brings (folded i.name) = none := fun a ha =>
    l.undo_brings_eq_none hm ht.1 hi (fun u hu hs => absurd hs (ht.2.1 u hu)) ha
  rw [← l.around_of_untaken hbrings hbefore fun a ha => l.untaken_of_overlooked hsafe hm ht ha]
  refine ⟨fun h => ?_, l.back_of_around hm hcolumns ht.1 hi⟩
  rcases l.around_or_none hsafe hm.target_valid hbrings with haround | haround
  · exact haround.trans hbefore
  · rw [back, haround, l.undo_renames_none] at h
    exact absurd h (by simp)

include hsafe in
/-- **An index of a table that is changed in place** comes back. -/
lemma back_of_kept (hm : Migratable current target r)
    (hcolumns : ColumnsApart (r.inOrder target).columns) (hu : u ∈ target.tables)
    (hs : r.source current u = some t) (hkept : needsRebuild (r.apply t u.name) u = false)
    (hi : i ∈ t.indexes) : l.back (folded i.name) = some i.held := by
  have ht := (Renames.mem_of_source hs).1
  have hdrops := l.not_dropsIndex_of_safe hsafe hm ht hi
  have hbefore := l.before_of_kept hm ht hi hdrops
  have hbrings : ∀ a ∈ l.tail, a.undo.brings (folded i.name) = none := fun a ha =>
    l.undo_brings_eq_none hm ht hi (fun w hw hws => by
      rwa [source_injective hm.fits hm.apart hw hu hws hs]) ha
  have hname := folded_eq_iff.2 (Renames.newTable_of_source hm.fits hm.apart hu hs)
  have hfate : r.fate current u = .inPlace (r.apply t u.name) :=
    Renames.fate_eq_inPlace_iff.2 ⟨t, hs, rfl, hkept⟩
  refine l.back_of_around hm hcolumns ht hi ((l.around_of_untaken hbrings hbefore fun a ha => ?_).2
    fun j hj hji => ?_)
  · have := l.untaken_of_inPlace hm hu hfate ha
    rwa [← hname] at this
  · have hstays : r.applyToIndex t.name u.name i ∈ u.indexes := by
      by_contra hnot
      exact hdrops ⟨u, hu, hs, hkept, hnot⟩
    cases l.late_of_mem_tail hj with
    | index hw hnew =>
        obtain ⟨rfl, rfl⟩ := hm.target_valid.index_unique hw hu (mem_of_newIndexes hnew) hstays
          (folded_eq_iff.1 hji)
        obtain ⟨s, hs', -, -, hne⟩ := (mem_newIndexes hm.current_valid).1 hnew
        rw [hs, Option.some.injEq] at hs'
        subst hs'
        exact hne i hi rfl

include hsafe in
/-- **An index of a table that is rebuilt** comes back, unless it has an expression spelled like a renamed
column. -/
lemma back_of_rebuilt (hm : Migratable current target r)
    (hcolumns : ColumnsApart (r.inOrder target).columns) (hu : u ∈ target.tables)
    (hs : r.source current u = some t) (hrebuild : needsRebuild (r.apply t u.name) u = true)
    (hi : i ∈ t.indexes) :
    l.back (folded i.name) = some i.held ↔ r.LeavesExpressions u.name i := by
  have ht := (Renames.mem_of_source hs).1
  have howned := (hm.current_valid.tables t ht).owned i hi
  have hname := Renames.newTable_of_source hm.fits hm.apart hu hs
  by_cases hk : i.kind = .expression
  · set j : Index := { i with columns := i.columns.map (r.newColumn u.name) } with hj
    have hjk : j.kind = .expression := hk
    have hheld : (r.applyToIndex t.name u.name i).held = r.heldIndex (r.newTable t.name) j := by
      rw [Renames.held_applyToIndex r howned, if_pos hk, r.heldIndex_congr hname]
      simp only [Renames.heldIndex, if_pos hjk]
      rfl
    have hback : l.back (folded i.name) = some j.held := by
      rw [back, l.around_of_rebuilt hsafe hm hu hs hrebuild hi, hheld]
      exact l.undo_renames (i := j) hm hcolumns ht howned (fun hne => absurd hk hne) _
    have hinj : Function.Injective Sql.IndexTerm.expression := fun a b h => by simpa using h
    have hterms : j.held.terms = i.held.terms ↔ r.LeavesExpressions u.name i := by
      rw [Index.terms_held, Index.terms_held, if_pos hjk, if_pos hk,
        (List.map_injective_iff.2 hinj).eq_iff, Renames.leavesExpressions_iff hk]
    rw [hback, Option.some.injEq, ← hterms]
    exact ⟨congrArg CatalogIndex.terms, fun h => by
      rw [CatalogIndex.mk.injEq]
      exact ⟨rfl, h, rfl, rfl⟩⟩
  · have hheld := (heldIndex_eq_iff hm hu hs hi).2 fun h => absurd h hk
    refine iff_of_true (l.back_of_around hm hcolumns ht hi ?_) fun h => absurd h hk
    rw [l.around_of_rebuilt hsafe hm hu hs hrebuild hi, hheld]

end Layout

end Migration

end SchemaCompiler

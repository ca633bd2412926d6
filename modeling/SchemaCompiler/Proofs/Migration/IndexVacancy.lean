import SchemaCompiler.Proofs.Migration.IndexUndo

/-!
# When an index name is free in the middle of a migration

A statement that needs a free name meets a database that only a part of the migration has changed.  Whether
an index has the name at that moment can be read off the actions that have been carried out: what counts is
the last of them that has to do with the name.  If it lets the name go, the name is free; if it brings an
index, that index or an older one has it.

This would be wrong for actions in general, because an action lets go of all indexes of a table and an index
of that name may lie on another one.  In a migration the only action that lets go of a name is the one that
takes the index away that has it (`Layout.exists_of_taken`), and one action at most brings it.

* `Action.Frees`, `Vacated` — the last action that has to do with a name lets it go.
* `Layout.vacated_iff` — that is so exactly if no index has the name.
* `VacatedBack`, `Layout.vacatedBack_iff` — the same when later actions have been carried out and taken back.
-/

namespace SchemaCompiler.Migration

open Text (sameName folded folded_eq_iff folded_ne_iff)
open TableChange (needsRebuild)

/-! ## The last action that has to do with a name -/

/-- The indexes that go with an action. -/
def Action.freedIndexes : Action → List Index
  | .dropIndex i => [i]
  | .dropTable t | .alterTable t _ _ => t.indexes
  | .createTable _ | .renameTable _ _ | .addColumn _ _ | .dropColumn _ _ | .renameColumn _ _ _
  | .createIndex _ => []

/-- An action lets go of an index name. -/
def Action.Frees (name : String) (a : Action) : Prop :=
  ∃ i ∈ a.freedIndexes, sameName i.name name = true

/-- An action brings an index of a name. -/
def Action.Claims (name : String) (a : Action) : Prop :=
  ∃ i ∈ a.broughtIndexes, sameName i.name name = true

/-- After the actions no index has the name: the one that had it at first is gone, and so is one that came. -/
structure Vacated (s : Schema) (actions : List Action) (name : String) : Prop where
  old : ∀ t ∈ s.tables, ∀ i ∈ t.indexes, sameName i.name name = true → ∃ a ∈ actions, a.Frees name
  new : ∀ before a after, actions = before ++ a :: after → a.Claims name → ∃ b ∈ after, b.Frees name

/-- The same when later actions have been carried out and taken back.  Taking a rebuild back brings old
indexes back, and taking back the creation of an index lets go of its name, whoever has it. -/
structure VacatedBack (s : Schema) (actions later : List Action) (name : String) : Prop where
  back : ∀ a ∈ later, ¬ a.undo.Claims name
  gone : Vacated s actions name ∨ ∃ j, .createIndex j ∈ later ∧ sameName j.name name = true

variable {current target : Schema} {r : Renames} {t u : Table} {i : Index} {k : String} {a : Action}

/-! ### Where an index comes from -/

section Origin

variable {as : List Action} {x : Option CatalogIndex} {y : CatalogIndex}

/-- An index that is there was there at first or has been brought. -/
lemma brought_of_indexAfterAll (hplain : ∀ a ∈ as, a.Plain) (h : indexAfterAll k x as = some y) :
    x = some y ∨ ∃ a ∈ as, a.brings k = some y := by
  induction as generalizing x with
  | nil => exact Or.inl h
  | cons a rest ih =>
      rw [indexAfterAll_cons, Action.indexAfter_of_plain (hplain a (by simp))] at h
      rcases ih (fun b hb => hplain b (by simp [hb])) h with hx | ⟨b, hb, hy⟩
      · rcases Option.or_eq_some_iff.1 hx with hx | ⟨-, hy⟩
        · exact Or.inl (Option.filter_eq_some_iff.1 hx).1
        · exact Or.inr ⟨a, by simp, hy⟩
      · exact Or.inr ⟨b, by simp [hb], hy⟩

/-- An index that is there either was there at first and has not been taken, or has been brought when the name
was free and not been taken since. -/
lemma last_of_indexAfterAll (hplain : ∀ a ∈ as, a.Plain) (h : indexAfterAll k x as = some y) :
    (x = some y ∧ ∀ a ∈ as, a.takes y.owner = false) ∨
      ∃ before a after, as = before ++ a :: after ∧ a.brings k = some y ∧
        ((indexAfterAll k x before).filter fun i => !a.takes i.owner) = none := by
  induction as using List.reverseRecOn with
  | nil => exact Or.inl ⟨h, by simp⟩
  | append_singleton rest a ih =>
      rw [indexAfterAll_append] at h
      have hstep : ((indexAfterAll k x rest).filter fun i => !a.takes i.owner).or (a.brings k) = some y :=
        (Action.indexAfter_of_plain (hplain a (by simp)) k _).symm.trans h
      rcases Option.or_eq_some_iff.1 hstep with hstay | ⟨hnone, hy⟩
      · obtain ⟨hrest, hnot⟩ := Option.filter_eq_some_iff.1 hstay
        rcases ih (fun b hb => hplain b (by simp [hb])) hrest with ⟨hx, hall⟩ | ⟨before, b, after, rfl, hb⟩
        · refine Or.inl ⟨hx, fun b hb => ?_⟩
          rcases List.mem_append.1 hb with hb | hb
          · exact hall b hb
          · rw [List.mem_singleton.1 hb]
            simpa using hnot
        · exact Or.inr ⟨before, b, after ++ [a], by simp, hb⟩
      · exact Or.inr ⟨rest, a, [], rfl, hy, hnone⟩

end Origin

lemma claims_of_brings {y : CatalogIndex} {name : String} (hy : a.brings (folded name) = some y) :
    a.Claims name := by
  have hat : ∀ {t : Table}, t.indexAt (folded name) = some y →
      ∃ j ∈ t.indexes, sameName j.name name = true := by
    intro t ht
    obtain ⟨j, hj, -⟩ := Option.map_eq_some_iff.1 ht
    exact ⟨j, List.mem_of_find?_eq_some hj, folded_eq_iff.1 (by simpa using List.find?_some hj)⟩
  cases a with
  | createTable t => exact hat hy
  | alterTable old t dependents => exact hat hy
  | createIndex j =>
      simp only [Action.brings] at hy
      split_ifs at hy with hname
      exact ⟨j, List.mem_singleton_self j, folded_eq_iff.1 hname⟩
  | dropTable _ | renameTable _ _ | addColumn _ _ | dropColumn _ _ | renameColumn _ _ _
  | dropIndex _ => simp [Action.brings] at hy

lemma brings_of_claims {name : String} (h : a.Claims name) : (a.brings (folded name)).isSome = true := by
  obtain ⟨j, hj, hname⟩ := h
  rw [← folded_eq_iff.2 hname]
  exact Layout.brings_isSome hj

/-- A member of a list that is the only one of its kind stands at one place. -/
lemma not_mem_of_filter_singleton {β : Type} {p : β → Bool} {u v : List β} {b c : β}
    (h : (u ++ v).filter p = [c]) (hb : b ∈ u) (hp : p b = true) : ∀ d ∈ v, p d = false := by
  rw [List.filter_append] at h
  have hmem : b ∈ u.filter p := List.mem_filter.2 ⟨hb, hp⟩
  rcases List.append_eq_singleton_iff.1 h with ⟨hnil, -⟩ | ⟨-, hnil⟩
  · simp [hnil] at hmem
  · exact fun d hd => by simpa using List.filter_eq_nil_iff.1 hnil d hd

namespace Layout

variable (l : Layout current target r)

/-! ## Names and owners -/

/-- An action that takes the indexes of an old table lets go of their names. -/
lemma exists_takenIndexes (hm : Migratable current target r) (ht : t ∈ current.tables) (hi : i ∈ t.indexes)
    (ha : a ∈ l.tail) (htakes : a.takes (folded (r.newTable t.name)) = true) :
    ∃ j ∈ a.takenIndexes, folded j.name = folded i.name := by
  have hmem : a ∈ l.tail.filter (·.takes (folded (r.newTable t.name))) := List.mem_filter.2 ⟨ha, htakes⟩
  rcases l.lot_of_table ht with ⟨u, hu, hs⟩ | hd | ho
  · rw [l.filter_takes_of_source hm hu hs] at hmem
    split_ifs at hmem
    · rw [List.mem_singleton.1 hmem]
      exact ⟨r.applyToIndex t.name u.name i, List.mem_map_of_mem hi, rfl⟩
    · cases hmem
  · rw [l.filter_takes_of_dropped hm hd, List.mem_singleton] at hmem
    exact ⟨i, hmem ▸ hi, rfl⟩
  · rw [l.filter_takes_of_overlooked hm ho] at hmem
    cases hmem

/-- After the renames no action drops an index by itself. -/
lemma freedIndexes_of_mem_tail (ha : a ∈ l.tail) : a.freedIndexes = a.takenIndexes := by
  cases l.late_of_mem_tail ha <;> rfl

/-- The indexes that are dropped before the renames. -/
lemma dropIndex_mem_head : .dropIndex i ∈ l.head ↔
    i ∈ target.tables.flatMap fun u => (r.fate current u).goneIndexes u := by
  simp [head, renames]

/-- Before and during the renames no action brings an index. -/
lemma not_claims_of_mem_head {name : String} (ha : a ∈ l.head) : ¬ a.Claims name := by
  rintro ⟨j, hj, -⟩
  rcases l.mem_head ha with ⟨_, rfl⟩ | ⟨_, _, rfl⟩ | ⟨_, _, rfl⟩ <;> cases hj

/-- An index that is brought is taken again by the same action only. -/
lemma eq_of_brings_of_takes (hm : Migratable current target r) {b : Action} (ha : a ∈ l.tail)
    (hb : b ∈ l.tail) {y : CatalogIndex} (hy : a.brings k = some y) (htakes : b.takes y.owner = true) :
    b = a := by
  obtain ⟨u, hu, j, hj, rfl, rfl, -⟩ := l.exists_of_brings hm.target_valid ha hy
  have howner : j.held.owner = folded u.name := congrArg folded ((hm.target_valid.tables u hu).owned j hj)
  have hbmem : b ∈ l.tail.filter (·.takes (folded u.name)) := List.mem_filter.2 ⟨hb, howner ▸ htakes⟩
  have hamem : a ∈ l.tail.filter (fun a => (a.brings (folded j.name)).isSome) :=
    List.mem_filter.2 ⟨ha, by rw [hy]; rfl⟩
  rw [l.filter_takes hm hu] at hbmem
  rw [l.filter_brings hm hu hj, bringer] at hamem
  cases hf : r.fate current u with
  | rebuilt old =>
      simp only [hf, List.mem_singleton] at hamem hbmem
      rw [hamem, hbmem]
  | created => simp [hf] at hbmem
  | inPlace old => simp [hf] at hbmem

/-! ## A name in the middle of a migration -/

variable {name : String} {p q : List Action}

/-- A name that no index of the old schema has on the way is let go by an action. -/
lemma frees_of_none (hm : Migratable current target r) (hsplit : l.tail = p ++ q)
    (hnone : indexAfterAll (folded name) (l.before (folded name)) p = none) (ht : t ∈ current.tables)
    (hi : i ∈ t.indexes) (hname : sameName i.name name = true) : ∃ a ∈ l.head ++ p, a.Frees name := by
  have hmem : ∀ a ∈ p, a ∈ l.tail := fun a ha => by rw [hsplit]; simp [ha]
  have hfold := folded_eq_iff.2 hname
  rw [← hfold] at hnone
  by_cases hdrops : DropsIndex current target r t i
  · obtain ⟨j, hj, hji⟩ := (exists_gone_iff hm ht hi).2 hdrops
    refine ⟨.dropIndex j, List.mem_append_left _ (List.mem_append_left _ (List.mem_map_of_mem hj)), j,
      List.mem_singleton_self j, ?_⟩
    exact folded_eq_iff.1 (hji.trans hfold)
  · rw [l.before_of_kept hm ht hi hdrops] at hnone
    by_contra hstays
    push Not at hstays
    rw [indexAfterAll_of_not_taken (fun a ha => l.plain_of_mem_tail (hmem a ha)) fun a ha => ?_] at hnone
    · cases hnone
    by_contra htaken
    rw [Bool.not_eq_false] at htaken
    obtain ⟨j, hj, hji⟩ := l.exists_takenIndexes hm ht hi (hmem a ha) htaken
    refine hstays a (List.mem_append_right _ ha) ⟨j, ?_, folded_eq_iff.1 (hji.trans hfold)⟩
    rwa [l.freedIndexes_of_mem_tail (hmem a ha)]

/-- A name that has been brought and belongs to no index is let go later. -/
lemma frees_after_of_none (hm : Migratable current target r) {before after : List Action}
    (hsplit : l.tail = (before ++ a :: after) ++ q)
    (hnone : indexAfterAll (folded name) (l.before (folded name)) (before ++ a :: after) = none)
    (hclaims : a.Claims name) : ∃ b ∈ after, b.Frees name := by
  have hmem : ∀ b ∈ (before ++ [a]) ++ (after ++ q), b ∈ l.tail := fun b hb => by
    rw [hsplit]
    simpa using hb
  have hplain : ∀ b ∈ before ++ [a], b.Plain := fun b hb =>
    l.plain_of_mem_tail (hmem b (List.mem_append_left _ hb))
  have hsome := brings_of_claims hclaims
  obtain ⟨-, c, hone⟩ := l.filter_brings_singleton hm (hmem a (by simp)) hsome
  obtain ⟨y, hy⟩ : ∃ y, indexAfterAll (folded name) (l.before (folded name)) (before ++ [a]) = some y := by
    rw [indexAfterAll_append]
    change ∃ y, a.indexAfter _ _ = some y
    rw [Action.indexAfter_of_plain (hplain a (by simp)), ← Option.isSome_iff_exists, Option.isSome_or, hsome,
      Bool.or_true]
  have hsplit' : before ++ a :: after = (before ++ [a]) ++ after := by simp
  rw [hsplit', indexAfterAll_append, hy] at hnone
  by_contra hstays
  push Not at hstays
  rw [indexAfterAll_of_not_taken (fun b hb => l.plain_of_mem_tail (hmem b (by simp [hb]))) fun b hb => ?_]
    at hnone
  · cases hnone
  by_contra htaken
  rw [Bool.not_eq_false] at htaken
  have hbtail : b ∈ l.tail := hmem b (by simp [hb])
  rcases brought_of_indexAfterAll hplain hy with hbefore | ⟨d, hd, hdy⟩
  · obtain ⟨t, ht, i, hi, hname, -, rfl⟩ := (l.before_eq_some_iff hm).1 hbefore
    obtain ⟨j, hj, hji⟩ := l.exists_takenIndexes hm ht hi hbtail htaken
    refine hstays b hb ⟨j, ?_, folded_eq_iff.1 (hji.trans hname)⟩
    rwa [l.freedIndexes_of_mem_tail hbtail]
  · have hbd := l.eq_of_brings_of_takes hm (hmem d (List.mem_append_left _ hd)) hbtail hdy htaken
    have hother := not_mem_of_filter_singleton (p := fun a : Action => (a.brings (folded name)).isSome)
      (u := before ++ [a]) (v := after ++ q) (by rw [← hone, hsplit]; simp) hd (by simp [hdy])
    have := hother b (by simp [hb])
    simp [hbd, hdy] at this

/-- A name that has been let go does not stand for an old index that nothing has taken. -/
lemma not_vacated_of_untaken (hm : Migratable current target r) (hmem : ∀ a ∈ p, a ∈ l.tail)
    {y : CatalogIndex} (hbefore : l.before (folded name) = some y)
    (huntaken : ∀ a ∈ p, a.takes y.owner = false) :
    ¬ Vacated current (l.head ++ p) name := by
  intro h
  obtain ⟨t, ht, i, hi, hname, hdrops, rfl⟩ := (l.before_eq_some_iff hm).1 hbefore
  obtain ⟨a, ha, j, hj, hjn⟩ := h.old t ht i hi (folded_eq_iff.1 hname)
  have hji : folded j.name = folded i.name := (folded_eq_iff.2 hjn).trans hname.symm
  rcases List.mem_append.1 ha with ha | ha
  · rcases l.mem_head ha with ⟨g, rfl⟩ | ⟨_, _, rfl⟩ | ⟨_, _, rfl⟩
    · obtain rfl := List.mem_singleton.1 hj
      exact hdrops ((exists_gone_iff hm ht hi).1 ⟨j, l.dropIndex_mem_head.1 ha, hji⟩)
    · cases hj
    · cases hj
  · rw [l.freedIndexes_of_mem_tail (hmem a ha)] at hj
    obtain ⟨t', ht', i', hi', hij, -, htakes⟩ := l.exists_of_taken hm (hmem a ha) hj
    obtain ⟨rfl, -⟩ := hm.current_valid.index_unique ht' ht hi' hi (folded_eq_iff.1 (hij.trans hji))
    have := huntaken a ha
    rw [Renames.heldIndex, l.takes_of_filter htakes] at this
    cases this

/-- A name that has been let go was not brought again while an old index had it. -/
lemma not_vacated_of_brought (hm : Migratable current target r) {before after : List Action}
    (hsplit : l.tail = (before ++ a :: after) ++ q) {y : CatalogIndex}
    (hbrings : a.brings (folded name) = some y)
    (hnone : ((indexAfterAll (folded name) (l.before (folded name)) before).filter
      fun i => !a.takes i.owner) = none) :
    ¬ Vacated current (l.head ++ (before ++ a :: after)) name := by
  intro h
  have hmem : ∀ b ∈ before ++ a :: after, b ∈ l.tail := fun b hb => by
    rw [hsplit]
    exact List.mem_append_left q hb
  obtain ⟨b, hb, j, hj, hjn⟩ := h.new (l.head ++ before) a after (by simp) (claims_of_brings hbrings)
  have hbtail := hmem b (by simp [hb])
  rw [l.freedIndexes_of_mem_tail hbtail] at hj
  obtain ⟨t, ht, i, hi, hij, hbefore, htakes⟩ := l.exists_of_taken hm hbtail hj
  have hname : folded i.name = folded name := hij.trans (folded_eq_iff.2 hjn)
  -- the action that takes the old index comes later, so that it is still there
  have hearlier : ∀ c ∈ before ++ [a], c.takes (folded (r.newTable t.name)) = false := by
    intro c hc
    by_contra hct
    rw [Bool.not_eq_false] at hct
    have := not_mem_of_filter_singleton (p := (·.takes (folded (r.newTable t.name))))
      (u := before ++ [a]) (v := after ++ q) (by rw [← htakes, hsplit]; simp) hc hct b (by simp [hb])
    simp [l.takes_of_filter htakes] at this
  have huntaken : ∀ c ∈ before, c.takes (r.heldIndex (r.newTable t.name) i).owner = false :=
    fun c hc => hearlier c (List.mem_append_left _ hc)
  rw [← hname, hbefore, indexAfterAll_of_not_taken
    (fun c hc => l.plain_of_mem_tail (hmem c (List.mem_append_left _ hc))) huntaken] at hnone
  simp [Renames.heldIndex, hearlier a (by simp)] at hnone

/-- A name that the last action lets go belongs to no index. -/
lemma none_of_vacated (hm : Migratable current target r) (hsplit : l.tail = p ++ q)
    (h : Vacated current (l.head ++ p) name) :
    indexAfterAll (folded name) (l.before (folded name)) p = none := by
  have hmem : ∀ a ∈ p, a ∈ l.tail := fun a ha => by rw [hsplit]; simp [ha]
  by_contra hsome
  obtain ⟨y, hy⟩ := Option.ne_none_iff_exists'.1 hsome
  rcases last_of_indexAfterAll (fun a ha => l.plain_of_mem_tail (hmem a ha)) hy with
    ⟨hbefore, huntaken⟩ | ⟨before, a, after, rfl, hbrings, hnone⟩
  · exact l.not_vacated_of_untaken hm hmem hbefore huntaken h
  · exact l.not_vacated_of_brought hm hsplit hbrings hnone h

/-- **An index name in the middle of a migration** belongs to no index exactly if the last action that has to
do with it lets it go. -/
theorem vacated_iff (hm : Migratable current target r) (hsplit : l.tail = p ++ q) :
    indexAfterAll (folded name) (l.before (folded name)) p = none ↔
      Vacated current (l.head ++ p) name := by
  refine ⟨fun hnone => ⟨fun t ht i hi hname => l.frees_of_none hm hsplit hnone ht hi hname,
    fun before a after heq hclaims => ?_⟩, l.none_of_vacated hm hsplit⟩
  rcases List.append_eq_append_iff.1 heq with ⟨mid, rfl, rfl⟩ | ⟨mid, hhead, htail⟩
  · exact l.frees_after_of_none hm hsplit hnone hclaims
  · cases mid with
    | nil =>
        subst htail
        exact l.frees_after_of_none hm (show l.tail = ([] ++ a :: after) ++ q from hsplit) hnone hclaims
    | cons c mid =>
        obtain ⟨rfl, -⟩ := List.cons_eq_cons.1 htail
        exact absurd hclaims (l.not_claims_of_mem_head (by rw [hhead]; simp))

/-! ## A name on the way back -/

/-- An action that does not create a table takes the indexes of the same tables on the way there and back. -/
lemma undo_takes_eq (ha : a ∈ l.tail) (hcreate : ∀ t, a ≠ .createTable t) (o : String) :
    a.undo.takes o = a.takes o := by
  cases l.late_of_mem_tail ha with
  | create _ _ => exact absurd rfl (hcreate _)
  | rebuild _ hf =>
      obtain ⟨t, -, rfl, -⟩ := Renames.fate_eq_rebuilt_iff.1 hf
      rfl
  | add _ _ | remove _ _ | drop _ | index _ _ => rfl

lemma undo_brings_of_not_claims (h : ¬ a.undo.Claims name) : a.undo.brings (folded name) = none := by
  by_contra hsome
  obtain ⟨y, hy⟩ := Option.ne_none_iff_exists'.1 hsome
  exact h (claims_of_brings hy)

variable (hsafe : ∀ a ∈ l.actions, a.isDestructive = false)

include hsafe

/-- Where an old index comes back with a later rebuild, its name is not free. -/
lemma ne_none_of_undo_claims (hm : Migratable current target r) (hsplit : l.tail = p ++ q) (ha : a ∈ q)
    (hclaims : a.undo.Claims name) :
    indexAfterAll (folded name) (indexAfterAll (folded name) (l.before (folded name)) p)
      (q ++ q.reverse.map (·.undo)) ≠ none := by
  intro hnone
  have hmem : ∀ b, b ∈ p ∨ b ∈ q → b ∈ l.tail := fun b hb => by rw [hsplit]; simpa using hb
  obtain ⟨y, hy⟩ := Option.isSome_iff_exists.1 (brings_of_claims hclaims)
  obtain ⟨u, hu, t, hs, hrebuild, htable, i, hi, hname⟩ := l.exists_of_undo_brings (hmem a (Or.inr ha)) hy
  have haround := l.around_of_rebuilt hsafe hm hu hs hrebuild hi
  have hfate := Renames.fate_eq_rebuilt_iff.2 ⟨t, hs, rfl, hrebuild⟩
  have hone := l.tail_at hm hu
  simp only [tailOf, changesOf, hfate, Fate.newIndexes, List.map_nil, List.append_nil] at hone
  have hquiet : ∀ b ∈ p, b.undo.brings (folded name) = none := by
    intro b hb
    by_contra hsome
    rw [← hname] at hsome
    obtain ⟨w, hw, hs', -, htable'⟩ :=
      l.source_of_undo_brings hm (Renames.mem_of_source hs).1 hi (hmem b (Or.inl hb)) hsome
    rw [source_injective hm.fits hm.apart hw hu hs' hs] at htable'
    have := not_mem_of_filter_singleton (p := fun a : Action => folded a.table == folded u.name)
      (u := p) (v := q) (by rw [← hsplit, hone]) hb (beq_iff_eq.2 htable') a ha
    simp [htable] at this
  have hlist : l.tail ++ l.tail.reverse.map (·.undo)
      = p ++ ((q ++ q.reverse.map (·.undo)) ++ p.reverse.map (·.undo)) := by
    rw [hsplit]
    simp
  rw [around, hname, hlist, indexAfterAll_append, indexAfterAll_append, hnone,
    indexAfterAll_of_unchanged fun b hb => ?_] at haround
  · cases haround
  obtain ⟨c, hc, rfl⟩ := List.mem_map.1 hb
  have hc := List.mem_reverse.1 hc
  exact l.undo_indexAfter_none (hmem c (Or.inl hc)) (hquiet c hc)

/-- Where the name is not free and no index of the name is created later, it stays so there and back. -/
lemma ne_none_of_not_vacated (hm : Migratable current target r) (hsplit : l.tail = p ++ q)
    (hcreate : ∀ a ∈ q, ∀ t, a ≠ .createTable t) (hback : ∀ a ∈ q, ¬ a.undo.Claims name)
    (hindex : ∀ j, .createIndex j ∈ q → sameName j.name name = false)
    (hvacated : ¬ Vacated current (l.head ++ p) name) :
    indexAfterAll (folded name) (indexAfterAll (folded name) (l.before (folded name)) p)
      (q ++ q.reverse.map (·.undo)) ≠ none := by
  have hmem : ∀ b, b ∈ p ∨ b ∈ q → b ∈ l.tail := fun b hb => by rw [hsplit]; simpa using hb
  rw [← l.vacated_iff hm hsplit] at hvacated
  obtain ⟨y, hy⟩ := Option.ne_none_iff_exists'.1 hvacated
  have hplain : ∀ b ∈ p, b.Plain := fun b hb => l.plain_of_mem_tail (hmem b (Or.inl hb))
  have huntaken : ∀ a ∈ q, a.takes y.owner = false := by
    intro a ha
    have hatail := hmem a (Or.inr ha)
    by_contra htaken
    rw [Bool.not_eq_false] at htaken
    rcases brought_of_indexAfterAll hplain hy with hbefore | ⟨d, hd, hdy⟩
    · obtain ⟨t, ht, i, hi, hname, -, rfl⟩ := (l.before_eq_some_iff hm).1 hbefore
      obtain ⟨j, hj, hji⟩ := l.exists_takenIndexes hm ht hi hatail htaken
      refine hback a ha ⟨j, ?_, folded_eq_iff.1 (hji.trans hname)⟩
      cases l.late_of_mem_tail hatail with
      | rebuild _ _ => exact hj
      | drop ht =>
          rw [l.dropped_eq_nil hsafe] at ht
          cases ht
      | create _ _ | add _ _ | remove _ _ | index _ _ => cases hj
    · obtain ⟨-, c, hone⟩ := l.filter_brings_singleton hm (hmem d (Or.inl hd)) (by rw [hdy]; rfl)
      have := not_mem_of_filter_singleton (p := fun a : Action => (a.brings (folded name)).isSome)
        (u := p) (v := q) (by rw [← hsplit, hone]) hd (by simp [hdy]) a ha
      simp [l.eq_of_brings_of_takes hm (hmem d (Or.inl hd)) hatail hdy htaken, hdy] at this
  rw [hy, indexAfterAll_append,
    indexAfterAll_of_not_taken (fun a ha => l.plain_of_mem_tail (hmem a (Or.inr ha)))
    huntaken, indexAfterAll_of_unchanged fun a ha => ?_]
  · exact Option.some_ne_none y
  obtain ⟨b, hb, rfl⟩ := List.mem_map.1 ha
  have hb := List.mem_reverse.1 hb
  have hbtail := hmem b (Or.inr hb)
  refine l.undo_indexAfter_of_not_taken hbtail ?_ fun j hj => folded_ne_iff.2 (hindex j (hj ▸ hb))
  rw [l.undo_takes_eq hbtail (hcreate b hb)]
  exact huntaken b hb

/-- **An index name on the way back,** when the actions behind `p` have been carried out and taken back. -/
theorem vacatedBack_iff (hm : Migratable current target r) (hsplit : l.tail = p ++ q)
    (hcreate : ∀ a ∈ q, ∀ t, a ≠ .createTable t) :
    indexAfterAll (folded name) (indexAfterAll (folded name) (l.before (folded name)) p)
        (q ++ q.reverse.map (·.undo)) = none ↔
      VacatedBack current (l.head ++ p) q name := by
  have hmem : ∀ b ∈ q, b ∈ l.tail := fun b hb => by rw [hsplit]; simp [hb]
  constructor
  · intro hnone
    have hback : ∀ a ∈ q, ¬ a.undo.Claims name := fun a ha hclaims =>
      l.ne_none_of_undo_claims hsafe hm hsplit ha hclaims hnone
    refine ⟨hback, ?_⟩
    by_contra h
    push Not at h
    exact l.ne_none_of_not_vacated hsafe hm hsplit hcreate hback
      (fun j hj => by simpa using h.2 j hj) h.1 hnone
  · intro h
    have hbrings : ∀ a ∈ q, a.undo.brings (folded name) = none := fun a ha =>
      undo_brings_of_not_claims (h.back a ha)
    rcases h.gone with hvacated | ⟨j, hj, hname⟩
    · rw [(l.vacated_iff hm hsplit).2 hvacated]
      rcases indexAfterAll_undo_or_none (fun a ha => l.plain_of_mem_tail (hmem a ha))
        (fun a ha => l.retracts_of_mem_tail hsafe hm.target_valid (hmem a ha) (hbrings a ha)) none
        with hstep | hstep <;> exact hstep
    · rw [indexAfterAll_append]
      refine indexAfterAll_of_freed (a := .dropIndex j) (fun a ha => ?_)
        (List.mem_map.2 ⟨.createIndex j, List.mem_reverse.2 hj, rfl⟩) fun x => if_pos (folded_eq_iff.2 hname)
      obtain ⟨b, hb, rfl⟩ := List.mem_map.1 ha
      have hb := List.mem_reverse.1 hb
      exact l.undo_indexAfter_none (hmem b hb) (hbrings b hb)

end Layout

end SchemaCompiler.Migration

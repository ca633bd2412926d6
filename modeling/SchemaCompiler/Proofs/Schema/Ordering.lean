import Mathlib.Data.Fintype.Card
import Mathlib.Data.Set.Finite.Basic
import Mathlib.Data.List.Perm.Basic
import Mathlib.Logic.Relation
import Mathlib.Order.WellFounded
import SchemaCompiler.Proofs.Schema.Counting
import SchemaCompiler.Proofs.Schema.Validity

/-!
# The order of dependency

`Counting` says what a run over numbered places does.  Here the places become tables again: a table
depends on another one if one of its foreign keys names it, and what was eligible as a place is a table all
of whose targets come before.

A run stops for one of two reasons.  Either every table is placed, and the order that results shows that
nothing depends on itself, since whatever a table reaches comes earlier in the order.  Or some tables are
left, each of them waits for another one that is left too, and as there are finitely many of them, the
chain runs into a cycle.  No table that is placed can reach one.  This is why the tables that are left are
exactly those that reach a cycle, and not only those that lie on one.

* `Schema.DependsOn` — one table refers to another.
* `Acyclic`, `ReachesCycle` — whether there is a cycle, and from where one can be reached.
* `Schema.IsDependencyOrder` — what the order promises.
* **`Schema.dependencyOrder_eq_ok_iff`**, `Schema.dependencyOrder_eq_error` — when there is an order, and
  which tables are reported when there is none.
-/

namespace SchemaCompiler

/-! ## Cycles -/

section Cycles

open Relation (ReflTransGen TransGen)

variable {α : Type} {r : α → α → Prop}

/-- Nothing can be reached from itself. -/
def Acyclic (r : α → α → Prop) : Prop := ∀ x, ¬ TransGen r x x

/-- Something that can be reached from itself can be reached. -/
def ReachesCycle (r : α → α → Prop) (x : α) : Prop := ∃ y, ReflTransGen r x y ∧ TransGen r y y

lemma acyclic_iff : Acyclic r ↔ ∀ x, ¬ ReachesCycle r x :=
  ⟨fun h _ ⟨y, _, hy⟩ => h y hy, fun h x hx => h x ⟨x, .refl, hx⟩⟩

lemma ReachesCycle.of_step {x y : α} (hxy : r x y) (hy : ReachesCycle r y) : ReachesCycle r x :=
  let ⟨z, hyz, hz⟩ := hy
  ⟨z, .head hxy hyz, hz⟩

/-- What reaches a cycle has a next step that reaches one. -/
lemma ReachesCycle.exists_step {x : α} (h : ReachesCycle r x) : ∃ y, r x y ∧ ReachesCycle r y := by
  obtain ⟨z, hxz, hz⟩ := h
  rcases ReflTransGen.cases_head hxz with rfl | ⟨y, hxy, hyz⟩
  · obtain ⟨y, hxy, hyx⟩ := TransGen.head'_iff.1 hz
    exact ⟨y, hxy, x, hyx, hz⟩
  · exact ⟨y, hxy, z, hyz, hz⟩

/-- In a list where every step leads to something earlier, nothing reaches a cycle. -/
lemma not_reachesCycle_of_follows {l : List α}
    (h : ∀ before x after, l = before ++ x :: after → ∀ y, r x y → y ∈ before) {x : α} (hx : x ∈ l) :
    ¬ ReachesCycle r x := by
  obtain ⟨before, after, hsplit⟩ := List.append_of_mem hx
  -- by induction on how far down the list the element stands
  induction hn : before.length using Nat.strong_induction_on generalizing x before after with
  | _ n ih =>
      intro hcycle
      obtain ⟨y, hxy, hy⟩ := hcycle.exists_step
      have hmem := h before x after hsplit y hxy
      obtain ⟨first, second, rfl⟩ := List.append_of_mem hmem
      refine ih first.length ?_ (hsplit ▸ by simp) first (second ++ x :: after) ?_ rfl hy
      · rw [← hn]
        simp
      · simp [hsplit]

/-- In a list where every element has a step that stays inside, every element reaches a cycle. -/
lemma reachesCycle_of_steps {l : List α} (h : ∀ x ∈ l, ∃ y ∈ l, r x y) {x : α} (hx : x ∈ l) :
    ReachesCycle r x := by
  by_contra hnot
  -- among the elements that reach no cycle there is one from which no other of them can be reached
  let S := {y : α // y ∈ l ∧ ¬ ReachesCycle r y}
  have hfinite : Finite S := (l.finite_toSet.subset fun y (hy : y ∈ l ∧ _) => hy.1).to_subtype
  let above : S → S → Prop := fun a b => TransGen r b.1 a.1
  have htrans : IsTrans S above := ⟨fun _ _ _ hab hbc => hbc.trans hab⟩
  have hirrefl : Std.Irrefl above := ⟨fun a ha => a.2.2 ⟨a.1, .refl, ha⟩⟩
  have hwf : WellFounded above := Finite.wellFounded_of_trans_of_irrefl above
  obtain ⟨m, -, hmin⟩ := hwf.has_min Set.univ ⟨⟨x, hx, hnot⟩, trivial⟩
  obtain ⟨y, hy, hstep⟩ := h m.1 m.2.1
  exact hmin ⟨y, hy, fun hcycle => m.2.2 (.of_step hstep hcycle)⟩ trivial (.single hstep)

end Cycles

namespace Schema

variable {s : Schema} {t u : Table} {i j : Nat}

/-! ## Places of names -/

lemma positionFrom_eq_some {key : String} {start place : Nat} {tables : List Table}
    (h : positionFrom key start tables = some place) :
    start ≤ place ∧ ∃ u, tables[place - start]? = some u ∧ Text.toLowercase u.name = key := by
  induction tables generalizing start with
  | nil => simp [positionFrom] at h
  | cons t rest ih =>
      rw [positionFrom] at h
      split at h
      · rename_i found hfound
        obtain ⟨hle, u, hu, hname⟩ := ih (hfound.trans h)
        refine ⟨by omega, u, ?_, hname⟩
        rwa [show place - start = place - (start + 1) + 1 by omega, List.getElem?_cons_succ]
      · split_ifs at h with hname
        obtain rfl := Option.some.inj h
        exact ⟨le_rfl, t, by simp, hname⟩

lemma positionFrom_eq_none {key : String} {start : Nat} {tables : List Table}
    (h : positionFrom key start tables = none) : ∀ t ∈ tables, Text.toLowercase t.name ≠ key := by
  induction tables generalizing start with
  | nil => simp
  | cons t rest ih =>
      rw [positionFrom] at h
      split at h
      · simp at h
      · rename_i hrest
        split_ifs at h with hname
        exact List.forall_mem_cons.2 ⟨hname, ih hrest⟩

lemma position?_eq_some {name : String} (h : s.position? name = some i) :
    ∃ u, s.tables[i]? = some u ∧ Text.toLowercase u.name = Text.toLowercase name := by
  obtain ⟨-, u, hu, hname⟩ := positionFrom_eq_some h
  exact ⟨u, hu, hname⟩

/-! ## The dependencies of a schema -/

lemma nodup_tables (s : Schema) : s.tables.Nodup :=
  s.distinct.imp fun {a b} hab heq => by
    rw [heq, Text.sameName_refl] at hab
    exact absurd hab (by decide)

/-- A table has one place. -/
lemma place_unique (hi : s.tables[i]? = some t) (hj : s.tables[j]? = some t) : i = j := by
  obtain ⟨hlt, hget⟩ := List.getElem?_eq_some_iff.1 hi
  obtain ⟨hlt', hget'⟩ := List.getElem?_eq_some_iff.1 hj
  exact (s.nodup_tables.getElem_inj_iff).1 (hget.trans hget'.symm)

lemma mem_targets : j ∈ s.targets i t ↔ j ≠ i ∧
    ∃ p ∈ t.foreignKeys, s.position? p.2.table = some j := by
  have hfold : ∀ ps : List Nat, j ∈ ps.foldr insertPlace [] ↔ j ∈ ps := by
    intro ps
    induction ps with
    | nil => simp
    | cons p rest ih => simp [ih]
  simp [targets, hfold, and_comm]

lemma nodup_targets (s : Schema) (i : Nat) (t : Table) : (s.targets i t).Nodup := by
  have hfold : ∀ ps : List Nat, (ps.foldr insertPlace []).Pairwise (· < ·) := by
    intro ps
    induction ps with
    | nil => simp
    | cons p rest ih => exact pairwise_insertPlace ih
  exact (hfold _).imp fun hlt => hlt.ne

lemma mem_dependencies {d : Dependency} :
    d ∈ s.dependencies ↔ s.tables[d.place]? = some d.table ∧ d.targets = s.targets d.place d.table := by
  simp only [dependencies, List.mem_map, Prod.exists, List.mk_mem_zipIdx_iff_getElem?]
  constructor
  · rintro ⟨t, i, ht, rfl⟩
    exact ⟨ht, rfl⟩
  · rintro ⟨ht, htargets⟩
    exact ⟨d.table, d.place, ht, by rw [← htargets]⟩

lemma numbered_dependencies (s : Schema) : Numbered s.dependencies := by
  have hget : ∀ i, s.dependencies[i]? = s.tables[i]?.map fun t =>
      ({ place := i, table := t, targets := s.targets i t } : Dependency) := by
    intro i
    simp only [dependencies, List.getElem?_map, List.getElem?_zipIdx, Option.map_map]
    simp [Function.comp_def]
  have hlength : s.dependencies.length = s.tables.length := by simp [dependencies]
  refine
    { getElem? := fun d hd => ?_
      exists_of_lt := fun p hp => ?_
      nodup := fun d hd => (mem_dependencies.1 hd).2 ▸ s.nodup_targets _ _
      other := fun d hd => ?_
      lt := fun d hd p hp => ?_ }
  · obtain ⟨htable, htargets⟩ := mem_dependencies.1 hd
    rw [hget, htable, Option.map_some, ← htargets]
  · have htable := List.getElem?_eq_getElem (hlength ▸ hp)
    exact ⟨⟨p, _, s.targets p _⟩, mem_dependencies.2 ⟨htable, rfl⟩, rfl⟩
  · rw [(mem_dependencies.1 hd).2, mem_targets]
    exact fun h => h.1 rfl
  · rw [(mem_dependencies.1 hd).2, mem_targets] at hp
    obtain ⟨-, key, -, hkey⟩ := hp
    obtain ⟨u, hu, -⟩ := position?_eq_some hkey
    rw [hlength]
    exact (List.getElem?_eq_some_iff.1 hu).1

/-! ## One table depends on another -/

/-- A table has a foreign key that names another table, whatever the case of the letters. -/
def DependsOn (s : Schema) (t u : Table) : Prop :=
  t ∈ s.tables ∧ u ∈ s.tables ∧ u ≠ t ∧
    ∃ p ∈ t.foreignKeys, Text.toLowercase p.2.table = Text.toLowercase u.name

lemma position?_eq_some_iff (h : s.LowercaseDistinct) {name : String} (hu : s.tables[j]? = some u) :
    s.position? name = some j ↔ Text.toLowercase name = Text.toLowercase u.name := by
  have humem := List.mem_of_getElem? hu
  constructor
  · intro hj
    obtain ⟨v, hv, hname⟩ := position?_eq_some hj
    rw [hu, Option.some.injEq] at hv
    rw [hv, hname]
  · intro hname
    cases hfind : s.position? name with
    | none => exact absurd hname.symm (positionFrom_eq_none hfind u humem)
    | some k =>
        obtain ⟨v, hv, hvname⟩ := position?_eq_some hfind
        rw [h.eq (List.mem_of_getElem? hv) humem (hvname.trans hname)] at hv
        rw [place_unique hv hu]

/-- The targets of a table are the places of the tables that it depends on. -/
lemma mem_targets_iff (h : s.LowercaseDistinct) (ht : s.tables[i]? = some t)
    (hu : s.tables[j]? = some u) : j ∈ s.targets i t ↔ s.DependsOn t u := by
  have hne : j ≠ i ↔ u ≠ t := by
    refine not_congr ⟨fun hji => ?_, fun hut => ?_⟩
    · subst hji
      exact Option.some.inj (hu.symm.trans ht)
    · subst hut
      exact place_unique hu ht
  simp [mem_targets, DependsOn, position?_eq_some_iff h hu, hne, List.mem_of_getElem? ht,
    List.mem_of_getElem? hu]

/-! ## Places as tables -/

/-- The tables at the given places. -/
def atPlaces (s : Schema) (places : List Nat) : List Table := places.filterMap (s.tables[·]?)

lemma mem_atPlaces {places : List Nat} (ht : s.tables[i]? = some t) :
    t ∈ s.atPlaces places ↔ i ∈ places := by
  simp only [atPlaces, List.mem_filterMap]
  exact ⟨fun ⟨j, hj, htj⟩ => place_unique htj ht ▸ hj, fun hi => ⟨i, hi, ht⟩⟩

lemma exists_place_of_mem (ht : t ∈ s.tables) : ∃ i : Nat, s.tables[i]? = some t :=
  List.mem_iff_getElem?.1 ht

/-- Fewer places than tables leave one out. -/
lemma exists_notMem_atPlaces {places : List Nat} (hlength : places.length < s.tables.length) :
    ∃ t ∈ s.tables, t ∉ s.atPlaces places := by
  by_contra hall
  push Not at hall
  have hle := (s.nodup_tables.subperm hall).length_le
  have : (s.atPlaces places).length ≤ places.length := List.length_filterMap_le _ _
  omega

/-- A place is eligible if its table is still to be placed and waits for nothing. -/
lemma eligible_iff (h : s.LowercaseDistinct) {places : List Nat} (ht : s.tables[i]? = some t) :
    Eligible s.dependencies places i ↔
      t ∉ s.atPlaces places ∧ ∀ u, s.DependsOn t u → u ∈ s.atPlaces places := by
  have htargets : s.targets i t ⊆ places ↔ ∀ u, s.DependsOn t u → u ∈ s.atPlaces places := by
    constructor
    · intro hsub u hu
      obtain ⟨j, hj⟩ := exists_place_of_mem hu.2.1
      exact (mem_atPlaces hj).2 (hsub ((mem_targets_iff h ht hj).2 hu))
    · intro hall j hj
      obtain ⟨-, key, -, hkey⟩ := mem_targets.1 hj
      obtain ⟨u, hu, -⟩ := position?_eq_some hkey
      exact (mem_atPlaces hu).1 (hall u ((mem_targets_iff h ht hu).1 hj))
  rw [mem_atPlaces ht, ← htargets]
  constructor
  · rintro ⟨d, hd, rfl, hnot, hsub⟩
    obtain ⟨hdt, hdtargets⟩ := mem_dependencies.1 hd
    obtain rfl := Option.some.inj (hdt.symm.trans ht)
    exact ⟨hnot, hdtargets ▸ hsub⟩
  · rintro ⟨hnot, hsub⟩
    exact ⟨⟨i, t, s.targets i t⟩, mem_dependencies.2 ⟨ht, rfl⟩, rfl, hnot, hsub⟩

/-! ## Orders -/

/-- Every table stands after those that it depends on, and at each position stands the table declared
first among those whose targets stand before. -/
structure IsDependencyOrder (s : Schema) (order : List Table) : Prop where
  perm : order.Perm s.tables
  follows : ∀ before t after, order = before ++ t :: after → ∀ u, s.DependsOn t u → u ∈ before
  earliest : ∀ before t after, order = before ++ t :: after → ∀ u ∈ s.tables, u ∉ before →
    (∀ v, s.DependsOn u v → v ∈ before) → s.tables.idxOf t ≤ s.tables.idxOf u

/-! ## The run of a schema -/

/-- What the run of a schema places, and what it leaves. -/
structure Placed (s : Schema) (places : List Nat) (left : Backlog) : Prop where
  reflects : Reflects s.dependencies places left
  ready : left.ready = []
  least : ∀ before next after, places = before ++ next :: after →
    IsLeast {p | Eligible s.dependencies before p} next

lemma placed_of_run (s : Schema) :
    s.Placed (placeReady s.dependencies s.tables.length (.start s.dependencies)).1
      (placeReady s.dependencies s.tables.length (.start s.dependencies)).2 := by
  obtain ⟨hreflects, hleast, hready⟩ :=
    (Reflects.start s.numbered_dependencies).run s.numbered_dependencies s.tables.length
  exact ⟨by simpa using hreflects, hready (by simp [dependencies]), by simpa using hleast⟩

/-- For no schema a count is lowered that is zero. -/
theorem placeReady?_dependencies (s : Schema) :
    placeReady? s.dependencies s.tables.length (.start s.dependencies) =
      some (placeReady s.dependencies s.tables.length (.start s.dependencies)) :=
  (Reflects.start s.numbered_dependencies).placeReady?_eq s.numbered_dependencies s.tables.length

lemma atPlaces_eq_append_cons {places : List Nat} {before after : List Table}
    (h : s.atPlaces places = before ++ t :: after) :
    ∃ first i second, places = first ++ i :: second ∧ s.tables[i]? = some t ∧
      s.atPlaces first = before := by
  obtain ⟨first, rest, rfl, hfirst, hrest⟩ := List.filterMap_eq_append_iff.1 h
  obtain ⟨skipped, i, second, rfl, hskipped, hi, -⟩ := List.filterMap_eq_cons_iff.1 hrest
  refine ⟨first ++ skipped, i, second, by simp, hi, ?_⟩
  have hnone : skipped.filterMap (s.tables[·]?) = [] := List.filterMap_eq_nil_iff.2 hskipped
  rw [atPlaces, List.filterMap_append, hfirst, hnone, List.append_nil]

namespace Placed

variable {places : List Nat} {left : Backlog} (h : s.Placed places left)

include h

/-- At its turn a table waits for nothing, and no such table was declared before it. -/
lemma turn (hlower : s.LowercaseDistinct) {before after : List Table}
    (hsplit : s.atPlaces places = before ++ t :: after) :
    (∀ u, s.DependsOn t u → u ∈ before) ∧ ∀ u ∈ s.tables, u ∉ before →
      (∀ v, s.DependsOn u v → v ∈ before) → s.tables.idxOf t ≤ s.tables.idxOf u := by
  obtain ⟨first, i, second, hplaces, hi, rfl⟩ := atPlaces_eq_append_cons hsplit
  obtain ⟨heligible, hleast⟩ := h.least first i second hplaces
  refine ⟨((eligible_iff hlower hi).1 heligible).2, fun u hu hnot hwaits => ?_⟩
  have hidx : ∀ {v : Table} {k : Nat}, s.tables[k]? = some v → s.tables.idxOf v = k := by
    intro v k hk
    obtain ⟨hlt, rfl⟩ := List.getElem?_eq_some_iff.1 hk
    exact s.nodup_tables.idxOf_getElem k hlt
  obtain ⟨j, hj⟩ := exists_place_of_mem hu
  rw [hidx hi, hidx hj]
  exact hleast ((eligible_iff hlower hj).2 ⟨hnot, hwaits⟩)

/-- **The tables that are left are those that reach a cycle.** -/
lemma notMem_iff (hlower : s.LowercaseDistinct) (ht : t ∈ s.tables) :
    t ∉ s.atPlaces places ↔ ReachesCycle s.DependsOn t := by
  constructor
  · intro hnot
    refine reachesCycle_of_steps (l := s.tables.filter (· ∉ s.atPlaces places)) (fun u hu => ?_)
      (List.mem_filter.2 ⟨ht, by simpa using hnot⟩)
    obtain ⟨humem, hunot⟩ := List.mem_filter.1 hu
    obtain ⟨i, hi⟩ := exists_place_of_mem humem
    have hwaits : ¬ Eligible s.dependencies places i := by
      rw [← h.reflects.mem_ready, h.ready]
      exact List.not_mem_nil
    rw [eligible_iff hlower hi] at hwaits
    push Not at hwaits
    obtain ⟨v, huv, hv⟩ := hwaits (by simpa using hunot)
    exact ⟨v, List.mem_filter.2 ⟨huv.2.1, by simpa using hv⟩, huv⟩
  · intro hcycle hmem
    exact not_reachesCycle_of_follows (fun _ _ _ hsplit => (h.turn hlower hsplit).1) hmem hcycle

/-- As many places as tables are all of them. -/
lemma perm (hlength : s.tables.length ≤ places.length) : (s.atPlaces places).Perm s.tables := by
  have hall : ∀ {t : Table} {i : Nat}, s.tables[i]? = some t → i ∈ places := by
    intro t i hi
    have hsub : places ⊆ List.range s.tables.length := fun p hp => by
      simpa [dependencies] using h.reflects.lt p hp
    have hperm := (h.reflects.nodup.subperm hsub).perm_of_length_le (by simpa using hlength)
    exact hperm.mem_iff.2 (List.mem_range.2 (List.getElem?_eq_some_iff.1 hi).1)
  have hnodup : (s.atPlaces places).Nodup :=
    h.reflects.nodup.filterMap fun _ _ _ hi hj => place_unique hi hj
  refine (List.perm_ext_iff_of_nodup hnodup s.nodup_tables).2 fun t => ⟨fun ht => ?_, fun ht => ?_⟩
  · obtain ⟨i, -, hi⟩ := List.mem_filterMap.1 ht
    exact List.mem_of_getElem? hi
  · obtain ⟨i, hi⟩ := exists_place_of_mem ht
    exact (mem_atPlaces hi).2 (hall hi)

open scoped Classical in
/-- A count that has not come down to zero is that of a table that reaches a cycle. -/
lemma names_left (hlower : s.LowercaseDistinct) :
    (s.dependencies.filter fun d => 0 < left.counts.getD d.place 0).map (·.table.name) =
      (s.tables.filter (ReachesCycle s.DependsOn ·)).map (·.name) := by
  have hcount : ∀ d ∈ s.dependencies,
      (decide (0 < left.counts.getD d.place 0)) = decide (ReachesCycle s.DependsOn d.table) := by
    intro d hd
    have hplace := (mem_dependencies.1 hd).1
    rw [decide_eq_decide, ← h.notMem_iff hlower (List.mem_of_getElem? hplace), mem_atPlaces hplace]
    have hzero : left.counts.getD d.place 0 = 0 ↔ d.targets ⊆ places := by
      rw [List.getD, h.reflects.counts d hd, Option.getD_some, length_filter_notMem_eq_zero]
    rw [Nat.pos_iff_ne_zero, Ne, hzero, not_iff_not]
    refine ⟨fun hsub => ?_, h.reflects.closed d hd⟩
    by_contra hnot
    have := (h.reflects.mem_ready d.place).2 ⟨d, hd, rfl, hnot, hsub⟩
    simp [h.ready] at this
  have htables : s.dependencies.map (·.table) = s.tables := by
    simp only [dependencies, List.map_map]
    exact List.zipIdx_map_fst 0 s.tables
  rw [List.filter_congr hcount]
  conv_rhs => rw [← htables, List.filter_map, List.map_map]
  rfl

end Placed

/-! ## The order of a schema -/

/-- The order is what the run has placed, unless that is too little. -/
lemma dependencyOrder_eq (s : Schema) : ∃ places left, s.Placed places left ∧
    s.dependencyOrder = if places.length < s.tables.length then
      .error (.cyclicForeignKey
        ((s.dependencies.filter fun d => 0 < left.counts.getD d.place 0).map (·.table.name)))
      else .ok (s.atPlaces places) :=
  ⟨_, _, s.placed_of_run, rfl⟩

/-- An order has every table once, however tables are named. -/
theorem perm_of_dependencyOrder {order : List Table} (h : s.dependencyOrder = .ok order) :
    order.Perm s.tables := by
  obtain ⟨places, left, hplaced, heq⟩ := s.dependencyOrder_eq
  rw [heq] at h
  split_ifs at h with hlt
  exact Except.ok.inj h ▸ hplaced.perm (not_lt.1 hlt)

/-- **The order is one of dependency, and the earliest of them.** -/
theorem isDependencyOrder_of_dependencyOrder (hlower : s.LowercaseDistinct) {order : List Table}
    (h : s.dependencyOrder = .ok order) : s.IsDependencyOrder order := by
  obtain ⟨places, left, hplaced, heq⟩ := s.dependencyOrder_eq
  have hperm := perm_of_dependencyOrder h
  rw [heq] at h
  split_ifs at h
  obtain rfl := Except.ok.inj h
  exact ⟨hperm, fun _ _ _ hsplit => (hplaced.turn hlower hsplit).1,
    fun _ _ _ hsplit => (hplaced.turn hlower hsplit).2⟩

/-- **There is an order exactly when nothing depends on itself.** -/
theorem exists_dependencyOrder_iff (hlower : s.LowercaseDistinct) :
    (∃ order, s.dependencyOrder = .ok order) ↔ Acyclic s.DependsOn := by
  obtain ⟨places, left, hplaced, heq⟩ := s.dependencyOrder_eq
  have hinside : ∀ {t}, ReachesCycle s.DependsOn t → t ∈ s.tables := fun hcycle =>
    hcycle.exists_step.elim fun _ hstep => hstep.1.1
  rw [heq, acyclic_iff]
  by_cases hlt : places.length < s.tables.length
  · obtain ⟨t, ht, hnot⟩ := exists_notMem_atPlaces hlt
    rw [if_pos hlt]
    exact ⟨fun ⟨_, h⟩ => by simp at h, fun h => absurd ((hplaced.notMem_iff hlower ht).1 hnot) (h t)⟩
  · rw [if_neg hlt]
    refine ⟨fun _ t hcycle => ?_, fun _ => ⟨_, rfl⟩⟩
    have ht := hinside hcycle
    exact (hplaced.notMem_iff hlower ht).2 hcycle ((hplaced.perm (not_lt.1 hlt)).mem_iff.2 ht)

open scoped Classical in
/-- **Where there is no order, the tables are reported from which a cycle can be reached.** -/
theorem dependencyOrder_of_not_acyclic (hlower : s.LowercaseDistinct) (h : ¬ Acyclic s.DependsOn) :
    s.dependencyOrder =
      .error (.cyclicForeignKey ((s.tables.filter (ReachesCycle s.DependsOn ·)).map (·.name))) := by
  obtain ⟨places, left, hplaced, heq⟩ := s.dependencyOrder_eq
  rw [← exists_dependencyOrder_iff hlower, heq] at h
  split_ifs at h with hlt
  · rw [heq, if_pos hlt, hplaced.names_left hlower]
  · exact absurd ⟨_, rfl⟩ h

end Schema

end SchemaCompiler

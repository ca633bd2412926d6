import Mathlib.Data.List.Basic
import Mathlib.Data.List.Nodup
import Mathlib.Data.List.Perm.Subperm
import Mathlib.Order.Bounds.Basic
import SchemaCompiler.Schema.DependencyOrder

/-!
# Counting down

The order of dependency is found with counters that are changed in place, and nothing in them says what
they count.  This file says it: a backlog *reflects* the places that have been placed if every count is the
number of targets that are still to be placed and the ready list holds exactly the places that wait for
none.  Placing one place keeps that true (`Reflects.step`), so it is true of every backlog that a run
reaches (`Reflects.run`), and from there on nothing is said about counters any more.

Three things make the step work.  A target is listed once for each table, so one placement lowers a count
by one and not by more.  A count is lowered only for a table that waits for the one being placed, so it is
positive before (`Reflects.counts_pos`), and a run whose counts cannot go below zero is the same run
(`Reflects.placeReady?_eq`).  And no table is its own target, so a count that reaches zero is that of another
table, which has not been placed.

* `Numbered` — dependencies whose places are their positions in the list.
* `Eligible` — a place that can be placed next.
* `Reflects` — what a backlog counts.
* `Reflects.placeReady?_eq` — no count is lowered that is zero.
* `Reflects.run` — what comes out of a run.
-/

namespace SchemaCompiler

/-! ## Ascending lists of places -/

@[simp] lemma mem_insertPlace {place p : Nat} {ps : List Nat} :
    p ∈ insertPlace place ps ↔ p = place ∨ p ∈ ps := by
  induction ps with
  | nil => simp [insertPlace]
  | cons q rest ih =>
      unfold insertPlace
      split_ifs with hlt heq
      · simp
      · simp [heq]
      · simp only [List.mem_cons, ih]
        tauto

lemma pairwise_insertPlace {place : Nat} {ps : List Nat} (h : ps.Pairwise (· < ·)) :
    (insertPlace place ps).Pairwise (· < ·) := by
  induction ps with
  | nil => simp [insertPlace]
  | cons q rest ih =>
      rw [List.pairwise_cons] at h
      unfold insertPlace
      split_ifs with hlt heq
      · refine List.pairwise_cons.2 ⟨fun p hp => ?_, List.pairwise_cons.2 h⟩
        rcases List.mem_cons.1 hp with rfl | hp
        · exact hlt
        · exact hlt.trans (h.1 p hp)
      · exact List.pairwise_cons.2 h
      · refine List.pairwise_cons.2 ⟨fun p hp => ?_, ih h.2⟩
        rcases mem_insertPlace.1 hp with rfl | hp
        · omega
        · exact h.1 p hp

/-! ## Dependencies by their places -/

/-- Every dependency stands at its place, and its targets are other places, each listed once. -/
structure Numbered (ds : List Dependency) : Prop where
  getElem? : ∀ d ∈ ds, ds[d.place]? = some d
  exists_of_lt : ∀ p < ds.length, ∃ d ∈ ds, d.place = p
  nodup : ∀ d ∈ ds, d.targets.Nodup
  other : ∀ d ∈ ds, d.place ∉ d.targets
  lt : ∀ d ∈ ds, ∀ p ∈ d.targets, p < ds.length

/-- A place that has not been placed itself while all its targets have. -/
def Eligible (ds : List Dependency) (placed : List Nat) (p : Nat) : Prop :=
  ∃ d ∈ ds, d.place = p ∧ p ∉ placed ∧ d.targets ⊆ placed

variable {ds : List Dependency}

lemma mem_dependentsOf {target p : Nat} :
    p ∈ dependentsOf ds target ↔ ∃ d ∈ ds, d.place = p ∧ target ∈ d.targets := by
  simp only [dependentsOf, List.mem_map, List.mem_filter, List.contains_iff_mem]
  exact ⟨fun ⟨d, ⟨hd, ht⟩, hp⟩ => ⟨d, hd, hp, ht⟩,
    fun ⟨d, hd, hp, ht⟩ => ⟨d, ⟨hd, ht⟩, hp⟩⟩

namespace Numbered

variable (hn : Numbered ds)

include hn

lemma place_lt {d : Dependency} (hd : d ∈ ds) : d.place < ds.length :=
  (List.getElem?_eq_some_iff.1 (hn.getElem? d hd)).1

lemma eq_of_place {d e : Dependency} (hd : d ∈ ds) (he : e ∈ ds) (h : d.place = e.place) : d = e :=
  Option.some.inj ((hn.getElem? d hd).symm.trans (h ▸ hn.getElem? e he))

/-- The places are the numbers from zero on. -/
lemma places_eq : ds.map (·.place) = List.range ds.length := by
  refine List.ext_getElem (by simp) fun i hi _ => ?_
  obtain ⟨d, hd, hplace⟩ := hn.exists_of_lt i (by simpa using hi)
  obtain ⟨_, hget⟩ := List.getElem?_eq_some_iff.1 (hplace ▸ hn.getElem? d hd)
  simp [hget, hplace]

lemma nodup_dependentsOf (target : Nat) : (dependentsOf ds target).Nodup :=
  (hn.places_eq ▸ List.nodup_range).sublist (List.filter_sublist.map _)

lemma place_mem_dependentsOf {d : Dependency} (hd : d ∈ ds) {target : Nat} :
    d.place ∈ dependentsOf ds target ↔ target ∈ d.targets := by
  rw [mem_dependentsOf]
  exact ⟨fun ⟨e, he, hed, ht⟩ => hn.eq_of_place he hd hed ▸ ht, fun ht => ⟨d, hd, rfl, ht⟩⟩

lemma eligible_iff {d : Dependency} (hd : d ∈ ds) {placed : List Nat} :
    Eligible ds placed d.place ↔ d.place ∉ placed ∧ d.targets ⊆ placed :=
  ⟨fun ⟨_, he, hed, hnot, hsub⟩ => ⟨hnot, hn.eq_of_place he hd hed ▸ hsub⟩,
    fun ⟨hnot, hsub⟩ => ⟨d, hd, rfl, hnot, hsub⟩⟩

end Numbered

/-! ## Counting down for several places -/

lemma getElem?_foldl_countDown {ps : List Nat} (hnodup : ps.Nodup) (b : Backlog) (i : Nat) :
    (ps.foldl .countDown b).counts[i]? =
      if i ∈ ps then b.counts[i]?.map (· - 1) else b.counts[i]? := by
  induction ps generalizing b with
  | nil => simp
  | cons p rest ih =>
      obtain ⟨hp, hrest⟩ := List.nodup_cons.1 hnodup
      rw [List.foldl_cons, ih hrest]
      by_cases hi : i = p
      · subst hi
        by_cases hlt : i < b.counts.length <;> simp [hp, Backlog.countDown, hlt]
      · simp [hi, Backlog.countDown, Ne.symm hi]

lemma mem_ready_foldl_countDown {ps : List Nat} (hnodup : ps.Nodup) (b : Backlog) (p : Nat) :
    p ∈ (ps.foldl .countDown b).ready ↔ p ∈ b.ready ∨ p ∈ ps ∧ b.counts.getD p 0 - 1 = 0 := by
  induction ps generalizing b with
  | nil => simp
  | cons q rest ih =>
      obtain ⟨hq, hrest⟩ := List.nodup_cons.1 hnodup
      rw [List.foldl_cons, ih hrest]
      by_cases hpq : p = q
      · subst hpq
        by_cases hzero : b.counts.getD p 0 - 1 = 0 <;> simp only [Backlog.countDown, hzero] <;> simp [hq]
      · have hcount : (b.countDown q).counts.getD p 0 = b.counts.getD p 0 := by
          simp [Backlog.countDown, List.getD, Ne.symm hpq]
        have hready : p ∈ (b.countDown q).ready ↔ p ∈ b.ready := by
          simp only [Backlog.countDown]
          split_ifs <;> simp [hpq]
        rw [hcount, hready]
        simp [hpq]

lemma pairwise_ready_foldl_countDown (ps : List Nat) {b : Backlog} (h : b.ready.Pairwise (· < ·)) :
    (ps.foldl .countDown b).ready.Pairwise (· < ·) := by
  induction ps generalizing b with
  | nil => exact h
  | cons p rest ih =>
      refine ih ?_
      simp only [Backlog.countDown]
      split_ifs
      · exact pairwise_insertPlace h
      · exact h

/-! ## Counts that cannot go below zero -/

/-- Counting down where nothing is below zero: there is no backlog after a count of zero is lowered. -/
def Backlog.countDown? (b : Backlog) (place : Nat) : Option Backlog :=
  if 0 < b.counts.getD place 0 then some (b.countDown place) else none

/-- Placing the ready tables with such counts. -/
def placeReady? (dependencies : List Dependency) : Nat → Backlog → Option (List Nat × Backlog)
  | 0, b => some ([], b)
  | fuel + 1, b =>
    match b.ready with
    | [] => some ([], b)
    | next :: rest => do
      let b ← (dependentsOf dependencies next).foldlM Backlog.countDown? { b with ready := rest }
      let (placed, left) ← placeReady? dependencies fuel b
      return (next :: placed, left)

lemma foldlM_countDown?_eq {ps : List Nat} (hnodup : ps.Nodup) {b : Backlog}
    (hpos : ∀ p ∈ ps, 0 < b.counts.getD p 0) :
    ps.foldlM Backlog.countDown? b = some (ps.foldl .countDown b) := by
  induction ps generalizing b with
  | nil => rfl
  | cons p rest ih =>
      obtain ⟨hp, hrest⟩ := List.nodup_cons.1 hnodup
      have hlowered : b.countDown? p = some (b.countDown p) := if_pos (hpos p List.mem_cons_self)
      rw [List.foldlM_cons, hlowered, Option.bind_eq_bind, Option.bind_some, List.foldl_cons]
      refine ih hrest fun q hq => ?_
      have hpq : p ≠ q := fun heq => hp (heq ▸ hq)
      simpa [Backlog.countDown, List.getD, hpq] using hpos q (List.mem_cons_of_mem _ hq)

/-! ## What a backlog counts -/

/-- A backlog tells what is left to do once the given places are placed. -/
structure Reflects (ds : List Dependency) (placed : List Nat) (b : Backlog) : Prop where
  nodup : placed.Nodup
  lt : ∀ p ∈ placed, p < ds.length
  /-- Nothing is placed before its targets. -/
  closed : ∀ d ∈ ds, d.place ∈ placed → d.targets ⊆ placed
  counts : ∀ d ∈ ds, b.counts[d.place]? = some (d.targets.filter (· ∉ placed)).length
  sorted : b.ready.Pairwise (· < ·)
  mem_ready : ∀ p, p ∈ b.ready ↔ Eligible ds placed p

/-- The targets that are left when one more place is placed. -/
lemma length_filter_notMem_append {targets placed : List Nat} (hnodup : targets.Nodup) {next : Nat}
    (hnext : next ∉ placed) :
    (targets.filter (· ∉ placed ++ [next])).length =
      if next ∈ targets then (targets.filter (· ∉ placed)).length - 1
      else (targets.filter (· ∉ placed)).length := by
  have herase : targets.filter (· ∉ placed ++ [next]) = (targets.filter (· ∉ placed)).erase next := by
    rw [(hnodup.filter _).erase_eq_filter, List.filter_filter]
    refine List.filter_congr fun p _ => ?_
    simp [and_comm, bne, beq_eq_decide]
  rw [herase, List.length_erase]
  simp [hnext]

lemma length_filter_notMem_eq_zero {targets placed : List Nat} :
    (targets.filter (· ∉ placed)).length = 0 ↔ targets ⊆ placed := by
  simp [List.filter_eq_nil_iff, List.subset_def]

namespace Reflects

variable {placed : List Nat} {b : Backlog}

/-- Before anything is placed, every count is the number of targets. -/
lemma start (hn : Numbered ds) : Reflects ds [] (.start ds) where
  nodup := List.nodup_nil
  lt := by simp
  closed := by simp
  counts := fun d hd => by simp [Backlog.start, hn.getElem? d hd]
  sorted := by
    have hsub : (Backlog.start ds).ready.Sublist (ds.map (·.place)) := List.filter_sublist.map _
    exact (hn.places_eq ▸ List.pairwise_lt_range).sublist hsub
  mem_ready := fun p => by
    simp only [Backlog.start, Eligible, List.mem_map, List.mem_filter, List.isEmpty_iff,
      List.not_mem_nil, not_false_eq_true, true_and, List.subset_nil]
    exact ⟨fun ⟨d, ⟨hd, ht⟩, hp⟩ => ⟨d, hd, hp, ht⟩,
      fun ⟨d, hd, hp, ht⟩ => ⟨d, ⟨hd, ht⟩, hp⟩⟩

variable (h : Reflects ds placed b)

include h

/-- The first of the ready places is the least of those that can be placed. -/
lemma isLeast {next : Nat} {rest : List Nat} (hready : b.ready = next :: rest) :
    IsLeast {p | Eligible ds placed p} next := by
  refine ⟨(h.mem_ready next).1 (by simp [hready]), fun p hp => ?_⟩
  have hsorted := h.sorted
  rw [hready, List.pairwise_cons] at hsorted
  have hmem := (h.mem_ready p).2 hp
  rw [hready] at hmem
  rcases List.mem_cons.1 hmem with rfl | hmem
  · exact le_rfl
  · exact (hsorted.1 p hmem).le

section Step

variable (hn : Numbered ds) {next : Nat} {rest : List Nat} (hready : b.ready = next :: rest)

include hready in
lemma not_mem_of_ready : next ∉ placed := by
  obtain ⟨-, -, -, hunplaced, -⟩ := (h.mem_ready next).1 (by simp [hready])
  exact hunplaced

include hn hready in
/-- The other ready places are those that were ready before. -/
lemma place_mem_rest {e : Dependency} (he : e ∈ ds) :
    e.place ∈ rest ↔ e.place ≠ next ∧ e.place ∉ placed ∧ e.targets ⊆ placed := by
  have hsorted := h.sorted
  rw [hready, List.pairwise_cons] at hsorted
  rw [← hn.eligible_iff he, ← h.mem_ready, hready, List.mem_cons]
  exact ⟨fun hp => ⟨(hsorted.1 _ hp).ne', Or.inr hp⟩, fun ⟨hne, hp⟩ => hp.resolve_left hne⟩

include hready in
/-- **A count is positive when it is lowered.** -/
lemma counts_pos {p : Nat} (hp : p ∈ dependentsOf ds next) : 0 < b.counts.getD p 0 := by
  obtain ⟨e, he, rfl, hnext⟩ := mem_dependentsOf.1 hp
  have hwaits : next ∈ e.targets.filter (· ∉ placed) := by simpa [hnext] using h.not_mem_of_ready hready
  rw [List.getD, h.counts e he, Option.getD_some]
  exact List.length_pos_of_mem hwaits

include hn hready in
/-- A place is lowered to zero exactly if it waited for `next` and for nothing else. -/
lemma counts_eq_zero_iff {e : Dependency} (he : e ∈ ds) (hnext : next ∈ e.targets) :
    b.counts.getD e.place 0 - 1 = 0 ↔ e.targets ⊆ placed ++ [next] := by
  rw [← length_filter_notMem_eq_zero,
    length_filter_notMem_append (hn.nodup e he) (h.not_mem_of_ready hready), if_pos hnext]
  simp [List.getD, h.counts e he]

include hn hready in
/-- The ready places when `next` is placed. -/
lemma place_mem_ready {e : Dependency} (he : e ∈ ds) :
    e.place ∈ ((dependentsOf ds next).foldl Backlog.countDown { b with ready := rest }).ready ↔
      Eligible ds (placed ++ [next]) e.place := by
  have hunplaced := h.not_mem_of_ready hready
  rw [mem_ready_foldl_countDown (hn.nodup_dependentsOf next), hn.place_mem_dependentsOf he,
    h.place_mem_rest hn hready he, hn.eligible_iff he]
  simp only [List.mem_append, List.mem_singleton, not_or]
  by_cases hnext : next ∈ e.targets
  · have hne : e.place ≠ next := fun heq => hn.other e he (heq ▸ hnext)
    have hnot : e.place ∉ placed := fun hp => hunplaced (h.closed e he hp hnext)
    have hwaits : ¬ e.targets ⊆ placed := fun hsub => hunplaced (hsub hnext)
    simp only [hne, hnot, hwaits, hnext, h.counts_eq_zero_iff hn hready he hnext, ne_eq, not_false_eq_true,
      true_and, and_false, false_or]
  · have hsub : e.targets ⊆ placed ++ [next] ↔ e.targets ⊆ placed := by
      refine ⟨fun hsub p hp => ?_, fun hsub => List.subset_append_of_subset_left _ hsub⟩
      rcases List.mem_append.1 (hsub hp) with hq | hq
      · exact hq
      · exact absurd (List.mem_singleton.1 hq ▸ hp) hnext
    simp only [hnext, hsub, false_and, or_false]
    tauto

include hn hready in
/-- **Placing the first of the ready places keeps the backlog true.** -/
lemma step : Reflects ds (placed ++ [next])
    ((dependentsOf ds next).foldl .countDown { b with ready := rest }) := by
  obtain ⟨d, hd, hplace, hunplaced, htargets⟩ := (h.mem_ready next).1 (by simp [hready])
  have hsorted := h.sorted
  rw [hready, List.pairwise_cons] at hsorted
  refine
    { nodup := ?_
      lt := ?_
      closed := ?_
      counts := fun e he => ?_
      sorted := pairwise_ready_foldl_countDown _ hsorted.2
      mem_ready := fun p => ⟨fun hp => ?_, fun hp => ?_⟩ }
  · rw [List.nodup_append]
    refine ⟨h.nodup, by simp, fun p hp q hq => ?_⟩
    rw [List.mem_singleton.1 hq]
    exact fun heq => hunplaced (heq ▸ hp)
  · intro p hp
    rcases List.mem_append.1 hp with hp | hp
    · exact h.lt p hp
    · rw [List.mem_singleton.1 hp, ← hplace]
      exact hn.place_lt hd
  · intro e he hp
    refine List.subset_append_of_subset_left _ ?_
    rcases List.mem_append.1 hp with hp | hp
    · exact h.closed e he hp
    · rw [hn.eq_of_place he hd ((List.mem_singleton.1 hp).trans hplace.symm)]
      exact htargets
  · rw [getElem?_foldl_countDown (hn.nodup_dependentsOf next),
      length_filter_notMem_append (hn.nodup e he) hunplaced]
    simp only [hn.place_mem_dependentsOf he, h.counts e he]
    split_ifs <;> rfl
  · obtain ⟨e, he, rfl⟩ : ∃ e ∈ ds, e.place = p := by
      rcases (mem_ready_foldl_countDown (hn.nodup_dependentsOf next) _ p).1 hp with hp | ⟨hp, -⟩
      · obtain ⟨e, he, heq, -⟩ := (h.mem_ready p).1 (hready ▸ List.mem_cons_of_mem _ hp)
        exact ⟨e, he, heq⟩
      · obtain ⟨e, he, heq, -⟩ := mem_dependentsOf.1 hp
        exact ⟨e, he, heq⟩
    exact (h.place_mem_ready hn hready he).1 hp
  · obtain ⟨e, he, rfl, -⟩ := id hp
    exact (h.place_mem_ready hn hready he).2 hp

end Step

/-- **No count is lowered that is zero**: the run is the one whose counts cannot go below zero. -/
theorem placeReady?_eq (hn : Numbered ds) (fuel : Nat) :
    placeReady? ds fuel b = some (placeReady ds fuel b) := by
  induction fuel generalizing placed b with
  | zero => rfl
  | succ fuel ih =>
      rw [placeReady, placeReady?]
      cases hready : b.ready with
      | nil => rfl
      | cons next rest =>
          have hlowered := foldlM_countDown?_eq (b := { b with ready := rest })
            (hn.nodup_dependentsOf next) fun p hp => h.counts_pos hready hp
          dsimp only
          rw [hlowered, Option.bind_eq_bind, Option.bind_some, ih (h.step hn hready)]
          rfl

/-- When every place is placed, nothing is ready. -/
lemma ready_eq_nil (hlength : ds.length ≤ placed.length) (hn : Numbered ds) : b.ready = [] := by
  refine List.eq_nil_iff_forall_not_mem.2 fun p hp => ?_
  obtain ⟨d, hd, rfl, hnot, -⟩ := (h.mem_ready p).1 hp
  have hsub : placed ⊆ List.range ds.length := fun q hq => List.mem_range.2 (h.lt q hq)
  have hperm := (h.nodup.subperm hsub).perm_of_length_le (by simpa using hlength)
  exact hnot (hperm.mem_iff.2 (List.mem_range.2 (hn.place_lt hd)))

/-- **What comes out of a run.**  The backlog that is left is true of everything placed, each place was the
least that could be placed at its turn, and with enough fuel the run ends only when nothing is ready. -/
theorem run (hn : Numbered ds) (fuel : Nat) :
    Reflects ds (placed ++ (placeReady ds fuel b).1) (placeReady ds fuel b).2 ∧
      (∀ before next after, (placeReady ds fuel b).1 = before ++ next :: after →
        IsLeast {p | Eligible ds (placed ++ before) p} next) ∧
      (ds.length ≤ placed.length + fuel → (placeReady ds fuel b).2.ready = []) := by
  induction fuel generalizing placed b with
  | zero =>
      refine ⟨by simpa [placeReady] using h, by simp [placeReady], fun hlength => ?_⟩
      exact h.ready_eq_nil (by simpa using hlength) hn
  | succ fuel ih =>
      rw [placeReady]
      split
      · rename_i hready
        exact ⟨by simpa using h, by simp, fun _ => hready⟩
      · rename_i next rest hready
        obtain ⟨hreflects, hleast, hdone⟩ := ih (h.step hn hready)
        refine ⟨by simpa using hreflects, fun before p after hsplit => ?_, fun hlength => hdone ?_⟩
        · cases before with
          | nil =>
              obtain ⟨rfl, -⟩ := List.cons.inj hsplit
              simpa using h.isLeast hready
          | cons q before =>
              obtain ⟨rfl, hrest⟩ := List.cons.inj hsplit
              simpa using hleast before p after hrest
        · simp only [List.length_append, List.length_singleton]
          omega

end Reflects

end SchemaCompiler

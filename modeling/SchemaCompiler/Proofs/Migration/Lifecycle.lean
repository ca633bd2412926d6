import Mathlib.Data.List.Basic
import Mathlib.Data.List.Nodup
import Mathlib.Logic.Relation
import SchemaCompiler.Migration.History

/-!
# The life of a history

A history is changed by calls only, each in its place, and a call may be refused.  Whatever is called in
whatever order, the numbers of the migrations rise, a migration never changes but for its progress, the
progress goes one way, and a call that is refused has changed nothing.

* `Edit.Atomic` — an edit that changes nothing if it is refused.
* `Migration.State.Next`, `Migration.Becomes` — one step of progress, and what a migration can turn into.
* `History.Call`, `History.Call.run` — a call, with its answer and the history afterwards.
* `History.Consistent` — the invariant: rising numbers above the floor, and a time for exactly those
  migrations that have been applied.
* `get?_push`, `get?_change` — what each operation does to the migration behind a number.
* `History.Call.Answered` — what a call does: when it is refused and with which error, and what it stores.
* **`History.calls_invariants`** — what holds after every sequence of calls.

The numbers carry the argument: since they rise, the first migration with a number is the only one, and so
a history is a function of numbers.  Everything else is then said number by number.
-/

namespace SchemaCompiler

/-! ## Edits -/

namespace Edit

variable {α : Type} {e : Edit α Unit} {a b : α}

lemma result_eq_ok_iff : e.result a = .ok b ↔ e.perform a = (.ok (), b) := by
  unfold result
  split <;> simp_all

/-- An edit that changes nothing if it is refused. -/
def Atomic (e : Edit α Unit) : Prop := ∀ a x, (e.perform a).1 = .error x → (e.perform a).2 = a

/-- What follows an edit starts from what the edit leaves. -/
lemma perform_bind_ok {f : Unit → Edit α Unit} (h : e.perform a = (.ok (), b)) :
    (e >>= f).perform a = (f ()).perform b := by
  change (ExceptT.bindCont f (e.perform a).1 : StateM α _) (e.perform a).2 = _
  rw [h]
  rfl

/-- Nothing follows an edit that is refused. -/
lemma perform_bind_error {f : Unit → Edit α Unit} {x : MigrationError} (h : e.perform a = (.error x, b)) :
    (e >>= f).perform a = (.error x, b) := by
  change (ExceptT.bindCont f (e.perform a).1 : StateM α _) (e.perform a).2 = _
  rw [h]
  rfl

end Edit

namespace Migration

variable {m n : Migration}

/-! ## One migration -/

/-- One step of progress. -/
inductive State.Next : State → State → Prop
  | apply : Next .generated .applied
  | rollBack : Next .applied .rolledBack

/-- Whether a migration in a state has been applied, be it rolled back since or not. -/
def State.WasApplied (s : State) : Prop := s = .applied ∨ s = .rolledBack

/-- What a migration can turn into: its state moves on, the time of its application stays once it is
known, and nothing else changes at all. -/
structure Becomes (m n : Migration) : Prop where
  version : n.version = m.version
  name : n.name = m.name
  actions : n.actions = m.actions
  upSql : n.upSql = m.upSql
  downSql : n.downSql = m.downSql
  warnings : n.warnings = m.warnings
  state : Relation.ReflTransGen State.Next m.state n.state
  appliedAt : m.appliedAt.isSome = true → n.appliedAt = m.appliedAt

lemma Becomes.refl (m : Migration) : m.Becomes m :=
  ⟨rfl, rfl, rfl, rfl, rfl, rfl, .refl, fun _ => rfl⟩

lemma Becomes.trans {o : Migration} (h : m.Becomes n) (h' : n.Becomes o) : m.Becomes o where
  version := h'.version.trans h.version
  name := h'.name.trans h.name
  actions := h'.actions.trans h.actions
  upSql := h'.upSql.trans h.upSql
  downSql := h'.downSql.trans h.downSql
  warnings := h'.warnings.trans h.warnings
  state := h.state.trans h'.state
  appliedAt hsome := by
    have hn := h.appliedAt hsome
    exact (h'.appliedAt (hn ▸ hsome)).trans hn

/-- The time of the application is known exactly for what has been applied. -/
def Dated (m : Migration) : Prop := m.appliedAt.isSome = true ↔ m.state.WasApplied

lemma perform_advance (expected next : State) (m : Migration) : (advance expected next).perform m =
    if m.state = expected then (.ok (), { m with state := next })
    else (.error (.invalidTransition m.version m.state next), m) := by
  change (if m.state = expected then set { m with state := next }
    else throw (.invalidTransition m.version m.state next) : Edit Migration Unit).perform m = _
  split_ifs <;> rfl

lemma perform_markApplied (time : Int) (m : Migration) : (markApplied time).perform m =
    if m.state = .generated then (.ok (), { m with state := .applied, appliedAt := some time })
    else (.error (.invalidTransition m.version m.state .applied), m) := by
  have hadvance := perform_advance .generated .applied m
  split_ifs at hadvance ⊢ with hstate
  · exact (Edit.perform_bind_ok hadvance).trans rfl
  · exact Edit.perform_bind_error hadvance

lemma perform_markRolledBack (m : Migration) : markRolledBack.perform m =
    if m.state = .applied then (.ok (), { m with state := .rolledBack })
    else (.error (.invalidTransition m.version m.state .rolledBack), m) :=
  perform_advance .applied .rolledBack m

lemma atomic_markApplied (time : Int) : (markApplied time).Atomic := fun m x => by
  rw [perform_markApplied]
  split_ifs <;> simp

lemma atomic_markRolledBack : markRolledBack.Atomic := fun m x => by
  rw [perform_markRolledBack]
  split_ifs <;> simp

lemma result_markApplied_iff {time : Int} : (markApplied time).result m = .ok n ↔
    m.state = .generated ∧ n = { m with state := .applied, appliedAt := some time } := by
  rw [Edit.result_eq_ok_iff, perform_markApplied]
  split_ifs with h <;> simp [h, eq_comm]

lemma result_markRolledBack_iff :
    markRolledBack.result m = .ok n ↔ m.state = .applied ∧ n = { m with state := .rolledBack } := by
  rw [Edit.result_eq_ok_iff, perform_markRolledBack]
  split_ifs with h <;> simp [h, eq_comm]

/-- Applying a migration sets a time that was not known before. -/
lemma becomes_of_markApplied {time : Int} (hdated : m.Dated) (h : (markApplied time).result m = .ok n) :
    m.Becomes n ∧ n.Dated := by
  obtain ⟨hstate, rfl⟩ := result_markApplied_iff.1 h
  refine ⟨⟨rfl, rfl, rfl, rfl, rfl, rfl, .single ?_, fun hsome => ?_⟩, ?_⟩
  · rw [hstate]
    exact .apply
  · have := hdated.1 hsome
    simp [State.WasApplied, hstate] at this
  · simp [Dated, State.WasApplied]

lemma becomes_of_markRolledBack (hdated : m.Dated) (h : markRolledBack.result m = .ok n) :
    m.Becomes n ∧ n.Dated := by
  obtain ⟨hstate, rfl⟩ := result_markRolledBack_iff.1 h
  refine ⟨⟨rfl, rfl, rfl, rfl, rfl, rfl, .single ?_, fun _ => rfl⟩, ?_⟩
  · rw [hstate]
    exact .rollBack
  · have hsome : m.appliedAt.isSome = true := hdated.2 (Or.inl hstate)
    simp [Dated, State.WasApplied, hsome]

/-- A draft stays a draft. -/
lemma State.eq_of_draft {s : State} (h : Relation.ReflTransGen Next .draft s) : s = .draft := by
  induction h with
  | refl => rfl
  | tail _ hnext ih =>
      subst ih
      cases hnext

/-- Nothing follows a rollback. -/
lemma State.eq_of_rolledBack {s : State} (h : Relation.ReflTransGen Next .rolledBack s) :
    s = .rolledBack := by
  induction h with
  | refl => rfl
  | tail _ hnext ih =>
      subst ih
      cases hnext

/-- A migration that keeps its state and its time is the migration itself. -/
lemma Becomes.eq_of (h : m.Becomes n) (hstate : n.state = m.state) (htime : n.appliedAt = m.appliedAt) :
    n = m := by
  obtain ⟨hversion, hname, hactions, hup, hdown, hwarnings, -, -⟩ := h
  cases m
  cases n
  simp_all

/-- **Drafts and what has been rolled back never change.** -/
lemma Becomes.eq_of_final (h : m.Becomes n) (hm : m.Dated) (hn : n.Dated)
    (hfinal : m.state = .draft ∨ m.state = .rolledBack) : n = m := by
  have hstate := h.state
  rcases hfinal with hdraft | hback
  · rw [hdraft] at hstate
    have hns := State.eq_of_draft hstate
    refine h.eq_of (hns.trans hdraft.symm) ?_
    have hnone : ∀ {o : Migration}, o.Dated → o.state = .draft → o.appliedAt = none := fun ho hs => by
      by_contra hsome
      have := ho.1 (Option.isSome_iff_ne_none.2 hsome)
      simp [State.WasApplied, hs] at this
    rw [hnone hm hdraft, hnone hn hns]
  · rw [hback] at hstate
    exact h.eq_of ((State.eq_of_rolledBack hstate).trans hback.symm)
      (h.appliedAt (hm.2 (Or.inr hback)))

end Migration

namespace History

variable {h h' : History} {m : Migration} {version : Nat}

/-! ## Calls -/

/-- What can be called: a draft is pushed, as it is or with its SQL, or a migration is marked. -/
inductive Call where
  | pushDraft (version : Nat) (name : String) (actions : List Migration.Action)
  | pushGenerated (version : Nat) (name : String) (actions : List Migration.Action)
      (upSql downSql : String) (warnings : List Migration.Warning)
  | markApplied (version : Nat) (time : Int)
  | markRolledBack (version : Nat)

/-- The edit of the history that a call stands for. -/
def Call.edit : Call → Edit History Unit
  | .pushDraft version name actions => .push (.draft version name actions)
  | .pushGenerated version name actions up down warnings => do
    .push (← MonadExcept.ofExcept ((Migration.draft version name actions).generate up down warnings))
  | .markApplied version time => .markApplied version time
  | .markRolledBack version => .markRolledBack version

/-- The answer to a call and the history after it. -/
def Call.run (h : History) (c : Call) : Except MigrationError Unit × History := c.edit.perform h

/-- The history after a sequence of calls. -/
def after (h : History) (calls : List Call) : History := calls.foldl (fun h c => (c.run h).2) h

@[simp] lemma after_nil (h : History) : h.after [] = h := rfl

@[simp] lemma after_cons (h : History) (c : Call) (calls : List Call) :
    h.after (c :: calls) = (c.run h).2.after calls := rfl

/-- A draft that gets its SQL is pushed with it. -/
lemma Call.edit_pushGenerated (version : Nat) (name : String) (actions : List Migration.Action)
    (up down : String) (warnings : List Migration.Warning) :
    (pushGenerated version name actions up down warnings).edit =
      .push ⟨version, name, actions, up, down, .generated, none, warnings⟩ := rfl

/-! ## The invariant -/

/-- Numbers rise above the floor, and times are known where they should be. -/
structure Consistent (h : History) : Prop where
  increasing : h.migrations.Pairwise fun a b => a.version < b.version
  above : ∀ m ∈ h.migrations, h.floor < m.version
  dated : ∀ m ∈ h.migrations, m.Dated

lemma consistent_startingAfter (floor : Nat) : (startingAfter floor).Consistent :=
  ⟨.nil, fun _ hm => absurd hm (by simp [startingAfter]), fun _ hm => absurd hm (by simp [startingAfter])⟩

/-- No number is higher than the latest one. -/
lemma Consistent.version_le (hc : h.Consistent) (hm : m ∈ h.migrations) :
    m.version ≤ h.latestVersion := by
  have hincreasing := hc.increasing
  rcases List.eq_nil_or_concat' h.migrations with hnil | ⟨front, last, hsplit⟩
  · simp [hnil] at hm
  · rw [hsplit, List.pairwise_append] at hincreasing
    rw [latestVersion, hsplit, List.getLast?_concat]
    rw [hsplit, List.mem_append, List.mem_singleton] at hm
    rcases hm with hm | rfl
    · exact Nat.le_of_lt (hincreasing.2.2 m hm last (List.mem_singleton_self _))
    · exact Nat.le_refl _

/-- No number is lower than the floor, not even before the first migration. -/
lemma Consistent.floor_le (hc : h.Consistent) : h.floor ≤ h.latestVersion := by
  cases hlast : h.migrations.getLast? with
  | none => simp [latestVersion, hlast]
  | some m =>
      rw [latestVersion, hlast]
      exact Nat.le_of_lt (hc.above m (List.mem_of_getLast? hlast))

/-- **Under a number stands the only migration with that number.** -/
lemma Consistent.get?_eq_some_iff (hc : h.Consistent) :
    h.get? version = some m ↔ m ∈ h.migrations ∧ m.version = version := by
  refine ⟨fun hget => ⟨List.mem_of_find?_eq_some hget, by simpa using List.find?_some hget⟩, ?_⟩
  rintro ⟨hm, rfl⟩
  cases hget : h.get? m.version with
  | none => exact absurd (beq_self_eq_true m.version) (List.find?_eq_none.1 hget m hm)
  | some n =>
      have hn : n ∈ h.migrations := List.mem_of_find?_eq_some hget
      have hversion : n.version = m.version := by simpa using List.find?_some hget
      have hnodup : (h.migrations.map (·.version)).Nodup :=
        List.pairwise_map.2 (hc.increasing.imp Nat.ne_of_lt)
      rw [List.inj_on_of_nodup_map hnodup hn hm hversion]

/-! ## What the operations do to a number -/

lemma perform_push (m : Migration) (h : History) : (Edit.push m).perform h =
    if m.version ≤ h.latestVersion then (.error (.nonMonotonicVersion h.latestVersion m.version), h)
    else (.ok (), { h with migrations := h.migrations ++ [m] }) := by
  change (do
    if m.version ≤ h.latestVersion then throw (.nonMonotonicVersion h.latestVersion m.version)
    set { h with migrations := h.migrations ++ [m] } : Edit History Unit).perform h = _
  split_ifs <;> rfl

lemma push_eq_ok_iff :
    h.push m = .ok h' ↔ h.latestVersion < m.version ∧
      h' = { h with migrations := h.migrations ++ [m] } := by
  rw [push, Edit.result_eq_ok_iff, perform_push]
  split_ifs with hle
  · simp only [Prod.mk.injEq, reduceCtorEq, false_and, Nat.not_lt.2 hle]
  · simp only [Prod.mk.injEq, true_and, Nat.not_le.1 hle, eq_comm]

section Change

variable {e : Edit Migration Unit}

lemma changeFirst_of_ne {ms : List Migration} (hne : ∀ a ∈ ms, a.version ≠ version) :
    Edit.changeFirst version e ms = (.error (.unknownVersion version), ms) := by
  induction ms with
  | nil => rfl
  | cons a rest ih =>
      obtain ⟨ha, hrest⟩ := List.forall_mem_cons.1 hne
      rw [Edit.changeFirst, if_neg ha, ih hrest]

lemma changeFirst_append {before : List Migration} (hbefore : ∀ a ∈ before, a.version ≠ version)
    (hm : m.version = version) (behind : List Migration) :
    Edit.changeFirst version e (before ++ m :: behind) =
      ((e.perform m).1, before ++ (e.perform m).2 :: behind) := by
  induction before with
  | nil => rw [List.nil_append, Edit.changeFirst, if_pos hm, List.nil_append]
  | cons a rest ih =>
      obtain ⟨ha, hrest⟩ := List.forall_mem_cons.1 hbefore
      rw [List.cons_append, Edit.changeFirst, if_neg ha, ih hrest, List.cons_append]

lemma perform_change (h : History) : (Edit.change version e).perform h =
    ((Edit.changeFirst version e h.migrations).1,
      { h with migrations := (Edit.changeFirst version e h.migrations).2 }) := by
  change (MonadExcept.ofExcept (Edit.changeFirst version e h.migrations).1 : Edit History Unit).perform
    { h with migrations := (Edit.changeFirst version e h.migrations).2 } = _
  cases (Edit.changeFirst version e h.migrations).1 <;> rfl

/-- Where no migration has the number, nothing is changed. -/
lemma perform_change_of_get?_eq_none (hget : h.get? version = none) :
    (Edit.change version e).perform h = (.error (.unknownVersion version), h) := by
  have hne : ∀ a ∈ h.migrations, a.version ≠ version := fun a ha => by
    simpa using List.find?_eq_none.1 hget a ha
  rw [perform_change, changeFirst_of_ne hne]

/-- **A change takes place at the first migration with the number**, and leaves what the edit leaves of it. -/
lemma perform_change_of_get? (hget : h.get? version = some m) : ∃ before behind,
    h.migrations = before ++ m :: behind ∧ (∀ a ∈ before, a.version ≠ version) ∧ m.version = version ∧
      (Edit.change version e).perform h =
        ((e.perform m).1, { h with migrations := before ++ (e.perform m).2 :: behind }) := by
  obtain ⟨hm, before, behind, hsplit, hbefore⟩ := List.find?_eq_some_iff_append.1 hget
  have hne : ∀ a ∈ before, a.version ≠ version := fun a ha => by simpa using hbefore a ha
  refine ⟨before, behind, hsplit, hne, by simpa using hm, ?_⟩
  rw [perform_change, hsplit, changeFirst_append hne (by simpa using hm)]

/-- **An edit that changes nothing if it is refused is one of a history as well.** -/
lemma atomic_change (he : e.Atomic) : (Edit.change version e).Atomic := fun h x hx => by
  cases hget : h.get? version with
  | none => rw [perform_change_of_get?_eq_none hget]
  | some m =>
      obtain ⟨before, behind, hsplit, -, -, hperform⟩ := perform_change_of_get? (e := e) hget
      rw [hperform] at hx ⊢
      rw [he m x hx, ← hsplit]

/-- The answer to a change is that of the migration with the number. -/
lemma perform_change_fst : ((Edit.change version e).perform h).1 =
    (h.get? version).elim (.error (.unknownVersion version)) fun m => (e.perform m).1 := by
  cases hget : h.get? version with
  | none => rw [perform_change_of_get?_eq_none hget, Option.elim]
  | some m =>
      obtain ⟨_, _, -, -, -, hperform⟩ := perform_change_of_get? (e := e) hget
      rw [hperform, Option.elim]

/-- What a change that succeeds has done. -/
lemma exists_of_change (hok : (Edit.change version e).result h = .ok h') : ∃ before m behind n,
    h.migrations = before ++ m :: behind ∧ (∀ a ∈ before, a.version ≠ version) ∧ m.version = version ∧
      h.get? version = some m ∧ e.result m = .ok n ∧ h' = { h with migrations := before ++ n :: behind } := by
  rw [Edit.result_eq_ok_iff] at hok
  cases hget : h.get? version with
  | none => simp [perform_change_of_get?_eq_none hget] at hok
  | some m =>
      obtain ⟨before, behind, hsplit, hbefore, hm, hperform⟩ := perform_change_of_get? (e := e) hget
      obtain ⟨hanswer, rfl⟩ := Prod.mk.inj (hperform.symm.trans hok)
      exact ⟨before, m, behind, (e.perform m).2, hsplit, hbefore, hm, rfl,
        Edit.result_eq_ok_iff.2 (Prod.ext hanswer rfl), rfl⟩

end Change

/-- **One more migration** stands under its own number. -/
lemma get?_push (hc : h.Consistent) (hok : h.push m = .ok h') :
    h'.get? version = if m.version = version then some m else h.get? version := by
  obtain ⟨hlt, rfl⟩ := push_eq_ok_iff.1 hok
  rw [get?, List.find?_append, ← get?]
  split_ifs with hversion
  · have hnone : h.get? version = none := List.find?_eq_none.2 fun a ha => by
      have := hc.version_le ha
      rw [beq_iff_eq]
      omega
    simp [hnone, hversion]
  · simp [hversion]

/-- **A changed migration** stands under its number instead of the one before. -/
lemma get?_change {e : Edit Migration Unit} {v : Nat}
    (hkeeps : ∀ m n, e.result m = .ok n → n.version = m.version)
    (hok : (Edit.change v e).result h = .ok h') : ∃ m n, h.get? v = some m ∧ e.result m = .ok n ∧
      ∀ version, h'.get? version = if version = v then some n else h.get? version := by
  obtain ⟨before, m, behind, n, hsplit, hbefore, rfl, hget, he, rfl⟩ := exists_of_change hok
  have hnone : before.find? (·.version == m.version) = none :=
    List.find?_eq_none.2 fun a ha => by simpa using hbefore a ha
  refine ⟨m, n, hget, he, fun version => ?_⟩
  rw [get?, get?, hsplit]
  split_ifs with hversion
  · simp [hversion, List.find?_append, hnone, hkeeps m n he]
  · have hne : (m.version == version) = false := by simpa using Ne.symm hversion
    simp [List.find?_append, hkeeps m n he, hne]

/-! ## One call -/

/-- A migration in the place of another one with the same number leaves the numbers as they are. -/
lemma Consistent.change {e : Edit Migration Unit} (hc : h.Consistent)
    (he : ∀ m n, m.Dated → e.result m = .ok n → m.Becomes n ∧ n.Dated)
    (hok : (Edit.change version e).result h = .ok h') :
    h'.Consistent := by
  obtain ⟨before, m, behind, n, hsplit, -, -, -, hmn, rfl⟩ := exists_of_change hok
  obtain ⟨hincreasing, habove, hdated⟩ := hc
  rw [hsplit] at hincreasing habove hdated
  obtain ⟨hbecomes, hn⟩ := he m n (hdated m (by simp)) hmn
  have hmem : ∀ a ∈ before ++ n :: behind, a = n ∨ a ∈ before ++ m :: behind := fun a ha => by
    simp only [List.mem_append, List.mem_cons] at ha ⊢
    tauto
  refine ⟨?_, fun a ha => ?_, fun a ha => ?_⟩
  · simpa [List.pairwise_append, hbecomes.version] using hincreasing
  · rcases hmem a ha with rfl | ha
    · rw [hbecomes.version]
      exact habove m (by simp)
    · exact habove a ha
  · rcases hmem a ha with rfl | ha
    · exact hn
    · exact hdated a ha

lemma Consistent.push (hc : h.Consistent) (hm : m.Dated) (hok : h.push m = .ok h') :
    h'.Consistent := by
  obtain ⟨hlt, rfl⟩ := push_eq_ok_iff.1 hok
  have hfloor := hc.floor_le
  refine ⟨List.pairwise_append.2 ⟨hc.increasing, List.pairwise_singleton _ _, fun a ha b hb => ?_⟩,
    fun a ha => ?_, fun a ha => ?_⟩
  · have := hc.version_le ha
    rw [List.mem_singleton.1 hb]
    omega
  · rcases List.mem_append.1 ha with ha | ha
    · exact hc.above a ha
    · rw [List.mem_singleton.1 ha]
      exact Nat.lt_of_le_of_lt hfloor hlt
  · rcases List.mem_append.1 ha with ha | ha
    · exact hc.dated a ha
    · rw [List.mem_singleton.1 ha]
      exact hm

/-- What stands under a number stays there, as what it has become. -/
structure Continues (h h' : History) : Prop where
  floor : h'.floor = h.floor
  kept : ∀ version m, h.get? version = some m → ∃ n, h'.get? version = some n ∧ m.Becomes n

lemma Continues.refl (h : History) : h.Continues h := ⟨rfl, fun _ m hm => ⟨m, hm, .refl m⟩⟩

lemma Continues.trans {h'' : History} (first : h.Continues h') (second : h'.Continues h'') :
    h.Continues h'' where
  floor := second.floor.trans first.floor
  kept version m hm := by
    obtain ⟨n, hn, hmn⟩ := first.kept version m hm
    obtain ⟨o, ho, hno⟩ := second.kept version n hn
    exact ⟨o, ho, hmn.trans hno⟩

lemma continues_push (hc : h.Consistent) (hok : h.push m = .ok h') : h.Continues h' := by
  have hlt := (push_eq_ok_iff.1 hok).1
  refine ⟨by rw [(push_eq_ok_iff.1 hok).2], fun version a ha => ⟨a, ?_, .refl a⟩⟩
  have hne : m.version ≠ version := by
    obtain ⟨hmem, rfl⟩ := hc.get?_eq_some_iff.1 ha
    have := hc.version_le hmem
    omega
  rw [get?_push hc hok, if_neg hne, ha]

lemma continues_change {e : Edit Migration Unit} (hc : h.Consistent)
    (he : ∀ m n, m.Dated → e.result m = .ok n → m.Becomes n ∧ n.Dated)
    (hkeeps : ∀ m n, e.result m = .ok n → n.version = m.version)
    (hok : (Edit.change version e).result h = .ok h') : h.Continues h' := by
  obtain ⟨m, n, hm, hmn, hget⟩ := get?_change hkeeps hok
  refine ⟨?_, fun v a ha => ?_⟩
  · obtain ⟨before, _, behind, _, -, -, -, -, -, rfl⟩ := exists_of_change hok
    rfl
  · rw [hget v]
    split_ifs with hv
    · rw [hv, hm] at ha
      obtain rfl := Option.some.inj ha
      exact ⟨n, rfl, (he _ n (hc.dated _ (hc.get?_eq_some_iff.1 hm).1) hmn).1⟩
    · exact ⟨a, ha, .refl a⟩

/-- **A call keeps the invariant, and every migration in its place.** -/
theorem step (hc : h.Consistent) {c : Call} (hok : c.edit.result h = .ok h') :
    h'.Consistent ∧ h.Continues h' := by
  cases c with
  | pushDraft version name actions =>
      have hdraft : (Migration.draft version name actions).Dated := by
        simp [Migration.Dated, Migration.draft, Migration.State.WasApplied]
      exact ⟨hc.push hdraft hok, continues_push hc hok⟩
  | pushGenerated version name actions up down warnings =>
      have hgenerated : Migration.Dated ⟨version, name, actions, up, down, .generated, none, warnings⟩ := by
        simp [Migration.Dated, Migration.State.WasApplied]
      rw [Call.edit_pushGenerated] at hok
      exact ⟨hc.push hgenerated hok, continues_push hc hok⟩
  | markApplied version time =>
      exact ⟨hc.change (fun _ _ => Migration.becomes_of_markApplied) hok,
        continues_change hc (fun _ _ => Migration.becomes_of_markApplied)
          (fun m n hmn => by rw [(Migration.result_markApplied_iff.1 hmn).2]) hok⟩
  | markRolledBack version =>
      exact ⟨hc.change (fun _ _ => Migration.becomes_of_markRolledBack) hok,
        continues_change hc (fun _ _ => Migration.becomes_of_markRolledBack)
          (fun m n hmn => by rw [(Migration.result_markRolledBack_iff.1 hmn).2]) hok⟩

/-- **A call that is refused changes nothing.** -/
theorem Call.atomic_edit (c : Call) : c.edit.Atomic := by
  have hpush : ∀ m, (Edit.push m).Atomic := fun m h x => by
    rw [perform_push]
    split_ifs <;> simp
  cases c with
  | pushDraft version name actions => exact hpush _
  | pushGenerated version name actions up down warnings => exact hpush _
  | markApplied version time => exact atomic_change (Migration.atomic_markApplied time)
  | markRolledBack version => exact atomic_change Migration.atomic_markRolledBack

/-! ## All calls -/

lemma run_snd (hc : h.Consistent) (c : Call) : (c.run h).2.Consistent ∧ h.Continues (c.run h).2 := by
  cases hanswer : (c.run h).1 with
  | ok => exact step hc (Edit.result_eq_ok_iff.2 (Prod.ext hanswer rfl))
  | error x =>
      rw [Call.run, c.atomic_edit h x hanswer]
      exact ⟨hc, .refl h⟩

/-- **From call to call.** -/
theorem consistent_after (hc : h.Consistent) (calls : List Call) :
    (h.after calls).Consistent ∧ h.Continues (h.after calls) := by
  induction calls generalizing h with
  | nil => exact ⟨hc, .refl h⟩
  | cons c calls ih =>
      obtain ⟨hnext, hcontinues⟩ := run_snd hc c
      obtain ⟨hlast, hrest⟩ := ih hnext
      exact ⟨hlast, hcontinues.trans hrest⟩

/-! ### Answers -/

namespace Call

/-- The number that a call is about. -/
def number : Call → Nat
  | pushDraft version _ _ => version
  | pushGenerated version _ _ _ _ _ => version
  | markApplied version _ => version
  | markRolledBack version => version

/-- The states between which a call moves a migration that is there. -/
def states? : Call → Option (Migration.State × Migration.State)
  | pushDraft .. | pushGenerated .. => none
  | markApplied .. => some (.generated, .applied)
  | markRolledBack .. => some (.applied, .rolledBack)

/-- When a call succeeds: a number that is pushed is higher than all before, and a migration that is marked
is there in the state before. -/
def Permitted (h : History) (c : Call) : Prop :=
  match c.states? with
  | none => h.floor < c.number ∧ ∀ m ∈ h.migrations, m.version < c.number
  | some (before, _) => ∃ m ∈ h.migrations, m.version = c.number ∧ m.state = before

/-- With which error a call is refused: its number is not higher than the latest one, or no migration has
it, or its migration is in another state than the one before. -/
inductive Refused (h : History) (c : Call) : MigrationError → Prop
  | notNew (pushes : c.states? = none) (number : c.number ≤ h.latestVersion) :
      Refused h c (.nonMonotonicVersion h.latestVersion c.number)
  | unknown (marks : c.states?.isSome = true) (number : h.get? c.number = none) :
      Refused h c (.unknownVersion c.number)
  | notReady {before next : Migration.State} {m : Migration} (marks : c.states? = some (before, next))
      (number : h.get? c.number = some m) (state : m.state ≠ before) :
      Refused h c (.invalidTransition c.number m.state next)

/-- The migration that stands under the number of a call when it has succeeded. -/
def stored (h : History) : Call → Option Migration
  | pushDraft version name actions => some ⟨version, name, actions, "", "", .draft, none, []⟩
  | pushGenerated version name actions up down warnings =>
    some ⟨version, name, actions, up, down, .generated, none, warnings⟩
  | markApplied version time =>
    (h.get? version).map fun m => { m with state := .applied, appliedAt := some time }
  | markRolledBack version => (h.get? version).map fun m => { m with state := .rolledBack }

/-- **What a call does to a history.** -/
structure Answered (h : History) (c : Call) : Prop where
  accepted : (c.run h).1 = .ok () ↔ c.Permitted h
  refused : ∀ e, (c.run h).1 = .error e → c.Refused h e ∧ (c.run h).2 = h
  stored : (c.run h).1 = .ok () →
    ∀ version, (c.run h).2.get? version = if version = c.number then c.stored h else h.get? version

end Call

lemma latestVersion_lt_iff (hc : h.Consistent) :
    h.latestVersion < version ↔ h.floor < version ∧ ∀ m ∈ h.migrations, m.version < version := by
  refine ⟨fun hlt => ⟨Nat.lt_of_le_of_lt hc.floor_le hlt, fun m hm =>
    Nat.lt_of_le_of_lt (hc.version_le hm) hlt⟩, fun ⟨hfloor, hall⟩ => ?_⟩
  cases hlast : h.migrations.getLast? with
  | none => simpa [latestVersion, hlast] using hfloor
  | some m => simpa [latestVersion, hlast] using hall m (List.mem_of_getLast? hlast)

/-- What a call does that pushes a migration. -/
lemma answered_of_push (hc : h.Consistent) {c : Call} (hedit : c.edit = .push m) (hstates : c.states? = none)
    (hnumber : c.number = m.version) (hstored : c.stored h = some m) : c.Answered h := by
  have hrun : c.run h = if m.version ≤ h.latestVersion then
      (.error (.nonMonotonicVersion h.latestVersion m.version), h)
    else (.ok (), { h with migrations := h.migrations ++ [m] }) := by rw [Call.run, hedit, perform_push]
  refine ⟨?_, fun x hx => ?_, fun hok version => ?_⟩
  · rw [Call.Permitted, hstates, hnumber, ← latestVersion_lt_iff hc, hrun]
    split_ifs with hle
    · simp [Nat.not_lt.2 hle]
    · simp [Nat.not_le.1 hle]
  · rw [hrun] at hx ⊢
    split_ifs at hx ⊢ with hle
    rw [← Except.error.inj hx, ← hnumber]
    exact ⟨.notNew hstates (hnumber ▸ hle), rfl⟩
  · have hpush : h.push m = .ok (c.run h).2 := Edit.result_eq_ok_iff.2 (hedit ▸ Prod.ext hok rfl)
    rw [get?_push hc hpush, hnumber, hstored]
    simp only [eq_comm]

/-- What a call does that moves a migration from one state to the next. -/
lemma answered_of_change (hc : h.Consistent) {c : Call} {e : Edit Migration Unit}
    {before next : Migration.State} {moved : Migration → Migration} (hedit : c.edit = .change c.number e)
    (hstates : c.states? = some (before, next))
    (hperform : ∀ m, e.perform m = if m.state = before then (.ok (), moved m)
      else (.error (.invalidTransition m.version m.state next), m))
    (hkeeps : ∀ m, (moved m).version = m.version) (hstored : c.stored h = (h.get? c.number).map moved) :
    c.Answered h := by
  have hanswer : (c.run h).1 = (h.get? c.number).elim (.error (.unknownVersion c.number))
      fun m => (e.perform m).1 := by rw [Call.run, hedit, perform_change_fst]
  refine ⟨?_, fun x hx => ⟨?_, c.atomic_edit h x hx⟩, fun hok version => ?_⟩
  · have hget : (∃ m ∈ h.migrations, m.version = c.number ∧ m.state = before) ↔
        ∃ m, h.get? c.number = some m ∧ m.state = before := by
      simp only [hc.get?_eq_some_iff, and_assoc]
    simp only [Call.Permitted, hstates]
    rw [hget, hanswer]
    cases h.get? c.number with
    | none => simp
    | some m =>
        rw [Option.elim, hperform]
        split_ifs with hstate <;> simp [hstate]
  · rw [hanswer] at hx
    cases hget : h.get? c.number with
    | none =>
        rw [hget, Option.elim] at hx
        rw [← Except.error.inj hx]
        exact .unknown (by simp [hstates]) hget
    | some m =>
        rw [hget, Option.elim, hperform] at hx
        split_ifs at hx with hstate
        rw [← Except.error.inj hx, (hc.get?_eq_some_iff.1 hget).2]
        exact .notReady hstates hget hstate
  · have hresult : ∀ m n, e.result m = .ok n → n = moved m := fun m n hmn => by
      rw [Edit.result_eq_ok_iff, hperform] at hmn
      split_ifs at hmn
      · exact (Prod.mk.inj hmn).2.symm
      · cases (Prod.mk.inj hmn).1
    have hchange : (Edit.change c.number e).result h = .ok (c.run h).2 :=
      Edit.result_eq_ok_iff.2 (hedit ▸ Prod.ext hok rfl)
    obtain ⟨m, n, hm, hmn, hget⟩ :=
      get?_change (fun m n hmn => by rw [hresult m n hmn, hkeeps]) hchange
    rw [hget, hstored, hm, hresult m n hmn]
    rfl

/-- **What every call does.** -/
theorem answered (hc : h.Consistent) (c : Call) : c.Answered h := by
  cases c with
  | pushDraft version name actions => exact answered_of_push hc rfl rfl rfl rfl
  | pushGenerated version name actions up down warnings => exact answered_of_push hc rfl rfl rfl rfl
  | markApplied version time =>
      exact answered_of_change hc rfl rfl (Migration.perform_markApplied time) (fun _ => rfl) rfl
  | markRolledBack version =>
      exact answered_of_change hc rfl rfl Migration.perform_markRolledBack (fun _ => rfl) rfl

/-- **What holds of a history** that has begun behind a number and was changed by calls only. -/
structure Invariants (start : Nat) (h : History) : Prop where
  /-- The number behind which the history begins stays. -/
  floor : h.floor = start
  /-- The numbers rise. -/
  increasing : h.migrations.Pairwise fun a b => a.version < b.version
  above : ∀ m ∈ h.migrations, start < m.version
  /-- Under a number stands the only migration with that number. -/
  unique : ∀ version m, h.get? version = some m ↔ m ∈ h.migrations ∧ m.version = version
  /-- What is pending has its SQL and was not applied. -/
  pending : ∀ m, m ∈ h.pending ↔ m ∈ h.migrations ∧ m.state = .generated
  pending_increasing : h.pending.Pairwise fun a b => a.version < b.version
  /-- The time of the application is known for exactly those migrations that have been applied. -/
  dated : ∀ m ∈ h.migrations, m.appliedAt.isSome = true ↔ m.state = .applied ∨ m.state = .rolledBack
  /-- Whatever is called then, a migration keeps its place and everything but its progress; drafts and
  migrations that have been rolled back do not change at all. -/
  kept : ∀ later version m, h.get? version = some m → ∃ n, (h.after later).get? version = some n ∧
    m.Becomes n ∧ (m.state = .draft ∨ m.state = .rolledBack → n = m)
  /-- A call is refused for the reasons it has to be refused for and then changes nothing, and otherwise it
  changes what it is to change and nothing else. -/
  answered : ∀ c : Call, c.Answered h

/-- **The invariants of a history** hold after every sequence of calls, refused ones among them. -/
theorem calls_invariants (floor : Nat) (calls : List Call) :
    ((startingAfter floor).after calls).Invariants floor := by
  obtain ⟨hc, hstart⟩ := consistent_after (consistent_startingAfter floor) calls
  have hfloor : ((startingAfter floor).after calls).floor = floor := hstart.floor
  refine ⟨hfloor, hc.increasing, fun m hm => ?_, fun _ _ => hc.get?_eq_some_iff, fun m => by simp [pending],
    hc.increasing.filter _, hc.dated, fun later version m hm => ?_, answered hc⟩
  · rw [← hfloor]
    exact hc.above m hm
  · obtain ⟨hlater, hcontinues⟩ := consistent_after hc later
    obtain ⟨n, hn, hmn⟩ := hcontinues.kept version m hm
    exact ⟨n, hn, hmn, hmn.eq_of_final (hc.dated m (hc.get?_eq_some_iff.1 hm).1)
      (hlater.dated n (hlater.get?_eq_some_iff.1 hn).1)⟩

/-- A history that continues after nothing is the empty one. -/
example : startingAfter 0 = {} := rfl

end History

end SchemaCompiler

import SchemaCompiler.Proofs.Migration.ColumnChanges
import SchemaCompiler.Proofs.Sql.RawText
import SchemaCompiler.Proofs.Text.Capitals

/-!
# Columns that are added

SQLite adds a column to a table that has rows only if it knows, without looking at them, what the rows get:
a constant, the same for all, and not NULL where NULL is not admitted.  `Column.canAddInPlace` decides from
the text of the default whether that is so, and the comparison rebuilds the table if it is not.

The text is looked at from the outside: without blanks at its ends and in capitals it is one of three words,
or begins with a parenthesis.  That finds every default that is evaluated for each row, unless a comment
stands in front of it or behind it.  One question is not asked at all: whether the default of a column that
does not admit NULL is NULL.

* `ColumnDef.Addable` — what SQLite demands of a column that is added.
* `Column.HasPlainDefault` — the default is not NULL in disguise, and no comment hides what it is.
* **`compileDiff_additions_iff`** — all columns that a migration adds are addable exactly if all have plain
  defaults.
-/

namespace SchemaCompiler

open Text (sameName)

/-! ## Trimming -/

namespace Text

variable {p : Char → Bool} {c : Char} {before cs : List Char}

lemma isBlank_of_isSpacing (h : Sql.isSpacing c = true) : isBlank c = true := by
  simp only [Sql.isSpacing, List.contains_iff_mem, List.mem_cons, List.not_mem_nil, or_false] at h
  rcases h with rfl | rfl | rfl | rfl | rfl <;> decide

/-- A first character that is not trimmed stays the first. -/
lemma head?_trimBoth (hbefore : ∀ c ∈ before, p c = true) (hc : p c = false) :
    (trimBoth p (before ++ c :: cs)).head? = some c := by
  rw [trimBoth, List.dropWhile_append_of_pos hbefore, List.dropWhile_cons_of_neg (by simp [hc]), dropWhileEnd,
    List.reverse_cons, List.dropWhile_append]
  split_ifs
  · simp [hc]
  · simp

lemma toUpper_toLower (c : Char) : c.toUpper = c.toLower.toUpper :=
  eq_toLower_of_ascii Char.toUpper (by decide +kernel) c

/-- Same names have one capital form. -/
lemma toAsciiUppercase_eq_of_sameName {a b : String} (h : sameName a b = true) :
    toAsciiUppercase a = toAsciiUppercase b := by
  have hupper : ∀ s : String, s.toList.map Char.toUpper = (foldAscii s).map Char.toUpper := fun s => by
    rw [foldAscii, List.map_map]
    exact List.map_congr_left fun c _ => toUpper_toLower c
  rw [toAsciiUppercase, toAsciiUppercase, hupper, hupper, sameName_iff.1 h]

/-- A name without blanks has none in any case of its letters. -/
lemma all_not_isBlank_of_sameName {a b : String} (h : sameName a b = true)
    (hb : b.toList.all fun c => !isBlank c) : ∀ c ∈ a.toList, isBlank c = false := by
  intro c hc
  have hmem : c.toLower ∈ foldAscii b := by
    rw [← sameName_iff.1 h]
    exact List.mem_map_of_mem hc
  obtain ⟨d, hd, hdc⟩ := List.mem_map.1 hmem
  rw [isBlank_toLower, ← hdc, ← isBlank_toLower]
  simpa using List.all_eq_true.1 hb d hd

end Text

/-! ## What can be added -/

namespace Sql

/-- **SQLite can add the column** to a table that has rows. -/
structure ColumnDef.Addable (d : ColumnDef) : Prop where
  notKey : ∀ autoincrement, .primaryKey autoincrement ∉ d.constraints
  notUnique : .unique ∉ d.constraints
  constant : ∀ expr, .default expr ∈ d.constraints → ¬ IsPerRow expr
  filled : .notNull ∈ d.constraints → ∃ expr, .default expr ∈ d.constraints ∧ ¬ IsNull expr
  /-- The rows that are there refer to nothing. -/
  unreferring : ∀ table column onDelete, .references table column onDelete ∈ d.constraints →
    ∀ expr, .default expr ∈ d.constraints → IsNull expr

end Sql

namespace Column

variable {c : Column}

/-- The default is not `NULL` where NULL is not admitted, and no comment hides that it is evaluated for each
row. -/
def HasPlainDefault (c : Column) : Prop :=
  ∀ expr ∈ c.defaultValue, (c.nullable = false → ¬ Sql.IsNull expr) ∧
    (Sql.HasComment expr.toList → ¬ Sql.IsPerRow expr)

/-- **The look from the outside** finds every default that is evaluated for each row, if it has no comment. -/
lemma not_isPerRow_of_hasConstantDefault (h : c.hasConstantDefault = true) {expr : String}
    (hexpr : c.defaultValue = some expr) (hcomment : ¬ Sql.HasComment expr.toList) :
    ¬ Sql.IsPerRow expr := by
  intro hrow
  obtain ⟨before, rest, hlist, hbefore, hrest⟩ := Sql.toList_of_isPerRow hrow hcomment
  have hblank : ∀ c ∈ before, Text.isBlank c = true := fun c hc => Text.isBlank_of_isSpacing (hbefore c hc)
  simp only [hasConstantDefault, hexpr, Bool.not_eq_true', Bool.or_eq_false_iff] at h
  obtain ⟨hparenthesis, hwords⟩ := h
  rcases hrest with hopen | ⟨word, hword, after, hrest, hafter⟩
  · obtain ⟨tail, rfl⟩ := List.head?_eq_some_iff.1 hopen
    have hhead : (Text.trim expr).toList.head? = some '(' := by
      rw [Text.trim, Text.trimWhile, String.toList_ofList, hlist,
        Text.head?_trimBoth hblank (by decide)]
    simp [hhead] at hparenthesis
  · obtain ⟨name, hname, hsame⟩ := List.any_eq_true.1 hword
    have htimes : ∀ name ∈ Sql.timeWords, name.toList.all (fun c => !Text.isBlank c) = true ∧
        Text.toAsciiUppercase name ∈ perRowDefaults := by decide
    have hnot : ∀ c ∈ word.toList, Text.isBlank c = false :=
      Text.all_not_isBlank_of_sameName hsame (htimes name hname).1
    have hends : Text.EndsOutside Text.isBlank word.toList :=
      ⟨fun c hc => hnot c (List.mem_of_mem_head? hc), fun c hc => hnot c (List.mem_of_mem_getLast? hc)⟩
    have htrim : Text.trim expr = word := by
      rw [Text.trim, Text.trimWhile, hlist, hrest, ← List.append_assoc,
        Text.trimBoth_append hblank fun c hc => Text.isBlank_of_isSpacing (hafter c hc),
        Text.trimBoth_of_ends hends, String.ofList_toList]
    have hcapital : Text.toAsciiUppercase word ∈ perRowDefaults := by
      rw [Text.toAsciiUppercase_eq_of_sameName hsame]
      exact (htimes name hname).2
    simp [htrim, hcapital] at hwords

/-- A column that the comparison adds in place can be added if its default is plain, and otherwise not. -/
lemma addable_toDef_iff (h : c.canAddInPlace = true) : (c.toDef true).Addable ↔ c.HasPlainDefault := by
  simp only [canAddInPlace, Bool.and_eq_true, Bool.not_eq_true', Bool.or_eq_false_iff,
    Bool.or_eq_true, Bool.and_eq_false_iff, Option.isSome_eq_false_iff, Option.isNone_iff_eq_none] at h
  obtain ⟨⟨⟨⟨hkey, hunique⟩, hfilled⟩, hconstant⟩, hreference⟩ := h
  have hdefault : ∀ expr, Sql.ColumnConstraint.default expr ∈ (c.toDef true).constraints ↔
      c.defaultValue = some expr := by
    simp [toDef]
  have hnotNull : Sql.ColumnConstraint.notNull ∈ (c.toDef true).constraints ↔ c.nullable = false := by
    simp [toDef]
  constructor
  · intro hadd expr hexpr
    refine ⟨fun hnull => ?_, fun _ => hadd.constant expr ((hdefault expr).2 hexpr)⟩
    obtain ⟨given, hgiven, hsome⟩ := hadd.filled (hnotNull.2 hnull)
    obtain rfl := Option.some.inj (((hdefault given).1 hgiven).symm.trans hexpr)
    exact hsome
  · intro hplain
    refine ⟨by simp [toDef, hkey], by simp [toDef, hunique], fun expr hexpr => ?_, fun hnull => ?_, ?_⟩
    · have hexpr := (hdefault expr).1 hexpr
      by_cases hcomment : Sql.HasComment expr.toList
      · exact (hplain expr hexpr).2 hcomment
      · exact not_isPerRow_of_hasConstantDefault hconstant hexpr hcomment
    · have hnull := hnotNull.1 hnull
      obtain ⟨expr, hexpr⟩ := Option.isSome_iff_exists.1 (hfilled.resolve_left (by simp [hnull]))
      exact ⟨expr, (hdefault expr).2 hexpr, (hplain expr hexpr).1 hnull⟩
    · intro table column onDelete href expr hexpr
      rcases hreference with hnone | hnone
      · simp [toDef, hnone] at href
      · rw [hdefault, hnone] at hexpr
        cases hexpr

end Column

/-! ## The additions of a migration -/

namespace Migration

variable {current target : Schema} {hints : RenameHints} {r : Renames} {allow : Bool} {version : Nat}
  {name : String} {m : Migration} {actions : List Action} {table : String} {d : Sql.ColumnDef}

/-- The columns that statements add are those that actions add. -/
lemma addColumn_mem_iff : .addColumn table d ∈ actions.flatMap (·.up) ++ downStatements actions ↔
    ∃ c, .addColumn table c ∈ actions ∧ d = c.toDef true := by
  simp only [downStatements, List.mem_append, List.mem_flatMap, addColumn_mem_up_iff,
    addColumn_not_mem_down, and_false, exists_false, or_false]
  constructor
  · rintro ⟨_, ha, c, rfl, hd⟩
    exact ⟨c, ha, hd⟩
  · rintro ⟨c, ha, hd⟩
    exact ⟨_, ha, c, rfl, hd⟩

/-- A column that an action adds is one that the comparison can add in place. -/
lemma Layout.canAddInPlace (l : Layout current target r) {c : Column}
    (h : .addColumn table c ∈ l.actions) : c.canAddInPlace = true := by
  obtain ⟨u, -, -, t, -, -, hkept, hc⟩ := l.addition_of_mem h
  exact (inPlace_columns hkept).1 c hc

/-- **The columns that a migration adds.**  For all schemas and hints, SQLite can add every column that the
statements of a migration add exactly if all these columns have plain defaults. -/
theorem compileDiff_additions_iff (h : compileDiff allow current target hints version name = .ok m) :
    (∀ table d, .addColumn table d ∈ m.actions.flatMap (·.up) ++ downStatements m.actions → d.Addable) ↔
      ∀ table c, .addColumn table c ∈ m.actions → c.HasPlainDefault := by
  obtain ⟨-, -, l, hactions⟩ := layout_of_compileDiff h
  rw [hactions]
  constructor
  · intro hadd table c hc
    exact (Column.addable_toDef_iff (l.canAddInPlace hc)).1
      (hadd table _ (addColumn_mem_iff.2 ⟨c, hc, rfl⟩))
  · intro hplain table d hd
    obtain ⟨c, hc, rfl⟩ := addColumn_mem_iff.1 hd
    exact (Column.addable_toDef_iff (l.canAddInPlace hc)).2 (hplain table c hc)

/-- Accounts with a number. -/
def accountSchema : Schema where
  tables := [{ name := "accounts", columns := [(Column.ofType "id" .integer).asPrimaryKey] }]
  relationships := []
  distinct := by decide +kernel

/-- Accounts with a plan, a note and an inviter. -/
def planSchema : Schema where
  tables := [{ name := "accounts", columns := [(Column.ofType "id" .integer).asPrimaryKey,
    (Column.ofType "plan" .text).withDefault "'free'", (Column.ofType "note" .text).asNullable,
    ((Column.ofType "inviter" .integer).asNullable).referring "accounts" "id"] }]
  relationships := []
  distinct := by decide +kernel

/-- Three columns are added, and all of them can be. -/
theorem planSchema_addable : ∃ m, compileDiff false accountSchema planSchema {} 1 "plans" = .ok m ∧
    m.actions.length = 3 ∧
    ∀ table d, .addColumn table d ∈ m.actions.flatMap (·.up) ++ downStatements m.actions → d.Addable := by
  obtain ⟨m, hm, hactions⟩ : ∃ m, compileDiff false accountSchema planSchema {} 1 "plans" = .ok m ∧
      m.actions = plainActions accountSchema planSchema {} := exists_compileDiff (by decide +kernel)
  have hplain : m.actions = (planSchema.tables.flatMap fun t => t.columns.drop 1).map
      (.addColumn "accounts") := hactions.trans (by decide +kernel)
  refine ⟨m, hm, by rw [hplain]; decide +kernel, (compileDiff_additions_iff hm).2 fun table c hc => ?_⟩
  have hfree : ∀ c ∈ planSchema.tables.flatMap fun t => t.columns.drop 1, ∀ expr ∈ c.defaultValue,
      Sql.lexemes expr = [.literal] := by decide +kernel
  obtain ⟨c', hc', heq⟩ := List.mem_map.1 (hplain ▸ hc)
  obtain ⟨-, rfl⟩ := Action.addColumn.inj heq
  intro expr hexpr
  have hliteral := hfree c' hc' expr hexpr
  exact ⟨fun _ hnull => by simp [Sql.IsNull, hliteral] at hnull,
    fun _ hrow => by simp [Sql.IsPerRow, hliteral] at hrow⟩

/-- Accounts whose plan is `NULL` unless it is given, and must be given. -/
def planlessSchema : Schema where
  tables := [{ name := "accounts", columns := [(Column.ofType "id" .integer).asPrimaryKey,
    (Column.ofType "plan" .text).withDefault "NULL"] }]
  relationships := []
  distinct := by decide +kernel

/-- The column is added in place, and the rows that are there get NULL, which they must not have. -/
theorem planlessSchema_not_addable : accountSchema.errors = [] ∧ planlessSchema.errors = [] ∧
    ∃ m d, compileDiff false accountSchema planlessSchema {} 1 "plans" = .ok m ∧
      .addColumn "accounts" d ∈ m.actions.flatMap (·.up) ∧ .notNull ∈ d.constraints ∧
      .default "NULL" ∈ d.constraints ∧ ¬ d.Addable := by
  obtain ⟨m, hm, hactions⟩ : ∃ m, compileDiff false accountSchema planlessSchema {} 1 "plans" = .ok m ∧
      m.actions = plainActions accountSchema planlessSchema {} := exists_compileDiff (by decide +kernel)
  refine ⟨by decide +kernel, by decide +kernel, m,
    ((Column.ofType "plan" .text).withDefault "NULL").toDef true, hm, by rw [hactions]; decide +kernel,
    by decide +kernel, by decide +kernel, fun hadd => ?_⟩
  have hnull : Sql.lexemes "NULL" = [.word "NULL"] := by decide +kernel
  exact ((Column.addable_toDef_iff (by decide +kernel)).1 hadd "NULL" rfl).1 rfl ⟨"NULL", hnull, by decide⟩

end Migration

end SchemaCompiler

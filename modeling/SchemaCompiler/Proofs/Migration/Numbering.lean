import Mathlib.Data.List.Basic
import Mathlib.Data.List.TakeWhile
import Mathlib.Order.MinMax
import SchemaCompiler.Project
import SchemaCompiler.Proofs.Migration.Layout

/-!
# The number of the next migration

Migrations are numbered on from the files in their directory.  What counts as the file of a migration is a
matter of its name: decimal digits, an underscore, a text without slashes, and the ending `.sql`.  Decimal
digits are there in many scripts, and there may be any number of them.  A number that is read, however, is
written in the digits of ASCII and not larger than `Migration.largestVersion`; a name with another number is
passed over without a word, as if it were not the name of a migration at all.  And behind the largest number
there is no next one.

* `Text.decimalValue?` — the value of a decimal digit of any script.
* `Migration.NamesMigration`, `Migration.numberOf` — the shape of a name, and the number in front of it.
* `versionOfFilename_eq_some_iff` — which numbers are read.
* `Project.NumbersFit` — the directories in which no number gets lost.
* `Project.nextNumber` — the number for the next migration, which `createMigration` gives it.
* **`Project.createMigration_number_iff`** — the next number is higher than all others exactly in the
  directories of this kind.

Time stamps do not fit: behind `20240501120000_init.sql` the numbers begin at one.
-/

namespace SchemaCompiler

/-! ## Decimal digits -/

/-- The zeros of all scripts that have decimal digits, in version 16 of the Unicode character database.  The
other nine digits follow each of them. -/
def Text.decimalZeros : List Nat := [
  0x30, 0x660, 0x6F0, 0x7C0, 0x966, 0x9E6, 0xA66, 0xAE6, 0xB66, 0xBE6, 0xC66, 0xCE6, 0xD66, 0xDE6,
  0xE50, 0xED0, 0xF20, 0x1040, 0x1090, 0x17E0, 0x1810, 0x1946, 0x19D0, 0x1A80, 0x1A90, 0x1B50, 0x1BB0,
  0x1C40, 0x1C50, 0xA620, 0xA8D0, 0xA900, 0xA9D0, 0xA9F0, 0xAA50, 0xABF0, 0xFF10, 0x104A0, 0x10D30,
  0x10D40, 0x11066, 0x110F0, 0x11136, 0x111D0, 0x112F0, 0x11450, 0x114D0, 0x11650, 0x116C0, 0x116D0,
  0x116DA, 0x11730, 0x118E0, 0x11950, 0x11BF0, 0x11C50, 0x11D50, 0x11DA0, 0x11F50, 0x16130, 0x16A60,
  0x16AC0, 0x16B50, 0x16D70, 0x1CCF0, 0x1D7CE, 0x1D7D8, 0x1D7E2, 0x1D7EC, 0x1D7F6, 0x1E140, 0x1E2F0,
  0x1E4F0, 0x1E5F1, 0x1E950, 0x1FBF0]

/-- The value of a decimal digit of any script. -/
def Text.decimalValue? (c : Char) : Option Nat :=
  (decimalZeros.find? fun first => first ≤ c.toNat && c.toNat < first + 10).map (c.toNat - ·)

/-- The digits of ASCII have the value that they are read with. -/
lemma Text.decimalValue?_of_isDigit {c : Char} (h : c.isDigit = true) :
    decimalValue? c = some (c.toNat - '0'.toNat) := by
  have hrange : 48 ≤ c.toNat ∧ c.toNat ≤ 57 := by
    simpa [Char.isDigit, UInt32.le_iff_toNat_le] using h
  rw [decimalValue?, decimalZeros, List.find?_cons_of_pos]
  · rfl
  · simp only [Bool.and_eq_true, decide_eq_true_eq]
    omega

namespace Migration

variable {name : String} {digits : List Char} {n : Nat}

/-! ## Numbers in front of names -/

/-- A file is named as that of a migration, with the given digits in front. -/
structure NamesMigration (name : String) (digits : List Char) : Prop where
  nonempty : digits ≠ []
  decimal : ∀ c ∈ digits, (Text.decimalValue? c).isSome = true
  shape : ∃ text : List Char, name.toList = digits ++ '_' :: (text ++ ".sql".toList) ∧
    '/' ∉ text ∧ '\\' ∉ text

/-- The decimal digits that a name begins with. -/
def leadingDigits (name : String) : List Char :=
  name.toList.takeWhile fun c => (Text.decimalValue? c).isSome

/-- The digits in front are all that there are up to the underscore. -/
lemma NamesMigration.digits_eq (h : NamesMigration name digits) : digits = leadingDigits name := by
  obtain ⟨text, hname, -, -⟩ := h.shape
  rw [leadingDigits, hname, List.takeWhile_append_of_pos h.decimal,
    List.takeWhile_cons_of_neg (by decide), List.append_nil]

/-- The number that decimal digits stand for, of whatever scripts they are. -/
def numberOf (digits : List Char) : Nat :=
  digits.foldl (fun n c => n * 10 + (Text.decimalValue? c).getD 0) 0

/-- Digits of ASCII, the only ones that a number is read from. -/
def Plain (digits : List Char) : Prop := ∀ c ∈ digits, c.isDigit = true

instance : DecidablePred Plain :=
  fun digits => List.decidableBAll (fun c : Char => c.isDigit = true) digits

lemma Plain.numberOf_eq (h : Plain digits) : numberOf digits = Text.digitsValue digits :=
  List.foldl_ext _ _ _ fun n c hc => by rw [Text.decimalValue?_of_isDigit (h c hc), Option.getD_some]

lemma Plain.decimal (h : Plain digits) : ∀ c ∈ digits, (Text.decimalValue? c).isSome = true :=
  fun c hc => by simp [Text.decimalValue?_of_isDigit (h c hc)]

lemma versionOfDigits_eq_some_iff :
    versionOfDigits digits = some n ↔ n = Text.digitsValue digits ∧ n ≤ largestVersion := by
  rw [versionOfDigits, Option.ite_none_right_eq_some]
  constructor
  · rintro ⟨hle, hn⟩
    cases hn
    exact ⟨rfl, hle⟩
  · rintro ⟨rfl, hle⟩
    exact ⟨hle, rfl⟩

/-- The end of a text is cut off where a given ending begins. -/
lemma length_le_and_drop_eq_iff {rest ending : List Char} :
    (rest.length ≥ ending.length ∧ rest.drop (rest.length - ending.length) = ending) ↔
      ∃ text, rest = text ++ ending := by
  constructor
  · rintro ⟨-, hdrop⟩
    have hcut := List.take_append_drop (rest.length - ending.length) rest
    rw [hdrop] at hcut
    exact ⟨_, hcut.symm⟩
  · rintro ⟨text, rfl⟩
    simp

/-- Once the digits are cut off, an underscore has to follow and the rest has to be a text with the
ending. -/
lemma versionOfFilename_of_cut {rest : List Char} (hplain : Plain digits)
    (hname : name.toList = digits ++ '_' :: rest) :
    versionOfFilename name = some n ↔ digits ≠ [] ∧
      (∃ text, rest = text ++ ".sql".toList ∧ '/' ∉ text ∧ '\\' ∉ text) ∧
      versionOfDigits digits = some n := by
  have htake : name.toList.takeWhile Char.isDigit = digits := by
    rw [hname, List.takeWhile_append_of_pos hplain, List.takeWhile_cons_of_neg (by decide),
      List.append_nil]
  have hdrop : name.toList.dropWhile Char.isDigit = '_' :: rest := by
    rw [hname, List.dropWhile_append_of_pos hplain, List.dropWhile_cons_of_neg (by decide)]
  have hslash : (rest.any fun c => c == '/' || c == '\\') = false ↔ '/' ∉ rest ∧ '\\' ∉ rest := by
    simp only [List.any_eq_false, Bool.or_eq_true, beq_iff_eq, not_or]
    exact ⟨fun h => ⟨fun hc => (h _ hc).1 rfl, fun hc => (h _ hc).2 rfl⟩,
      fun h c hc => ⟨fun e => h.1 (e ▸ hc), fun e => h.2 (e ▸ hc)⟩⟩
  rw [versionOfFilename, htake, hdrop]
  simp only [Option.ite_none_right_eq_some, Bool.and_eq_true, Bool.not_eq_true', decide_eq_true_eq,
    List.isEmpty_eq_false_iff, beq_iff_eq, hslash, and_assoc]
  refine and_congr_right fun _ => ?_
  rw [← and_assoc, length_le_and_drop_eq_iff]
  constructor
  · rintro ⟨⟨text, rfl⟩, hforward, hback, hvalue⟩
    exact ⟨⟨text, rfl, fun h => hforward (List.mem_append_left _ h),
      fun h => hback (List.mem_append_left _ h)⟩, hvalue⟩
  · rintro ⟨⟨text, rfl, hforward, hback⟩, hvalue⟩
    exact ⟨⟨text, rfl⟩, by simp [hforward], by simp [hback], hvalue⟩

/-- **The numbers that are read** stand in front of the name of a migration, in digits of ASCII, and are not
too large. -/
theorem versionOfFilename_eq_some_iff :
    versionOfFilename name = some n ↔
      ∃ digits, NamesMigration name digits ∧ Plain digits ∧ n = numberOf digits ∧
        n ≤ largestVersion := by
  constructor
  · intro h
    have hsplit := List.takeWhile_append_dropWhile (p := Char.isDigit) (l := name.toList)
    have hplain : Plain (name.toList.takeWhile Char.isDigit) := fun c hc => List.mem_takeWhile_imp hc
    cases hrest : name.toList.dropWhile Char.isDigit with
    | nil => simp [versionOfFilename, hrest] at h
    | cons c rest =>
        by_cases hc : c = '_'
        · subst hc
          rw [hrest] at hsplit
          obtain ⟨hne, ⟨text, rfl, hforward, hback⟩, hvalue⟩ :=
            (versionOfFilename_of_cut hplain hsplit.symm).1 h
          obtain ⟨hn, hle⟩ := versionOfDigits_eq_some_iff.1 hvalue
          exact ⟨_, ⟨hne, hplain.decimal, text, hsplit.symm, hforward, hback⟩, hplain,
            hn.trans hplain.numberOf_eq.symm, hle⟩
        · simp [versionOfFilename, hrest, hc] at h
  · rintro ⟨digits, ⟨hne, -, text, hname, hforward, hback⟩, hplain, hn, hle⟩
    exact (versionOfFilename_of_cut hplain hname).2 ⟨hne, ⟨text, rfl, hforward, hback⟩,
      versionOfDigits_eq_some_iff.2 ⟨hn.trans hplain.numberOf_eq, hle⟩⟩

/-! ## The version of a migration that is compiled -/

lemma version_of_compileActions {allow : Bool} {version : Nat} {actions : List Action} {target : Schema}
    {m : Migration} (h : compileActions allow version name actions target = .ok m) :
    m.version = version := by
  obtain ⟨-, -, _, _, -, -, rfl⟩ := compileActions_eq_ok_iff.1 h
  rfl

lemma version_of_compileInitial {allow : Bool} {version : Nat} {schema : Schema} {m : Migration}
    (h : compileInitial allow schema version name = .ok m) : m.version = version := by
  rw [compileInitial, refuseFaulty_bind_eq_ok_iff] at h
  obtain ⟨-, h⟩ := h
  cases horder : liftSchema schema.dependencyOrder with
  | error e => simp [horder, bind, Except.bind] at h
  | ok order =>
      rw [horder] at h
      exact version_of_compileActions h

lemma version_of_compileDiff {allow : Bool} {version : Nat} {current target : Schema}
    {hints : RenameHints} {m : Migration}
    (h : compileDiff allow current target hints version name = .ok m) : m.version = version := by
  obtain ⟨-, -, _, _, -, -, h⟩ := compileDiff_eq_ok_iff.1 h
  exact version_of_compileActions h

end Migration

namespace Project

open Migration (NamesMigration Plain numberOf largestVersion versionOfFilename
  versionOfFilename_eq_some_iff)

/-! ## The highest number -/

lemma le_foldl_max_iff {l : List Nat} {n a : Nat} : n ≤ l.foldl max a ↔ n ≤ a ∨ ∃ b ∈ l, n ≤ b := by
  induction l generalizing a with
  | nil => simp
  | cons b l ih => simp [ih, or_assoc]

/-- A number is not above the highest one exactly if it is not above one that is read. -/
lemma le_latestAmong_iff {names : List String} {n : Nat} :
    n ≤ latestAmong names ↔
      n = 0 ∨ ∃ file ∈ names, ∃ v, versionOfFilename file = some v ∧ n ≤ v := by
  rw [latestAmong, le_foldl_max_iff, Nat.le_zero]
  refine or_congr_right ⟨?_, ?_⟩
  · rintro ⟨v, hv, hle⟩
    obtain ⟨file, hfile, hread⟩ := List.mem_filterMap.1 hv
    exact ⟨file, hfile, v, hread, hle⟩
  · rintro ⟨file, hfile, v, hread, hle⟩
    exact ⟨v, List.mem_filterMap.2 ⟨file, hfile, hread⟩, hle⟩

/-- What the names in a directory have to be like for no number to get lost: no number is so large that
there is none behind it, and a number that is not written in digits of ASCII is not the highest one. -/
structure NumbersFit (names : List String) : Prop where
  small : ∀ file ∈ names, ∀ digits, NamesMigration file digits → numberOf digits < largestVersion
  plain : ∀ file ∈ names, ∀ digits, NamesMigration file digits → ¬ Plain digits →
    numberOf digits = 0 ∨ ∃ other ∈ names, ∃ digits', NamesMigration other digits' ∧ Plain digits' ∧
      numberOf digits ≤ numberOf digits'

/-- The numbers fit if the highest one is read and has a successor. -/
lemma numbersFit_iff {names : List String} :
    NumbersFit names ↔ latestAmong names < largestVersion ∧
      ∀ file ∈ names, ∀ digits, NamesMigration file digits → numberOf digits ≤ latestAmong names := by
  constructor
  · intro h
    have hlatest : latestAmong names < largestVersion := by
      rcases le_latestAmong_iff.1 (le_refl (latestAmong names)) with hzero | ⟨file, hfile, v, hread, hle⟩
      · rw [hzero]
        decide
      · obtain ⟨digits, hnames, -, rfl, -⟩ := versionOfFilename_eq_some_iff.1 hread
        exact lt_of_le_of_lt hle (h.small file hfile digits hnames)
    have hplain : ∀ file ∈ names, ∀ digits, NamesMigration file digits → Plain digits →
        numberOf digits ≤ latestAmong names := fun file hfile digits hnames hplain =>
      le_latestAmong_iff.2 (.inr ⟨file, hfile, _, versionOfFilename_eq_some_iff.2
        ⟨digits, hnames, hplain, rfl, (h.small file hfile digits hnames).le⟩, le_refl _⟩)
    refine ⟨hlatest, fun file hfile digits hnames => ?_⟩
    by_cases hp : Plain digits
    · exact hplain file hfile digits hnames hp
    · rcases h.plain file hfile digits hnames hp with hzero | ⟨other, hother, digits', hnames', hp', hle⟩
      · exact hzero ▸ Nat.zero_le _
      · exact hle.trans (hplain other hother digits' hnames' hp')
  · rintro ⟨hlatest, hall⟩
    refine ⟨fun file hfile digits hnames => lt_of_le_of_lt (hall file hfile digits hnames) hlatest,
      fun file hfile digits hnames _ => ?_⟩
    refine (le_latestAmong_iff.1 (hall file hfile digits hnames)).imp_right ?_
    rintro ⟨other, hother, v, hread, hle⟩
    obtain ⟨digits', hnames', hp', rfl, -⟩ := versionOfFilename_eq_some_iff.1 hread
    exact ⟨other, hother, digits', hnames', hp', hle⟩

/-- Among names with digits of ASCII only, the size of the numbers is all that counts. -/
lemma numbersFit_of_plain {names : List String}
    (h : ∀ file ∈ names, Plain (Migration.leadingDigits file) ∧
      numberOf (Migration.leadingDigits file) < largestVersion) : NumbersFit names := by
  refine ⟨fun file hfile digits hnames => ?_, fun file hfile digits hnames hno => ?_⟩
  · rw [hnames.digits_eq]
    exact (h file hfile).2
  · rw [hnames.digits_eq] at hno
    exact absurd (h file hfile).1 hno

/-! ## With files -/

section Files

variable {m : Type → Type} [Monad m] [MonadFiles m]

/-- The number for the next migration in a directory. -/
def nextNumber (directory : String) : ExceptT Error m Nat := do
  (History.startingAfter (← latestVersion directory)).nextVersion

/-- The next migration under a number, and its files. -/
def createNumbered (settings : Settings) (schema : Schema) (name : String) (options : MigrationOptions)
    (version : Nat) : ExceptT Error m (Migration × Artifacts) := do
  let snapshot ← loadSnapshot settings.migrations
  let migration ← compileNext settings.migrations options snapshot schema version name
  return (migration, ← migrationArtifacts settings.migrations schema migration)

/-- A migration is created under the next number. -/
lemma createMigration_eq [LawfulMonad m] (settings : Settings) (schema : Schema) (name : String)
    (options : MigrationOptions) :
    (createMigration settings schema name options : ExceptT Error m (Migration × Artifacts)) =
      nextNumber settings.migrations.directory >>= createNumbered settings schema name options := by
  simp only [createMigration, nextNumber, bind_assoc]
  rfl

end Files

/-! ## On a tree of files -/

variable {α β : Type} {t : FileTree} {directory : String}

/-- What an operation answers on a tree, and the tree afterwards. -/
def onTree (x : ExceptT Error (StateM FileTree) α) (t : FileTree) : Except Error α × FileTree :=
  x.run.run t

/-- Nothing follows an operation that fails. -/
lemma onTree_bind_error {x : ExceptT Error (StateM FileTree) α} {f : α → ExceptT Error (StateM FileTree) β}
    {e : Error} {t' : FileTree} (h : onTree x t = (.error e, t')) :
    onTree (x >>= f) t = (.error e, t') := by
  simp only [onTree, ExceptT.run_bind, StateT.run_bind] at h ⊢
  rw [h]
  rfl

lemma onTree_bind_ok {x : ExceptT Error (StateM FileTree) α} {f : α → ExceptT Error (StateM FileTree) β}
    {a : α} {t' : FileTree} (h : onTree x t = (.ok a, t')) :
    onTree (x >>= f) t = onTree (f a) t' := by
  simp only [onTree, ExceptT.run_bind, StateT.run_bind] at h ⊢
  rw [h]
  rfl

/-- What an operation answers that does another one first. -/
lemma exists_of_onTree_bind {x : ExceptT Error (StateM FileTree) α}
    {f : α → ExceptT Error (StateM FileTree) β} {b : β} {t' : FileTree}
    (h : onTree (x >>= f) t = (.ok b, t')) :
    ∃ a t₁, onTree x t = (.ok a, t₁) ∧ onTree (f a) t₁ = (.ok b, t') := by
  cases hx : onTree x t with
  | mk answer t₁ =>
      cases answer with
      | error e =>
          rw [onTree_bind_error hx] at h
          cases h
      | ok a => exact ⟨a, t₁, rfl, (onTree_bind_ok hx).symm.trans h⟩

/-- What needs no files leaves them alone. -/
lemma onTree_liftM (x : Except Error α) : onTree (liftM x) t = (x, t) := by
  cases x <;> rfl

lemma onTree_pure (a : α) : onTree (pure a) t = (.ok a, t) := rfl

/-- The names of what lies in a directory, if it is there. -/
def filesIn (t : FileTree) (directory : String) : List String := (t.entries? directory).getD []

/-- Under the path there is a directory or nothing at all. -/
def IsDirectoryOrFree (t : FileTree) (directory : String) : Prop :=
  t.holds directory = true → (t.entries? directory).isSome = true

lemma onTree_pathExists : onTree (MonadFiles.pathExists directory) t = (.ok (t.holds directory), t) := rfl

lemma onTree_entries : onTree (MonadFiles.entries directory) t = (.ok (t.entries? directory), t) := rfl

/-- A directory whose names can be listed is there. -/
lemma holds_of_entries {names : List String} (h : t.entries? directory = some names) :
    t.holds directory = true := by
  cases hplace : t.place? directory with
  | none => simp [FileTree.entries?, hplace] at h
  | some place =>
      have hdirectory : t.isDirectory place = true := by
        by_contra hno
        simp [FileTree.entries?, hplace, hno] at h
      simp [FileTree.holds, hplace, hdirectory]

lemma onTree_latestVersion (h : IsDirectoryOrFree t directory) :
    onTree (latestVersion directory) t = (.ok (latestAmong (filesIn t directory)), t) := by
  rw [latestVersion, onTree_bind_ok onTree_pathExists]
  cases hentries : t.entries? directory with
  | none =>
      have hfree : t.holds directory = false := by
        rw [← Bool.not_eq_true]
        exact fun hholds => by simpa [hentries] using h hholds
      rw [hfree, filesIn, hentries]
      rfl
  | some names =>
      rw [holds_of_entries hentries, if_pos rfl, onTree_bind_ok onTree_entries, filesIn, hentries]
      rfl

/-- **The next number follows the highest one**, as long as there is one more. -/
theorem onTree_nextNumber (h : IsDirectoryOrFree t directory) :
    onTree (nextNumber directory) t =
      (if latestAmong (filesIn t directory) < largestVersion
        then .ok (latestAmong (filesIn t directory) + 1) else .error .versionsExhausted, t) := by
  rw [nextNumber, onTree_bind_ok (onTree_latestVersion h), onTree_liftM]
  rfl

/-- The migration under a number has that number. -/
lemma version_of_createNumbered {settings : Settings} {schema : Schema} {name : String}
    {options : MigrationOptions} {version : Nat} {m : Migration} {files : Artifacts} {t' : FileTree}
    (h : onTree (createNumbered settings schema name options version) t = (.ok (m, files), t')) :
    m.version = version := by
  obtain ⟨snapshot, t₁, -, h⟩ := exists_of_onTree_bind h
  obtain ⟨m', t₂, hcompile, h⟩ := exists_of_onTree_bind h
  obtain ⟨files', t₃, -, h⟩ := exists_of_onTree_bind h
  rw [onTree_pure] at h
  rw [onTree_liftM] at hcompile
  cases h
  cases snapshot with
  | none => exact Migration.version_of_compileInitial (congrArg Prod.fst hcompile)
  | some current => exact Migration.version_of_compileDiff (congrArg Prod.fst hcompile)

/-- **The number of the next migration.**  There is a number for it, higher than the number in front of every
name in the directory that has the shape of a migration's, exactly if the names fit; and whatever the schema,
`createMigration` gives the migration the number that there is, or fails where there is none. -/
theorem createMigration_number_iff {settings : Settings}
    (hdirectory : IsDirectoryOrFree t settings.migrations.directory) :
    ((∃ version, onTree (nextNumber settings.migrations.directory) t = (.ok version, t) ∧
        ∀ file ∈ filesIn t settings.migrations.directory, ∀ digits,
          NamesMigration file digits → numberOf digits < version) ↔
      NumbersFit (filesIn t settings.migrations.directory)) ∧
    ∀ (schema : Schema) (name : String) (options : MigrationOptions),
      (∀ version, onTree (nextNumber settings.migrations.directory) t = (.ok version, t) →
        ∀ m files t', onTree (createMigration settings schema name options) t = (.ok (m, files), t') →
          m.version = version) ∧
      ∀ e, onTree (nextNumber settings.migrations.directory) t = (.error e, t) →
        onTree (createMigration settings schema name options) t = (.error e, t) := by
  refine ⟨?_, fun schema name options => ⟨fun version hnumber m files t' h => ?_, fun e hnumber => ?_⟩⟩
  · rw [onTree_nextNumber hdirectory, numbersFit_iff]
    constructor
    · rintro ⟨version, hnumber, habove⟩
      split_ifs at hnumber with hlatest
      · cases hnumber
        exact ⟨hlatest, fun file hfile digits hnames =>
          Nat.le_of_lt_succ (habove file hfile digits hnames)⟩
      · cases hnumber
    · rintro ⟨hlatest, hall⟩
      rw [if_pos hlatest]
      exact ⟨_, rfl, fun file hfile digits hnames =>
        Nat.lt_succ_of_le (hall file hfile digits hnames)⟩
  · rw [createMigration_eq, onTree_bind_ok hnumber] at h
    exact version_of_createNumbered h
  · rw [createMigration_eq]
    exact onTree_bind_error hnumber

/-! ## Some directories -/

/-- A tree with the given files in the usual directory for migrations. -/
def migrationTree (names : List String) : FileTree where
  files := names.map fun name => (["migrations", name], "")
  directories := [["migrations"]]

/-- Behind the first and the fourth migration comes the fifth. -/
theorem migrationTree_numbered :
    IsDirectoryOrFree (migrationTree ["0001_init.sql", "0004_add_posts.sql", "README.md"])
        ({} : Settings).migrations.directory ∧
      ∃ version, onTree (nextNumber ({} : Settings).migrations.directory)
          (migrationTree ["0001_init.sql", "0004_add_posts.sql", "README.md"]) =
            (.ok version, migrationTree ["0001_init.sql", "0004_add_posts.sql", "README.md"]) ∧
        ∀ file ∈ filesIn (migrationTree ["0001_init.sql", "0004_add_posts.sql", "README.md"])
            ({} : Settings).migrations.directory, ∀ digits,
          NamesMigration file digits → numberOf digits < version := by
  have hdirectory : IsDirectoryOrFree (migrationTree ["0001_init.sql", "0004_add_posts.sql", "README.md"])
      ({} : Settings).migrations.directory := fun _ => by decide
  refine ⟨hdirectory, (createMigration_number_iff hdirectory).1.2 (numbersFit_of_plain ?_)⟩
  decide

/-- **Numbers that get lost**: a time stamp, and a number in the digits of another script.  Both directories
begin again at one.  Behind the largest number there is none. -/
theorem migrationTree_lost :
    (NamesMigration "20240501120000_init.sql" "20240501120000".toList ∧
      numberOf "20240501120000".toList = 20240501120000 ∧
      onTree (nextNumber "migrations") (migrationTree ["20240501120000_init.sql"]) =
        (.ok 1, migrationTree ["20240501120000_init.sql"])) ∧
    (NamesMigration "٣_init.sql" ['٣'] ∧ numberOf ['٣'] = 3 ∧
      onTree (nextNumber "migrations") (migrationTree ["٣_init.sql"]) =
        (.ok 1, migrationTree ["٣_init.sql"])) ∧
    onTree (nextNumber "migrations") (migrationTree ["4294967295_init.sql"]) =
      (.error .versionsExhausted, migrationTree ["4294967295_init.sql"]) := by
  refine ⟨⟨⟨by decide, List.all_eq_true.1 (by decide), "init".toList, by decide, by decide, by decide⟩,
      by decide, rfl⟩,
    ⟨⟨by decide, List.all_eq_true.1 (by decide), "init".toList, by decide, by decide, by decide⟩,
      by decide, rfl⟩, rfl⟩

end Project

end SchemaCompiler

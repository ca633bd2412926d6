import SchemaCompiler.Proofs.Migration.Creation
import SchemaCompiler.Proofs.Migration.Numbering
import SchemaCompiler.Proofs.Sql.Tokens
import SchemaCompiler.Proofs.Text.Slugs

/-!
# The names of the files of migrations

The number of a migration is kept nowhere but in the name of its file.  It is written there in decimal
digits, with zeros in front, and an underscore and the readable part of the migration's name follow; and
from there it is read when the next migration is numbered.  A readable part may begin with digits too, and a
name may be made of slashes, but the digits in front end at the first underscore and the readable part has
no slashes.

So the number that is read is the number that was written, and one migration after the other continues the
count, whatever they are called and whatever else lies in the directory.

* `toList_filename` — the three parts of the name of a file.
* `versionOfFilename_filename` — the number that is read is the number that was written.
* `Migration.NamesBack` — what the name of a file gives back.
* `Project.OwnFile` — the file of a migration among those that are to be written.
* `Project.Successive` — migrations that are created one after the other, with their files in the directory.
* `Project.Successive.latestAmong_eq`, `Project.Counted` — the highest number, and the next one.
* **`Project.filenames_roundtrip`** — names of files, and the numbers of successive migrations.
-/

namespace SchemaCompiler

namespace Migration

variable {m : Migration} {width : Nat}

/-! ## The parts of a name -/

/-- The digits in front of the name of the file of a migration. -/
def filenameDigits (m : Migration) (width : Nat) : List Char := (Text.paddedDecimal width m.version).toList

lemma filenameDigits_eq (m : Migration) (width : Nat) :
    ∃ zeros, m.filenameDigits width = List.replicate zeros '0' ++ Nat.toDigits 10 m.version :=
  ⟨_, String.toList_ofList⟩

lemma plain_filenameDigits : Plain (m.filenameDigits width) := by
  obtain ⟨zeros, heq⟩ := filenameDigits_eq m width
  intro c hc
  rcases List.mem_append.1 (heq ▸ hc) with hc | hc
  · rw [(List.mem_replicate.1 hc).2]
    rfl
  · exact Nat.isDigit_of_mem_toDigits (by decide) (by decide) hc

lemma filenameDigits_ne_nil : m.filenameDigits width ≠ [] := by
  obtain ⟨zeros, heq⟩ := filenameDigits_eq m width
  rw [heq]
  exact List.append_ne_nil_of_right_ne_nil _ Nat.toDigits_ne_nil

/-- Zeros in front do not change a number. -/
lemma digitsValue_filenameDigits : Text.digitsValue (m.filenameDigits width) = m.version := by
  obtain ⟨zeros, heq⟩ := filenameDigits_eq m width
  have hzeros : ∀ k, (List.replicate k '0').foldl (fun n c => n * 10 + (c.toNat - '0'.toNat)) 0 = 0 := by
    intro k
    induction k with
    | zero => rfl
    | succ k ih => exact ih
  rw [heq, Text.digitsValue, List.foldl_append, hzeros]
  exact Sql.digitsValue_toDigits m.version

/-- **The name of a file**: digits, an underscore, the readable part, and the ending. -/
lemma toList_filename : (m.filename width).toList =
    m.filenameDigits width ++ '_' :: ((Naming.slug m.name).toList ++ ".sql".toList) := by
  simp [filename, filenameDigits]

/-- There is no slash in the readable part of a name. -/
lemma not_mem_slug (name : String) : '/' ∉ (Naming.slug name).toList ∧ '\\' ∉ (Naming.slug name).toList := by
  have hchars := (Naming.spaced_slug name).chars
  constructor <;> intro hmem <;> rcases hchars _ hmem with h | h <;>
    exact absurd h (by decide)

/-- There is no slash in the whole name. -/
lemma ne_slash_of_mem_filename {c : Char} (hc : c ∈ (m.filename width).toList) : c ≠ '/' ∧ c ≠ '\\' := by
  rw [toList_filename] at hc
  simp only [List.mem_append, List.mem_cons] at hc
  rcases hc with hdigit | rfl | hslug | hending
  · have hdigit := plain_filenameDigits c hdigit
    constructor <;> rintro rfl <;> exact absurd hdigit (by decide)
  · decide
  · obtain ⟨hforward, hback⟩ := not_mem_slug m.name
    exact ⟨fun h => hforward (h ▸ hslug), fun h => hback (h ▸ hslug)⟩
  · have hnone : ∀ c ∈ ".sql".toList, c ≠ '/' ∧ c ≠ '\\' := by simp
    exact hnone c hending

lemma namesMigration_filename : NamesMigration (m.filename width) (m.filenameDigits width) where
  nonempty := filenameDigits_ne_nil
  decimal := plain_filenameDigits.decimal
  shape := ⟨_, toList_filename, not_mem_slug m.name⟩

/-- **The number that is read is the number that was written.** -/
theorem versionOfFilename_filename (h : m.version ≤ largestVersion) :
    versionOfFilename (m.filename width) = some m.version :=
  versionOfFilename_eq_some_iff.2 ⟨_, namesMigration_filename, plain_filenameDigits,
    (plain_filenameDigits.numberOf_eq.trans digitsValue_filenameDigits).symm, h⟩

/-- **What the name of a file gives back**: the number, and behind it the readable part; and it is a name in
the directory and leads to no other one. -/
structure NamesBack (m : Migration) (width : Nat) : Prop where
  number : m.version ≤ largestVersion → versionOfFilename (m.filename width) = some m.version
  parts : ∃ digits, Plain digits ∧
    (m.filename width).toList = digits ++ '_' :: ((Naming.slug m.name).toList ++ ".sql".toList)
  inside : ∀ c ∈ (m.filename width).toList, c ≠ '/' ∧ c ≠ '\\'

theorem namesBack (m : Migration) (width : Nat) : NamesBack m width where
  number := versionOfFilename_filename
  parts := ⟨_, plain_filenameDigits, toList_filename⟩
  inside _ := ne_slash_of_mem_filename

/-- The name of the file of a migration is no path from the root. -/
lemma NamesMigration.isAbsolute_eq_false {name : String} {digits : List Char}
    (h : NamesMigration name digits) : Files.isAbsolute name = false := by
  obtain ⟨text, hname, -⟩ := h.shape
  obtain ⟨c, rest, rfl⟩ := List.exists_cons_of_ne_nil h.nonempty
  have hslash : c ≠ '/' := by
    rintro rfl
    exact absurd (h.decimal _ List.mem_cons_self) (by decide)
  simpa [Files.isAbsolute, hname] using hslash

end Migration

/-! ## Files by their paths -/

/-- Below one directory, different names are different paths. -/
lemma Files.join_inj {base a b : String} (ha : isAbsolute a = false) (hb : isAbsolute b = false) :
    join base a = join base b ↔ a = b := by
  rw [join, join, ha, hb, Bool.false_or]
  split_ifs
  · exact Iff.rfl
  · exact String.append_right_inj base
  · exact String.append_right_inj _

namespace Artifacts

lemma mem_put_self (path content : String) (files : Artifacts) :
    (path, content) ∈ files.put path content := by
  induction files with
  | nil => exact List.mem_singleton_self _
  | cons file rest ih =>
      rw [put]
      split_ifs
      · exact List.mem_cons_self
      · exact List.mem_cons_of_mem _ ih

lemma mem_put_of_ne {path content other text : String} {files : Artifacts} (h : (other, text) ∈ files)
    (hne : other ≠ path) : (other, text) ∈ files.put path content := by
  induction files with
  | nil => cases h
  | cons file rest ih =>
      rw [put]
      rcases List.mem_cons.1 h with rfl | h
      · rw [if_neg hne]
        exact List.mem_cons_self
      · split_ifs
        · exact List.mem_cons_of_mem _ h
        · exact List.mem_cons_of_mem _ (ih h)

lemma mem_of_mem_put {path content : String} {files : Artifacts} {file : String × String}
    (h : file ∈ files.put path content) : file = (path, content) ∨ file ∈ files := by
  induction files with
  | nil => exact .inl (List.mem_singleton.1 h)
  | cons first rest ih =>
      rw [put] at h
      split_ifs at h
      · exact (List.mem_cons.1 h).imp_right (List.mem_cons_of_mem _)
      · rcases List.mem_cons.1 h with rfl | h
        · exact .inr List.mem_cons_self
        · exact (ih h).imp_right (List.mem_cons_of_mem _)

/-- The first path stays the first one, whatever is put behind it or in its place. -/
lemma exists_head?_put {own text : String} {files : Artifacts} (h : files.head? = some (own, text))
    (path content : String) : ∃ text, (files.put path content).head? = some (own, text) := by
  cases files with
  | nil => cases h
  | cons first rest =>
      cases h
      rw [put]
      split_ifs with hpath
      · exact ⟨content, by rw [hpath]; rfl⟩
      · exact ⟨text, rfl⟩

end Artifacts

namespace Project

open Migration (NamesMigration largestVersion versionOfFilename versionOfFilename_eq_some_iff)

variable {directory : String} {t t₁ t' : FileTree} {migrations : List Migration} {settings : Settings}
  {schema : Schema} {name : String} {options : MigrationOptions} {m : Migration} {files : Artifacts}

/-! ## The files of a migration -/

/-- The files of a migration, put one after the other. -/
lemma exists_of_migrationArtifacts {settings : MigrationSettings}
    (h : migrationArtifacts settings schema m = .ok files) :
    ∃ trackingTable, files =
      Artifacts.put (Files.join settings.directory (settings.historyTable ++ ".sql")) trackingTable
        (Artifacts.put (snapshotPath settings) (SchemaDocument.ofSchema schema).toJson
          [(Files.join settings.directory (m.filename settings.versionWidth), m.renderFile)]) := by
  rw [migrationArtifacts] at h
  cases hddl : trackingTableDdl settings.historyTable with
  | error e =>
      rw [hddl] at h
      cases h
  | ok text =>
      rw [hddl] at h
      refine ⟨text, ?_⟩
      rw [← Except.ok.inj h, Artifacts.ofList, List.foldl_cons, List.foldl_cons, List.foldl_cons,
        List.foldl_nil]
      rfl

/-- What it took for a migration to be created. -/
lemma exists_of_createMigration
    (created : onTree (createMigration settings schema name options) t = (.ok (m, files), t₁)) :
    ∃ snapshot version, compileNext settings.migrations options snapshot schema version name = .ok m ∧
      migrationArtifacts settings.migrations schema m = .ok files := by
  rw [createMigration_eq] at created
  obtain ⟨version, t₂, -, created⟩ := exists_of_onTree_bind created
  obtain ⟨snapshot, t₃, -, created⟩ := exists_of_onTree_bind created
  obtain ⟨m', t₄, hcompile, created⟩ := exists_of_onTree_bind created
  obtain ⟨files', t₅, hfiles, created⟩ := exists_of_onTree_bind created
  rw [onTree_liftM] at hcompile hfiles
  rw [onTree_pure] at created
  cases created
  exact ⟨snapshot, version, congrArg Prod.fst hcompile, congrArg Prod.fst hfiles⟩

/-- The first file of a migration is its own. -/
lemma exists_head?_of_migrationArtifacts {settings : MigrationSettings}
    (h : migrationArtifacts settings schema m = .ok files) :
    ∃ text, files.head? = some (Files.join settings.directory (m.filename settings.versionWidth), text) := by
  obtain ⟨trackingTable, hput⟩ := exists_of_migrationArtifacts h
  obtain ⟨text, htext⟩ := Artifacts.exists_head?_put List.head?_cons (snapshotPath settings)
    (SchemaDocument.ofSchema schema).toJson
  rw [hput]
  exact Artifacts.exists_head?_put htext _ _

/-- Among the files of a migration the first one is its own, and lies in the directory under this name. -/
structure OwnFile (files : Artifacts) (directory file : String) : Prop where
  named : ∃ digits, NamesMigration file digits
  first : ∃ text, files.head? = some (Files.join directory file, text)

lemma ownFile_iff (created : onTree (createMigration settings schema name options) t = (.ok (m, files), t₁))
    {file : String} : OwnFile files settings.migrations.directory file ↔
      file = m.filename settings.migrations.versionWidth := by
  obtain ⟨-, -, -, hfiles⟩ := exists_of_createMigration created
  obtain ⟨text, hfirst⟩ := exists_head?_of_migrationArtifacts hfiles
  have hown : NamesMigration (m.filename settings.migrations.versionWidth) _ :=
    Migration.namesMigration_filename
  constructor
  · rintro ⟨⟨digits, hnames⟩, text', hfirst'⟩
    obtain ⟨hpath, -⟩ := Prod.mk.inj (Option.some.inj (hfirst'.symm.trans hfirst))
    exact (Files.join_inj hnames.isAbsolute_eq_false hown.isAbsolute_eq_false).1 hpath
  · rintro rfl
    exact ⟨⟨_, hown⟩, text, hfirst⟩

/-! ## One migration after the other -/

/-- A file that is named as that of a migration lies in the directory. -/
def HoldsMigration (t : FileTree) (directory file : String) : Prop :=
  file ∈ filesIn t directory ∧ ∃ digits, NamesMigration file digits

/-- **Migrations that are created one after the other.**  At first the directory holds no file that is named
as that of a migration, and after each of them it holds one more, the migration's own among the files that
came with it.  Everything else may change in between: the schema, the settings, the snapshot and all other
files. -/
inductive Successive (directory : String) : FileTree → List Migration → Prop
  | start {t : FileTree} (place : IsDirectoryOrFree t directory)
      (none : ∀ file, ¬ HoldsMigration t directory file) : Successive directory t []
  | next {t t₁ t' : FileTree} {migrations : List Migration} {settings : Settings} {schema : Schema}
      {name : String} {options : MigrationOptions} {m : Migration} {files : Artifacts}
      (before : Successive directory t migrations) (same : settings.migrations.directory = directory)
      (created : onTree (createMigration settings schema name options) t = (.ok (m, files), t₁))
      (place : IsDirectoryOrFree t' directory)
      (written : ∀ file, HoldsMigration t' directory file ↔
        HoldsMigration t directory file ∨ OwnFile files directory file) :
      Successive directory t' (migrations ++ [m])

/-- The highest number is that of files that are named as those of migrations. -/
lemma le_latestAmong_filesIn_iff {n : Nat} : n ≤ latestAmong (filesIn t directory) ↔
    n = 0 ∨ ∃ file, HoldsMigration t directory file ∧ ∃ v, versionOfFilename file = some v ∧
      n ≤ v := by
  rw [le_latestAmong_iff]
  refine or_congr_right ⟨?_, ?_⟩
  · rintro ⟨file, hfile, v, hread, hle⟩
    obtain ⟨digits, hnames, -⟩ := versionOfFilename_eq_some_iff.1 hread
    exact ⟨file, ⟨hfile, digits, hnames⟩, v, hread, hle⟩
  · rintro ⟨file, ⟨hfile, -⟩, v, hread, hle⟩
    exact ⟨file, hfile, v, hread, hle⟩

/-- **One more migration** has the number behind the highest one, and its file has the highest one then. -/
lemma latestAmong_of_created (place : IsDirectoryOrFree t settings.migrations.directory)
    (created : onTree (createMigration settings schema name options) t = (.ok (m, files), t₁))
    (written : ∀ file, HoldsMigration t' settings.migrations.directory file ↔
      HoldsMigration t settings.migrations.directory file ∨
        OwnFile files settings.migrations.directory file) :
    m.version = latestAmong (filesIn t settings.migrations.directory) + 1 ∧
      latestAmong (filesIn t' settings.migrations.directory) = m.version := by
  have hnumber := onTree_nextNumber place
  simp only [ownFile_iff created] at written
  rw [createMigration_eq] at created
  split_ifs at hnumber with hlatest
  · rw [onTree_bind_ok hnumber] at created
    have hversion := version_of_createNumbered created
    have hread : versionOfFilename (m.filename settings.migrations.versionWidth) = some m.version :=
      Migration.versionOfFilename_filename (hversion ▸ hlatest)
    refine ⟨hversion, le_antisymm ?_ ?_⟩
    · rcases le_latestAmong_filesIn_iff.1 (le_refl (latestAmong (filesIn t' settings.migrations.directory)))
        with hzero | ⟨file, hfile, v, hv, hle⟩
      · exact hzero ▸ Nat.zero_le _
      · rcases (written file).1 hfile with hold | rfl
        · have := le_latestAmong_filesIn_iff.2 (.inr ⟨file, hold, v, hv, le_refl v⟩)
          omega
        · rw [hread, Option.some.injEq] at hv
          exact hv ▸ hle
    · exact le_latestAmong_filesIn_iff.2 (.inr ⟨_, (written _).2 (.inr rfl), _, hread, le_refl _⟩)
  · rw [onTree_bind_error hnumber] at created
    cases created

namespace Successive

lemma isDirectoryOrFree (h : Successive directory t migrations) : IsDirectoryOrFree t directory := by
  cases h with
  | start place => exact place
  | next _ _ _ place _ => exact place

/-- The highest number is the number of migrations, and they are counted from one. -/
lemma latestAmong_eq (h : Successive directory t migrations) :
    latestAmong (filesIn t directory) = migrations.length ∧
      migrations.map (·.version) = List.range' 1 migrations.length := by
  induction h with
  | start place none =>
      refine ⟨Nat.le_zero.1 ?_, rfl⟩
      rcases le_latestAmong_filesIn_iff.1 (le_refl (latestAmong (filesIn _ directory)))
        with hzero | ⟨file, hfile, -⟩
      · exact hzero.le
      · exact absurd hfile (none file)
  | next before same created place written ih =>
      subst same
      obtain ⟨hversion, hlatest⟩ := latestAmong_of_created before.isDirectoryOrFree created written
      obtain ⟨hbefore, hcount⟩ := ih
      rw [hbefore] at hversion
      refine ⟨by rw [hlatest, hversion, List.length_append, List.length_singleton], ?_⟩
      rw [List.map_append, hcount, List.map_singleton, hversion, List.length_append, List.length_singleton,
        List.range'_concat, Nat.one_mul, Nat.add_comm 1]

end Successive

/-- **The migrations are counted**: from one on, and there is a next number as long as it is not too large. -/
structure Counted (directory : String) (t : FileTree) (migrations : List Migration) : Prop where
  versions : migrations.map (·.version) = List.range' 1 migrations.length
  next : onTree (nextNumber directory) t =
    (if migrations.length < largestVersion then .ok (migrations.length + 1) else .error .versionsExhausted, t)

/-- **Migrations that are created one after the other are counted.** -/
lemma Successive.counted (h : Successive directory t migrations) : Counted directory t migrations := by
  obtain ⟨hlatest, hversions⟩ := h.latestAmong_eq
  exact ⟨hversions, hlatest ▸ onTree_nextNumber h.isDirectoryOrFree⟩

/-- **Names of files give back what was written.**  From the name of a file its number is read, for every
name of a migration and every least number of digits; the readable part consists of words joined by single
underscores, so that there are no slashes in the name of the file, and of a readable part it is the readable
part again.  Migrations that are created one after the other, in a directory that holds none at first, are
therefore counted from one, and there is a next number as long as it is not too large. -/
theorem filenames_roundtrip :
    (∀ (m : Migration) (width : Nat), m.NamesBack width) ∧
    (∀ name, Naming.IsSlug (Naming.slug name).toList ∧ Naming.slug (Naming.slug name) = Naming.slug name) ∧
    ∀ directory t migrations, Successive directory t migrations → Counted directory t migrations :=
  ⟨Migration.namesBack, fun name => ⟨Naming.isSlug_slug name, Naming.slug_slug name⟩,
    fun _ _ _ => Successive.counted⟩

/-! ## Two migrations -/

/-- Where there is no snapshot, none is loaded. -/
lemma onTree_loadSnapshot_of_free (h : t.holds (snapshotPath settings.migrations) = false) :
    onTree (loadSnapshot settings.migrations) t = (.ok none, t) := by
  rw [loadSnapshot, onTree_bind_ok onTree_pathExists, h]
  rfl

/-- What it takes for a migration to be created under a number. -/
lemma onTree_createNumbered {snapshot : Option Schema} {version : Nat}
    (hsnapshot : onTree (loadSnapshot settings.migrations) t = (.ok snapshot, t))
    (hcompile : compileNext settings.migrations options snapshot schema version name = .ok m)
    (hfiles : migrationArtifacts settings.migrations schema m = .ok files) :
    onTree (createNumbered settings schema name options version) t = (.ok (m, files), t) := by
  rw [createNumbered, onTree_bind_ok hsnapshot, hcompile, onTree_bind_ok (onTree_liftM _), hfiles,
    onTree_bind_ok (onTree_liftM _), onTree_pure]

lemma filesIn_migrationTree (names : List String) : filesIn (migrationTree names) "migrations" = names := by
  have hname : ∀ name : String, FileTree.nameIn? ["migrations"] ["migrations", name] = some name :=
    fun _ => rfl
  have hplace : (migrationTree names).place? "migrations" = some ["migrations"] := rfl
  have hdirectory : (migrationTree names).isDirectory ["migrations"] = true := rfl
  have hnames : ((migrationTree names).files.map (·.1) ++ (migrationTree names).directories).filterMap
      (FileTree.nameIn? ["migrations"]) = names := by
    simp only [migrationTree, List.map_map, Function.comp_def, List.filterMap_append, List.filterMap_map,
      hname, List.filterMap_some]
    exact List.append_nil names
  rw [filesIn, FileTree.entries?, hplace, Option.bind_eq_bind, Option.bind_some, if_pos hdirectory, hnames]
  rfl

/-- The file of a migration that is added to those in the directory is the only one that is new. -/
lemma holdsMigration_of_append
    (created : onTree (createMigration settings schema name options) t = (.ok (m, files), t₁))
    (h : filesIn t' settings.migrations.directory =
      filesIn t settings.migrations.directory ++ [m.filename settings.migrations.versionWidth])
    (file : String) :
    HoldsMigration t' settings.migrations.directory file ↔
      HoldsMigration t settings.migrations.directory file ∨
        OwnFile files settings.migrations.directory file := by
  rw [ownFile_iff created, HoldsMigration, HoldsMigration, h, List.mem_append, List.mem_singleton,
    or_and_right]
  refine or_congr_right ⟨And.left, ?_⟩
  rintro rfl
  exact ⟨rfl, _, Migration.namesMigration_filename⟩

/-- A table of notes. -/
def noteSchema : Schema where
  tables := [{ name := "notes", columns := [(Column.ofType "id" .integer).asPrimaryKey] }]
  relationships := []
  distinct := by decide +kernel

/-- Notes are compiled under every number and name. -/
lemma exists_compileInitial_noteSchema (version : Nat) (name : String) :
    ∃ m, Migration.compileInitial false noteSchema version name = .ok m ∧ m.version = version ∧
      m.name = name := by
  have horder : noteSchema.dependencyOrder = .ok noteSchema.tables := by rfl
  obtain ⟨m, hm⟩ : ∃ m, Migration.compileActions false version name (noteSchema.tables.map .createTable)
      noteSchema = .ok m :=
    Migration.exists_compileActions_creations_iff.2 ⟨List.cons_ne_nil _ _, by decide +kernel⟩
  refine ⟨m, (Migration.compileInitial_eq_ok_iff (by decide +kernel) horder).2 hm, ?_⟩
  obtain ⟨-, -, up, down, -, -, rfl⟩ := Migration.compileActions_eq_ok_iff.1 hm
  exact ⟨rfl, rfl⟩

/-- One more migration for the notes, beside the files that there are. -/
lemma exists_createMigration_noteSchema (snapshotFile : String) (names : List String) (name : String)
    (hlatest : latestAmong names < largestVersion)
    (hfree : (migrationTree names).holds (snapshotPath { snapshotFile }) = false) :
    ∃ m files, m.version = latestAmong names + 1 ∧ m.name = name ∧
      onTree (createMigration { migrations := { snapshotFile } } noteSchema name {}) (migrationTree names) =
        (.ok (m, files), migrationTree names) := by
  obtain ⟨m, hm, hversion, hname⟩ := exists_compileInitial_noteSchema (latestAmong names + 1) name
  have hplace : IsDirectoryOrFree (migrationTree names) "migrations" := fun _ => rfl
  have hnumber := onTree_nextNumber hplace
  rw [filesIn_migrationTree, if_pos hlatest] at hnumber
  obtain ⟨files, hfiles⟩ : ∃ files, migrationArtifacts { snapshotFile } noteSchema m = .ok files := by
    have hwrites := (trackingTable "schema_migrations").render_writes
    have hnone : Sql.firstFault (trackingTable "schema_migrations").names = none := by decide +kernel
    rw [Sql.Writes, hnone] at hwrites
    obtain ⟨text, htext⟩ := hwrites
    exact ⟨_, by rw [migrationArtifacts, trackingTableDdl, htext]; rfl⟩
  refine ⟨m, files, hversion, hname, ?_⟩
  rw [createMigration_eq, onTree_bind_ok hnumber]
  exact onTree_createNumbered (onTree_loadSnapshot_of_free hfree) hm hfiles

/-- A name that begins with a number and one that has a slash give the first two numbers, beside a file that
is no migration's. -/
theorem noteSchema_counted : ∃ first second,
    Successive "migrations" (migrationTree ["README.md", "0001_2024_notes.sql", "0002_notes_again.sql"])
        [first, second] ∧
      [first.version, second.version] = [1, 2] ∧
      [first.filename 4, second.filename 4] = ["0001_2024_notes.sql", "0002_notes_again.sql"] ∧
      versionOfFilename "0001_2024_notes.sql" = some 1 := by
  obtain ⟨first, files, hversion, hname, hfirst⟩ := exists_createMigration_noteSchema
    ".schema_snapshot.json" ["README.md"] "2024: notes" (by decide) (by decide)
  obtain ⟨second, files', hversion', hname', hsecond⟩ := exists_createMigration_noteSchema
    ".schema_snapshot.json" ["README.md", "0001_2024_notes.sql"] "Notes/again" (by decide) (by decide)
  have hfilename : first.filename 4 = "0001_2024_notes.sql" := by
    rw [Migration.filename, hversion, hname]
    decide +kernel
  have hfilename' : second.filename 4 = "0002_notes_again.sql" := by
    rw [Migration.filename, hversion', hname']
    decide +kernel
  have hstart : Successive "migrations" (migrationTree ["README.md"]) [] := by
    refine .start (fun _ => rfl) ?_
    rintro file ⟨hfile, digits, hnames⟩
    rw [filesIn_migrationTree, List.mem_singleton] at hfile
    subst hfile
    exact hnames.nonempty (hnames.digits_eq.trans (by decide))
  have hone : Successive "migrations" (migrationTree ["README.md", "0001_2024_notes.sql"]) ([] ++ [first]) :=
    .next hstart rfl hfirst (fun _ => rfl) (holdsMigration_of_append hfirst (by
      rw [filesIn_migrationTree, filesIn_migrationTree, hfilename]
      rfl))
  have htwo : Successive "migrations"
      (migrationTree ["README.md", "0001_2024_notes.sql", "0002_notes_again.sql"]) ([first] ++ [second]) :=
    .next hone rfl hsecond (fun _ => rfl) (holdsMigration_of_append hsecond (by
      rw [filesIn_migrationTree, filesIn_migrationTree, hfilename']
      rfl))
  obtain ⟨hback, -, hcount⟩ := filenames_roundtrip
  refine ⟨first, second, htwo, (hcount _ _ _ htwo).versions, by rw [hfilename, hfilename'], ?_⟩
  rw [← hfilename, (hback first 4).number (by rw [hversion]; decide), hversion]
  rfl

end Project

end SchemaCompiler

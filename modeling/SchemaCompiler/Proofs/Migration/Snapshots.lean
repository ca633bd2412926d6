import SchemaCompiler.Proofs.Migration.FileNames
import SchemaCompiler.Proofs.Schema.Sameness
import SchemaCompiler.Proofs.Schema.YamlSnapshot
import SchemaCompiler.Proofs.Text.Lines

/-!
# Starting again from a snapshot

With every migration a snapshot of its schema is written, and the next migration starts from there.  The
snapshot is JSON, whatever its file is called.  It is read, however, like any other schema document: the
ending of the file's name says in which format.  The name of the file is a setting.

Where the name says that the file is JSON, the schema that is read is the one that was written, and a
further migration to the same schema has nothing to do.  Where it says TOML, or nothing at all, no further
migration can be created.  YAML is meant to have JSON in it, and there it depends on the characters of the
snapshot.

* `Files.eq_sql_of_extension?`, `Project.mem_migrationArtifacts` — the snapshot is not overwritten by
  another file.
* `Toml.parse_eq_none` — no TOML begins with a brace.
* `Project.documentAt`, `Project.schemaAt` — what is read from a file in a tree.
* `Project.schemaAt_eq_ok_iff` — when a snapshot is read as the schema it was written from.
* `Project.snapshotReadable_of_isVerbatim`, `Project.not_snapshotReadable_of_isAllowed` — snapshots as YAML.
* **`Project.snapshot_readsBack_iff`** — when a further migration finds that there is nothing to do.
-/

namespace SchemaCompiler

/-! ## Endings of paths -/

/-- A text without the separator goes behind the last piece. -/
lemma Text.splitPieces_append_of_notMem {separator : Char} {b : List Char} (h : separator ∉ b)
    (a : List Char) :
    ∃ ps p, splitPieces separator (a ++ b) = ps ++ [p ++ b] := by
  induction a with
  | nil =>
      obtain ⟨p, ps, hp, hb⟩ := splitPieces_prepend h []
      obtain ⟨rfl, rfl⟩ : [] = p ∧ [] = ps := List.cons.inj hp
      exact ⟨[], [], by simpa using hb⟩
  | cons c rest ih =>
      obtain ⟨ps, p, hps⟩ := ih
      by_cases hc : c = separator
      · exact ⟨[] :: ps, p, by rw [List.cons_append, splitPieces, if_pos hc, hps]; rfl⟩
      · rw [List.cons_append, splitPieces, if_neg hc, hps]
        cases ps with
        | nil => exact ⟨[], c :: p, rfl⟩
        | cons q qs => exact ⟨(c :: q) :: qs, p, rfl⟩

namespace Files

/-- The last name in the path of a file of SQL. -/
lemma getLast?_names_sql (path : String) :
    ∃ front, (names (path ++ ".sql")).getLast? = some (front ++ ".sql") := by
  have hslash : '/' ∉ ".sql".toList := by decide
  obtain ⟨ps, p, hpieces⟩ := Text.splitPieces_append_of_notMem hslash path.toList
  have hname : String.ofList (p ++ ".sql".toList) = String.ofList p ++ ".sql" := String.ofList_append
  have hpoint : String.ofList p ++ ".sql" ≠ "." := by
    intro h
    have hlength := congrArg (·.toList.length) h
    simp at hlength
  have hkept : (!((String.ofList p ++ ".sql").isEmpty || String.ofList p ++ ".sql" == ".")) = true := by
    simpa using hpoint
  refine ⟨String.ofList p, ?_⟩
  rw [names, Text.pieces, String.toList_append, hpieces, List.map_append, List.filter_append,
    List.map_singleton, hname, List.filter_singleton, hkept, cond_true, List.getLast?_concat]

/-- A file of SQL has that ending, if it has one. -/
lemma eq_sql_of_extension? {path ending : String} (h : extension? (path ++ ".sql") = some ending) :
    ending = "sql" := by
  obtain ⟨front, hlast⟩ := getLast?_names_sql path
  have hpieces : Text.pieces '.' (front ++ ".sql") = Text.pieces '.' front ++ ["sql"] := by
    have hdot : front.toList ++ ".sql".toList = front.toList ++ '.' :: "sql".toList := rfl
    rw [Text.pieces, String.toList_append, hdot, Text.splitPieces_append, List.map_append]
    rfl
  obtain ⟨name, hname, h⟩ := Option.bind_eq_some_iff.1 h
  rw [fileName?, hlast] at hname
  obtain ⟨hname, -⟩ := Option.filter_eq_some_iff.1 hname
  cases hname
  rw [hpieces, List.reverse_append, List.reverse_singleton, List.singleton_append] at h
  cases hbefore : (Text.pieces '.' front).reverse with
  | nil => simp [hbefore] at h
  | cons before earlier =>
      simp only [hbefore] at h
      split_ifs at h
      exact (Option.some.inj h).symm

/-- Below whatever directory, a file of SQL is one. -/
lemma exists_join_sql (base path : String) : ∃ front, join base (path ++ ".sql") = front ++ ".sql" := by
  rw [join]
  split_ifs
  · exact ⟨path, rfl⟩
  · exact ⟨base ++ path, (String.append_assoc ..).symm⟩
  · exact ⟨base ++ "/" ++ path, (String.append_assoc ..).symm⟩

end Files

/-- No schema document is kept in a file of SQL. -/
lemma DocumentFormat.ofPath_sql (base path : String) (format : DocumentFormat) :
    ofPath (Files.join base (path ++ ".sql")) ≠ .ok format := by
  obtain ⟨front, hfront⟩ := Files.exists_join_sql base path
  rw [hfront, ofPath]
  cases hending : Files.extension? (front ++ ".sql") with
  | none => rintro ⟨⟩
  | some ending =>
      obtain rfl := Files.eq_sql_of_extension? hending
      have hsmall : Text.toLowercase "sql" = "sql" := by decide +kernel
      rw [Option.map_some, hsmall]
      rintro ⟨⟩

/-! ## Other formats -/

namespace Toml

/-- No TOML begins with a brace. -/
lemma parse_eq_none {text : String} {rest : List Char} (h : text.toList = '\x7b' :: rest) :
    parse text = none := by
  rw [parse, h]
  rfl

end Toml

/-- A snapshot begins with a brace. -/
lemma SchemaDocument.exists_toList_toJson (d : SchemaDocument) :
    ∃ rest, d.toJson.toList = '\x7b' :: rest := by
  rw [toList_toJson, encode, Json.prettyChars, Json.spread]
  split_ifs
  · exact ⟨_, rfl⟩
  · exact ⟨_, rfl⟩

/-- A snapshot is never read as TOML. -/
lemma SchemaDocument.parse_toml_toJson (d : SchemaDocument) :
    SchemaDocument.parse .toml d.toJson = .error (.document .malformed) := by
  obtain ⟨rest, hrest⟩ := d.exists_toList_toJson
  rw [parse, DocumentFormat.toJson, Toml.parse_eq_none hrest]
  rfl

namespace Project

variable {settings : Settings} {schema : Schema} {name : String} {options : MigrationOptions} {m : Migration}
  {files : Artifacts} {t t₁ t' : FileTree} {path : String}

/-! ## The files of a migration -/

/-- The snapshot is among the files of a migration, unless its name is that of no document. -/
lemma mem_migrationArtifacts {settings : MigrationSettings} {format : DocumentFormat}
    (h : migrationArtifacts settings schema m = .ok files)
    (hformat : DocumentFormat.ofPath (snapshotPath settings) = .ok format) :
    (snapshotPath settings, (SchemaDocument.ofSchema schema).toJson) ∈ files := by
  have hne : ∀ path, snapshotPath settings ≠ Files.join settings.directory (path ++ ".sql") := fun path heq =>
    DocumentFormat.ofPath_sql settings.directory path format (heq ▸ hformat)
  obtain ⟨trackingTable, hput⟩ := exists_of_migrationArtifacts h
  rw [hput]
  exact Artifacts.mem_put_of_ne (Artifacts.mem_put_self _ _ _) (hne _)

/-- Only for a valid schema a migration is created. -/
lemma errors_of_compileNext {settings : MigrationSettings} {snapshot : Option Schema} {version : Nat}
    (h : compileNext settings options snapshot schema version name = .ok m) : schema.errors = [] := by
  cases snapshot with
  | none =>
      rw [compileNext, Migration.compileInitial, Migration.refuseFaulty_bind_eq_ok_iff] at h
      exact h.1
  | some current =>
      rw [compileNext, Migration.compileDiff, Migration.refuseFaulty_bind_eq_ok_iff] at h
      exact h.1

/-! ## What is read from a file -/

/-- The document in a file of a tree. -/
def documentAt (t : FileTree) (path : String) : Except Error SchemaDocument := do
  let format ← (DocumentFormat.ofPath path).mapError Error.settings
  match t.read? path with
  | some text => SchemaDocument.parse format text
  | none => .error .files

/-- The schema in a file of a tree. -/
def schemaAt (t : FileTree) (path : String) : Except Error Schema :=
  (documentAt t path).bind SchemaDocument.toSchema

lemma onTree_load : onTree (SchemaDocument.load path) t = (documentAt t path, t) := by
  rw [SchemaDocument.load, documentAt]
  cases DocumentFormat.ofPath path with
  | error e => rfl
  | ok format =>
      refine (onTree_bind_ok (onTree_liftM _)).trans ((onTree_bind_ok (a := t.read? path) rfl).trans ?_)
      cases t.read? path with
      | none => rfl
      | some text => exact onTree_liftM _

/-- The schema in the file of a snapshot. -/
def readSnapshot {m : Type → Type} [Monad m] [MonadFiles m] (path : String) : ExceptT Error m Schema := do
  let document ← SchemaDocument.load path
  document.toSchema

lemma onTree_readSnapshot : onTree (readSnapshot path) t = (schemaAt t path, t) := by
  rw [readSnapshot, schemaAt]
  cases hdocument : documentAt t path with
  | error e => exact onTree_bind_error (onTree_load.trans (by rw [hdocument]))
  | ok d => exact (onTree_bind_ok (onTree_load.trans (by rw [hdocument]))).trans (onTree_liftM _)

/-- A snapshot that is there is where the next migration starts. -/
lemma onTree_loadSnapshot (h : t.holds (snapshotPath settings.migrations) = true) :
    onTree (loadSnapshot settings.migrations) t =
      ((schemaAt t (snapshotPath settings.migrations)).map some, t) := by
  rw [loadSnapshot, onTree_bind_ok onTree_pathExists, h, if_pos rfl, schemaAt]
  cases hdocument : documentAt t (snapshotPath settings.migrations) with
  | error e => exact onTree_bind_error (onTree_load.trans (by rw [hdocument]))
  | ok d =>
      refine (onTree_bind_ok (onTree_load.trans (by rw [hdocument]))).trans ?_
      change _ = (d.toSchema.map some, t)
      cases d.toSchema <;> rfl

/-! ## When a snapshot is read -/

/-- **When the snapshot of a schema is read as what it is**: its name says that it is JSON, or the reader of
YAML finds in it what is there. -/
def SnapshotReadable (path : String) (schema : Schema) : Prop :=
  DocumentFormat.ofPath path = .ok .json ∨
    DocumentFormat.ofPath path = .ok .yaml ∧
      SchemaDocument.parse .yaml (SchemaDocument.ofSchema schema).toJson =
        .ok (SchemaDocument.ofSchema schema)

/-- A snapshot of characters that may stand in YAML for themselves is readable as YAML. -/
lemma snapshotReadable_of_isVerbatim (hyaml : DocumentFormat.ofPath path = .ok .yaml)
    (hverbatim : (SchemaDocument.ofSchema schema).toJson.toList.all Yaml.isVerbatim = true) :
    SnapshotReadable path schema :=
  .inr ⟨hyaml, SchemaDocument.parse_yaml_toJson _ hverbatim⟩

/-- A snapshot with a character that may not stand in YAML is not. -/
lemma not_snapshotReadable_of_isAllowed (hyaml : DocumentFormat.ofPath path = .ok .yaml)
    (hallowed : (SchemaDocument.ofSchema schema).toJson.toList.all Yaml.isAllowed = false) :
    ¬ SnapshotReadable path schema := by
  rintro (hjson | ⟨-, hparse⟩)
  · rw [hyaml] at hjson
    cases hjson
  · rw [SchemaDocument.parse_yaml_toJson_error hallowed] at hparse
    cases hparse

/-- What is read from a file that holds the snapshot of a schema. -/
lemma schemaAt_eq_ok_iff
    (hread : ∀ format, DocumentFormat.ofPath path = .ok format →
      t.read? path = some (SchemaDocument.ofSchema schema).toJson) :
    schemaAt t path = .ok schema ↔ SnapshotReadable path schema := by
  have hback := SchemaDocument.toSchema_ofSchema schema
  cases hformat : DocumentFormat.ofPath path with
  | error e => simp [schemaAt, documentAt, SnapshotReadable, hformat, Except.mapError, bind, Except.bind]
  | ok format =>
      have hdocument : documentAt t path =
          SchemaDocument.parse format (SchemaDocument.ofSchema schema).toJson := by
        rw [documentAt, hformat, hread format hformat]
        rfl
      rw [schemaAt, hdocument, SnapshotReadable, hformat]
      cases format with
      | toml => simp [SchemaDocument.parse_toml_toJson, Except.bind]
      | json => simp [SchemaDocument.parse_toJson, Except.bind, hback]
      | yaml =>
          cases hparse : SchemaDocument.parse .yaml (SchemaDocument.ofSchema schema).toJson with
          | error e => simp [Except.bind]
          | ok d =>
              simp only [Except.bind, reduceCtorEq, false_or, true_and, Except.ok.injEq]
              exact ⟨fun h => (SchemaDocument.ofSchema_of_toSchema h).symm, fun h => h ▸ hback⟩

/-! ## Another migration to the same schema -/

/-- From a valid schema to itself there is nothing to do, whatever the hints. -/
lemma compileNext_self {settings : MigrationSettings} {version : Nat} (herrors : schema.errors = []) :
    compileNext settings options (some schema) schema version name =
      .error (.migration (.emptyMigration name)) := by
  have hempty := SchemaDiff.isEmpty_between_self (Schema.valid_of_errors herrors) options.renames
  rw [compileNext, Migration.compileDiff, herrors]
  exact if_pos hempty

/-- **Nothing is left to do** where the schema is read from the snapshot. -/
lemma onTree_createMigration_self {version : Nat} (herrors : schema.errors = [])
    (hnumber : onTree (nextNumber settings.migrations.directory) t = (.ok version, t))
    (hholds : t.holds (snapshotPath settings.migrations) = true)
    (hschema : schemaAt t (snapshotPath settings.migrations) = .ok schema) :
    onTree (createMigration settings schema name options) t =
      (.error (.migration (.emptyMigration name)), t) := by
  have hsnapshot := onTree_loadSnapshot hholds
  rw [hschema] at hsnapshot
  rw [createMigration_eq, onTree_bind_ok hnumber, createNumbered, onTree_bind_ok hsnapshot,
    compileNext_self herrors]
  exact onTree_bind_error (onTree_liftM _)

/-- There is a next number, or the reason why there is none. -/
lemma onTree_nextNumber_cases (t : FileTree) (directory : String) :
    (∃ version, onTree (nextNumber directory) t = (.ok version, t)) ∨
      onTree (nextNumber directory) t = (.error .versionsExhausted, t) ∨
      onTree (nextNumber directory) t = (.error .files, t) := by
  by_cases hplace : IsDirectoryOrFree t directory
  · rw [onTree_nextNumber hplace]
    split_ifs
    · exact .inl ⟨_, rfl⟩
    · exact .inr (.inl rfl)
  · obtain ⟨hholds, hentries⟩ := Classical.not_imp.1 hplace
    refine .inr (.inr (onTree_bind_error ?_))
    rw [latestVersion, onTree_bind_ok onTree_pathExists, hholds, if_pos rfl, onTree_bind_ok onTree_entries,
      Option.not_isSome_iff_eq_none.1 hentries]
    rfl

/-- Only where there is a next number a migration is found to be empty. -/
lemma exists_nextNumber_of_emptyMigration {name' : String}
    (h : onTree (createMigration settings schema name options) t =
      (.error (.migration (.emptyMigration name')), t')) :
    ∃ version, onTree (nextNumber settings.migrations.directory) t = (.ok version, t) := by
  rcases onTree_nextNumber_cases t settings.migrations.directory with hnumber | hnone | hnone
  · exact hnumber
  all_goals
    rw [createMigration_eq, onTree_bind_error hnone] at h
    cases h

/-- **The snapshot of a schema can be read back**: the file holds the schema, and another migration to it
finds that there is nothing to do, whatever it is called and whatever the hints. -/
structure ReadsBack (settings : Settings) (schema : Schema) (t : FileTree) : Prop where
  loaded : onTree (readSnapshot (snapshotPath settings.migrations)) t = (.ok schema, t)
  nothing : ∀ name options, onTree (createMigration settings schema name options) t =
    (.error (.migration (.emptyMigration name)), t)

/-- The files of a migration hold its snapshot, unless its name is that of no document. -/
lemma read?_snapshot_of_created
    (created : onTree (createMigration settings schema name options) t = (.ok (m, files), t₁))
    (written : ∀ file ∈ files, t'.read? file.1 = some file.2) (format : DocumentFormat)
    (hformat : DocumentFormat.ofPath (snapshotPath settings.migrations) = .ok format) :
    t'.read? (snapshotPath settings.migrations) = some (SchemaDocument.ofSchema schema).toJson := by
  obtain ⟨-, -, -, hfiles⟩ := exists_of_createMigration created
  have hheld := written _ (mem_migrationArtifacts hfiles hformat)
  exact hheld

/-- What can be read back is read as what it is. -/
lemma ReadsBack.readable
    (created : onTree (createMigration settings schema name options) t = (.ok (m, files), t₁))
    (written : ∀ file ∈ files, t'.read? file.1 = some file.2) (h : ReadsBack settings schema t') :
    SnapshotReadable (snapshotPath settings.migrations) schema := by
  have hloaded := h.loaded
  rw [onTree_readSnapshot] at hloaded
  exact (schemaAt_eq_ok_iff (read?_snapshot_of_created created written)).1 (congrArg Prod.fst hloaded)

/-- What is readable is read back, as long as there is a number for another migration. -/
lemma readsBack_of_readable
    (created : onTree (createMigration settings schema name options) t = (.ok (m, files), t₁))
    (written : ∀ file ∈ files, t'.read? file.1 = some file.2)
    (hreadable : SnapshotReadable (snapshotPath settings.migrations) schema) {version : Nat}
    (hnumber : onTree (nextNumber settings.migrations.directory) t' = (.ok version, t')) :
    ReadsBack settings schema t' := by
  have hread := read?_snapshot_of_created created written
  obtain ⟨snapshot, number, hcompile, -⟩ := exists_of_createMigration created
  obtain ⟨format, hformat⟩ :
      ∃ format, DocumentFormat.ofPath (snapshotPath settings.migrations) = .ok format :=
    hreadable.elim (fun h => ⟨_, h⟩) fun h => ⟨_, h.1⟩
  have hholds : t'.holds (snapshotPath settings.migrations) = true := by
    rw [FileTree.holds, hread format hformat]
    exact Bool.or_true _
  have hloaded := (schemaAt_eq_ok_iff hread).2 hreadable
  exact ⟨by rw [onTree_readSnapshot, hloaded], fun name options =>
    onTree_createMigration_self (errors_of_compileNext hcompile) hnumber hholds hloaded⟩

/-- **When the written snapshot can be read back.**  A migration has been created, and its files hold what
they are to hold; whatever else has changed, its snapshot can be read back exactly if the ending of the
configured name lets it be read as what it is and there is a number for another migration.

An ending of YAML does so where all characters of the snapshot may stand in YAML for themselves, and does
not where one of them may not stand there at all. -/
theorem snapshot_readsBack_iff
    (created : onTree (createMigration settings schema name options) t = (.ok (m, files), t₁))
    (written : ∀ file ∈ files, t'.read? file.1 = some file.2) :
    (ReadsBack settings schema t' ↔
      SnapshotReadable (snapshotPath settings.migrations) schema ∧
        ∃ version, onTree (nextNumber settings.migrations.directory) t' = (.ok version, t')) ∧
    (DocumentFormat.ofPath (snapshotPath settings.migrations) = .ok .yaml →
      ((SchemaDocument.ofSchema schema).toJson.toList.all Yaml.isVerbatim = true →
        SnapshotReadable (snapshotPath settings.migrations) schema) ∧
      ((SchemaDocument.ofSchema schema).toJson.toList.all Yaml.isAllowed = false →
        ¬ SnapshotReadable (snapshotPath settings.migrations) schema)) := by
  refine ⟨⟨fun h => ?_, fun ⟨hreadable, _, hnumber⟩ =>
    readsBack_of_readable created written hreadable hnumber⟩,
    fun hyaml => ⟨snapshotReadable_of_isVerbatim hyaml, not_snapshotReadable_of_isAllowed hyaml⟩⟩
  exact ⟨h.readable created written, exists_nextNumber_of_emptyMigration (h.nothing "" {})⟩

/-! ## The first migration of some notes -/

/-- The first migration for the notes has been created and its files have been written, under the given name
for the snapshot; and there is a number for another one. -/
def NotesWritten (snapshotFile : String) (t : FileTree) : Prop :=
  ∃ m files, onTree (createMigration { migrations := { snapshotFile } } noteSchema "notes" {})
      (migrationTree []) = (.ok (m, files), migrationTree []) ∧
    (∀ file ∈ files, t.read? file.1 = some file.2) ∧
      ∃ version, onTree (nextNumber "migrations") t = (.ok version, t)

/-- The directory of the migrations with its three files. -/
def noteTree (snapshotFile migration trackingTable : String) : FileTree where
  files := [
    (["migrations", "0001_notes.sql"], migration),
    (["migrations", "schema_migrations.sql"], trackingTable),
    (["migrations", snapshotFile], (SchemaDocument.ofSchema noteSchema).toJson)]
  directories := [["migrations"]]

lemma read?_noteTree (snapshotFile migration trackingTable : String) :
    (noteTree snapshotFile migration trackingTable).read? "migrations/0001_notes.sql" = some migration ∧
      (noteTree snapshotFile migration trackingTable).read? "migrations/schema_migrations.sql" =
      some trackingTable :=
  ⟨rfl, rfl⟩

lemma exists_notesWritten (snapshotFile : String) {path : String}
    (hpath : snapshotPath { snapshotFile } = path) (hfree : (migrationTree []).holds path = false)
    (hread : ∀ migration trackingTable, (noteTree snapshotFile migration trackingTable).read? path =
      some (SchemaDocument.ofSchema noteSchema).toJson)
    (hlatest : latestAmong ["0001_notes.sql", "schema_migrations.sql", snapshotFile] = 1) :
    ∃ t, NotesWritten snapshotFile t := by
  obtain ⟨m, files, hversion, hname, hcreated⟩ :=
    exists_createMigration_noteSchema snapshotFile [] "notes" (by decide) (hpath ▸ hfree)
  have hmigration : Files.join "migrations" (m.filename 4) = "migrations/0001_notes.sql" := by
    rw [Migration.filename, hversion, hname]
    decide +kernel
  have htable : Files.join "migrations" ("schema_migrations" ++ ".sql") =
      "migrations/schema_migrations.sql" := rfl
  obtain ⟨-, -, -, hfiles⟩ := exists_of_createMigration hcreated
  obtain ⟨trackingTable, hput⟩ := exists_of_migrationArtifacts hfiles
  rw [hpath, hmigration, htable] at hput
  refine ⟨noteTree snapshotFile m.renderFile trackingTable, m, files, hcreated, fun file hfile => ?_, 2, ?_⟩
  · rw [hput] at hfile
    obtain ⟨hfirst, hlast⟩ := read?_noteTree snapshotFile m.renderFile trackingTable
    rcases Artifacts.mem_of_mem_put hfile with rfl | hfile
    · exact hlast
    · rcases Artifacts.mem_of_mem_put hfile with rfl | hfile
      · exact hread _ _
      · obtain rfl := List.mem_singleton.1 hfile
        exact hfirst
  · have hplace : IsDirectoryOrFree (noteTree snapshotFile m.renderFile trackingTable) "migrations" :=
      fun _ => rfl
    have hnames : filesIn (noteTree snapshotFile m.renderFile trackingTable) "migrations" =
        ["0001_notes.sql", "schema_migrations.sql", snapshotFile] := rfl
    rw [onTree_nextNumber hplace, hnames, hlatest]
    rfl

/-- Under the usual name a snapshot can be read back, and here under a name of YAML as well. -/
theorem noteSchema_snapshot_readsBack :
    (∃ t, NotesWritten ".schema_snapshot.json" t ∧ ReadsBack {} noteSchema t) ∧
    ∃ t, NotesWritten "snapshot.yaml" t ∧
      ReadsBack { migrations := { snapshotFile := "snapshot.yaml" } } noteSchema t := by
  obtain ⟨t, m, files, hcreated, hwritten, hnumber⟩ := exists_notesWritten ".schema_snapshot.json"
    rfl (by decide) (fun _ _ => rfl) (by decide)
  obtain ⟨t', m', files', hcreated', hwritten', hnumber'⟩ := exists_notesWritten "snapshot.yaml"
    rfl (by decide) (fun _ _ => rfl) (by decide)
  have hverbatim : (SchemaDocument.ofSchema noteSchema).toJson.toList.all Yaml.isVerbatim = true := by
    rw [SchemaDocument.toList_toJson]
    decide +kernel
  have hreadable := ((snapshot_readsBack_iff hcreated' hwritten').2 (by decide +kernel)).1 hverbatim
  exact ⟨⟨t, ⟨m, files, hcreated, hwritten, hnumber⟩,
      (snapshot_readsBack_iff hcreated hwritten).1.2 ⟨.inl (by decide +kernel), hnumber⟩⟩,
    t', ⟨m', files', hcreated', hwritten', hnumber'⟩,
      (snapshot_readsBack_iff hcreated' hwritten').1.2 ⟨hreadable, hnumber'⟩⟩

lemma NotesWritten.not_readsBack {snapshotFile : String} (h : NotesWritten snapshotFile t)
    (hjson : DocumentFormat.ofPath (snapshotPath { snapshotFile }) ≠ .ok .json)
    (hyaml : DocumentFormat.ofPath (snapshotPath { snapshotFile }) ≠ .ok .yaml) :
    ¬ ReadsBack { migrations := { snapshotFile } } noteSchema t := by
  obtain ⟨m, files, hcreated, hwritten, -⟩ := h
  exact fun hback => (hback.readable hcreated hwritten).elim hjson fun h => hyaml h.1

/-- **A snapshot that cannot be read back**: its name does not say in which format it is. -/
theorem noteSchema_snapshot_lost :
    ∃ t, NotesWritten "schema.snapshot" t ∧
      ¬ ReadsBack { migrations := { snapshotFile := "schema.snapshot" } } noteSchema t := by
  obtain ⟨t, ht⟩ := exists_notesWritten "schema.snapshot" rfl (by decide) (fun _ _ => rfl) (by decide)
  exact ⟨t, ht, ht.not_readsBack (by decide +kernel) (by decide +kernel)⟩

end Project

end SchemaCompiler

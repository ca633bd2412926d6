import Mathlib.Data.List.Nodup
import Mathlib.Data.List.Perm.Subperm
import SchemaCompiler.Access.Generator
import SchemaCompiler.Proofs.Access.Bindings
import SchemaCompiler.Proofs.Text.Capitals

/-!
# No file in the place of another

The files of access code are put one after the other, and a file that is put under a path in use replaces the
one before.  Each repository is named after its table, the file of all types and the list of modules have
fixed names.  On top of that a file system may take paths for the same that differ in case only.

* `Text.foldCase` — what a file system that ignores case sees of a text.
* `Artifacts.length_ofList_eq_iff` — files are all kept exactly if no path is used twice.
* `nodup_of_firstConflict` — names without a conflict are different.
* `Intact` — every file that belongs to a schema is there once, and no two paths are the same.
* **`generate_intact_iff`** — when the files are intact.

There are two ways for a file to get lost.  The check for names that are the same runs over the tables only,
so a table `mod` takes the place of the list of modules of Rust.  And it compares small forms, in which a
sigma differs according to its place in the word; a file system compares character by character.
-/

namespace SchemaCompiler

open Sql (bind_eq_ok_iff)

/-! ## Ignoring case -/

namespace Text

/-- A character without its case: characters that have a capital or a small form in common become one.  Only
the small i without a dot is kept apart from the one with a dot. -/
def foldChar (c : Char) : List Char :=
  if c = 'ı' then ['ı'] else ((lowerOf c).flatMap upperOf).flatMap lowerOf

/-- A text without case, character by character. -/
def foldCase (s : String) : List Char := s.toList.flatMap foldChar

lemma foldCase_append (a b : String) : foldCase (a ++ b) = foldCase a ++ foldCase b := by
  rw [foldCase, String.toList_append, List.flatMap_append]
  rfl

lemma foldChar_ascii {c : Char} (hc : c.toNat < 128) : foldChar c = [c.toLower] := by
  obtain ⟨hdotless, hlower, hupper, hback⟩ : c ≠ 'ı' ∧ c.toLower.toNat < 128 ∧
      c.toLower.toUpper.toNat < 128 ∧ c.toLower.toUpper.toLower = c.toLower :=
    forall_of_ascii (P := fun c => c ≠ 'ı' ∧ c.toLower.toNat < 128 ∧ c.toLower.toUpper.toNat < 128 ∧
      c.toLower.toUpper.toLower = c.toLower) (by decide +kernel) hc
  rw [foldChar, if_neg hdotless, lowerOf_ascii hc, List.flatMap_singleton, upperOf_ascii hlower,
    List.flatMap_singleton, lowerOf_ascii hupper, hback]

/-- **In ASCII** folding the case is taking the small form. -/
lemma foldCase_ascii {s : String} (h : ∀ c ∈ s.toList, c.toNat < 128) :
    foldCase s = (toLowercase s).toList := by
  have hlower : ∀ (cs before : List Char), (∀ c ∈ cs, c.toNat < 128) →
      lowercaseAfter before cs = cs.flatMap foldChar := by
    intro cs
    induction cs with
    | nil => exact fun _ _ => rfl
    | cons c rest ih =>
        intro before hcs
        obtain ⟨hc, hrest⟩ := List.forall_mem_cons.1 hcs
        have hsigma : c ≠ 'Σ' := by
          rintro rfl
          exact absurd hc (by decide)
        rw [lowercaseAfter, if_neg hsigma, ih (c :: before) hrest, lowerOf_ascii hc, List.flatMap_cons,
          foldChar_ascii hc]
  rw [toLowercase, String.toList_ofList, hlower _ _ h, foldCase]

end Text

/-! ## Putting files -/

namespace Artifacts

variable {files acc : Artifacts} {path content : String}

lemma keys_put (path content : String) (files : Artifacts) :
    (files.put path content).map (·.1) =
      if path ∈ files.map (·.1) then files.map (·.1) else files.map (·.1) ++ [path] := by
  induction files with
  | nil => simp [put]
  | cons f rest ih =>
      rw [put]
      by_cases h : f.1 = path
      · simp [h]
      · simp only [if_neg h, List.map_cons, ih, List.mem_cons, Ne.symm h, false_or]
        split_ifs <;> rfl

/-- A file under a new path is put at the end. -/
lemma put_of_notMem (h : path ∉ files.map (·.1)) : files.put path content = files ++ [(path, content)] := by
  induction files with
  | nil => rfl
  | cons f rest ih =>
      obtain ⟨hne, hrest⟩ := not_or.1 (mt List.mem_cons.2 h)
      rw [put, if_neg (Ne.symm hne), ih hrest]
      rfl

/-- The paths are those of all files, each once. -/
lemma keys_foldl_put (files acc : Artifacts) (hacc : (acc.map (·.1)).Nodup) :
    ((files.foldl (fun a f => a.put f.1 f.2) acc).map (·.1)).Nodup ∧
      ∀ path, path ∈ (files.foldl (fun a f => a.put f.1 f.2) acc).map (·.1) ↔
        path ∈ acc.map (·.1) ∨ path ∈ files.map (·.1) := by
  induction files generalizing acc with
  | nil => simp [hacc]
  | cons f rest ih =>
      have hput : ((acc.put f.1 f.2).map (·.1)).Nodup ∧
          ∀ path, path ∈ (acc.put f.1 f.2).map (·.1) ↔ path ∈ acc.map (·.1) ∨ path = f.1 := by
        rw [keys_put]
        split_ifs with h
        · exact ⟨hacc, fun path => ⟨.inl, fun h' => h'.elim id (fun e => e ▸ h)⟩⟩
        · refine ⟨List.nodup_append.2 ⟨hacc, List.nodup_singleton _, fun a ha b hb e => h ?_⟩,
            fun path => by simp⟩
          rwa [← List.mem_singleton.1 hb, ← e]
      obtain ⟨hnodup, hmem⟩ := ih _ hput.1
      refine ⟨hnodup, fun path => ?_⟩
      rw [List.foldl_cons, hmem, hput.2, List.map_cons, List.mem_cons, or_assoc]

/-- **Files under different paths** are all kept as they are. -/
lemma ofList_eq_self (h : (files.map (·.1)).Nodup) : ofList files = files := by
  have hall : ∀ (files acc : Artifacts), ((acc ++ files).map (·.1)).Nodup →
      files.foldl (fun a f => a.put f.1 f.2) acc = acc ++ files := by
    intro files
    induction files with
    | nil => simp
    | cons f rest ih =>
        intro acc hnodup
        have hnew : f.1 ∉ acc.map (·.1) := by
          rw [List.map_append, List.nodup_append] at hnodup
          exact fun hmem => hnodup.2.2 _ hmem _ List.mem_cons_self rfl
        rw [List.foldl_cons, put_of_notMem hnew, ih _ (by simpa using hnodup)]
        simp
  exact hall files [] h

/-- **No file is replaced exactly if no path is used twice**, and this can be seen from the number of
files. -/
theorem length_ofList_eq_iff : (ofList files).length = files.length ↔ (files.map (·.1)).Nodup := by
  refine ⟨fun hlength => ?_, fun h => by rw [ofList_eq_self h]⟩
  obtain ⟨hnodup, hmem⟩ := keys_foldl_put files [] List.nodup_nil
  have hsubperm := List.subperm_of_subset hnodup fun path h =>
    ((hmem path).1 h).elim (fun h => absurd h List.not_mem_nil) id
  refine (hsubperm.perm_of_length_le ?_).nodup_iff.1 hnodup
  rw [List.length_map, List.length_map]
  exact Nat.le_of_eq hlength.symm

/-- Of files under different paths each is the only one with its path. -/
lemma filter_path (h : (files.map (·.1)).Nodup) {f : String × String} (hf : f ∈ files) :
    files.filter (·.1 = f.1) = [f] := by
  obtain ⟨before, after, rfl⟩ := List.append_of_mem hf
  rw [List.map_append, List.map_cons, List.nodup_middle, List.nodup_cons, ← List.map_append] at h
  have hother : ∀ g ∈ before ++ after, ¬ decide (g.1 = f.1) = true := fun g hg e =>
    h.1 (List.mem_map.2 ⟨g, hg, of_decide_eq_true e⟩)
  rw [List.filter_append, List.filter_cons_of_pos (by simp),
    List.filter_eq_nil_iff.2 fun g hg => hother g (List.mem_append_left _ hg),
    List.filter_eq_nil_iff.2 fun g hg => hother g (List.mem_append_right _ hg), List.nil_append]

end Artifacts

/-! ## Conflicts -/

namespace Naming

lemma pairwise_of_conflictsAfter {key : String → String} {seen : List (String × String)}
    {names : List String} (h : conflictsAfter key seen names = []) :
    (∀ name ∈ names, seen.lookup (key name) = none) ∧
      names.Pairwise fun a b => key a ≠ key b := by
  induction names generalizing seen with
  | nil => simp
  | cons name rest ih =>
      rw [conflictsAfter] at h
      cases hseen : seen.lookup (key name) with
      | some first => simp [hseen] at h
      | none =>
          rw [hseen] at h
          obtain ⟨hrest, hpair⟩ := ih h
          have hnew : ∀ other ∈ rest, key name ≠ key other ∧ seen.lookup (key other) = none := by
            intro other hother
            have hlookup := hrest other hother
            rw [List.lookup_cons] at hlookup
            split at hlookup
            · cases hlookup
            · exact ⟨fun e => by simp_all, hlookup⟩
          exact ⟨List.forall_mem_cons.2 ⟨hseen, fun other h => (hnew other h).2⟩,
            List.pairwise_cons.2 ⟨fun other h => (hnew other h).1, hpair⟩⟩

/-- **Without a conflict** all names differ, in their small forms if case is ignored. -/
lemma nodup_of_firstConflict {names : List String} {ignoreCase : Bool}
    (h : firstConflict names ignoreCase = none) :
    (names.map (if ignoreCase then Text.toLowercase else id)).Nodup := by
  have hnil : conflicts names ignoreCase = [] := by
    simpa [firstConflict] using h
  exact List.pairwise_map.2 (pairwise_of_conflictsAfter hnil).2

end Naming

namespace Access

variable {schema : Schema} {language : TargetLanguage} {pageSize : Nat} {ps : List Plan}
  {files : Artifacts}

/-- Names that are not refused have no conflict. -/
lemma nodup_of_refuseConflict {scope : NameScope} {names : List String} {ignoreCase : Bool} {u : Unit}
    (h : refuseConflict scope names ignoreCase = .ok u) :
    (names.map (if ignoreCase then Text.toLowercase else id)).Nodup := by
  cases hconflict : Naming.firstConflict names ignoreCase with
  | some name => simp [refuseConflict, hconflict] at h
  | none => exact Naming.nodup_of_firstConflict hconflict

/-! ## The files of a schema -/

/-- What there is to know about the plans of a schema: one for each table, and the names of their files have
different small forms. -/
lemma plans_eq_ok (h : plans schema language = .ok ps) :
    List.Forall₂ (fun t p => Plan.ofTable t language = .ok p) schema.tables ps ∧
      (ps.map fun p => Text.toLowercase p.fileStem).Nodup := by
  obtain ⟨_, -, h⟩ := bind_eq_ok_iff.1 h
  obtain ⟨ps', hps, h⟩ := bind_eq_ok_iff.1 h
  obtain ⟨_, -, h⟩ := bind_eq_ok_iff.1 h
  obtain ⟨_, hmodules, h⟩ := bind_eq_ok_iff.1 h
  obtain rfl := Except.ok.inj h
  refine ⟨Sql.forall₂_of_mapM_eq_ok hps, ?_⟩
  simpa [List.map_map, Function.comp_def] using nodup_of_refuseConflict hmodules

/-- A plan is made for the language that is asked for. -/
lemma language_of_mem (h : List.Forall₂ (fun t p => Plan.ofTable t language = .ok p) schema.tables ps)
    {p : Plan} (hp : p ∈ ps) : p.language = language := by
  obtain ⟨t, -, ht⟩ := Plan.exists_of_forall₂ h hp
  exact (Plan.ofTable_eq_ok ht).1

/-- The files of a schema before they are put one after the other. -/
def allFiles (language : TargetLanguage) (pageSize : Nat) (ps : List Plan) : Artifacts :=
  typesFile language ps :: indexFiles language ps ++ ps.map (repositoryFile pageSize)

/-- **Nothing is lost.**  No two paths are the same, not even where case is ignored; the file of all types
and, in Rust, the list of modules are there once and unchanged, and so is the repository of each table; and
there is nothing else. -/
structure Intact (language : TargetLanguage) (pageSize : Nat) (ps : List Plan) (files : Artifacts) :
    Prop where
  apart : (files.map fun f => Text.foldCase f.1).Nodup
  types : files.filter (·.1 = (typesFile language ps).1) = [typesFile language ps]
  index : language = .rust →
    files.filter (·.1 = "repositories/mod.rs") = [("repositories/mod.rs", Rust.indexSource ps)]
  repositories : ∀ p ∈ ps,
    files.filter (·.1 = (repositoryFile pageSize p).1) = [repositoryFile pageSize p]
  length : files.length = 1 + (indexFiles language ps).length + ps.length

/-- The files are intact exactly if their paths are different without case. -/
lemma intact_ofList_iff :
    Intact language pageSize ps (Artifacts.ofList (allFiles language pageSize ps)) ↔
      ((allFiles language pageSize ps).map fun f => Text.foldCase f.1).Nodup := by
  have hpaths : ∀ files : Artifacts, (files.map fun f => Text.foldCase f.1) =
      (files.map (·.1)).map Text.foldCase := fun files => by simp
  have hlength : (allFiles language pageSize ps).length =
      1 + (indexFiles language ps).length + ps.length := by
    simp [allFiles]
    omega
  constructor
  · intro h
    have hnodup := Artifacts.length_ofList_eq_iff.1 (h.length.trans hlength.symm)
    have hkept := h.apart
    rwa [Artifacts.ofList_eq_self hnodup] at hkept
  · intro h
    have hnodup : ((allFiles language pageSize ps).map (·.1)).Nodup := by
      rw [hpaths] at h
      exact h.of_map
    rw [Artifacts.ofList_eq_self hnodup]
    refine ⟨h, Artifacts.filter_path hnodup List.mem_cons_self, fun hrust => ?_, fun p hp =>
      Artifacts.filter_path hnodup ?_, hlength⟩
    · subst hrust
      exact Artifacts.filter_path hnodup (f := ("repositories/mod.rs", Rust.indexSource ps))
        (List.mem_cons_of_mem _ List.mem_cons_self)
    · exact List.mem_cons_of_mem _ (List.mem_append_right _ (List.mem_map_of_mem hp))

/-- The names of the tables' files differ, and none of them is taken already. -/
structure StemsApart (language : TargetLanguage) (ps : List Plan) : Prop where
  tables : (ps.map fun p => Text.foldCase p.fileStem).Nodup
  /-- In Rust the list of modules has a name of its own in their directory. -/
  index : language = .rust → ∀ p ∈ ps, Text.foldCase p.fileStem ≠ Text.foldCase "mod"

/-- The ending of the files of a language. -/
def ending : TargetLanguage → String
  | .typeScript => ".ts"
  | .rust => ".rs"

lemma repositoryFile_path (p : Plan) :
    (repositoryFile pageSize p).1 = "repositories/" ++ p.fileStem ++ ending p.language := by
  unfold repositoryFile ending
  cases p.language <;> rfl

/-- The path of a repository without case, from the name of the file without case. -/
def foldedPath (language : TargetLanguage) (stem : List Char) : List Char :=
  Text.foldCase "repositories/" ++ stem ++ Text.foldCase (ending language)

lemma foldCase_path (p : Plan) :
    Text.foldCase (repositoryFile pageSize p).1 = foldedPath p.language (Text.foldCase p.fileStem) := by
  simp only [repositoryFile_path, Text.foldCase_append, foldedPath]

lemma foldedPath_injective (language : TargetLanguage) : Function.Injective (foldedPath language) :=
  fun _ _ h => List.append_cancel_left (List.append_cancel_right h)

/-- The file of all types lies outside of the directory of the repositories. -/
lemma foldCase_types_ne (language : TargetLanguage) (ps : List Plan) (stem : List Char) :
    Text.foldCase (typesFile language ps).1 ≠ foldedPath language stem := by
  have htypes : ["types.ts", "models.rs"].all fun path => (Text.foldCase path).head? != some 'r' := by
    decide +kernel
  have hdirectory : (Text.foldCase "repositories/").head? = some 'r' := by decide +kernel
  have hpath : (typesFile language ps).1 ∈ ["types.ts", "models.rs"] := by
    cases language <;> simp [typesFile, TypeScript.typesFile, Rust.modelsFile]
  have hhead := List.all_eq_true.1 htypes _ hpath
  intro h
  rw [h, foldedPath, List.append_assoc, List.head?_append, hdirectory] at hhead
  simp at hhead

/-- **The paths differ exactly if the names of the tables' files do.** -/
lemma nodup_allFiles_iff (hlanguage : ∀ p ∈ ps, p.language = language) :
    ((allFiles language pageSize ps).map fun f => Text.foldCase f.1).Nodup ↔ StemsApart language ps := by
  set stems := ps.map fun p => Text.foldCase p.fileStem with hstems
  have hrepositories : (ps.map (repositoryFile pageSize)).map (fun f => Text.foldCase f.1) =
      stems.map (foldedPath language) := by
    rw [hstems, List.map_map, List.map_map]
    refine List.map_congr_left fun p hp => ?_
    rw [Function.comp_apply, foldCase_path, hlanguage p hp]
    rfl
  have htables : (stems.map (foldedPath language)).Nodup ↔ stems.Nodup :=
    List.nodup_map_iff (foldedPath_injective language)
  have htypes : Text.foldCase (typesFile language ps).1 ∉ stems.map (foldedPath language) := fun h => by
    obtain ⟨stem, -, hstem⟩ := List.mem_map.1 h
    exact foldCase_types_ne language ps stem hstem.symm
  have hmod : Text.foldCase "repositories/mod.rs" = foldedPath .rust (Text.foldCase "mod") := by
    decide +kernel
  cases language with
  | typeScript =>
      have hall : (allFiles .typeScript pageSize ps).map (fun f => Text.foldCase f.1) =
          Text.foldCase (typesFile .typeScript ps).1 :: stems.map (foldedPath .typeScript) := by
        rw [← hrepositories]
        rfl
      rw [hall, List.nodup_cons, htables]
      exact ⟨fun h => ⟨h.2, nofun⟩, fun h => ⟨htypes, h.tables⟩⟩
  | rust =>
      have hall : (allFiles .rust pageSize ps).map (fun f => Text.foldCase f.1) =
          Text.foldCase (typesFile .rust ps).1 :: foldedPath .rust (Text.foldCase "mod")
            :: stems.map (foldedPath .rust) := by
        rw [← hrepositories, ← hmod]
        rfl
      have hindex : foldedPath .rust (Text.foldCase "mod") ∉ stems.map (foldedPath .rust) ↔
          ∀ p ∈ ps, Text.foldCase p.fileStem ≠ Text.foldCase "mod" := by
        rw [List.mem_map_of_injective (foldedPath_injective .rust), hstems, List.mem_map]
        simp only [not_exists, not_and]
      rw [hall, List.nodup_cons, List.nodup_cons, htables, hindex, List.mem_cons, not_or]
      exact ⟨fun h => ⟨h.2.2, fun _ => h.2.1⟩,
        fun h => ⟨⟨foldCase_types_ne .rust ps _, htypes⟩, h.index rfl, h.tables⟩⟩

/-- Among names in ASCII the check for conflicts is enough to keep the tables' files apart. -/
lemma nodup_stems_of_ascii (h : (ps.map fun p => Text.toLowercase p.fileStem).Nodup)
    (hascii : ∀ p ∈ ps, ∀ c ∈ p.fileStem.toList, c.toNat < 128) :
    (ps.map fun p => Text.foldCase p.fileStem).Nodup := by
  have hfolded : (ps.map fun p => Text.foldCase p.fileStem) =
      (ps.map fun p => Text.toLowercase p.fileStem).map String.toList := by
    rw [List.map_map]
    exact List.map_congr_left fun p hp => Text.foldCase_ascii (hascii p hp)
  rw [hfolded]
  exact h.map fun _ _ => String.toList_injective

/-- Plans lead to files, and these are intact exactly if the names of the tables' files are apart. -/
lemma generate_of_plans (pageSize : Nat) (h : plans schema language = .ok ps) :
    ∃ files, generate schema language pageSize = .ok files ∧
      (Intact language pageSize ps files ↔ StemsApart language ps) := by
  refine ⟨Artifacts.ofList (allFiles language pageSize ps), by rw [generate, h]; rfl, ?_⟩
  exact intact_ofList_iff.trans (nodup_allFiles_iff fun p hp => language_of_mem (plans_eq_ok h).1 hp)

/-- **The files of a schema** are intact exactly if the names of the tables' files stay different without
case and, in Rust, none of them is that of the list of modules.  For names in ASCII the first is always the
case. -/
theorem generate_intact_iff (h : generate schema language pageSize = .ok files) :
    ∃ ps, plans schema language = .ok ps ∧
      List.Forall₂ (fun t p => Plan.ofTable t language = .ok p) schema.tables ps ∧
      (Intact language pageSize ps files ↔ StemsApart language ps) ∧
      ((∀ p ∈ ps, ∀ c ∈ p.fileStem.toList, c.toNat < 128) →
        (Intact language pageSize ps files ↔
          (language = .rust → ∀ p ∈ ps, Text.foldCase p.fileStem ≠ Text.foldCase "mod"))) := by
  obtain ⟨ps, hps, -⟩ := bind_eq_ok_iff.1 h
  obtain ⟨htables, hsmall⟩ := plans_eq_ok hps
  obtain ⟨files', hfiles, hintact⟩ := generate_of_plans pageSize hps
  obtain rfl := Except.ok.inj (hfiles.symm.trans h)
  exact ⟨ps, hps, htables, hintact, fun hascii => hintact.trans ⟨fun h => h.index, fun hindex =>
    ⟨nodup_stems_of_ascii hsmall hascii, hindex⟩⟩⟩

/-! ## Some schemas -/

/-- A table that has nothing but a number. -/
def numberedTable (name : String) : Table where
  name := name
  columns := [{ name := "id", scalarType := .integer, primaryKey := true }]

/-- A schema of such tables. -/
def numberedSchema (names : List String)
    (h : names.Pairwise fun a b => Text.sameName a b = false) : Schema where
  tables := names.map numberedTable
  relationships := []
  distinct := List.pairwise_map.2 h

/-- Plans whose files have known names. -/
lemma exists_plans (schema : Schema) (language : TargetLanguage) (stems : List String)
    (h : (plans schema language).toOption.map (·.map (·.fileStem)) = some stems) :
    ∃ ps, plans schema language = .ok ps ∧ ps.map (·.fileStem) = stems :=
  Plan.exists_ok h

/-- The names of the files are apart, as far as they are known. -/
lemma stemsApart_iff {stems : List String} (h : ps.map (·.fileStem) = stems) :
    StemsApart language ps ↔ (stems.map Text.foldCase).Nodup ∧
      (language = .rust → Text.foldCase "mod" ∉ stems.map Text.foldCase) := by
  subst h
  rw [List.map_map]
  exact ⟨fun h => ⟨h.tables, fun hrust hmem => by
      obtain ⟨p, hp, hstem⟩ := List.mem_map.1 hmem
      exact h.index hrust p hp hstem⟩,
    fun h => ⟨h.1, fun hrust p hp hstem => h.2 hrust (List.mem_map.2 ⟨p, hp, hstem⟩)⟩⟩

/-- Two tables of which neither is named like the list of modules. -/
def blogSchema : Schema := numberedSchema ["users", "Posts"] (by decide)

/-- The four files of the schema are all there. -/
theorem blogSchema_intact : ∃ files, generate blogSchema .rust 50 = .ok files ∧
    ∃ ps, plans blogSchema .rust = .ok ps ∧ Intact .rust 50 ps files := by
  obtain ⟨ps, hps, hstems⟩ := exists_plans blogSchema .rust ["users", "posts"] (by decide +kernel)
  obtain ⟨files, hfiles, -⟩ := generate_of_plans 50 hps
  obtain ⟨ps', hps', -, hintact, -⟩ := generate_intact_iff hfiles
  obtain rfl := Except.ok.inj (hps.symm.trans hps')
  exact ⟨files, hfiles, ps, hps, hintact.2 ((stemsApart_iff hstems).2 (by decide +kernel))⟩

/-- A table that is named like the list of modules. -/
def modSchema : Schema := numberedSchema ["mod"] (by decide)

/-- Two tables whose names differ in the last letter only, and that by case. -/
def sigmaSchema : Schema := numberedSchema ["ΒΑΣ", "ΒΑσ"] (by decide)

/-- **Files that get lost**: the list of modules, and on a file system that ignores case one of two
repositories. -/
theorem modSchema_not_intact :
    (∃ files ps, generate modSchema .rust 50 = .ok files ∧ plans modSchema .rust = .ok ps ∧
      ¬ Intact .rust 50 ps files) ∧
    ∃ files ps, generate sigmaSchema .typeScript 50 = .ok files ∧ plans sigmaSchema .typeScript = .ok ps ∧
      ¬ Intact .typeScript 50 ps files := by
  constructor
  · obtain ⟨ps, hps, hstems⟩ := exists_plans modSchema .rust ["mod"] (by decide +kernel)
    obtain ⟨files, hfiles, hintact⟩ := generate_of_plans 50 hps
    refine ⟨files, ps, hfiles, hps, ?_⟩
    rw [hintact, stemsApart_iff hstems]
    decide +kernel
  · obtain ⟨ps, hps, hstems⟩ := exists_plans sigmaSchema .typeScript ["ΒΑΣ", "ΒΑσ"] (by decide +kernel)
    obtain ⟨files, hfiles, hintact⟩ := generate_of_plans 50 hps
    refine ⟨files, ps, hfiles, hps, ?_⟩
    rw [hintact, stemsApart_iff hstems]
    decide +kernel

end Access

end SchemaCompiler

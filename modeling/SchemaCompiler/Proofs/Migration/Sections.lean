import SchemaCompiler.Proofs.Migration.Creation
import SchemaCompiler.Proofs.Sql.Lines

/-!
# The sections of a migration file

The file of a migration is cut into sections by two marker lines.  A runner finds the statements by these
lines and by nothing else, so the file is only as good as the promise that no other line looks like a marker,
and that nothing in front of the first one is a statement.  The file keeps the promise for what it writes
itself.  It does not keep it for texts that it is given: the name of the migration and the names in its
warnings go into the header as they are, and names, raw SQL and comments go into the statements, line feeds
included.  A line feed in a name ends the comment that the name stands in.

* `sectionsOf` — the sections as a reader of the file takes them.
* `ReadsBack` — the file has each marker once, no statement in front of them, and the right sections.
* `readsBack_iff` — a file reads back exactly if no line of the given texts is taken for another one.
* `MarkersKept`, `SingleLines` — the same for what a migration is compiled from, and a simple condition.
* **`compiled_readsBack_iff`** — which compiled migrations read back from their files.
-/

namespace SchemaCompiler.Migration

open Text (pieces Unbroken unbroken_append isBlankText)

/-! ## Reading a file -/

/-- The text of a section, without the blank line or line feed at its end. -/
def sectionText (lines : List String) : String := "\n".intercalate lines.dropLast

/-- Whether a line is one of the markers. -/
def isMarker (line : String) : Bool := line == upMarker || line == downMarker

/-- Whether a line is blank or a comment. -/
def isRemark (line : String) : Bool := isBlankText line || "--".toList.isPrefixOf line.toList

/-- The sections behind the first up marker and behind the first down marker after it. -/
def sectionsOf (file : String) : Option (String × String) :=
  match (pieces '\n' file).dropWhile (· != upMarker) with
  | [] => none
  | _ :: rest =>
    match rest.dropWhile (· != downMarker) with
    | [] => none
    | _ :: down => some (sectionText (rest.takeWhile (· != downMarker)), sectionText down)

/-- The file of a migration can be taken apart at its markers. -/
structure ReadsBack (m : Migration) : Prop where
  up_once : (pieces '\n' m.renderFile).count upMarker = 1
  down_once : (pieces '\n' m.renderFile).count downMarker = 1
  /-- Nothing is run that stands before the sections. -/
  header : ∀ line ∈ (pieces '\n' m.renderFile).takeWhile (· != upMarker), isRemark line
  sections : sectionsOf m.renderFile = some (m.upSql, m.downSql)

/-! ## The lines of a file -/

variable {m : Migration}

/-- The texts of the header, each of which ends in a line feed. -/
def headerTexts (m : Migration) : List String :=
  ("-- Migration " ++ Text.decimal m.version ++ ": " ++ m.name)
    :: (if m.requiresBackup then
      ["-- Take a backup before applying: this migration rewrites or removes data"] else [])
    ++ m.warnings.map fun w => "-- WARNING: " ++ w.message

lemma join_terminated (first backup : String) (flag : Bool) (rest : List String) :
    first ++ "\n" ++ (if flag then backup ++ "\n" else "") ++ String.join (rest.map (· ++ "\n")) =
      String.join ((first :: (if flag then [backup] else []) ++ rest).map (· ++ "\n")) := by
  cases flag <;> simp [String.join_cons, String.append_assoc]

lemma header_eq (m : Migration) : m.header = String.join (m.headerTexts.map (· ++ "\n")) := by
  have hbackup : "-- Take a backup before applying: this migration rewrites or removes data\n" =
      "-- Take a backup before applying: this migration rewrites or removes data" ++ "\n" := by
    decide +kernel
  rw [headerTexts, ← join_terminated, List.map_map, ← hbackup]
  rfl

lemma pieces_terminated (texts : List String) (t : String) :
    pieces '\n' (String.join (texts.map (· ++ "\n")) ++ t) =
      texts.flatMap (pieces '\n') ++ pieces '\n' t := by
  induction texts with
  | nil => simp
  | cons text rest ih =>
      rw [List.map_cons, String.join_cons, String.append_assoc, String.append_assoc, Text.pieces_append, ih,
        List.flatMap_cons, List.append_assoc]

/-- The lines of the header. -/
def headerLines (m : Migration) : List String := m.headerTexts.flatMap (pieces '\n')

lemma pieces_renderFile (m : Migration) :
    pieces '\n' m.renderFile = m.headerLines ++ "" :: upMarker :: (pieces '\n' m.upSql
      ++ "" :: downMarker :: (pieces '\n' m.downSql ++ [""])) := by
  have hfile : m.renderFile = String.join (m.headerTexts.map (· ++ "\n")) ++ ("" ++ ("\n" ++ (upMarker
      ++ ("\n" ++ (m.upSql ++ ("\n\n" ++ (downMarker ++ ("\n" ++ (m.downSql ++ ("\n" ++ "")))))))))) := by
    simp only [renderFile, header_eq, String.append_assoc, String.empty_append, String.append_empty]
  have hup : pieces '\n' upMarker = [upMarker] := Text.pieces_of_unbroken (by decide)
  have hdown : pieces '\n' downMarker = [downMarker] := Text.pieces_of_unbroken (by decide)
  rw [hfile, pieces_terminated, Text.pieces_append, Text.pieces_append, Text.pieces_append_blank,
    Text.pieces_append, Text.pieces_append, hup, hdown, Text.pieces_empty]
  rfl

/-- A line of the header that is taken for one. -/
def isHarmless (line : String) : Bool := isRemark line && !isMarker line

lemma isMarker_eq_false {line : String} (h : line.toList[3]? ≠ some '+') : isMarker line = false := by
  rw [isMarker, Bool.or_eq_false_iff, beq_eq_false_iff_ne, beq_eq_false_iff_ne]
  constructor
  · rintro rfl
    exact h (by decide)
  · rintro rfl
    exact h (by decide)

/-- The header is as it should be exactly if the texts that it is given do not break out of their lines, or
break into lines that do no harm. -/
lemma forall_mem_headerLines_iff : (∀ line ∈ m.headerLines, isHarmless line) ↔
    (∀ line ∈ (pieces '\n' m.name).tail, isHarmless line) ∧
      ∀ w ∈ m.warnings, ∀ line ∈ (pieces '\n' w.message).tail, isHarmless line := by
  have hname : (∀ line ∈ pieces '\n' ("-- Migration " ++ Text.decimal m.version ++ ": " ++ m.name),
      isHarmless line) ↔ ∀ line ∈ (pieces '\n' m.name).tail, isHarmless line := by
    refine Text.forall_mem_pieces_prepend
      (by simp only [unbroken_append, Sql.unbroken_decimal, and_true]; decide)
      (fun t => ?_) m.name
    simp [isHarmless, isRemark, isMarker_eq_false]
  have hwarning (w : Warning) : (∀ line ∈ pieces '\n' ("-- WARNING: " ++ w.message), isHarmless line) ↔
      ∀ line ∈ (pieces '\n' w.message).tail, isHarmless line := by
    refine Text.forall_mem_pieces_prepend (by decide) (fun t => ?_) w.message
    simp [isHarmless, isRemark, isMarker_eq_false]
  have hbackup : ∀ text ∈ (if m.requiresBackup then
      ["-- Take a backup before applying: this migration rewrites or removes data"] else []),
      ∀ line ∈ pieces '\n' text, isHarmless line := by
    have hline : Unbroken "-- Take a backup before applying: this migration rewrites or removes data" := by
      decide
    split
    · simp [Text.pieces_of_unbroken hline, isHarmless, isRemark, isMarker_eq_false]
    · simp
  rw [headerLines, List.forall_mem_flatMap, headerTexts, List.cons_append, List.forall_mem_cons,
    List.forall_mem_append, List.forall_mem_map, hname]
  exact and_congr_right fun _ => (and_iff_right hbackup).trans
    (forall_congr' fun w => forall_congr' fun _ => hwarning w)

/-! ## Which files read back -/

lemma isMarker_eq_false_iff {line : String} :
    isMarker line = false ↔ line ≠ upMarker ∧ line ≠ downMarker := by
  rw [isMarker, Bool.or_eq_false_iff, beq_eq_false_iff_ne, beq_eq_false_iff_ne]

lemma isHarmless_iff {line : String} : isHarmless line ↔ isRemark line ∧ isMarker line = false := by
  rw [isHarmless, Bool.and_eq_true, Bool.not_eq_true']

lemma count_marker {marker : String} (h : isMarker marker) : (pieces '\n' m.renderFile).count marker =
    m.headerLines.count marker + (pieces '\n' m.upSql).count marker
      + (pieces '\n' m.downSql).count marker + 1 := by
  have hempty : "" ≠ upMarker := by decide
  have hempty' : "" ≠ downMarker := by decide
  have hne : upMarker ≠ downMarker := by decide
  rw [isMarker, Bool.or_eq_true, beq_iff_eq, beq_iff_eq] at h
  rcases h with rfl | rfl
  · simp [pieces_renderFile, List.count_append, hempty, Ne.symm hne]
    omega
  · simp [pieces_renderFile, List.count_append, hempty', hne]
    omega

/-- A marker is written once; it occurs no second time exactly if it is in none of the given texts. -/
lemma count_marker_eq_one_iff {marker : String} (h : isMarker marker) :
    (pieces '\n' m.renderFile).count marker = 1 ↔ marker ∉ m.headerLines ∧ marker ∉ pieces '\n' m.upSql ∧
      marker ∉ pieces '\n' m.downSql := by
  rw [count_marker h, ← List.count_eq_zero, ← List.count_eq_zero, ← List.count_eq_zero]
  omega

/-- What stands in front of a line that does not occur there is taken off up to it. -/
lemma takeWhile_append_marker {before after : List String} {marker : String} (h : marker ∉ before) :
    (before ++ marker :: after).takeWhile (· != marker) = before ∧
      (before ++ marker :: after).dropWhile (· != marker) = marker :: after := by
  have hne : ∀ line ∈ before, (line != marker) = true := fun line hline => by
    rw [bne_iff_ne]
    rintro rfl
    exact h hline
  rw [List.takeWhile_append_of_pos hne, List.dropWhile_append_of_pos hne]
  simp

lemma sectionText_pieces (s : String) : sectionText (pieces '\n' s ++ [""]) = s := by
  rw [sectionText, List.dropLast_concat, Text.intercalate_pieces]

/-- **Which files read back.**  A file can be taken apart exactly if no line of its header is a statement or
a marker, and no line of its statements is a marker. -/
theorem readsBack_iff : m.ReadsBack ↔ (∀ line ∈ m.headerLines, isHarmless line) ∧
    (∀ line ∈ pieces '\n' m.upSql, isMarker line = false) ∧
      ∀ line ∈ pieces '\n' m.downSql, isMarker line = false := by
  have hfile : pieces '\n' m.renderFile = (m.headerLines ++ [""]) ++ upMarker ::
      ((pieces '\n' m.upSql ++ [""]) ++ downMarker :: (pieces '\n' m.downSql ++ [""])) := by
    simp [pieces_renderFile]
  have hup_once := count_marker_eq_one_iff (m := m) (by decide : isMarker upMarker)
  have hdown_once := count_marker_eq_one_iff (m := m) (by decide : isMarker downMarker)
  simp only [isHarmless_iff, isMarker_eq_false_iff]
  constructor
  · rintro ⟨hup, hdown, hheader, -⟩
    obtain ⟨hup₁, hup₂, hup₃⟩ := hup_once.1 hup
    obtain ⟨hdown₁, hdown₂, hdown₃⟩ := hdown_once.1 hdown
    have hbefore : upMarker ∉ m.headerLines ++ [""] := by
      simpa using ⟨hup₁, (by decide : upMarker ≠ "")⟩
    rw [hfile, (takeWhile_append_marker hbefore).1] at hheader
    exact ⟨fun line hline => ⟨hheader line (List.mem_append_left _ hline),
        fun h => hup₁ (h ▸ hline), fun h => hdown₁ (h ▸ hline)⟩,
      fun line hline => ⟨fun h => hup₂ (h ▸ hline), fun h => hdown₂ (h ▸ hline)⟩,
      fun line hline => ⟨fun h => hup₃ (h ▸ hline), fun h => hdown₃ (h ▸ hline)⟩⟩
  · rintro ⟨hheader, hup, hdown⟩
    have hbefore : upMarker ∉ m.headerLines ++ [""] := by
      simpa using ⟨fun h => (hheader _ h).2.1 rfl, (by decide : upMarker ≠ "")⟩
    have hbetween : downMarker ∉ pieces '\n' m.upSql ++ [""] := by
      simpa using ⟨fun h => (hup _ h).2 rfl, (by decide : downMarker ≠ "")⟩
    refine ⟨hup_once.2 ?_, hdown_once.2 ?_, ?_, ?_⟩
    · exact ⟨fun h => (hheader _ h).2.1 rfl, fun h => (hup _ h).1 rfl, fun h => (hdown _ h).1 rfl⟩
    · exact ⟨fun h => (hheader _ h).2.2 rfl, fun h => (hup _ h).2 rfl, fun h => (hdown _ h).2 rfl⟩
    · rw [hfile, (takeWhile_append_marker hbefore).1, List.forall_mem_append]
      exact ⟨fun line hline => (hheader line hline).1, by decide⟩
    · rw [sectionsOf, hfile, (takeWhile_append_marker hbefore).2]
      simp only [takeWhile_append_marker hbetween, sectionText_pieces]

/-! ## Compiled migrations -/

/-- The migration is the result of one of the compilers. -/
def Compiled (m : Migration) : Prop :=
  (∃ allow version name actions target, compileActions allow version name actions target = .ok m) ∨
    (∃ allow schema version name, compileInitial allow schema version name = .ok m) ∨
      ∃ allow current target hints version name,
        compileDiff allow current target hints version name = .ok m

/-- All compilers end in the same one. -/
lemma Compiled.exists_actions (h : m.Compiled) : ∃ allow version name actions target,
    compileActions allow version name actions target = .ok m := by
  obtain h | ⟨allow, schema, version, name, h⟩ | ⟨allow, current, target, hints, version, name, h⟩ := h
  · exact h
  · unfold compileInitial at h
    obtain ⟨-, h⟩ := refuseFaulty_bind_eq_ok_iff.1 h
    obtain ⟨order, -, h⟩ := Sql.bind_eq_ok_iff.1 h
    exact ⟨_, _, _, _, _, h⟩
  · obtain ⟨-, -, _, _, -, -, h⟩ := compileDiff_eq_ok_iff.1 h
    exact ⟨_, _, _, _, _, h⟩

/-- The written statement has no line that is a marker. -/
def NoMarkerIn (s : Sql.Statement) : Prop :=
  ∀ text, s.render = .ok text → ∀ line ∈ pieces '\n' text, isMarker line = false

/-- Texts that are given to the file break lines only where it does no harm: in the header the new lines are
blank or comments, and nowhere is one of them a marker. -/
structure MarkersKept (m : Migration) : Prop where
  name : ∀ line ∈ (pieces '\n' m.name).tail, isHarmless line
  warnings : ∀ w ∈ m.warnings, ∀ line ∈ (pieces '\n' w.message).tail, isHarmless line
  up : ∀ s ∈ m.actions.flatMap (·.up), NoMarkerIn s
  down : ∀ s ∈ downStatements m.actions, NoMarkerIn s

/-- Names and raw SQL are single lines, and no comment has a line that is written as a marker. -/
structure SingleLines (m : Migration) : Prop where
  name : Unbroken m.name
  warnings : ∀ w ∈ m.warnings, Unbroken w.message
  texts : ∀ s ∈ m.actions.flatMap (·.up) ++ downStatements m.actions, ∀ text ∈ s.texts, Unbroken text
  remarks : ∀ s ∈ m.actions.flatMap (·.up) ++ downStatements m.actions, ∀ text ∈ s.remarks,
    ∀ line ∈ Text.lines text, isMarker (Text.trimEnd ("-- " ++ line)) = false

lemma SingleLines.markersKept (h : m.SingleLines) : m.MarkersKept := by
  have hnone : ∀ s ∈ m.actions.flatMap (·.up) ++ downStatements m.actions, NoMarkerIn s := by
    intro s hs
    refine Sql.Statement.lines_of_render (P := (isMarker · = false)) (fun line hline => ?_) (h.texts s hs)
      (h.remarks s hs)
    rw [isMarker_eq_false_iff]
    constructor
    · rintro rfl
      exact hline (by decide)
    · rintro rfl
      exact hline (by decide)
  rw [List.forall_mem_append] at hnone
  refine ⟨?_, fun w hw => ?_, hnone.1, hnone.2⟩
  · rw [Text.pieces_of_unbroken h.name]
    exact nofun
  · rw [Text.pieces_of_unbroken (h.warnings w hw)]
    exact nofun

/-- **Which compiled migrations read back.**  The file of a compiled migration has each marker once, nothing
but comments in front of them and the right statements behind each exactly if the texts in it keep off the
markers; single lines do. -/
theorem compiled_readsBack_iff (h : m.Compiled) :
    (m.ReadsBack ↔ m.MarkersKept) ∧ (m.SingleLines → m.ReadsBack) := by
  have hiff : m.ReadsBack ↔ m.MarkersKept := by
    obtain ⟨allow, version, name, actions, target, h⟩ := h.exists_actions
    obtain ⟨-, -, up, down, hup, hdown, rfl⟩ := compileActions_eq_ok_iff.1 h
    rw [liftGeneration_eq_ok_iff] at hup hdown
    have hempty : isMarker "" = false := by decide
    rw [readsBack_iff, forall_mem_headerLines_iff,
      Sql.forall_mem_pieces_renderAll (P := (isMarker · = false)) hempty hup,
      Sql.forall_mem_pieces_renderAll (P := (isMarker · = false)) hempty hdown]
    exact ⟨fun ⟨⟨hname, hwarnings⟩, hup, hdown⟩ => ⟨hname, hwarnings, hup, hdown⟩,
      fun ⟨hname, hwarnings, hup, hdown⟩ => ⟨⟨hname, hwarnings⟩, hup, hdown⟩⟩
  exact ⟨hiff, fun hlines => hiff.2 hlines.markersKept⟩

/-- A table whose comment and default speak of the markers. -/
def noteTable : Table where
  name := "notes"
  columns := [(Column.ofType "id" .integer).asPrimaryKey,
    { Column.ofType "body" .text with defaultValue := some "'-- +migrate Up'" }]
  comment := some "Written by hand:\n-- +migrate Up"

/-- The notes alone. -/
def noteSchema : Schema where
  tables := [noteTable]
  relationships := []
  distinct := by decide +kernel

lemma exists_eq_ok_of_map {α : Type} {x : Except Error Migration} {f : Migration → α} {a : α}
    (h : x.toOption.map f = some a) : ∃ m, x = .ok m ∧ f m = a := by
  cases x with
  | error e => cases h
  | ok m => exact ⟨m, rfl, Option.some.inj h⟩

/-- No marker is a line of its own, so the file of the notes reads back. -/
theorem noteSchema_readsBack :
    ∃ m, compileInitial false noteSchema 1 "add notes" = .ok m ∧ m.ReadsBack := by
  have hcompiled : (compileInitial false noteSchema 1 "add notes").toOption.map
      (fun m => (m.name, m.warnings, m.actions)) = some ("add notes", [], [.createTable noteTable]) := by
    decide +kernel
  obtain ⟨m, hm, hparts⟩ := exists_eq_ok_of_map hcompiled
  obtain ⟨hname, hwarnings, hactions⟩ : m.name = "add notes" ∧ m.warnings = [] ∧
      m.actions = [.createTable noteTable] := by simpa using hparts
  have hlines : m.SingleLines := by
    refine ⟨?_, ?_, ?_, ?_⟩
    · rw [hname]
      decide
    · simp [hwarnings]
    · rw [hactions]
      decide +kernel
    · rw [hactions]
      decide +kernel
  exact ⟨m, hm, (compiled_readsBack_iff (.inr (.inl ⟨_, _, _, _, hm⟩))).2 hlines⟩

/-- The line feed in the name ends the comment that the name stands in, and the rest of the name is a
statement in front of the sections. -/
theorem noteSchema_not_readsBack :
    ∃ m, compileInitial false noteSchema 1 "notes\nDROP TABLE users;" = .ok m ∧ ¬ m.ReadsBack := by
  have hcompiled : (compileInitial false noteSchema 1 "notes\nDROP TABLE users;").toOption.map (·.name) =
      some "notes\nDROP TABLE users;" := by decide +kernel
  obtain ⟨m, hm, hname⟩ := exists_eq_ok_of_map hcompiled
  refine ⟨m, hm, fun h => ?_⟩
  have hheader := (forall_mem_headerLines_iff.1 (readsBack_iff.1 h).1).1
  rw [hname] at hheader
  exact absurd (hheader "DROP TABLE users;" (by decide)) (by decide)

end SchemaCompiler.Migration

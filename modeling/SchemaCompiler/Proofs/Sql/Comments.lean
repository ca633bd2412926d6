import SchemaCompiler.Proofs.Sql.Lines
import SchemaCompiler.Proofs.Text.Annotations
import SchemaCompiler.Proofs.Text.WordCase

/-!
# Comments in SQL

A comment is written on lines of its own, each of them behind two dashes, wherever its text breaks lines; what
stands between two line feeds is one line for SQLite, and carriage returns do not end it.  A blank after the
dashes may be trimmed away, the dashes themselves never are.

So statements with comments are statements without them and lines that begin with two dashes.  Blank lines are
left out of the comparison, since a comment that is a statement of its own is set off by one.

* `remarkLines`, `IsRemarkOf` — the lines of a comment, and blocks of lines that come from comments.
* `Statement.bare` — a statement without its comment.
* `annotated_of_render` — one statement with its comment.
* **`annotated_of_renderAll`** — a list of statements with their comments.
-/

namespace SchemaCompiler.Sql

open Text (pieces Unbroken unbroken_append Annotated annotated_refl)

variable {text line full : String} {s : Statement} {statements : List Statement}

/-! ## The lines of a comment -/

/-- The lines of a comment as they are written. -/
def remarkLines (text : String) : List String :=
  (Text.lines text).map fun line => Text.trimEnd ("-- " ++ line)

/-- **A block of lines that comes from a comment**: each of its lines begins with two dashes. -/
def IsRemarkOf (remarks block : List String) : Prop :=
  ∃ text ∈ remarks, block = remarkLines text ∧ ∀ line ∈ block, "--".toList <+: line.toList

lemma prefix_of_mem_remarkLines (h : line ∈ remarkLines text) : "--".toList <+: line.toList := by
  obtain ⟨l, -, rfl⟩ := List.mem_map.1 h
  have hdash : Text.isBlank '-' = false := by decide
  have hdashes : ∀ c ∈ "--".toList, Text.isBlank c = false := by simpa using hdash
  have hlist : ("-- " ++ l).toList = "--".toList ++ (' ' :: l.toList) := by
    rw [String.toList_append]
    rfl
  have htrimmed : (Text.trimEnd ("-- " ++ l)).toList =
      Text.dropWhileEnd Text.isBlank ("--".toList ++ (' ' :: l.toList)) := by
    rw [← hlist]
    exact String.toList_ofList
  rw [htrimmed]
  exact Text.prefix_dropWhileEnd hdashes _

lemma unbroken_of_mem_remarkLines (h : line ∈ remarkLines text) : Unbroken line := by
  obtain ⟨l, hl, rfl⟩ := List.mem_map.1 h
  exact unbroken_trimEnd (unbroken_append.2 ⟨by decide, unbroken_of_mem_lines hl⟩)

lemma isRemarkOf_remarkLines {remarks : List String} (h : text ∈ remarks) :
    IsRemarkOf remarks (remarkLines text) :=
  ⟨text, h, rfl, fun _ => prefix_of_mem_remarkLines⟩

lemma IsRemarkOf.of_subset {remarks more block : List String} (h : IsRemarkOf remarks block)
    (hsub : remarks ⊆ more) : IsRemarkOf more block := by
  obtain ⟨text, htext, hblock⟩ := h
  exact ⟨text, hsub htext, hblock⟩

/-! ## Lines that are not blank -/

/-- The lines of a text that are not empty. -/
def inked (text : String) : List String := (pieces '\n' text).filter (· != "")

lemma inked_append (s t : String) : inked (s ++ ("\n" ++ t)) = inked s ++ inked t := by
  rw [inked, Text.pieces_append, List.filter_append]
  rfl

/-- Texts with blank lines between them. -/
lemma inked_intercalate {separator : String}
    (hseparator : ∀ s t, inked (s ++ (separator ++ t)) = inked s ++ inked t) (texts : List String) :
    inked (separator.intercalate texts) = texts.flatMap inked := by
  induction texts with
  | nil => rfl
  | cons text rest ih =>
      cases rest with
      | nil => simp
      | cons next rest =>
          rw [String.intercalate_cons_cons, String.append_assoc, hseparator, ih, ← List.flatMap_cons]

lemma inked_paragraphs (texts : List String) : inked ("\n\n".intercalate texts) = texts.flatMap inked := by
  refine inked_intercalate (fun s t => ?_) texts
  rw [inked, Text.pieces_append_blank, List.filter_append]
  rfl

lemma inked_commentLines (text : String) : inked (commentLines text) = remarkLines text := by
  have hlines : ∀ line ∈ remarkLines text, inked line = [line] := by
    intro line hline
    have hne : line ≠ "" := by
      rintro rfl
      exact absurd (prefix_of_mem_remarkLines hline) (by decide)
    rw [inked, Text.pieces_of_unbroken (unbroken_of_mem_remarkLines hline)]
    simp [hne]
  have hflat : (remarkLines text).flatMap inked = (remarkLines text).flatMap fun line => [line] :=
    List.flatMap_congr hlines
  rw [commentLines, inked_intercalate inked_append]
  exact hflat.trans (List.flatMap_singleton' _)

/-! ## Statements -/

/-- A statement without its comment; a comment by itself is none. -/
def Statement.bare : Statement → Option Statement
  | .createTable t => some (.createTable { t with comment := none })
  | .comment _ => none
  | s => some s

/-- The comment of a table stands above its definition. -/
lemma CreateTable.render_eq (t : CreateTable) :
    t.render = ({ t with comment := none }.render).map (commentHeader t.comment ++ ·) := by
  have hnone : commentHeader none = "" := rfl
  simp only [render, hnone, String.empty_append]
  cases t.columns.mapM (·.render) <;> cases t.constraints.mapM (·.render) <;> cases quote t.name <;>
    simp [bind, Except.bind, Except.map, pure, Except.pure, String.append_assoc]

lemma annotated_commentHeader (comment : Option String) (code : String) :
    Annotated (IsRemarkOf comment.toList) (inked code) (inked (commentHeader comment ++ code)) := by
  have hplain : Annotated (IsRemarkOf comment.toList) (inked code) (inked ("" ++ code)) := by
    rw [String.empty_append]
    exact annotated_refl _ _
  cases comment with
  | none => exact hplain
  | some text =>
      rw [commentHeader]
      cases Text.isBlankText text with
      | true => exact hplain
      | false =>
          rw [Bool.not_false, onlyIf, if_pos rfl, String.append_assoc, inked_append, inked_commentLines]
          exact .block (isRemarkOf_remarkLines List.mem_cons_self) (annotated_refl _ _)

/-- **A statement with its comment** is the statement without it and the lines of the comment. -/
lemma annotated_of_render (h : s.render = .ok full) :
    ∃ codes, s.bare.toList.mapM (·.render) = .ok codes ∧
      Annotated (IsRemarkOf s.remarks) (codes.flatMap inked) (inked full) := by
  have hsingle : ∀ (s' : Statement) (code : String), s'.render = .ok code →
      [s'].mapM (·.render) = .ok [code] := by
    intro s' code hcode
    simp [List.mapM_cons, hcode, bind, Except.bind, pure, Except.pure]
  cases s with
  | createTable t =>
      rw [Statement.render, t.render_eq] at h
      cases hcode : ({ t with comment := none } : CreateTable).render with
      | error e => simp [hcode, Except.map] at h
      | ok code =>
          rw [hcode] at h
          obtain rfl := Except.ok.inj h
          exact ⟨[code], hsingle _ _ hcode, by
            simpa [Statement.remarks] using annotated_commentHeader t.comment code⟩
  | comment text =>
      obtain rfl := Except.ok.inj h
      refine ⟨[], rfl, ?_⟩
      rw [inked_commentLines]
      simpa [Statement.remarks] using Annotated.block (isRemarkOf_remarkLines List.mem_cons_self) .nil
  | _ => exact ⟨[full], hsingle _ _ h, by simpa using annotated_refl _ (inked full)⟩

/-- **Statements with comments** are the statements without them and the lines of the comments. -/
theorem annotated_of_renderAll (h : renderAll statements = .ok full) :
    ∃ plain, renderAll (statements.filterMap (·.bare)) = .ok plain ∧
      Annotated (IsRemarkOf (statements.flatMap (·.remarks))) (inked plain) (inked full) := by
  obtain ⟨texts, htexts, heq⟩ := bind_eq_ok_iff.1 h
  obtain rfl := Except.ok.inj heq
  obtain ⟨codes, hcodes, hannotated⟩ :
      ∃ codes, (statements.filterMap (·.bare)).mapM (·.render) = .ok codes ∧
        Annotated (IsRemarkOf (statements.flatMap (·.remarks))) (codes.flatMap inked)
        (texts.flatMap inked) := by
    have hall := forall₂_of_mapM_eq_ok htexts
    clear h heq htexts
    induction hall with
    | nil => exact ⟨[], rfl, .nil⟩
    | @cons s text statements texts hs _ ih =>
        obtain ⟨codes, hcodes, hs⟩ := annotated_of_render hs
        obtain ⟨more, hmore, hrest⟩ := ih
        refine ⟨codes ++ more, ?_, ?_⟩
        · have hsplit : (s :: statements).filterMap (·.bare) =
              s.bare.toList ++ statements.filterMap (·.bare) := by
            cases hbare : s.bare <;> simp [hbare]
          rw [hsplit, List.mapM_append, hcodes, hmore]
          rfl
        · rw [List.flatMap_append, List.flatMap_cons, List.flatMap_cons]
          exact (hs.mono fun _ hb => hb.of_subset (List.subset_append_left _ _)).append
            (hrest.mono fun _ hb => hb.of_subset (List.subset_append_right _ _))
  refine ⟨_, by rw [renderAll, hcodes]; rfl, ?_⟩
  rwa [inked_paragraphs, inked_paragraphs]

end SchemaCompiler.Sql

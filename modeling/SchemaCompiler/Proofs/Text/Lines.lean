import SchemaCompiler.Text.Basic
import Mathlib.Data.List.Basic

/-!
# The lines of a text

A file is made by writing texts one after the other, with line feeds between them.  Its lines are the lines
of these texts, as long as each seam is a line feed, and a text without line feeds is one line.  Here a line
is whatever stands between two line feeds; a text that ends in one has an empty line at its end.

* `pieces_append` — the lines of two texts with a line feed between them.
* `pieces_prepend` — a text without line feeds goes in front of the first line.
* `intercalate_pieces` — the lines with line feeds between them are the text.
-/

namespace SchemaCompiler.Text

/-! ## Pieces between separators -/

section Pieces

variable {separator : Char}

lemma splitPieces_ne_nil (separator : Char) (cs : List Char) : splitPieces separator cs ≠ [] := by
  cases cs with
  | nil => simp [splitPieces]
  | cons c rest =>
      rw [splitPieces]
      split_ifs
      · simp
      · split <;> simp

lemma splitPieces_cons_of_ne {c : Char} (h : c ≠ separator) (rest : List Char) :
    ∃ p ps, splitPieces separator rest = p :: ps ∧ splitPieces separator (c :: rest) = (c :: p) :: ps := by
  obtain ⟨p, ps, hp⟩ := List.exists_cons_of_ne_nil (splitPieces_ne_nil separator rest)
  exact ⟨p, ps, hp, by rw [splitPieces, if_neg h, hp]⟩

lemma splitPieces_append (a b : List Char) :
    splitPieces separator (a ++ separator :: b) = splitPieces separator a ++ splitPieces separator b := by
  induction a with
  | nil => simp [splitPieces]
  | cons c rest ih =>
      by_cases h : c = separator
      · simp [splitPieces, h, ih]
      · obtain ⟨p, ps, hp, hcons⟩ := splitPieces_cons_of_ne h rest
        rw [List.cons_append, splitPieces, if_neg h, ih, hcons, hp]
        rfl

lemma splitPieces_prepend {a : List Char} (h : separator ∉ a) (b : List Char) :
    ∃ p ps, splitPieces separator b = p :: ps ∧ splitPieces separator (a ++ b) = (a ++ p) :: ps := by
  induction a with
  | nil =>
      obtain ⟨p, ps, hp⟩ := List.exists_cons_of_ne_nil (splitPieces_ne_nil separator b)
      exact ⟨p, ps, hp, hp⟩
  | cons c rest ih =>
      obtain ⟨hc, hrest⟩ := not_or.1 (mt List.mem_cons.2 h)
      obtain ⟨p, ps, hp, hrest⟩ := ih hrest
      exact ⟨p, ps, hp, by rw [List.cons_append, splitPieces, if_neg (Ne.symm hc), hrest]; rfl⟩

lemma intercalate_splitPieces (cs : List Char) :
    [separator].intercalate (splitPieces separator cs) = cs := by
  induction cs with
  | nil => rfl
  | cons c rest ih =>
      obtain ⟨p, ps, hp⟩ := List.exists_cons_of_ne_nil (splitPieces_ne_nil separator rest)
      rw [hp] at ih
      by_cases h : c = separator
      · rw [splitPieces, if_pos h, hp, List.intercalate_cons_cons, ih, h]
        rfl
      · rw [splitPieces, if_neg h, hp]
        cases ps <;> simp_all [List.intercalate_cons_cons]

end Pieces

/-! ## Lines -/

/-- A text that is one line. -/
def Unbroken (s : String) : Prop := '\n' ∉ s.toList

instance (s : String) : Decidable (Unbroken s) := inferInstanceAs (Decidable ('\n' ∉ s.toList))

@[simp] lemma unbroken_append {s t : String} : Unbroken (s ++ t) ↔ Unbroken s ∧ Unbroken t := by
  simp [Unbroken, String.toList_append]

lemma pieces_empty : pieces '\n' "" = [""] := rfl

/-- Two texts with a line feed between them. -/
lemma pieces_append (s t : String) :
    pieces '\n' (s ++ ("\n" ++ t)) = pieces '\n' s ++ pieces '\n' t := by
  simp [pieces, String.toList_append, splitPieces_append]

/-- Two texts with a blank line between them. -/
lemma pieces_append_blank (s t : String) :
    pieces '\n' (s ++ ("\n\n" ++ t)) = pieces '\n' s ++ "" :: pieces '\n' t := by
  have hblank : "\n\n" ++ t = "\n" ++ ("" ++ ("\n" ++ t)) := by
    rw [String.empty_append, ← String.append_assoc]
    rfl
  rw [hblank, pieces_append, pieces_append, pieces_empty]
  rfl

/-- A text without line feeds goes in front of the first line. -/
lemma pieces_prepend {s : String} (h : Unbroken s) (t : String) :
    ∃ first rest, pieces '\n' t = first :: rest ∧ pieces '\n' (s ++ t) = (s ++ first) :: rest := by
  obtain ⟨p, ps, hp, happend⟩ := splitPieces_prepend h t.toList
  refine ⟨String.ofList p, ps.map String.ofList, by rw [pieces, hp]; rfl, ?_⟩
  rw [pieces, String.toList_append, happend, List.map_cons, String.ofList_append, String.ofList_toList]

/-- What holds of every line that begins with `s` holds of all lines of a text behind `s` if it holds of its
further lines. -/
lemma forall_mem_pieces_prepend {P : String → Prop} {s : String} (hs : Unbroken s) (hP : ∀ t, P (s ++ t))
    (t : String) : (∀ line ∈ pieces '\n' (s ++ t), P line) ↔ ∀ line ∈ (pieces '\n' t).tail, P line := by
  obtain ⟨first, rest, ht, hst⟩ := pieces_prepend hs t
  rw [hst, ht, List.forall_mem_cons, List.tail_cons]
  exact and_iff_right (hP first)

lemma pieces_of_unbroken {s : String} (h : Unbroken s) : pieces '\n' s = [s] := by
  obtain ⟨first, rest, hfirst, hpieces⟩ := pieces_prepend h ""
  obtain ⟨rfl, rfl⟩ := List.cons.inj (pieces_empty.symm.trans hfirst)
  simpa using hpieces

/-- The lines with line feeds between them are the text. -/
lemma intercalate_pieces (s : String) : "\n".intercalate (pieces '\n' s) = s := by
  apply String.toList_inj.1
  have hlist : (pieces '\n' s).map String.toList = splitPieces '\n' s.toList := by
    simp [pieces, Function.comp_def]
  rw [String.toList_intercalate, hlist]
  exact intercalate_splitPieces s.toList

/-- What holds of every line of texts with a separator between them, if the separator has no part in it. -/
lemma forall_mem_pieces_intercalate {P : String → Prop} {separator : String} (hempty : P "")
    (hseparator : ∀ s t, (∀ line ∈ pieces '\n' (s ++ (separator ++ t)), P line) ↔
      (∀ line ∈ pieces '\n' s, P line) ∧ ∀ line ∈ pieces '\n' t, P line) (texts : List String) :
    (∀ line ∈ pieces '\n' (separator.intercalate texts), P line) ↔
      ∀ text ∈ texts, ∀ line ∈ pieces '\n' text, P line := by
  induction texts with
  | nil => simpa [pieces_empty] using hempty
  | cons text rest ih =>
      cases rest with
      | nil => simp
      | cons next rest =>
          rw [String.intercalate_cons_cons, String.append_assoc, hseparator,
            List.forall_mem_cons (a := text)]
          exact and_congr_right fun _ => ih

/-- Texts one line after the other. -/
lemma forall_mem_pieces_lines {P : String → Prop} (hempty : P "") (texts : List String) :
    (∀ line ∈ pieces '\n' ("\n".intercalate texts), P line) ↔
      ∀ text ∈ texts, ∀ line ∈ pieces '\n' text, P line :=
  forall_mem_pieces_intercalate hempty (fun s t => by rw [pieces_append, List.forall_mem_append]) texts

/-- Texts with blank lines between them. -/
lemma forall_mem_pieces_paragraphs {P : String → Prop} (hempty : P "") (texts : List String) :
    (∀ line ∈ pieces '\n' ("\n\n".intercalate texts), P line) ↔
      ∀ text ∈ texts, ∀ line ∈ pieces '\n' text, P line :=
  forall_mem_pieces_intercalate hempty (fun s t => by
    rw [pieces_append_blank, List.forall_mem_append, List.forall_mem_cons]
    simp [hempty]) texts

end SchemaCompiler.Text

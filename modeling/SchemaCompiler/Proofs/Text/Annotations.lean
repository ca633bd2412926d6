import SchemaCompiler.Proofs.Text.Lines

/-!
# Texts with remarks

A remark changes nothing if it stands on lines of its own.  So a text that is written with remarks is compared
with the text that is written without them, line by line: the second one has to come out of the first one when
whole blocks of lines are taken away, and each block has to be one that is read as a remark.

A text is written piece by piece, and pieces that end in a line feed can be compared one at a time, whatever
follows them.

* `Annotated` — lines, and the same lines with blocks of remarks between them.
* `AnnotatedBefore` — the same for pieces of a text that end in a line feed.
* `annotatedBefore_line`, `annotatedBefore_remark` — the two kinds of pieces.
* `AnnotatedBefore.append`, `annotatedBefore_join`, `annotatedBefore_intercalate` — pieces one after the
  other.
-/

namespace SchemaCompiler.Text

variable {IsBlock IsBlock' : List String → Prop} {plain full plain' full' : List String}

/-! ## Lines -/

/-- **Lines without remarks, and the same lines with blocks of remarks between them.** -/
inductive Annotated (IsBlock : List String → Prop) : List String → List String → Prop
  | nil : Annotated IsBlock [] []
  | line {plain full : List String} (text : String) (h : Annotated IsBlock plain full) :
      Annotated IsBlock (text :: plain) (text :: full)
  | block {block plain full : List String} (remark : IsBlock block) (h : Annotated IsBlock plain full) :
      Annotated IsBlock plain (block ++ full)

lemma annotated_refl (IsBlock : List String → Prop) (lines : List String) :
    Annotated IsBlock lines lines := by
  induction lines with
  | nil => exact .nil
  | cons text rest ih => exact .line text ih

lemma Annotated.append (h : Annotated IsBlock plain full) (h' : Annotated IsBlock plain' full') :
    Annotated IsBlock (plain ++ plain') (full ++ full') := by
  induction h with
  | nil => exact h'
  | line text _ ih => exact .line text ih
  | block remark _ ih =>
      rw [List.append_assoc]
      exact .block remark ih

lemma Annotated.mono (h : Annotated IsBlock plain full) (himp : ∀ block, IsBlock block → IsBlock' block) :
    Annotated IsBlock' plain full := by
  induction h with
  | nil => exact .nil
  | line text _ ih => exact .line text ih
  | block remark _ ih => exact .block (himp _ remark) ih

/-! ## Pieces that end in a line feed -/

/-- Two pieces of text of which the second one has the lines of the first one and remarks, whatever stands
behind them. -/
def AnnotatedBefore (IsBlock : List String → Prop) (a b : String) : Prop :=
  ∀ rest rest', Annotated IsBlock (pieces '\n' rest) (pieces '\n' rest') →
    Annotated IsBlock (pieces '\n' (a ++ rest)) (pieces '\n' (b ++ rest'))

variable {a b c d : String}

/-- The lines of what is written with remarks. -/
lemma AnnotatedBefore.annotated (h : AnnotatedBefore IsBlock a b) :
    Annotated IsBlock (pieces '\n' a) (pieces '\n' b) := by
  simpa using h "" "" (annotated_refl IsBlock _)

lemma annotatedBefore_empty : AnnotatedBefore IsBlock "" "" := fun rest rest' h => by simpa using h

/-- A piece of text with a line feed at its end. -/
lemma annotatedBefore_line (text : String) : AnnotatedBefore IsBlock (text ++ "\n") (text ++ "\n") := by
  intro rest rest' h
  rw [String.append_assoc, String.append_assoc, pieces_append, pieces_append]
  exact (annotated_refl IsBlock _).append h

/-- A remark with a line feed at its end. -/
lemma annotatedBefore_remark (h : IsBlock (pieces '\n' a)) : AnnotatedBefore IsBlock "" (a ++ "\n") := by
  intro rest rest' hrest
  rw [String.empty_append, String.append_assoc, pieces_append]
  exact .block h hrest

lemma AnnotatedBefore.append (h : AnnotatedBefore IsBlock a b) (h' : AnnotatedBefore IsBlock c d) :
    AnnotatedBefore IsBlock (a ++ c) (b ++ d) := by
  intro rest rest' hrest
  rw [String.append_assoc, String.append_assoc]
  exact h _ _ (h' _ _ hrest)

section Lists

variable {α : Type} {f g : α → String} {xs : List α}

lemma annotatedBefore_join (h : ∀ x ∈ xs, AnnotatedBefore IsBlock (f x) (g x)) :
    AnnotatedBefore IsBlock (String.join (xs.map f)) (String.join (xs.map g)) := by
  induction xs with
  | nil => exact annotatedBefore_empty
  | cons x rest ih =>
      rw [List.map_cons, List.map_cons, String.join_cons, String.join_cons]
      exact (h x List.mem_cons_self).append (ih fun y hy => h y (List.mem_cons_of_mem _ hy))

/-- Pieces with blank lines between them. -/
lemma annotatedBefore_intercalate (h : ∀ x ∈ xs, AnnotatedBefore IsBlock (f x) (g x)) :
    AnnotatedBefore IsBlock ("\n".intercalate (xs.map f)) ("\n".intercalate (xs.map g)) := by
  induction xs with
  | nil => exact annotatedBefore_empty
  | cons x rest ih =>
      have hx := h x List.mem_cons_self
      have ih := ih fun y hy => h y (List.mem_cons_of_mem _ hy)
      cases rest with
      | nil => simpa using hx
      | cons next rest =>
          simp only [List.map_cons, String.intercalate_cons_cons] at ih ⊢
          exact (hx.append (annotatedBefore_line "")).append ih

end Lists

end SchemaCompiler.Text

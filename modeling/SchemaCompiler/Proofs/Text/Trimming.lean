import Mathlib.Data.List.Chain
import Mathlib.Data.List.DropRight
import SchemaCompiler.Text.Basic

/-!
# What is left after trimming

Trimming takes characters of a kind away from both ends of a text.  What is left is a part of the text, and
its first and last characters are of the other kind; where they were so before, nothing is taken away.  What
is taken away makes no difference to what is left, so that a text may be trimmed before or after its end is
cut off.

* `EndsOutside` — the first and the last character are of the other kind.
* `infix_trimBoth`, `isChain_trimBoth`, `endsOutside_trimBoth`, `trimBoth_of_ends` — what is left.
* `infix_trimBoth_of_infix` — what is not taken away.
* `exists_trimBoth`, `trimBoth_append`, `trimBoth_takeWhile` — what is taken away.
-/

namespace SchemaCompiler.Text

variable {p q : Char → Bool} {cs before part after : List Char}

/-- The first and the last of some characters are of the other kind. -/
def EndsOutside (p : Char → Bool) (cs : List Char) : Prop :=
  (∀ c ∈ cs.head?, p c = false) ∧ ∀ c ∈ cs.getLast?, p c = false

/-- Nothing is trimmed where the first and the last character stay. -/
lemma trimBoth_of_ends (h : EndsOutside p cs) : trimBoth p cs = cs := by
  have hdrop : ∀ {ds : List Char}, (∀ c ∈ ds.head?, p c = false) → ds.dropWhile p = ds := by
    intro ds hds
    cases ds with
    | nil => rfl
    | cons d rest => exact List.dropWhile_cons_of_neg (by simp [hds d rfl])
  rw [trimBoth, dropWhileEnd, hdrop h.1, hdrop (by simpa using h.2), List.reverse_reverse]

/-- Trimming the end leaves a beginning of what the front leaves. -/
lemma prefix_trimBoth (p : Char → Bool) (cs : List Char) : trimBoth p cs <+: cs.dropWhile p :=
  List.rdropWhile_prefix p _

lemma infix_trimBoth (p : Char → Bool) (cs : List Char) : trimBoth p cs <:+: cs :=
  (prefix_trimBoth p cs).isInfix.trans (List.dropWhile_suffix p).isInfix

/-- Trimming brings no two characters side by side. -/
lemma isChain_trimBoth {R : Char → Char → Prop} (p : Char → Bool) {cs : List Char} (h : cs.IsChain R) :
    (trimBoth p cs).IsChain R := by
  obtain ⟨before, after, hcut⟩ := infix_trimBoth p cs
  rw [← hcut] at h
  exact h.left_of_append.right_of_append

lemma endsOutside_trimBoth (p : Char → Bool) (cs : List Char) : EndsOutside p (trimBoth p cs) := by
  have hhead : ∀ ds : List Char, ∀ c ∈ (ds.dropWhile p).head?, p c = false := by
    intro ds c hc
    have h := List.head?_dropWhile_not p ds
    rwa [Option.mem_def.1 hc] at h
  refine ⟨fun c hc => ?_, fun c hc => ?_⟩
  · obtain ⟨rest, hrest⟩ := prefix_trimBoth p cs
    refine hhead cs c ?_
    rw [← hrest, List.head?_append, Option.mem_def.1 hc]
    rfl
  · rw [trimBoth, dropWhileEnd, List.getLast?_reverse] at hc
    exact hhead _ c hc

/-- A part with no character of the kind is left as a whole. -/
lemma infix_trimBoth_of_infix (hpart : part <:+: cs) (hkept : ∀ c ∈ part, p c = false) :
    part <:+: trimBoth p cs := by
  have hfront : ∀ {part ds : List Char}, part <:+: ds → (∀ c ∈ part, p c = false) →
      part <:+: ds.dropWhile p := by
    intro part ds hpart hkept
    induction ds with
    | nil => exact hpart
    | cons d rest ih =>
        rw [List.dropWhile_cons]
        split_ifs with hd
        · rcases List.infix_cons_iff.1 hpart with hstart | hrest
          · cases part with
            | nil => exact List.nil_infix
            | cons c part =>
                obtain ⟨rfl, -⟩ := List.cons_prefix_cons.1 hstart
                rw [hkept c List.mem_cons_self] at hd
                cases hd
          · exact ih hrest
        · exact hpart
  rw [trimBoth, dropWhileEnd, ← List.reverse_infix, List.reverse_reverse]
  exact hfront (List.reverse_infix.2 (hfront hpart hkept)) (by simpa using hkept)

/-- What is taken away from both ends is all of the kind. -/
lemma exists_trimBoth (p : Char → Bool) (cs : List Char) :
    ∃ before after, cs = before ++ trimBoth p cs ++ after ∧ (∀ c ∈ before, p c = true) ∧
      ∀ c ∈ after, p c = true := by
  refine ⟨cs.takeWhile p, (cs.dropWhile p).rtakeWhile p, ?_, fun _ => List.mem_takeWhile_imp,
    fun _ => List.mem_rtakeWhile_imp⟩
  have hend : trimBoth p cs ++ (cs.dropWhile p).rtakeWhile p = cs.dropWhile p :=
    List.rdropWhile_append_rtakeWhile
  rw [List.append_assoc, hend, List.takeWhile_append_dropWhile]

/-- More of the kind in front or behind is taken away as well. -/
lemma trimBoth_append (hbefore : ∀ c ∈ before, p c = true) (hafter : ∀ c ∈ after, p c = true) :
    trimBoth p (before ++ cs ++ after) = trimBoth p cs := by
  have hend : ∀ ds : List Char, dropWhileEnd p (ds ++ after) = dropWhileEnd p ds := fun ds => by
    rw [dropWhileEnd, List.reverse_append, List.dropWhile_append_of_pos (by simpa using hafter), dropWhileEnd]
  rw [trimBoth, List.append_assoc, List.dropWhile_append_of_pos hbefore, List.dropWhile_append, trimBoth]
  split_ifs with hnone
  · rw [List.dropWhile_eq_nil_iff.2 hafter, List.isEmpty_iff.1 hnone]
  · exact hend _

/-- Before the end is cut off it makes no difference whether the text is trimmed, if nothing is cut off from
what is taken away. -/
lemma trimBoth_takeWhile (h : ∀ c, p c = true → q c = true) (cs : List Char) :
    trimBoth p ((trimBoth p cs).takeWhile q) = trimBoth p (cs.takeWhile q) := by
  obtain ⟨before, after, hsplit, hbefore, hafter⟩ := exists_trimBoth p cs
  have hrest : (trimBoth p cs ++ after).takeWhile q = (trimBoth p cs).takeWhile q ∨
      (trimBoth p cs ++ after).takeWhile q = (trimBoth p cs).takeWhile q ++ after := by
    rw [List.takeWhile_append]
    split_ifs with hall
    · have hafter' : after.takeWhile q = after := List.takeWhile_eq_self_iff.2 fun c hc => h c (hafter c hc)
      rw [hafter', (List.takeWhile_prefix q).eq_of_length hall]
      exact .inr rfl
    · exact .inl rfl
  conv_rhs => rw [hsplit, List.append_assoc, List.takeWhile_append_of_pos fun c hc => h c (hbefore c hc)]
  rcases hrest with hrest | hrest <;> rw [hrest]
  · have hnothing : ∀ c ∈ ([] : List Char), p c = true := nofun
    simpa using (trimBoth_append hbefore hnothing).symm
  · rw [← List.append_assoc, trimBoth_append hbefore hafter]

end SchemaCompiler.Text

import Mathlib.Data.List.Forall2
import SchemaCompiler.Proofs.Json.Keys
import SchemaCompiler.Proofs.Yaml.Scanner

/-!
# The tokens of JSON

A text of JSON that is cut into tokens as YAML gives the tokens of flow collections, and the text of a part
between brackets gives the same tokens wherever the part stands.

* `jsonTokens` — the tokens of a value.
* `Gives` — what is written for a part gives its tokens.
* `gives_prettyChars` — what is written for a value gives its tokens.
* `tokens_pretty` — the tokens of a whole text.
-/

namespace SchemaCompiler.Yaml

open Json
open Scanner (IsShort)

/-! ## Tokens of values -/

/-- The tokens behind the first of several parts between brackets. -/
def closeTokens (closing : Token) : List (List Token) → List Token
  | [] => [closing]
  | part :: parts => .flowEntry :: (part ++ closeTokens closing parts)

/-- Several parts between brackets, with commas between them. -/
def spreadTokens (opening closing : Token) : List (List Token) → List Token
  | [] => [opening, closing]
  | part :: parts => opening :: (part ++ closeTokens closing parts)

mutual

/-- The tokens of a value without numbers. -/
def jsonTokens : Json → List Token
  | .null => [.scalar true "null"]
  | .bool b => [.scalar true (if b then "true" else "false")]
  | .int _ | .float _ => []
  | .string s => [.scalar false s]
  | .array xs => spreadTokens .flowSequenceStart .flowSequenceEnd (itemTokens xs)
  | .object fields => spreadTokens .flowMappingStart .flowMappingEnd (fieldTokens fields)

/-- The tokens of the items of an array. -/
def itemTokens : List Json → List (List Token)
  | [] => []
  | x :: rest => jsonTokens x :: itemTokens rest

/-- The tokens of the fields of an object. -/
def fieldTokens : List (String × Json) → List (List Token)
  | [] => []
  | (key, value) :: rest => (.key :: .scalar false key :: .value :: jsonTokens value) :: fieldTokens rest

end

lemma itemTokens_eq_map (xs : List Json) : itemTokens xs = xs.map jsonTokens := by
  induction xs with
  | nil => rfl
  | cons x xs ih => rw [itemTokens, ih, List.map_cons]

lemma fieldTokens_eq_map (fields : List (String × Json)) :
    fieldTokens fields = fields.map fun f => .key :: .scalar false f.1 :: .value :: jsonTokens f.2 := by
  induction fields with
  | nil => rfl
  | cons f fields ih => rw [fieldTokens, ih, List.map_cons]

namespace Scanner

variable {s : Scanner} {d : Char} {rest : List Char} {ts : List Token}

/-! ## Brackets -/

/-- What is written for a part between brackets gives its tokens, in front of whatever may follow a part.
For a field a key has to be allowed. -/
def Gives (field : Bool) (chars : List Char) (ts : List Token) : Prop :=
  ∀ ⦃s : Scanner⦄ ⦃gap : List Char⦄ ⦃e : Char⦄ ⦃cs : List Char⦄, Calm s → s.inFlow = true →
    (field = true → s.keyAllowed = true) → (gap = [] ∨ ∃ level, gap = lineBreak level) →
    e ∈ closers → Before s (chars ++ (gap ++ e :: cs)) →
    ∃ s', Passes s ts s' ∧ Before s' (e :: cs) ∧ s'.outerKeys = s.outerKeys

lemma Gives.asPart {field : Bool} {chars : List Char} (h : Gives field chars ts) : Gives true chars ts :=
  fun _ _ _ _ calm hflow hallowed => h calm hflow fun _ => hallowed rfl

/-- The marks between which the items of an array stand, or the fields of an object. -/
inductive Brackets : (opening closing : Char) → (first last : Token) → Prop
  | array : Brackets '[' ']' .flowSequenceStart .flowSequenceEnd
  | object : Brackets '\x7b' '\x7d' .flowMappingStart .flowMappingEnd

section Brackets

variable {opening closing : Char} {first last : Token} {level : Nat} {parts : List (List Char)}
  {tss : List (List Token)} {key : Option PossibleKey} {outer : List (Option PossibleKey)}

/-- Parts with commas between them, up to the closing bracket. -/
lemma exists_parts (hmarks : Brackets opening closing first last) {part : List Char}
    (hpart : Gives true part ts) (hparts : List.Forall₂ (Gives true) parts tss) (calm : Calm s)
    (hallowed : s.keyAllowed = true) (houter : s.outerKeys = key :: outer)
    (hbefore : Before s (part ++ (closeSpread closing level parts ++ rest))) :
    ∃ s', Passes s (ts ++ closeTokens last tss) s' ∧ s'.cursor.rest = rest ∧ s'.outerKeys = outer := by
  have hflow : ∀ {s : Scanner}, s.outerKeys = key :: outer → s.inFlow = true := fun h => by simp [inFlow, h]
  induction hparts generalizing s part ts with
  | nil =>
      rw [closeSpread, List.append_assoc] at hbefore
      have hcloser : closing ∈ closers := by cases hmarks <;> decide
      have hlast : closing = ']' ∧ last = .flowSequenceEnd ∨ closing = '\x7d' ∧ last = .flowMappingEnd := by
        cases hmarks <;> simp
      obtain ⟨s₁, hpassed, hnext, houter₁⟩ :=
        hpart calm (hflow houter) (fun _ => hallowed) (.inr ⟨level, rfl⟩) hcloser hbefore
      obtain ⟨s', hclosed, hrest, houter'⟩ := exists_closing hpassed.calm hlast (houter₁.trans houter) hnext
      exact ⟨s', hpassed.trans hclosed, hrest, houter'⟩
  | cons hnext _ ih =>
      rw [closeSpread, List.cons_append, List.append_assoc, List.append_assoc] at hbefore
      obtain ⟨s₁, hpassed, hcomma, houter₁⟩ :=
        hpart calm (hflow houter) (fun _ => hallowed) (.inl rfl) (by decide) hbefore
      have houter₁ := houter₁.trans houter
      obtain ⟨s₂, hentry, hrest, hallowed₂, houter₂⟩ :=
        exists_comma hpassed.calm (hflow houter₁) hcomma
      obtain ⟨s', hmore, hend⟩ := ih hnext hentry.calm hallowed₂ (houter₂.trans houter₁)
        ⟨_, .inr (.inr ⟨_, rfl⟩), hrest⟩
      exact ⟨s', hpassed.trans (hentry.trans hmore), hend⟩

/-- **Several parts between brackets.** -/
lemma exists_spread (hmarks : Brackets opening closing first last)
    (hparts : List.Forall₂ (Gives true) parts tss) (calm : Calm s)
    (hbefore : s.inFlow = true ∧ Before s (Json.spread opening closing level parts ++ rest) ∨
      s.cursor.rest = Json.spread opening closing level parts ++ rest) :
    ∃ s', Passes s (spreadTokens first last tss) s' ∧ s'.cursor.rest = rest ∧
      s'.outerKeys = s.outerKeys := by
  have hfirst : opening = '[' ∧ first = .flowSequenceStart ∨ opening = '\x7b' ∧
      first = .flowMappingStart := by
    cases hmarks <;> simp
  cases hparts with
  | nil =>
      have hlast : closing = ']' ∧ last = .flowSequenceEnd ∨ closing = '\x7d' ∧ last = .flowMappingEnd := by
        cases hmarks <;> simp
      obtain ⟨s₁, key, hopened, hnext, -, houter⟩ := exists_opening calm hfirst hbefore
      obtain ⟨s', hclosed, hend⟩ := exists_closing hopened.calm hlast houter ⟨[], .inl rfl, hnext⟩
      exact ⟨s', hopened.trans hclosed, hend⟩
  | cons hpart hparts =>
      rw [Json.spread_cons, List.cons_append] at hbefore
      obtain ⟨s₁, key, hopened, hnext, hallowed, houter⟩ := exists_opening calm hfirst hbefore
      rw [List.append_assoc, List.append_assoc] at hnext
      obtain ⟨s', hclosed, hend⟩ := exists_parts hmarks hpart hparts hopened.calm hallowed houter
        ⟨_, .inr (.inr ⟨_, rfl⟩), hnext⟩
      exact ⟨s', hopened.trans hclosed, hend⟩

end Brackets

/-! ## Values -/

lemma gives_word {word : List Char} (hword : word ∈ words) :
    Gives false word [.scalar true (String.ofList word)] := by
  intro s gap e cs calm hflow _ hgap he hbefore
  obtain ⟨s', hpassed, hrest, houter⟩ := exists_word calm hflow hword hgap he hbefore
  exact ⟨s', hpassed, ⟨[], .inl rfl, hrest⟩, houter⟩

lemma isGap_of_lineBreak {gap : List Char} (hgap : gap = [] ∨ ∃ level, gap = lineBreak level) : IsGap gap :=
  hgap.imp_right .inr

lemma escapedChar_of_folds (hd : Folds d) : escapedChar d = [d] := by
  rcases hd with rfl | rfl | rfl <;> rfl

/-- The line breaks that JSON does not escape stand in the literal. -/
lemma not_folds_of_literalChars {text : String} (h : ∀ d ∈ literalChars text, ¬ Folds d) :
    ∀ d ∈ text.toList, ¬ Folds d := by
  intro d hd hfolds
  have hinside : d ∈ text.toList.flatMap escapedChar :=
    List.mem_flatMap.2 ⟨d, hd, by rw [escapedChar_of_folds hfolds]; exact List.mem_singleton_self d⟩
  exact h d (List.mem_append_left _ (List.mem_cons_of_mem _ hinside)) hfolds

lemma gives_string {text : String} (hfolds : ∀ d ∈ literalChars text, ¬ Folds d) :
    Gives false (literalChars text) [.scalar false text] := by
  intro s gap e cs calm hflow _ hgap _ hbefore
  obtain ⟨s', hpassed, hrest, houter⟩ := exists_string calm hflow (not_folds_of_literalChars hfolds) hbefore
  exact ⟨s', hpassed, ⟨gap, isGap_of_lineBreak hgap, hrest⟩, houter⟩

/-- A field, of which the value stands behind a space. -/
lemma gives_field {key : String} {chars : List Char} (hshort : IsShort key)
    (hfolds : ∀ d ∈ literalChars key, ¬ Folds d) (hvalue : Gives false chars ts) :
    Gives true (literalChars key ++ ':' :: ' ' :: chars) (.key :: .scalar false key :: .value :: ts) := by
  intro s gap e cs calm hflow hallowed hgap he hbefore
  rw [List.append_assoc, List.cons_append, List.cons_append] at hbefore
  obtain ⟨s₁, hkey, hrest, houter₁⟩ :=
    exists_key calm hflow (hallowed rfl) hshort (not_folds_of_literalChars hfolds) hbefore
  have hflow₁ : s₁.inFlow = true := by rwa [inFlow, houter₁]
  obtain ⟨s', hpassed, hnext, houter⟩ :=
    hvalue hkey.calm hflow₁ (fun h => absurd h Bool.false_ne_true) hgap he
    ⟨[' '], .inr (.inl rfl), hrest⟩
  exact ⟨s', hkey.trans hpassed, hnext, houter.trans houter₁⟩

lemma gives_spread {opening closing : Char} {first last : Token} {level : Nat} {parts : List (List Char)}
    {tss : List (List Token)} (hmarks : Brackets opening closing first last)
    (hparts : List.Forall₂ (Gives true) parts tss) :
    Gives false (Json.spread opening closing level parts) (spreadTokens first last tss) := by
  intro s gap e cs calm hflow _ hgap _ hbefore
  obtain ⟨s', hpassed, hrest, houter⟩ := exists_spread hmarks hparts calm (.inl ⟨hflow, hbefore⟩)
  exact ⟨s', hpassed, ⟨gap, isGap_of_lineBreak hgap, hrest⟩, houter⟩

/-! ## Values -/

variable {level : Nat}

lemma gives_items {xs : List Json} (h : ∀ x ∈ xs, Gives false (x.prettyChars level) (jsonTokens x)) :
    List.Forall₂ (Gives true) (prettyItems level xs) (itemTokens xs) := by
  rw [prettyItems_eq_map, itemTokens_eq_map, List.forall₂_map_left_iff, List.forall₂_map_right_iff,
    List.forall₂_same]
  exact fun x hx => (h x hx).asPart

lemma gives_fields {fields : List (String × Json)} (keys : ∀ f ∈ fields, IsShort f.1)
    (hfolds : ∀ f ∈ fields, ∀ d ∈ literalChars f.1, ¬ Folds d)
    (h : ∀ f ∈ fields, Gives false (f.2.prettyChars level) (jsonTokens f.2)) :
    List.Forall₂ (Gives true) (prettyFields level fields) (fieldTokens fields) := by
  rw [prettyFields_eq_map, fieldTokens_eq_map, List.forall₂_map_left_iff, List.forall₂_map_right_iff,
    List.forall₂_same]
  exact fun f hf => gives_field (keys f hf) (hfolds f hf) (h f hf)

lemma mem_object_of_mem_field {fields : List (String × Json)} {f : String × Json} (hf : f ∈ fields)
    (hd : d ∈ literalChars f.1 ∨ d ∈ f.2.prettyChars (level + 1)) :
    d ∈ (Json.object fields).prettyChars level := by
  have hpart : literalChars f.1 ++ ':' :: ' ' :: f.2.prettyChars (level + 1) ∈
      prettyFields (level + 1) fields := by
    rw [prettyFields_eq_map]
    exact List.mem_map_of_mem hf
  refine subset_spread hpart _ _ level ?_
  simp only [List.mem_append, List.mem_cons]
  exact hd.imp_right fun h => .inr (.inr h)

/-- **What is written for a value gives its tokens**, as long as it holds no line breaks that JSON does not
escape, and its keys are short. -/
theorem gives_prettyChars {depth : Nat} {j : Json} (plain : Plain depth j) (keyed : Keyed IsShort j)
    (hfolds : ∀ d ∈ j.prettyChars level, ¬ Folds d) : Gives false (j.prettyChars level) (jsonTokens j) := by
  induction plain generalizing level with
  | null =>
      have hword := gives_word (List.mem_cons_self : ['n', 'u', 'l', 'l'] ∈ words)
      exact hword
  | bool b =>
      cases b with
      | true =>
          have hword := gives_word (by decide : ['t', 'r', 'u', 'e'] ∈ words)
          exact hword
      | false =>
          have hword := gives_word (by decide : ['f', 'a', 'l', 's', 'e'] ∈ words)
          exact hword
  | string s => exact gives_string hfolds
  | array _ ih =>
      cases keyed with
      | array keyed =>
          refine gives_spread .array (gives_items fun x hx => ih x hx (keyed x hx) fun d hd => hfolds d ?_)
          exact subset_spread (by rw [prettyItems_eq_map]; exact List.mem_map_of_mem hx) _ _ level hd
  | object _ ih =>
      cases keyed with
      | object keys keyed =>
          refine gives_spread .object (gives_fields keys ?_ ?_)
          · exact fun f hf d hd => hfolds d (mem_object_of_mem_field hf (.inl hd))
          · exact fun f hf => ih f hf (keyed f hf) fun d hd => hfolds d (mem_object_of_mem_field hf (.inr hd))

/-- The same for the fields of an object. -/
lemma gives_object {depth : Nat} {fields : List (String × Json)} (plain : Plain depth (.object fields))
    (keyed : Keyed IsShort (.object fields))
    (hfolds : ∀ d ∈ (Json.object fields).prettyChars level, ¬ Folds d) :
    List.Forall₂ (Gives true) (prettyFields (level + 1) fields) (fieldTokens fields) := by
  cases plain with
  | object plain =>
      cases keyed with
      | object keys keyed =>
          refine gives_fields keys ?_ fun f hf => gives_prettyChars (plain f hf) (keyed f hf) ?_
          · exact fun f hf d hd => hfolds d (mem_object_of_mem_field hf (.inl hd))
          · exact fun d hd => hfolds d (mem_object_of_mem_field hf (.inr hd))

/-! ## Whole texts -/

lemma skipGap_nil {fuel : Nat} (hrest : s.cursor.rest = []) : s.skipGap (fuel + 1) = s := by
  obtain ⟨⟨_, _, _, _⟩, _, _, _, _, _⟩ := s
  cases hrest
  simp [skipGap, Cursor.skipByteOrderMark, Cursor.skipComment, Cursor.forwardWhile, beginsWith, beginsBreak,
    moveTo]

/-- At the end of the last line all tokens have been found. -/
lemma scan_end {fuel : Nat} (calm : Calm s) (hrest : s.cursor.rest = ['\n']) :
    scan (fuel + 2) s = some s.found.toList := by
  obtain ⟨s₁, hs₁⟩ : ∃ s₁, s₁ =
      (s.moveTo ⟨[], s.cursor.offset + 1, s.cursor.line + 1, 0⟩).allowKey (s.keyAllowed || !s.inFlow) :=
    ⟨_, rfl⟩
  have calm₁ : Calm s₁ := hs₁ ▸ ⟨calm.indents, calm.possible, calm.outer⟩
  have hend : s₁.cursor.rest = [] := hs₁ ▸ rfl
  have hfound : s₁.found = s.found := hs₁ ▸ rfl
  obtain ⟨key, hkey, hrefresh⟩ := exists_refreshKey calm₁
  have calm₂ : Calm { s₁ with possibleKey := key } := ⟨calm₁.indents, hkey, calm₁.outer⟩
  rw [scan, skipGap_lineFeed hrest, ← hs₁, skipGap_nil hend, hrefresh, Option.bind_eq_bind, Option.bind_some,
    closeBlocks_of_calm calm₂]
  dsimp only
  rw [hend, closeAllBlocks_of_calm calm₂, dropKey_of_calm calm₂, ← hfound]
  rfl

end Scanner

/-- **The tokens of a text of JSON** are those of its value. -/
theorem tokens_pretty {depth : Nat} {fields : List (String × Json)} (plain : Plain depth (.object fields))
    (keyed : Keyed IsShort (.object fields))
    (hverbatim : ∀ d ∈ (Json.object fields).prettyChars 0, isVerbatim d = true) :
    tokens ((Json.object fields).prettyChars 0 ++ ['\n']) = some (jsonTokens (.object fields)) := by
  obtain ⟨cs, hcs⟩ : ∃ cs, cs = (Json.object fields).prettyChars 0 ++ ['\n'] := ⟨_, rfl⟩
  have hall : cs.all isAllowed = true := by
    rw [hcs, List.all_append, Bool.and_eq_true]
    exact ⟨List.all_eq_true.2 fun d hd => isAllowed_of_isVerbatim (hverbatim d hd), rfl⟩
  have calm : Scanner.Calm { cursor := { rest := cs } } := ⟨rfl, fun _ h => (nomatch h), fun _ h => nomatch h⟩
  have hparts := Scanner.gives_object plain keyed fun d hd => not_folds_of_isVerbatim (hverbatim d hd)
  obtain ⟨s', hpassed, hrest, -⟩ := Scanner.exists_spread .object hparts calm (.inr hcs)
  obtain ⟨fuel, hfuel, hscan⟩ := hpassed.reaches (cs.length + 1) (Nat.lt_succ_self _)
  rw [hrest, List.length_singleton] at hfuel
  obtain ⟨fuel, rfl⟩ : ∃ k, fuel = k + 2 := ⟨fuel - 2, by omega⟩
  have hfound : s'.found.latest = (jsonTokens (.object fields)).reverse :=
    hpassed.found.trans (List.append_nil _)
  rw [← hcs, tokens, hall, if_pos rfl, hscan, Scanner.scan_end hpassed.calm hrest, Found.toList, hfound,
    List.reverse_reverse]

end SchemaCompiler.Yaml

import SchemaCompiler.Proofs.Yaml.Tokens
import SchemaCompiler.Yaml.Value

/-!
# JSON read as YAML

The tokens of a value of JSON make a node of scalars, sequences and mappings without tags and without marks,
and that node stands for the value again, with the fields of every object in ascending order of their keys,
as JSON itself is read.

The fuel for the nodes is counted in tokens: a node takes at most three units for each of its own.

* `jsonNode` — the node of a value.
* `readNode_jsonTokens`, `ofTokens?_jsonTokens` — nodes from tokens.
* `nodeValue_jsonNode`, `value_jsonNode` — values from nodes.
* **`parse_pretty`** — a text of JSON means the same to a reader of YAML.
-/

namespace SchemaCompiler.Yaml

open Json (Keyed Plain)

/-! ## Nodes of values -/

mutual

/-- The node of a value without numbers. -/
def jsonNode : Json → Node
  | .null => .scalar none true "null"
  | .bool b => .scalar none true (if b then "true" else "false")
  | .int _ | .float _ => .missing
  | .string s => .scalar none false s
  | .array xs => .sequence none (itemNodes xs)
  | .object fields => .mapping none (fieldNodes fields)

/-- The nodes of the items of an array. -/
def itemNodes : List Json → List Node
  | [] => []
  | x :: rest => jsonNode x :: itemNodes rest

/-- The nodes of the fields of an object. -/
def fieldNodes : List (String × Json) → List (Node × Node)
  | [] => []
  | (key, value) :: rest => (.scalar none false key, jsonNode value) :: fieldNodes rest

end

/-! ## From tokens to nodes -/

/-- Whether a token begins the node of a value. -/
def beginsNode : Token → Bool
  | .scalar .. | .flowSequenceStart | .flowMappingStart => true
  | _ => false

section Reading

variable {shorthands : Shorthands} {fuel depth : Nat} {block flush first : Bool} {names : List (String × Nat)}
  {t : Token} {ts rest more : List Token} {j : Json}

lemma exists_beginsNode (plain : Plain depth j) : ∃ t ts, jsonTokens j = t :: ts ∧ beginsNode t = true := by
  cases plain with
  | null => exact ⟨_, _, rfl, rfl⟩
  | bool b => exact ⟨_, _, rfl, rfl⟩
  | string s => exact ⟨_, _, rfl, rfl⟩
  | @array _ xs =>
      rw [jsonTokens]
      cases itemTokens xs <;> exact ⟨_, _, rfl, rfl⟩
  | @object _ fields =>
      rw [jsonTokens]
      cases fieldTokens fields <;> exact ⟨_, _, rfl, rfl⟩

/-- What begins a node is not among the tokens that end something. -/
lemma next_of_beginsNode {among : List Token} (ht : beginsNode t = true)
    (hamong : among.all (fun u => !beginsNode u) = true) : Reading.next ⟨t :: ts, names⟩ among = false := by
  have hne : t ∉ among := by
    intro hmem
    have hnot := List.all_eq_true.1 hamong t hmem
    rw [ht] at hnot
    exact absurd hnot (by decide)
  simpa [Reading.next] using hne

/-- Without a tag or a mark a node is its content. -/
lemma readNode_of_beginsNode (ht : beginsNode t = true) :
    readNode shorthands (fuel + 1) block flush ⟨t :: ts, names⟩ =
      readContent shorthands fuel block flush {} ⟨t :: ts, names⟩ := by
  have hproperties : readProperties shorthands ⟨t :: ts, names⟩ = some ({}, ⟨t :: ts, names⟩) := by
    cases t <;> first | rfl | cases ht
  have hread : readNode shorthands (fuel + 1) block flush ⟨t :: ts, names⟩ =
      (readProperties shorthands ⟨t :: ts, names⟩).bind fun x =>
        (readContent shorthands fuel block flush x.1 x.2).bind fun y => some (x.1.attach y.1, y.2) := by
    cases t <;> first | rfl | cases ht
  rw [hread, hproperties, Option.bind_some]
  exact Option.bind_fun_some _

/-! Of the scalars and brackets none depends on where it stands. -/

lemma readContent_scalar {p : Bool} {text : String} :
    readContent shorthands (fuel + 1) block flush {} ⟨.scalar p text :: ts, names⟩ =
      some (.scalar none p text, ⟨ts, names⟩) := by
  cases flush <;> rfl

lemma readContent_sequence :
    readContent shorthands (fuel + 1) block flush {} ⟨.flowSequenceStart :: ts, names⟩ =
      (readFlowItems shorthands fuel true ⟨ts, names⟩).map fun (xs, r) => (.sequence none xs, r) := by
  cases flush <;> rfl

lemma readContent_mapping :
    readContent shorthands (fuel + 1) block flush {} ⟨.flowMappingStart :: ts, names⟩ =
      (readFlowPairs shorthands fuel true ⟨ts, names⟩).map fun (ps, r) => (.mapping none ps, r) := by
  cases flush <;> rfl

/-- **The tokens of a value make its node**, with three units of fuel for each token. -/
def Builds (j : Json) : Prop :=
  ∀ ⦃shorthands : Shorthands⦄ ⦃fuel : Nat⦄ ⦃block flush : Bool⦄ ⦃names : List (String × Nat)⦄
    ⦃rest : List Token⦄,
    3 * (jsonTokens j).length ≤ fuel →
      readNode shorthands fuel block flush ⟨jsonTokens j ++ rest, names⟩ = some (jsonNode j, ⟨rest, names⟩)

lemma builds_scalar {p : Bool} {text : String} (htokens : jsonTokens j = [.scalar p text])
    (hnode : jsonNode j = .scalar none p text) : Builds j := by
  intro shorthands fuel block flush names rest hfuel
  rw [htokens, List.length_singleton] at hfuel
  obtain ⟨fuel, rfl⟩ : ∃ k, fuel = k + 2 := ⟨fuel - 2, by omega⟩
  rw [htokens, hnode, List.singleton_append, readNode_of_beginsNode rfl, readContent_scalar]

/-! ### Items of sequences -/

lemma readFlowItems_first (plain : Plain depth j) (builds : Builds j)
    (hfuel : 3 * (jsonTokens j).length ≤ fuel) :
    readFlowItems shorthands (fuel + 1) true ⟨jsonTokens j ++ more, names⟩ =
      (readFlowItems shorthands fuel false ⟨more, names⟩).map fun (xs, r) => (jsonNode j :: xs, r) := by
  obtain ⟨t, ts, htokens, ht⟩ := exists_beginsNode plain
  have hend : Reading.next ⟨t :: (ts ++ more), names⟩ [.flowSequenceEnd] = false := next_of_beginsNode ht rfl
  have hkey : Reading.next ⟨t :: (ts ++ more), names⟩ [.key] = false := next_of_beginsNode ht rfl
  have hitem : readNode shorthands fuel false false ⟨jsonTokens j ++ more, names⟩ = _ := builds hfuel
  rw [htokens, List.cons_append] at hitem ⊢
  rw [readFlowItems]
  cases hrest : readFlowItems shorthands fuel false ⟨more, names⟩ <;> simp [hend, hkey, hitem, hrest]

/-- Behind a comma items are read as at the front. -/
lemma readFlowItems_flowEntry (ts : List Token) :
    readFlowItems shorthands (fuel + 1) false ⟨.flowEntry :: ts, names⟩ =
      readFlowItems shorthands (fuel + 1) true ⟨ts, names⟩ := by
  have hend : Reading.next ⟨.flowEntry :: ts, names⟩ [.flowSequenceEnd] = false := rfl
  have hcomma : Reading.next ⟨.flowEntry :: ts, names⟩ [.flowEntry] = true := rfl
  have hskip : Reading.skip ⟨.flowEntry :: ts, names⟩ = ⟨ts, names⟩ := rfl
  rw [readFlowItems, readFlowItems]
  cases hnext : Reading.next ⟨ts, names⟩ [.flowSequenceEnd] <;> simp [hend, hcomma, hskip, hnext]

lemma readFlowItems_next (plain : Plain depth j) (builds : Builds j)
    (hfuel : 3 * (jsonTokens j).length ≤ fuel) :
    readFlowItems shorthands (fuel + 1) false ⟨.flowEntry :: (jsonTokens j ++ more), names⟩ =
      (readFlowItems shorthands fuel false ⟨more, names⟩).map fun (xs, r) => (jsonNode j :: xs, r) := by
  rw [readFlowItems_flowEntry, readFlowItems_first plain builds hfuel]

/-- What stands behind the first of several items, up to the bracket. -/
lemma readFlowItems_closeTokens {xs : List Json} (plain : ∀ x ∈ xs, Plain depth x)
    (builds : ∀ x ∈ xs, Builds x)
    (hfuel : 3 * (closeTokens .flowSequenceEnd (itemTokens xs)).length ≤ fuel) :
    readFlowItems shorthands fuel false ⟨closeTokens .flowSequenceEnd (itemTokens xs) ++ rest, names⟩ =
      some (itemNodes xs, ⟨rest, names⟩) := by
  induction xs generalizing fuel with
  | nil =>
      rw [itemTokens, closeTokens, List.length_singleton] at hfuel
      obtain ⟨fuel, rfl⟩ : ∃ k, fuel = k + 1 := ⟨fuel - 1, by omega⟩
      rfl
  | cons x xs ih =>
      rw [itemTokens, closeTokens, List.length_cons, List.length_append] at hfuel
      obtain ⟨fuel, rfl⟩ : ∃ k, fuel = k + 1 := ⟨fuel - 1, by omega⟩
      obtain ⟨plainFirst, plain⟩ := List.forall_mem_cons.1 plain
      obtain ⟨buildsFirst, builds⟩ := List.forall_mem_cons.1 builds
      rw [itemTokens, closeTokens, List.cons_append, List.append_assoc,
        readFlowItems_next plainFirst buildsFirst (by omega), ih plain builds (by omega)]
      rfl

lemma builds_array {xs : List Json} (plain : ∀ x ∈ xs, Plain depth x) (builds : ∀ x ∈ xs, Builds x) :
    Builds (.array xs) := by
  intro shorthands fuel block flush names rest hfuel
  cases xs with
  | nil =>
      rw [jsonTokens, itemTokens, spreadTokens, List.length_cons, List.length_singleton] at hfuel
      obtain ⟨fuel, rfl⟩ : ∃ k, fuel = k + 3 := ⟨fuel - 3, by omega⟩
      cases flush <;> rfl
  | cons x xs =>
      rw [jsonTokens, itemTokens, spreadTokens, List.length_cons, List.length_append] at hfuel
      obtain ⟨fuel, rfl⟩ : ∃ k, fuel = k + 3 := ⟨fuel - 3, by omega⟩
      obtain ⟨plainFirst, plain⟩ := List.forall_mem_cons.1 plain
      obtain ⟨buildsFirst, builds⟩ := List.forall_mem_cons.1 builds
      rw [jsonTokens, itemTokens, spreadTokens, List.cons_append, List.append_assoc,
        readNode_of_beginsNode rfl, readContent_sequence,
        readFlowItems_first plainFirst buildsFirst (by omega),
        readFlowItems_closeTokens plain builds (by omega)]
      rfl

/-! ### Pairs of mappings -/

variable {key : String}

/-- The value of a pair. -/
lemma readValue_of_value {stops : List Token} (plain : Plain depth j) (builds : Builds j)
    (hstops : stops.all (fun u => !beginsNode u) = true) (hfuel : 3 * (jsonTokens j).length ≤ fuel) :
    readValue shorthands (fuel + 2) stops false ⟨.value :: (jsonTokens j ++ more), names⟩ =
      some (jsonNode j, ⟨more, names⟩) := by
  obtain ⟨t, ts, htokens, ht⟩ := exists_beginsNode plain
  have hstop : Reading.next ⟨t :: (ts ++ more), names⟩ stops = false := next_of_beginsNode ht hstops
  have hnode : readNode shorthands fuel false false ⟨jsonTokens j ++ more, names⟩ = _ := builds hfuel
  rw [htokens, List.cons_append] at hnode ⊢
  simp [readValue, readNodeUnless, Reading.skip, hstop, hnode]

lemma readFlowPairs_first (plain : Plain depth j) (builds : Builds j)
    (hfuel : 3 * (jsonTokens j).length + 3 ≤ fuel) :
    readFlowPairs shorthands (fuel + 1) true
      ⟨.key :: .scalar false key :: .value :: (jsonTokens j ++ more), names⟩ =
      (readFlowPairs shorthands fuel false ⟨more, names⟩).map fun (ps, r) =>
        ((.scalar none false key, jsonNode j) :: ps, r) := by
  obtain ⟨fuel, rfl⟩ : ∃ k, fuel = k + 3 := ⟨fuel - 3, by omega⟩
  have hkey : ∀ ts, readNodeUnless shorthands (fuel + 3) [.value, .flowEntry, .flowMappingEnd] false false
      ⟨.scalar false key :: ts, names⟩ = some (.scalar none false key, ⟨ts, names⟩) := by
    intro ts
    rw [readNodeUnless, next_of_beginsNode rfl rfl, readNode_of_beginsNode rfl, readContent_scalar]
    rfl
  have hvalue : readValue shorthands (fuel + 3) [.flowEntry, .flowMappingEnd] false
      ⟨.value :: (jsonTokens j ++ more), names⟩ = _ := readValue_of_value plain builds rfl (by omega)
  have hend : ∀ ts, Reading.next ⟨.key :: ts, names⟩ [.flowMappingEnd] = false := fun _ => rfl
  have hmark : ∀ ts, Reading.next ⟨.key :: ts, names⟩ [.key] = true := fun _ => rfl
  rw [readFlowPairs]
  cases hrest : readFlowPairs shorthands (fuel + 3) false ⟨more, names⟩ <;>
    simp [hend, hmark, Reading.skip, hkey, hvalue, hrest]

lemma readFlowPairs_next (plain : Plain depth j) (builds : Builds j)
    (hfuel : 3 * (jsonTokens j).length + 3 ≤ fuel) :
    readFlowPairs shorthands (fuel + 1) false
        ⟨.flowEntry :: .key :: .scalar false key :: .value :: (jsonTokens j ++ more), names⟩ =
      (readFlowPairs shorthands fuel false ⟨more, names⟩).map fun (ps, r) =>
        ((.scalar none false key, jsonNode j) :: ps, r) := by
  have hcomma : ∀ ts, readFlowPairs shorthands (fuel + 1) false ⟨.flowEntry :: .key :: ts, names⟩ =
      readFlowPairs shorthands (fuel + 1) true ⟨.key :: ts, names⟩ := by
    intro ts
    rw [readFlowPairs, readFlowPairs]
    rfl
  rw [hcomma, readFlowPairs_first plain builds hfuel]

/-- What stands behind the first of several pairs, up to the brace. -/
lemma readFlowPairs_closeTokens {fields : List (String × Json)} (plain : ∀ f ∈ fields, Plain depth f.2)
    (builds : ∀ f ∈ fields, Builds f.2)
    (hfuel : 3 * (closeTokens .flowMappingEnd (fieldTokens fields)).length ≤ fuel) :
    readFlowPairs shorthands fuel false ⟨closeTokens .flowMappingEnd (fieldTokens fields) ++ rest, names⟩ =
      some (fieldNodes fields, ⟨rest, names⟩) := by
  induction fields generalizing fuel with
  | nil =>
      rw [fieldTokens, closeTokens, List.length_singleton] at hfuel
      obtain ⟨fuel, rfl⟩ : ∃ k, fuel = k + 1 := ⟨fuel - 1, by omega⟩
      rfl
  | cons f fields ih =>
      obtain ⟨key, value⟩ := f
      simp only [fieldTokens, closeTokens, List.length_cons, List.length_append] at hfuel
      obtain ⟨fuel, rfl⟩ : ∃ k, fuel = k + 1 := ⟨fuel - 1, by omega⟩
      obtain ⟨plainFirst, plain⟩ := List.forall_mem_cons.1 plain
      obtain ⟨buildsFirst, builds⟩ := List.forall_mem_cons.1 builds
      have hlength : (jsonTokens (key, value).2).length = (jsonTokens value).length := rfl
      simp only [fieldTokens, closeTokens, List.cons_append, List.append_assoc]
      rw [readFlowPairs_next plainFirst buildsFirst (by omega), ih plain builds (by omega)]
      rfl

lemma builds_object {fields : List (String × Json)} (plain : ∀ f ∈ fields, Plain depth f.2)
    (builds : ∀ f ∈ fields, Builds f.2) : Builds (.object fields) := by
  intro shorthands fuel block flush names rest hfuel
  cases fields with
  | nil =>
      rw [jsonTokens, fieldTokens, spreadTokens, List.length_cons, List.length_singleton] at hfuel
      obtain ⟨fuel, rfl⟩ : ∃ k, fuel = k + 3 := ⟨fuel - 3, by omega⟩
      cases flush <;> rfl
  | cons f fields =>
      obtain ⟨key, value⟩ := f
      simp only [jsonTokens, fieldTokens, spreadTokens, List.length_cons, List.length_append] at hfuel
      obtain ⟨fuel, rfl⟩ : ∃ k, fuel = k + 3 := ⟨fuel - 3, by omega⟩
      obtain ⟨plainFirst, plain⟩ := List.forall_mem_cons.1 plain
      obtain ⟨buildsFirst, builds⟩ := List.forall_mem_cons.1 builds
      have hlength : (jsonTokens (key, value).2).length = (jsonTokens value).length := rfl
      simp only [jsonTokens, fieldTokens, spreadTokens, List.cons_append, List.append_assoc]
      rw [readNode_of_beginsNode rfl, readContent_mapping,
        readFlowPairs_first plainFirst buildsFirst (by omega),
        readFlowPairs_closeTokens plain builds (by omega)]
      rfl

/-! ### Documents -/

theorem readNode_jsonTokens (plain : Plain depth j) : Builds j := by
  induction plain with
  | null => exact builds_scalar rfl rfl
  | bool b => exact builds_scalar rfl rfl
  | string s => exact builds_scalar rfl rfl
  | array plain ih => exact builds_array plain ih
  | object plain ih => exact builds_object plain ih

/-- **The tokens of a value are one document**, which is its node. -/
theorem ofTokens?_jsonTokens (plain : Plain depth j) : Node.ofTokens? (jsonTokens j) = some (jsonNode j) := by
  have hroot : readRoot [] (jsonTokens j) = some (jsonNode j, []) := by
    have hnode : readNode [] (fuelFor (jsonTokens j)) true false ⟨jsonTokens j ++ [], []⟩ =
        some (jsonNode j, ⟨[], []⟩) := readNode_jsonTokens plain (by rw [fuelFor]; omega)
    rw [List.append_nil] at hnode
    rw [readRoot, hnode]
    rfl
  obtain ⟨t, ts, htokens, ht⟩ := exists_beginsNode plain
  have hdocument : readDocument (jsonTokens j) = readRoot [] (jsonTokens j) := by
    rw [htokens]
    cases t <;> first | rfl | cases ht
  rw [Node.ofTokens?, hdocument, hroot]
  rfl

end Reading

/-! ## From nodes to values -/

section Values

variable {depth : Nat} {j : Json}

lemma marks_jsonNode (plain : Plain depth j) : (jsonNode j).marks = [] := by
  induction plain with
  | null | bool | string => rfl
  | @array _ xs _ ih =>
      have hitems : ∀ {xs : List Json}, (∀ x ∈ xs, (jsonNode x).marks = []) →
          Node.marksOfItems (itemNodes xs) = [] := by
        intro xs ih
        induction xs with
        | nil => rfl
        | cons x xs hrest =>
            obtain ⟨hx, ih⟩ := List.forall_mem_cons.1 ih
            rw [itemNodes, Node.marksOfItems, hx, hrest ih, List.append_nil]
      rw [jsonNode, Node.marks, hitems ih]
  | @object _ fields _ ih =>
      have hpairs : ∀ {fields : List (String × Json)}, (∀ f ∈ fields, (jsonNode f.2).marks = []) →
          Node.marksOfPairs (fieldNodes fields) = [] := by
        intro fields ih
        induction fields with
        | nil => rfl
        | cons f fields hrest =>
            obtain ⟨hf, ih⟩ := List.forall_mem_cons.1 ih
            rw [fieldNodes, Node.marksOfPairs, hf, hrest ih]
            rfl
      rw [jsonNode, Node.marks, hpairs ih]

/-! The depth is looked at together with a node that a computation gives, which is more than the equations
of the recursion are made for; so its definition is opened as a whole. -/

lemma nodeValue_scalar {p : Bool} {text : String} {marks : List (Nat × Node)} :
    nodeValue marks depth (.scalar none p text) = StateT.lift (scalarValue none p text) := by
  delta nodeValue
  cases depth <;> rfl

lemma nodeValue_sequence {items : List Node} {marks : List (Nat × Node)} :
    nodeValue marks (depth + 1) (.sequence none items) =
      (do return .array (← items.mapM (nodeValue marks depth))) := by
  delta nodeValue
  rfl

lemma nodeValue_mapping {pairs : List (Node × Node)} {marks : List (Nat × Node)} :
    nodeValue marks (depth + 1) (.mapping none pairs) = (do
      return Json.ofFields (← pairs.mapM fun (key, value) => do
        let key ← keyText marks key
        return (key, ← nodeValue marks depth value))) := by
  delta nodeValue
  rfl

/-- **A node stands for the value that it was made from**, and follows no reference. -/
theorem nodeValue_jsonNode (plain : Plain depth j) : nodeValue [] depth (jsonNode j) = pure j.canonical := by
  induction plain with
  | null => exact nodeValue_scalar
  | bool b => cases b <;> exact nodeValue_scalar
  | string s => exact nodeValue_scalar
  | @array depth xs _ ih =>
      have hitems : ∀ {xs : List Json}, (∀ x ∈ xs, nodeValue [] depth (jsonNode x) = pure x.canonical) →
          (itemNodes xs).mapM (nodeValue [] depth) = pure (xs.map Json.canonical) := by
        intro xs ih
        induction xs with
        | nil => rfl
        | cons x xs hrest =>
            obtain ⟨hx, ih⟩ := List.forall_mem_cons.1 ih
            rw [itemNodes, List.mapM_cons, hx, hrest ih]
            rfl
      rw [jsonNode, nodeValue_sequence, hitems ih, Json.canonical_array]
      rfl
  | @object depth fields _ ih =>
      have hpairs : ∀ {fields : List (String × Json)},
          (∀ f ∈ fields, nodeValue [] depth (jsonNode f.2) = pure f.2.canonical) →
          ((fieldNodes fields).mapM fun (key, value) => do
            let key ← keyText [] key
            return (key, ← nodeValue [] depth value)) = pure (fields.map fun f => (f.1, f.2.canonical)) := by
        intro fields ih
        induction fields with
        | nil => rfl
        | cons f fields hrest =>
            obtain ⟨hf, ih⟩ := List.forall_mem_cons.1 ih
            rw [fieldNodes, List.mapM_cons, hrest ih]
            dsimp only
            rw [hf]
            rfl
      rw [jsonNode, nodeValue_mapping, hpairs ih, Json.canonical, Json.canonicalFields_eq_map]
      rfl

/-- The value of the node of a value. -/
theorem value_jsonNode (plain : Plain deepest j) : (jsonNode j).value = some j.canonical := by
  rw [Node.value, marks_jsonNode plain, nodeValue_jsonNode plain]
  rfl

/-- **JSON is YAML**: what is written for an object means the same there, as long as every character may
stand in YAML for itself and the keys are short. -/
theorem parse_pretty {fields : List (String × Json)} (plain : Plain deepest (.object fields))
    (keyed : Keyed Scanner.IsShort (.object fields))
    (hverbatim : ∀ d ∈ (Json.object fields).prettyChars 0, isVerbatim d = true) :
    parse ((Json.object fields).pretty ++ "\n") = some (Json.object fields).canonical := by
  have htext : ((Json.object fields).pretty ++ "\n").toList =
      (Json.object fields).prettyChars 0 ++ ['\n'] := by
    simp [Json.pretty]
  rw [parse, htext, tokens_pretty plain keyed hverbatim, Option.bind_eq_bind, Option.bind_some,
    ofTokens?_jsonTokens plain, Option.bind_eq_bind, Option.bind_some, value_jsonNode plain]

end Values

/-- A text with a character that may not stand in YAML means nothing. -/
lemma parse_eq_none {text : String} {d : Char} (hd : d ∈ text.toList) (h : isAllowed d = false) :
    parse text = none := by
  have hall : text.toList.all isAllowed = false := List.all_eq_false.2 ⟨d, hd, by simp [h]⟩
  rw [parse, tokens, hall]
  rfl

end SchemaCompiler.Yaml

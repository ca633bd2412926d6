import Mathlib.Data.List.Chain
import SchemaCompiler.Access.Generator
import SchemaCompiler.Proofs.Access.Operations
import SchemaCompiler.Proofs.Sql.Comments
import SchemaCompiler.Proofs.Text.Annotations
import SchemaCompiler.Proofs.Text.Trimming

/-!
# Comments in access code

The comments of a table and of its columns are written above the record type and its fields.  In Rust each
line of a comment becomes a line of documentation, and only the blank behind an empty one is taken away.  In
TypeScript a comment becomes one block, whatever lines it has; the mark that would end it early is taken
apart, and since a blank is put between its two signs, what is put in cannot make another mark with its
neighbours.

So a record type with comments is the record type without them, with lines or blocks of documentation in
between.  Everything else that is generated does not look at comments.

* `Column.bare`, `Table.bare`, `Declaration.bare`, `Plan.bare` — the same without comments.
* `Rust.IsDocBlock`, `TypeScript.IsDocBlock` — what is read as documentation.
* `Rust.exists_docLine`, `TypeScript.exists_docComment` — what a comment is written as.
* `annotated_declarationSource`, `annotated_typesFile_bare` — record types, alone and in their file.
* `Plan.ofTable_bare` — a plan for a table without comments is a plan without comments.
-/

namespace SchemaCompiler

/-! ## Tables without comments -/

/-- A column without its comment. -/
def Column.bare (c : Column) : Column := { c with comment := none }

namespace Table

/-- A table without its comment and those of its columns. -/
def bare (t : Table) : Table := { t with columns := t.columns.map (·.bare), comment := none }

variable (t : Table)

lemma column?_bare (name : String) : t.bare.column? name = (t.column? name).map (·.bare) :=
  List.find?_map

@[simp] lemma hasColumn_bare (name : String) : t.bare.hasColumn name = t.hasColumn name := by
  rw [hasColumn, hasColumn, column?_bare, Option.isSome_map]

@[simp] lemma primaryKey_bare : t.bare.primaryKey = t.primaryKey := by
  have hmarked : t.bare.markedKey = t.markedKey := by
    simp [markedKey, bare, List.filter_map, Function.comp_def, Column.bare]
  rw [primaryKey, primaryKey, hmarked]
  rfl

@[simp] lemma isUniqueColumn_bare (name : String) : t.bare.isUniqueColumn name = t.isUniqueColumn name := by
  have hmark : (t.bare.column? name).any (·.unique) = (t.column? name).any (·.unique) := by
    rw [column?_bare, Option.any_map]
    rfl
  rw [isUniqueColumn, isUniqueColumn, primaryKey_bare, hmark]
  rfl

/-- The statements of a table without comments are those of the table without their comments. -/
lemma statements_bare : t.bare.statements = t.statements.filterMap (·.bare) := by
  have hcolumns : t.bare.columns.map (·.toDef t.bare.keyConstraint?.isNone) =
      t.columns.map (·.toDef t.keyConstraint?.isNone) := by
    rw [bare, List.map_map]
    rfl
  have htable : t.bare.toStatement = .createTable
      { name := t.name, ifNotExists := false, columns := t.columns.map (·.toDef t.keyConstraint?.isNone),
        constraints := t.constraints.map (·.toDef), comment := none } := by
    rw [toStatement, hcolumns]
    rfl
  have hindexes : t.indexStatements.filterMap (·.bare) = t.indexStatements := by
    rw [indexStatements, List.filterMap_map]
    exact (List.filterMap_eq_map (f := Index.toStatement) ▸ rfl)
  rw [statements, statements, htable, List.filterMap_cons, hindexes]
  rfl

end Table

namespace Access

open Text (pieces Unbroken unbroken_append Annotated AnnotatedBefore annotatedBefore_line
  annotatedBefore_remark replaceFrom)

/-! ## Record types without comments -/

/-- A field without its comment. -/
def Field.bare (f : Field) : Field := { f with doc := none }

/-- A record type without comments. -/
def Declaration.bare (d : Declaration) : Declaration :=
  { d with doc := none, fields := d.fields.map (·.bare) }

namespace Plan

/-- A plan without comments. -/
def bare (p : Plan) : Plan :=
  { p with
    record := p.record.bare
    createInput := p.createInput.bare
    updateInput := p.updateInput.map (·.bare) }

lemma declarations_bare (p : Plan) : p.bare.declarations = p.declarations.map (·.bare) := by
  cases h : p.updateInput <;> simp [declarations, bare, h]

end Plan

lemma flatMap_typeBlocks (render : Declaration → String) (ps : List Plan) :
    ps.flatMap (typeBlocks render) = (ps.flatMap (·.declarations)).map render := by
  rw [List.map_flatMap]
  refine List.flatMap_congr fun p _ => ?_
  cases h : p.updateInput <;> simp [typeBlocks, Plan.declarations, h]

lemma flatMap_declarations_bare (ps : List Plan) :
    (ps.map (·.bare)).flatMap (·.declarations) = (ps.flatMap (·.declarations)).map (·.bare) := by
  simp only [List.flatMap_map, List.map_flatMap, Plan.declarations_bare]

/-! ## Rust -/

namespace Rust

/-- **A block of documentation lines**: each of its lines begins with three slashes behind its indentation. -/
def IsDocBlock (block : List String) : Prop :=
  ∀ line ∈ block, ∃ indent rest : List Char, (∀ c ∈ indent, c = ' ') ∧
    line.toList = indent ++ "///".toList ++ rest

/-- The blank behind the mark is taken away at the end of a line, and nowhere else. -/
lemma replaceFrom_mark {body : List Char} (h : '\n' ∉ body) :
    ∃ kept, (kept = body ∨ kept = body.dropLast) ∧
    replaceFrom "/// \n".toList "///\n".toList 0 (body ++ ['\n']) = kept ++ ['\n'] := by
  induction body with
  | nil => exact ⟨[], .inl rfl, by decide⟩
  | cons c rest ih =>
      by_cases hprefix : "/// \n".toList.isPrefixOf (c :: (rest ++ ['\n'])) = true
      · obtain ⟨behind, hbehind⟩ := List.isPrefixOf_iff_prefix.1 hprefix
        have hsplit : c :: rest ++ '\n' :: [] = "/// ".toList ++ '\n' :: behind := hbehind.symm
        obtain ⟨hbody, -, -⟩ := (List.append_cons_inj_of_notMem h List.not_mem_nil).1 hsplit
        refine ⟨"///".toList, .inr (by rw [hbody]; rfl), ?_⟩
        rw [hbody]
        decide
      · obtain ⟨-, hrest⟩ := not_or.1 (mt List.mem_cons.2 h)
        obtain ⟨kept, hkept, heq⟩ := ih hrest
        have hstep : replaceFrom "/// \n".toList "///\n".toList 0 (c :: rest ++ ['\n']) =
            c :: replaceFrom "/// \n".toList "///\n".toList 0 (rest ++ ['\n']) := by
          rw [List.cons_append, replaceFrom, if_neg hprefix]
        rcases hkept with rfl | rfl
        · exact ⟨c :: kept, .inl rfl, by rw [hstep, heq, List.cons_append]⟩
        · cases rest with
          | nil => exact ⟨[c], .inl rfl, by rw [hstep, heq]; rfl⟩
          | cons d rest => exact ⟨c :: (d :: rest).dropLast, .inr rfl, by rw [hstep, heq, List.cons_append]⟩

/-- One line of a comment: the mark stays at its beginning, whatever is taken away at its end. -/
lemma exists_docLine {indent line : String} (hindent : ∀ c ∈ indent.toList, c = ' ') (hline : Unbroken line) :
    ∃ text, Text.replace (indent ++ "/// " ++ line ++ "\n") "/// \n" "///\n" = text ++ "\n" ∧
      IsDocBlock (pieces '\n' text) := by
  have hunbroken : '\n' ∉ indent.toList := fun h => absurd (hindent _ h) (by decide)
  have hbody : Unbroken (indent ++ "/// " ++ line) := by
    rw [unbroken_append, unbroken_append]
    exact ⟨⟨hunbroken, by decide⟩, hline⟩
  obtain ⟨kept, hkept, heq⟩ := replaceFrom_mark hbody
  have hlist : (indent ++ "/// " ++ line).toList = indent.toList ++ "///".toList ++ (' ' :: line.toList) := by
    simp [String.toList_append]
  obtain ⟨hbeginning, hlength⟩ : kept <+: (indent ++ "/// " ++ line).toList ∧
      (indent ++ "/// " ++ line).toList.length ≤ kept.length + 1 := by
    rcases hkept with rfl | rfl
    · exact ⟨List.prefix_refl _, by omega⟩
    · exact ⟨List.dropLast_prefix _, by rw [List.length_dropLast]; omega⟩
  obtain ⟨rest, hrest⟩ : indent.toList ++ "///".toList <+: kept := by
    rw [hlist] at hbeginning hlength
    refine List.prefix_of_prefix_length_le (List.prefix_append _ _) hbeginning ?_
    rw [List.length_append, List.length_cons] at hlength
    omega
  have hkeptline : Unbroken (String.ofList kept) := by
    rw [Unbroken, String.toList_ofList]
    exact fun hmem => hbody (hbeginning.subset hmem)
  refine ⟨String.ofList kept, ?_, ?_⟩
  · rw [Text.replace, Text.replaceAll, String.toList_append]
    exact (congrArg String.ofList heq).trans String.ofList_append
  · rw [Text.pieces_of_unbroken hkeptline]
    intro l hl
    obtain rfl := List.mem_singleton.1 hl
    exact ⟨indent.toList, rest, hindent, by rw [String.toList_ofList, hrest]⟩

/-- A comment is lines of documentation and nothing else. -/
lemma annotatedBefore_docLines {indent : String} (hindent : ∀ c ∈ indent.toList, c = ' ') (doc : String) :
    AnnotatedBefore IsDocBlock "" (docLines doc indent) := by
  have hline : ∀ line ∈ Text.lines doc, AnnotatedBefore IsDocBlock ""
      (Text.replace (indent ++ "/// " ++ line ++ "\n") "/// \n" "///\n") := by
    intro line hline
    obtain ⟨text, htext, hblock⟩ := exists_docLine hindent (Sql.unbroken_of_mem_lines hline)
    rw [htext]
    exact annotatedBefore_remark hblock
  have hempty : "" = String.join ((Text.lines doc).map fun _ => "") := by
    induction Text.lines doc with
    | nil => rfl
    | cons _ _ ih => rw [List.map_cons, String.join_cons, ← ih, String.empty_append]
  rw [docLines, hempty]
  exact Text.annotatedBefore_join hline

lemma annotatedBefore_commentSource {indent : String} (hindent : ∀ c ∈ indent.toList, c = ' ')
    (doc : Option String) : AnnotatedBefore IsDocBlock "" (commentSource indent doc) := by
  cases doc with
  | none => exact Text.annotatedBefore_empty
  | some doc => exact annotatedBefore_docLines hindent doc

lemma fieldSource_eq (role : Role) (f : Field) : fieldSource role f = commentSource "    " f.doc ++
      ((renameAttribute role f ++ "    pub " ++ f.name ++ ": " ++ fieldType f.type f.optional ++ ",") ++
        "\n") := by
  have hend : ",\n" = "," ++ "\n" := rfl
  simp only [fieldSource, hend, String.append_assoc]

/-- A field with its comment is the field without it and lines of documentation. -/
lemma annotatedBefore_fieldSource (role : Role) (f : Field) :
    AnnotatedBefore IsDocBlock (fieldSource role f.bare) (fieldSource role f) := by
  rw [fieldSource_eq, fieldSource_eq]
  exact (annotatedBefore_commentSource (by simp) f.doc).append (annotatedBefore_line _)

lemma typeSource_eq (d : Declaration) : typeSource d = commentSource "" d.doc
    ++ ((deriveAttribute d.role ++ "pub struct " ++ d.name ++ " \x7b") ++ "\n"
    ++ (String.join (d.fields.map (fieldSource d.role)) ++ ("\x7d" ++ "\n"))) := by
  have hopen : " \x7b\n" = " \x7b" ++ "\n" := rfl
  have hclose : "\x7d\n" = "\x7d" ++ "\n" := rfl
  simp only [typeSource, hopen, hclose, String.append_assoc]

/-- A record type with its comments is the record type without them and lines of documentation. -/
lemma annotatedBefore_typeSource (d : Declaration) :
    AnnotatedBefore IsDocBlock (typeSource d.bare) (typeSource d) := by
  have hfields := Text.annotatedBefore_join fun f (_ : f ∈ d.fields) => annotatedBefore_fieldSource d.role f
  rw [typeSource_eq, typeSource_eq, Declaration.bare, List.map_map]
  exact (annotatedBefore_commentSource (by simp) d.doc).append
    ((annotatedBefore_line _).append (hfields.append (annotatedBefore_line _)))

end Rust

/-! ## TypeScript -/

namespace TypeScript

/-- **A block that is one comment**: behind its indentation it begins with the mark that opens a comment of
documentation, and the mark that closes it stands at its end and nowhere before. -/
def IsDocBlock (block : List String) : Prop :=
  ∃ indent inner : String, (∀ c ∈ indent.toList, c = ' ') ∧
    "\n".intercalate block = indent ++ ("/**" ++ inner ++ "*/") ∧
    ∀ before after : List Char, ("/**" ++ inner ++ "*/").toList = before ++ "*/".toList ++ after → after = []

/-- No slash stands behind a star. -/
def Open (cs : List Char) : Prop := cs.IsChain fun a b => a ≠ '*' ∨ b ≠ '/'

/-- The first character stays when marks are taken apart. -/
lemma head?_replaceFrom (cs : List Char) :
    (replaceFrom "*/".toList "* /".toList 0 cs).head? = cs.head? := by
  cases cs with
  | nil => rfl
  | cons c rest =>
      rw [replaceFrom]
      split_ifs with hprefix
      · obtain ⟨behind, hbehind⟩ := List.isPrefixOf_iff_prefix.1 hprefix
        have hfirst : '*' :: '/' :: behind = c :: rest := hbehind
        exact congrArg some (List.cons.inj hfirst).1
      · rfl

/-- **Where all marks are taken apart, none is left**, and none comes about. -/
lemma open_replaceFrom (skip : Nat) (cs : List Char) :
    Open (replaceFrom "*/".toList "* /".toList skip cs) := by
  induction cs generalizing skip with
  | nil => cases skip <;> exact .nil
  | cons c rest ih =>
      cases skip with
      | succ skip => exact ih skip
      | zero =>
          rw [replaceFrom]
          split_ifs with hprefix
          · refine List.isChain_append.2 ⟨by decide, ih _, fun x hx y _ => .inl ?_⟩
            obtain rfl : '/' = x := Option.some.inj hx
            decide
          · refine List.isChain_cons.2 ⟨fun y hy => ?_, ih 0⟩
            rw [head?_replaceFrom] at hy
            by_contra hclose
            obtain ⟨rfl, rfl⟩ : c = '*' ∧ y = '/' := by simpa using hclose
            obtain ⟨behind, rfl⟩ := List.head?_eq_some_iff.1 hy
            exact hprefix (by simp)

/-- A text in which no slash stands behind a star is closed by the next mark, and not before. -/
lemma eq_nil_of_open {cs before after : List Char} (h : Open (cs ++ ['*']))
    (heq : cs ++ "*/".toList = before ++ "*/".toList ++ after) : after = [] := by
  rcases after.eq_nil_or_concat with rfl | ⟨init, last, rfl⟩
  · rfl
  · have hlast : (cs ++ ['*']) ++ ['/'] = (before ++ "*/".toList ++ init) ++ [last] := by
      simpa [List.append_assoc] using heq
    have hinit := (List.append_inj' hlast rfl).1
    have hmark : Open (before ++ "*/".toList ++ init) := hinit ▸ h
    exact absurd hmark.left_of_append.right_of_append (by decide)

/-- What stands between blanks in a comment does not close it. -/
lemma eq_nil_of_open_inner {inner : String} {before after : List Char} (h : Open inner.toList)
    (heq : ("/**" ++ (" " ++ inner ++ " ") ++ "*/").toList = before ++ "*/".toList ++ after) :
    after = [] := by
  have hbehind : Open (inner.toList ++ " *".toList) := by
    refine List.isChain_append.2 ⟨h, by decide, fun x _ y hy => .inr ?_⟩
    obtain rfl : ' ' = y := Option.some.inj hy
    decide
  have hopen : Open ("/** ".toList ++ (inner.toList ++ " *".toList)) := by
    refine List.isChain_append.2 ⟨by decide, hbehind, fun x hx y _ => .inl ?_⟩
    obtain rfl : ' ' = x := Option.some.inj hx
    decide
  have hmark : Open (("/** ".toList ++ (inner.toList ++ [' '])) ++ ['*']) := by simpa using hopen
  refine eq_nil_of_open hmark (Eq.trans ?_ heq)
  simp [String.toList_append]

/-- A comment is one block, whatever it says. -/
lemma exists_docComment {indent : String} (hindent : ∀ c ∈ indent.toList, c = ' ') (doc : String) :
    ∃ text, docComment doc indent = text ++ "\n" ∧ IsDocBlock (pieces '\n' text) := by
  have hinner : Open (Text.trim (Text.replace doc "*/" "* /")).toList := by
    rw [Text.trim, Text.trimWhile, String.toList_ofList, Text.replace, String.toList_ofList]
    exact Text.isChain_trimBoth _ (open_replaceFrom 0 doc.toList)
  refine ⟨indent ++ ("/**" ++ (" " ++ Text.trim (Text.replace doc "*/" "* /") ++ " ") ++ "*/"), ?_,
    indent, _, hindent, Text.intercalate_pieces _, fun _ _ => eq_nil_of_open_inner hinner⟩
  have hend : " */\n" = " " ++ ("*/" ++ "\n") := rfl
  have hmark : "/** " = "/**" ++ " " := rfl
  simp only [docComment, hend, hmark, String.append_assoc]

/-- The comment of a record type or of a field, or nothing. -/
lemma annotatedBefore_doc {indent : String} (hindent : ∀ c ∈ indent.toList, c = ' ') (doc : String) :
    AnnotatedBefore IsDocBlock "" (docComment doc indent) := by
  obtain ⟨text, htext, hblock⟩ := exists_docComment hindent doc
  rw [htext]
  exact annotatedBefore_remark hblock

/-- The comment of a field, or nothing. -/
def fieldComment (role : Role) (f : Field) : String :=
  match f.doc, role with
  | some doc, .row => docComment doc "  "
  | _, _ => ""

lemma fieldSource_eq (role : Role) (f : Field) : fieldSource role f = fieldComment role f ++
    (("  " ++ propertyName f.name ++ ": " ++ fieldType f.type f.optional ++ ";") ++ "\n") := by
  have hend : ";\n" = ";" ++ "\n" := rfl
  simp only [fieldSource, hend, String.append_assoc]
  rfl

/-- A field with its comment is the field without it and one block. -/
lemma annotatedBefore_fieldSource (role : Role) (f : Field) :
    AnnotatedBefore IsDocBlock (fieldSource role f.bare) (fieldSource role f) := by
  have hcomment : AnnotatedBefore IsDocBlock "" (fieldComment role f) := by
    unfold fieldComment
    split
    · exact annotatedBefore_doc (by simp) _
    · exact Text.annotatedBefore_empty
  rw [fieldSource_eq, fieldSource_eq]
  exact hcomment.append (annotatedBefore_line _)

/-- The comment of a record type, or nothing. -/
def typeComment : Option String → String
  | some doc => docComment doc ""
  | none => ""

lemma typeSource_eq (d : Declaration) : typeSource d = typeComment d.doc
    ++ (("export interface " ++ d.name ++ " \x7b") ++ "\n"
    ++ (String.join (d.fields.map (fieldSource d.role)) ++ ("\x7d" ++ "\n"))) := by
  have hopen : " \x7b\n" = " \x7b" ++ "\n" := rfl
  have hclose : "\x7d\n" = "\x7d" ++ "\n" := rfl
  simp only [typeSource, hopen, hclose, String.append_assoc]
  rfl

/-- A record type with its comments is the record type without them and one block for each. -/
lemma annotatedBefore_typeSource (d : Declaration) :
    AnnotatedBefore IsDocBlock (typeSource d.bare) (typeSource d) := by
  have hcomment : AnnotatedBefore IsDocBlock "" (typeComment d.doc) := by
    cases d.doc with
    | none => exact Text.annotatedBefore_empty
    | some doc => exact annotatedBefore_doc (by simp) doc
  have hfields := Text.annotatedBefore_join fun f (_ : f ∈ d.fields) => annotatedBefore_fieldSource d.role f
  rw [typeSource_eq, typeSource_eq, Declaration.bare, List.map_map]
  exact hcomment.append ((annotatedBefore_line _).append (hfields.append (annotatedBefore_line _)))

end TypeScript

/-! ## Files -/

/-- The file of all record types. -/
lemma annotated_typesFile {IsBlock : List String → Prop} {render : Declaration → String}
    (h : ∀ d, AnnotatedBefore IsBlock (render d.bare) (render d)) (ps : List Plan) :
    Annotated IsBlock
      (pieces '\n'
        (generatedHeader ++ "\n" ++ "\n".intercalate ((ps.map (·.bare)).flatMap (typeBlocks render))))
      (pieces '\n' (generatedHeader ++ "\n" ++ "\n".intercalate (ps.flatMap (typeBlocks render)))) := by
  have hblocks := Text.annotatedBefore_intercalate fun d (_ : d ∈ ps.flatMap (·.declarations)) => h d
  rw [flatMap_typeBlocks, flatMap_typeBlocks, flatMap_declarations_bare, List.map_map]
  exact ((annotatedBefore_line generatedHeader).append hblocks).annotated

/-- The files of repositories and the index have no comments of tables and columns. -/
lemma repositoryFile_bare (pageSize : Nat) (p : Plan) :
    repositoryFile pageSize p.bare = repositoryFile pageSize p := by
  obtain ⟨table, language, fileStem, record, createInput, updateInput, generatedKey, operations⟩ := p
  cases language <;> cases updateInput <;> rfl

lemma indexFiles_bare (language : TargetLanguage) (ps : List Plan) :
    indexFiles language (ps.map (·.bare)) = indexFiles language ps := by
  cases language with
  | typeScript => rfl
  | rust =>
      rw [indexFiles, Rust.indexSource, List.map_map]
      rfl

/-! ## Plans of tables without comments -/

namespace Plan

variable (t : Table) (language : TargetLanguage)

lemma keyColumns_bare : keyColumns t.bare = (keyColumns t).map (·.bare) := by
  rw [keyColumns, keyColumns, Table.primaryKey_bare, List.map_filterMap]
  exact List.filterMap_congr fun name _ => t.column?_bare name

lemma updatable_bare : updatable t.bare = (updatable t).map (·.bare) := by
  rw [updatable, updatable, Table.primaryKey_bare, Table.bare, List.filter_map]
  rfl

lemma insertable_bare : insertable t.bare = (insertable t).map (·.bare) := by
  rw [insertable, insertable, updatable_bare, List.filter_map]
  rfl

lemma hasGeneratedKey_bare : hasGeneratedKey t.bare = hasGeneratedKey t := by
  rw [hasGeneratedKey, hasGeneratedKey, keyColumns_bare]
  rcases keyColumns t with _ | ⟨c, _ | ⟨d, rest⟩⟩ <;> rfl

lemma recordOf_bare : recordOf t.bare language = (recordOf t language).map (·.bare) := by
  have hfields : t.bare.columns.map (fieldOf language) = (t.columns.map (fieldOf language)).map (·.bare) := by
    rw [Table.bare, List.map_map, List.map_map]
    rfl
  have hnames : ((t.columns.map (fieldOf language)).map (·.bare)).map (·.name) =
      (t.columns.map (fieldOf language)).map (·.name) := by
    rw [List.map_map]
    rfl
  rw [recordOf, recordOf, hfields, hnames]
  change (refuseConflict (.recordFields t.name) _ false >>= _) = _
  cases refuseConflict (.recordFields t.name) ((t.columns.map (fieldOf language)).map (·.name)) false <;> rfl

lemma inputOf_bare (record : Declaration) (name : String) (columns : List Column) :
    inputOf record.bare name (columns.map (·.bare)) = (inputOf record name columns).bare := by
  simp only [inputOf, Declaration.bare, List.filter_map, List.any_map, Function.comp_def]
  rfl

lemma lookups_bare : (t.bare.columns.filter (hasLookup t.bare)).mapM (lookupOperation t.bare language) =
    (t.columns.filter (hasLookup t)).mapM (lookupOperation t language) := by
  have hlookup : ∀ c : Column, hasLookup t.bare c.bare = hasLookup t c := by
    intro c
    rw [hasLookup, hasLookup, Table.primaryKey_bare, Table.isUniqueColumn_bare]
    rfl
  have hcolumns : t.bare.columns = t.columns.map (·.bare) := rfl
  rw [hcolumns, List.filter_map, List.mapM_map]
  simp only [Function.comp_def, hlookup]
  rfl

lemma operationsOf_bare : operationsOf t.bare language = operationsOf t language := by
  simp only [operationsOf, keyColumns_bare, insertable_bare, updatable_bare, lookups_bare, List.map_map,
    List.isEmpty_map, Function.comp_def]
  rfl

/-- **The plan for a table without comments** is the plan for the table without its comments. -/
theorem ofTable_bare : ofTable t.bare language = (ofTable t language).map (·.bare) := by
  simp only [ofTable, Table.primaryKey_bare, recordOf_bare, operationsOf_bare, hasGeneratedKey_bare,
    updatable_bare, insertable_bare, List.isEmpty_map]
  have hrecordname : ∀ record : Declaration, record.bare.name = record.name := fun _ => rfl
  have hname : t.bare.name = t.name := rfl
  cases t.primaryKey.isEmpty with
  | true => rfl
  | false =>
      cases recordOf t language with
      | error e => rfl
      | ok record =>
          cases operationsOf t language with
          | error e => rfl
          | ok operations =>
              cases hconflict : refuseConflict (.operations t.name) (operations.map (·.name)) false <;>
                cases (updatable t).isEmpty <;>
                simp [hname, hconflict, hrecordname, inputOf_bare, bare, bind, Except.bind, Except.map,
                  pure, Except.pure]

/-- The same for several tables. -/
lemma mapM_ofTable_bare {tables : List Table} {ps : List Plan}
    (h : tables.mapM (ofTable · language) = .ok ps) :
    (tables.map (·.bare)).mapM (ofTable · language) = .ok (ps.map (·.bare)) := by
  induction tables generalizing ps with
  | nil =>
      obtain rfl := Except.ok.inj h
      rfl
  | cons t rest ih =>
      rw [List.mapM_cons] at h
      obtain ⟨p, hp, h⟩ := Sql.bind_eq_ok_iff.1 h
      obtain ⟨rest', hrest, h⟩ := Sql.bind_eq_ok_iff.1 h
      obtain rfl := Except.ok.inj h
      rw [List.map_cons, List.mapM_cons, ofTable_bare, hp, ih hrest]
      rfl

end Plan

/-! ## Comments of both kinds -/

/-- A block of lines that is read as a comment in a language. -/
def IsDocBlock : TargetLanguage → List String → Prop
  | .typeScript => TypeScript.IsDocBlock
  | .rust => Rust.IsDocBlock

lemma annotated_declarationSource (d : Declaration) : Annotated (IsDocBlock d.language)
    (pieces '\n' (declarationSource d.bare)) (pieces '\n' (declarationSource d)) := by
  have hlanguage : d.bare.language = d.language := rfl
  rw [declarationSource, declarationSource, hlanguage]
  cases d.language with
  | typeScript => exact (TypeScript.annotatedBefore_typeSource d).annotated
  | rust => exact (Rust.annotatedBefore_typeSource d).annotated

lemma annotated_typesFile_bare (language : TargetLanguage) (ps : List Plan) : Annotated (IsDocBlock language)
    (pieces '\n' (typesFile language (ps.map (·.bare))).2) (pieces '\n' (typesFile language ps).2) := by
  cases language with
  | typeScript => exact annotated_typesFile TypeScript.annotatedBefore_typeSource ps
  | rust => exact annotated_typesFile Rust.annotatedBefore_typeSource ps

end Access

end SchemaCompiler

import SchemaCompiler.Text.Alphanumeric
import SchemaCompiler.Text.LetterCase

/-!
# Singular forms of English nouns

A table named `posts` holds records of type `Post`.  The singular is found in three steps: nouns
without a plural are kept, irregular plurals are looked up, and for all others the first rule decides
that the word fits.  Nearly all rules look at the end of the word: some of its last characters stay,
the others are replaced, and the rule says what becomes of the part before them.

* `uncountable`, `irregular`, `everydayPlurals` — the word lists.
* `SingularRule`, `singularRules` — the rules, most specific first.
* `singular` — the three steps.
* `singularName` — the same behind a short list of plurals that are recognised in any case.
-/

namespace SchemaCompiler.Text

/-! ## Word lists -/

/-- Nouns that have no plural of their own. -/
def uncountable : List String := [
  "accommodation", "adulthood", "advertising", "advice", "aggression", "aid", "air", "aircraft",
  "alcohol", "anger", "applause", "arithmetic", "assistance", "athletics", "bacon", "baggage",
  "beef", "biology", "blood", "botany", "bread", "butter", "carbon", "cardboard", "cash", "chalk",
  "chaos", "chess", "crossroads", "countryside", "dancing", "deer", "dignity", "dirt", "dust",
  "economics", "education", "electricity", "engineering", "enjoyment", "envy", "equipment",
  "ethics", "evidence", "evolution", "fame", "fiction", "flour", "flu", "food", "fuel", "fun",
  "furniture", "gallows", "garbage", "garlic", "genetics", "gold", "golf", "gossip", "grammar",
  "gratitude", "grief", "guilt", "gymnastics", "happiness", "hardware", "harm", "hate", "hatred",
  "health", "heat", "help", "homework", "honesty", "honey", "hospitality", "housework", "humour",
  "hunger", "hydrogen", "ice", "importance", "inflation", "information", "innocence", "iron",
  "irony", "jam", "jewelry", "judo", "karate", "knowledge", "lack", "laughter", "lava", "leather",
  "leisure", "lightning", "linguine", "linguini", "linguistics", "literature", "litter",
  "livestock", "logic", "loneliness", "luck", "luggage", "macaroni", "machinery", "magic",
  "management", "mankind", "marble", "mathematics", "mayonnaise", "measles", "methane", "milk",
  "money", "mud", "music", "mumps", "nature", "news", "nitrogen", "nonsense", "nurture",
  "nutrition", "obedience", "obesity", "oxygen", "pasta", "patience", "physics", "poetry",
  "pollution", "poverty", "pride", "psychology", "publicity", "punctuation", "quartz", "racism",
  "relaxation", "reliability", "research", "respect", "revenge", "rice", "rubbish", "rum",
  "safety", "scenery", "seafood", "seaside", "series", "shame", "sheep", "shopping", "sleep",
  "smoke", "smoking", "snow", "soap", "software", "soil", "spaghetti", "species", "steam", "stuff",
  "stupidity", "sunshine", "symmetry", "tennis", "thirst", "thunder", "timber", "traffic",
  "transportation", "trust", "underwear", "unemployment", "unity", "validity", "veal",
  "vegetation", "vegetarianism", "vengeance", "violence", "vitality", "warmth", "wealth",
  "weather", "welfare", "wheat", "wildlife", "wisdom", "yoga", "zinc", "zoology"]

/-- Plurals that follow no rule. -/
def irregular : List (String × String) := [
  ("oxen", "ox"), ("boxes", "box"), ("men", "man"), ("women", "woman"), ("dice", "die"),
  ("yeses", "yes"), ("feet", "foot"), ("eaves", "eave"), ("geese", "goose"), ("teeth", "tooth"),
  ("quizzes", "quiz")]

/-- Plurals that are recognised whatever their case. -/
def everydayPlurals : List (String × String) := [
  ("people", "person"), ("children", "child"), ("men", "man"), ("women", "woman"),
  ("feet", "foot"), ("teeth", "tooth"), ("geese", "goose"), ("mice", "mouse")]

/-! ## Rules -/

/-- The characters of an ending, one class for each. -/
abbrev Shape := List (Char → Bool)

/-- A fixed ending. -/
def exactly (s : String) : Shape := s.toList.map fun c d => c == d

/-- One character that is none of those given. -/
def noneOf (s : String) : Shape := [fun c => !s.toList.contains c]

/-- What becomes of the part of a word before its ending. -/
inductive Front where
  /-- It is dropped, whatever it is. -/
  | dropped
  /-- The word characters next to the ending stay, and what stands before them is dropped. -/
  | stem
  /-- There must be no such part. -/
  | absent

/-- A rule for the plurals with some endings, or for those with a beginning. -/
inductive SingularRule where
  /-- One of some endings stays, one of others goes, and a replacement follows. -/
  | ending (front : Front) (kept gone : List Shape) (replacement : String)
  /-- The beginning of the word stays, and all that follows goes. -/
  | beginning (kept gone : String)

section Rules
open Front

/-- Several fixed endings. -/
private def each (ss : List String) : List Shape := ss.map exactly

/-- A rule that keeps the stem and replaces the ending. -/
private def onStem (gone : List Shape) (replacement : String) : SingularRule :=
  .ending stem [[]] gone replacement

/-- The rules, most specific first. -/
def singularRules : List SingularRule := [
  .ending dropped (each ["database"]) (each ["s"]) "",
  .ending dropped (each ["quiz"]) (each ["zes"]) "",
  .ending dropped (each ["matr"]) (each ["ices"]) "ix",
  .ending dropped (each ["vert", "ind"]) (each ["ices"]) "ex",
  .beginning "ox" "en",
  .ending dropped (each ["alias", "status"]) (each ["es", ""]) "",
  .ending dropped (each ["octop", "vir"]) (each ["us", "i"]) "us",
  .ending absent (each ["a"]) (each ["xis", "xes"]) "xis",
  .ending dropped (each ["cris", "test"]) (each ["is", "es"]) "is",
  .ending dropped (each ["shoe"]) (each ["s"]) "",
  .ending dropped (each ["bus"]) (each ["es", ""]) "",
  .ending dropped (each ["m", "l"]) (each ["ice"]) "ouse",
  .ending stem (each ["x", "ch", "ss", "sh"]) (each ["es"]) "",
  .ending dropped (each ["m"]) (each ["ovies"]) "ovie",
  .ending dropped (each ["s"]) (each ["eries"]) "eries",
  onStem (each ["$ies"]) "",
  .ending stem [noneOf "aeiouy", exactly "qu"] (each ["ies"]) "y",
  onStem (each ["lves", "rves"]) "f",
  onStem (each ["tives", "hives"]) "",
  onStem [noneOf "f" ++ exactly "ves"] "fe",
  .ending absent (each ["analy"]) (each ["sis", "ses"]) "sis",
  .ending dropped (each ["analy", "ba", "diagno", "parenthe", "progno", "synop", "the"])
    (each ["sis", "ses"]) "sis",
  onStem (each ["ta", "ia"]) "um",
  onStem (each ["oes"]) "",
  .ending dropped (each ["n"]) (each ["ews"]) "ews",
  .ending stem (each ["ss"]) (each [""]) "",
  onStem (each ["s"]) ""]

end Rules

/-- Cuts an ending off a word, both of them read backwards. -/
def cutEnding : Shape → List Char → Option (List Char × List Char)
  | [], cs => some ([], cs)
  | p :: shape, c :: cs =>
    if p c then (cutEnding shape cs).map fun (ending, front) => (c :: ending, front) else none
  | _ :: _, [] => none

/-- What stays of a word, read backwards, that ends in `kept` and `gone`. -/
def Front.keep (front : Front) (kept gone : Shape) (word : List Char) : Option (List Char) := do
  let (_, rest) ← cutEnding gone.reverse word
  let (ending, before) ← cutEnding kept.reverse rest
  match front with
  | .dropped => return ending.reverse
  | .stem => return (before.takeWhile isWordChar).reverse ++ ending.reverse
  | .absent => if before.isEmpty then return ending.reverse else none

/-- The singular by one rule, if it is one for the word. -/
def SingularRule.apply (word : List Char) : SingularRule → Option (List Char)
  | .ending front kept gone replacement =>
    (kept.findSome? fun k => gone.findSome? fun g => front.keep k g word.reverse).map
      (· ++ replacement.toList)
  | .beginning kept gone =>
    if (kept ++ gone).toList.isPrefixOf word then some kept.toList else none

/-! ## The singular -/

/-- The singular of a noun written in small letters. -/
def singular (word : String) : String :=
  if uncountable.contains word then word
  else
    match irregular.lookup word with
    | some form => form
    | none =>
      match singularRules.findSome? (SingularRule.apply word.toList) with
      | some form => String.ofList form
      | none => word

/-- The singular of a name. -/
def singularName (name : String) : String :=
  match everydayPlurals.lookup (toLowercase name) with
  | some form => form
  | none => singular name

end SchemaCompiler.Text

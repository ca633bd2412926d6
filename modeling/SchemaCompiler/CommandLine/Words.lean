import SchemaCompiler.Text.Basic

/-!
# Words of a command line

A command line is read level by level: every level has options and operands of its own, and a word that
names a command opens the next level.  Options stand anywhere among the operands; behind two dashes that
stand alone there are operands only.

* `Word` — how a single word is written.
* `Level` — what a level allows.
* `Level.read` — what the words of a level say, and the words behind the command that ends it.
-/

namespace SchemaCompiler.CommandLine

/-! ## Words -/

/-- The name of an option: a word, or a letter for short. -/
inductive OptionName where
  | word (name : List Char)
  | letter (c : Char)
  deriving DecidableEq, Repr

/-- A word of a command line. -/
inductive Word where
  /-- Two dashes that stand alone. -/
  | separator
  /-- An option, perhaps with a value in the same word. -/
  | option (name : OptionName) (value : Option String)
  | plain (text : String)
  deriving DecidableEq, Repr

/-- What follows the letter of an option in the same word; an equals sign in between does not count. -/
def attached : List Char → Option String
  | [] => none
  | '=' :: rest => some (String.ofList rest)
  | cs => some (String.ofList cs)

/-- How a word is written.  A single dash is plain text. -/
def Word.ofText (text : String) : Word :=
  match text.toList with
  | ['-', '-'] => .separator
  | '-' :: '-' :: cs =>
    match Text.splitAtFirst '=' cs with
    | some (name, value) => .option (.word name) (some (String.ofList value))
    | none => .option (.word cs) none
  | '-' :: c :: cs => .option (.letter c) (attached cs)
  | _ => .plain text

/-- Whether a word can be the value of the option in front of it. -/
def isValue (text : String) : Bool := Word.ofText text matches .plain _

/-! ## Levels -/

/-- Why a command line does not lead to a command. -/
inductive Refusal where
  /-- The words do not fit together. -/
  | misuse
  /-- A description of the program is asked for. -/
  | help
  /-- The version of the program is asked for. -/
  | version
  deriving DecidableEq, Repr

/-- What an option does. -/
inductive OptionRule where
  /-- It takes a value. -/
  | value (isRepeatable mayBeEmpty : Bool)
  /-- It stands alone. -/
  | switch
  /-- It asks for something else than a command. -/
  | request (refusal : Refusal)
  deriving DecidableEq, Repr

/-- An option of a level. -/
structure OptionForm where
  /-- The name, which is also the name of what is said by it. -/
  name : String
  letter : Option Char := none
  rule : OptionRule
  deriving DecidableEq, Repr

/-- Whether an option goes by a name. -/
def OptionForm.goesBy (f : OptionForm) : OptionName → Bool
  | .word name => f.name.toList == name
  | .letter c => f.letter == some c

/-- What a level allows. -/
structure Level where
  options : List OptionForm
  /-- The words that open another level. -/
  commands : List String := []
  /-- The most operands. -/
  operands : Nat := 0
  deriving DecidableEq, Repr

/-- What the words of a level say. -/
structure Said where
  /-- The options by their names, in order; a switch has an empty value. -/
  options : List (String × String) := []
  operands : List String := []
  deriving DecidableEq, Repr

namespace Said

/-- What was said last under a name. -/
def last? (s : Said) (name : String) : Option String :=
  ((s.options.filter (·.1 == name)).getLast?).map (·.2)

/-- All that was said under a name. -/
def all (s : Said) (name : String) : List String :=
  (s.options.filter (·.1 == name)).map (·.2)

/-- Whether anything was said under a name. -/
def has (s : Said) (name : String) : Bool := s.options.any (·.1 == name)

/-- What two levels say, one after the other. -/
def append (outer inner : Said) : Said :=
  ⟨outer.options ++ inner.options, outer.operands ++ inner.operands⟩

end Said

/-! ## Reading -/

namespace Level

/-- Adds operands, unless there are too many. -/
def addOperands (l : Level) (said : Said) (words : List String) : Except Refusal Said :=
  if (said.operands ++ words).length ≤ l.operands then
    .ok { said with operands := said.operands ++ words }
  else .error .misuse

/-- Adds an option, unless it can be given only once and was given before. -/
def addOption (form : OptionForm) (said : Said) (value : String) : Except Refusal Said :=
  let added := { said with options := said.options ++ [(form.name, value)] }
  match form.rule with
  | .value isRepeatable mayBeEmpty =>
    if (!isRepeatable && said.has form.name) || (!mayBeEmpty && value.isEmpty) then .error .misuse
    else .ok added
  | .switch => if said.has form.name then .error .misuse else .ok added
  | .request refusal => .error refusal

/-- Whether a value may stand in the same word as an option.  Letters of a request may go on. -/
def fits (form : OptionForm) (name : OptionName) (value : Option String) : Bool :=
  match form.rule, name with
  | .value .., _ => true
  | .switch, _ => value.isNone
  | .request _, .word _ => value.isNone
  | .request _, .letter _ => true

/-- Reads the words of a level, up to a command and the words behind it. -/
def read (l : Level) (said : Said) :
    List String → Except Refusal (Said × Option (String × List String))
  | [] => .ok (said, none)
  | text :: rest =>
    if l.commands.contains text then .ok (said, some (text, rest))
    else
      match Word.ofText text with
      | .separator => do return (← l.addOperands said rest, none)
      | .plain text => do
        let said ← l.addOperands said [text]
        read l said rest
      | .option name value =>
        match l.options.find? (·.goesBy name) with
        | none => .error .misuse
        | some form =>
          if !fits form name value then .error .misuse
          else
            match form.rule, value, rest with
            | .value .., none, [] => .error .misuse
            | .value .., none, next :: rest => do
              if !isValue next then .error .misuse
              let said ← addOption form said next
              read l said rest
            | _, value, rest => do
              let said ← addOption form said (value.getD "")
              read l said rest

end Level

end SchemaCompiler.CommandLine

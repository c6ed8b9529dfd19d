/-!
# Arguments

A command takes options and operands in any order. An option is known by a long name after
two dashes or by a letter after one; letters may stand together, and the value of an
option follows it as the next word, or in the same word after an equals sign or a letter.
After the word `--` everything is an operand. An option given twice has its last value.
-/

namespace Rulebook.CommandLine

/-- An option that a command knows. -/
structure OptionForm where
  name : String
  letter : Option Char := none
  takesValue : Bool := true
deriving Repr, DecidableEq

/-- The arguments of a command: options with their values in the order given, and
operands. -/
structure Arguments where
  options : List (String × String) := []
  operands : List String := []
deriving Repr, DecidableEq

namespace Arguments

/-- The last value of an option. -/
def value? (arguments : Arguments) (name : String) : Option String :=
  arguments.options.reverse.lookup name

/-- True when an option is given. -/
def has (arguments : Arguments) (name : String) : Bool := (arguments.value? name).isSome

/-- The arguments with options in front. -/
def withOptions (found : List (String × String)) (arguments : Arguments) : Arguments :=
  { arguments with options := found ++ arguments.options }

/-- The arguments with an operand in front. -/
def withOperand (operand : String) (arguments : Arguments) : Arguments :=
  { arguments with operands := operand :: arguments.operands }

end Arguments

/-- What a word of options says: the options it holds, and the one whose value is the next
word. -/
structure OptionWord where
  found : List (String × String) := []
  pending : Option String := none

/-- Reads a word after two dashes. -/
def readName? (forms : List OptionForm) (text : List Char) : Option OptionWord :=
  let name := String.ofList (text.takeWhile (· != '='))
  let value : Option String :=
    match text.dropWhile (· != '=') with
    | _ :: value => some (String.ofList value)
    | [] => none
  match forms.find? (·.name == name), value with
  | some form, some value => if form.takesValue then some { found := [(name, value)] } else none
  | some form, none =>
    some (if form.takesValue then { pending := some name } else { found := [(name, "")] })
  | none, _ => none

/-- Reads letters after a single dash. A letter that takes a value takes the rest of the
word, if there is any. -/
def readLetters? (forms : List OptionForm) : List Char → Option OptionWord
  | [] => some {}
  | letter :: rest =>
    match forms.find? (·.letter == some letter) with
    | none => none
    | some form =>
      if form.takesValue then
        some (if rest.isEmpty then { pending := some form.name }
          else { found := [(form.name, String.ofList rest)] })
      else
        (readLetters? forms rest).map fun word =>
          { word with found := (form.name, "") :: word.found }

/-- Reads a word that starts with a dash. -/
def readOptionWord? (forms : List OptionForm) : List Char → Option OptionWord
  | '-' :: '-' :: text => readName? forms text
  | _ :: letters => readLetters? forms letters
  | [] => none

/-- True of words that hold options: those with a dash in front of something. -/
def holdsOptions (word : String) : Bool :=
  match word.toList with
  | '-' :: _ :: _ => true
  | _ => false

/-- Reads words, the first of which is the value of the pending option, if there is one. -/
def readWords? (forms : List OptionForm) (pending : Option String) :
    List String → Option Arguments
  | [] => if pending.isSome then none else some {}
  | word :: rest =>
    match pending with
    | some name => (readWords? forms none rest).map (·.withOptions [(name, word)])
    | none =>
      if word == "--" then some { operands := rest }
      else if holdsOptions word then
        match readOptionWord? forms word.toList with
        | none => none
        | some read => (readWords? forms read.pending rest).map (·.withOptions read.found)
      else (readWords? forms none rest).map (·.withOperand word)

/-- Reads the arguments of a command that knows the given options. -/
def Arguments.read? (forms : List OptionForm) (words : List String) : Option Arguments :=
  readWords? forms none words

end Rulebook.CommandLine

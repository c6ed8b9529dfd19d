import Rulebook.CommandLine.Argument
import Rulebook.Decimal.Reader

/-!
# Commands

A command line names a command and gives its arguments. All commands take the path of the
settings and a log level. A line that names no command, leaves an argument out, or holds
one too many is misuse; so is a user that is no integer.
-/

namespace Rulebook.CommandLine

/-- What to do. -/
inductive Command where
  /-- Sync one community, or all registered ones. -/
  | sync (community : Option String)
  | lint (community title body : String) (hasLink : Bool) (userId : Option Int)
  | gate (userId : Int)
  | addCommunity (name : String) (displayName : Option String)
  | showCommunity (name : String)
  | initDb
deriving Repr, DecidableEq

/-- A command with what all commands take. -/
structure Invocation where
  command : Command
  configPath : String
  logLevel : Option String
deriving Repr, DecidableEq

/-- What a command line asks for. -/
inductive Demand where
  | help
  | misuse
  | run (invocation : Invocation)
deriving Repr, DecidableEq

/-- The options that all commands know. -/
def sharedForms : List OptionForm :=
  [⟨"config", some 'c', true⟩, ⟨"loglevel", some 'l', true⟩, ⟨"help", none, false⟩]

/-- The path of the settings when none is given. -/
def defaultConfigPath : String := "config.yaml"

/-- What a command makes of its arguments; none for misuse. -/
structure CommandForm where
  name : String
  forms : List OptionForm
  read? : Arguments → Option Command

/-- The path of the settings and the log level among the arguments. -/
def invocationOf (command : Command) (arguments : Arguments) : Invocation where
  command := command
  configPath := (arguments.value? "config").getD defaultConfigPath
  logLevel := arguments.value? "loglevel"

/-- Reads the arguments of a check. -/
def readLint? (arguments : Arguments) : Option Command := do
  let [community] := arguments.operands | none
  let title ← arguments.value? "title"
  let userId ← match arguments.value? "user-id" with
    | some text => (Decimal.readInt? text).map some
    | none => some none
  return .lint community title ((arguments.value? "body").getD "") (arguments.has "has-link") userId

/-- The commands. A verbose sync logs everything. -/
def commandForms : List CommandForm :=
  [{ name := "sync"
     forms := [⟨"verbose", some 'v', false⟩]
     read? := fun arguments =>
       match arguments.operands with
       | [] => some (.sync none)
       | [community] => some (.sync (some community))
       | _ => none },
   { name := "lint"
     forms := [⟨"title", some 't', true⟩, ⟨"body", some 'b', true⟩, ⟨"has-link", none, false⟩,
       ⟨"user-id", some 'u', true⟩]
     read? := readLint? },
   { name := "gate"
     forms := []
     read? := fun arguments =>
       match arguments.operands with
       | [userId] => (Decimal.readInt? userId).map .gate
       | _ => none },
   { name := "add-community"
     forms := [⟨"display-name", none, true⟩]
     read? := fun arguments =>
       match arguments.operands with
       | [name] => some (.addCommunity name (arguments.value? "display-name"))
       | _ => none },
   { name := "show-community"
     forms := []
     read? := fun arguments =>
       match arguments.operands with
       | [name] => some (.showCommunity name)
       | _ => none },
   { name := "init-db"
     forms := []
     read? := fun arguments => if arguments.operands.isEmpty then some .initDb else none }]

/-- Reads what follows the name of a command. -/
def CommandForm.demand (form : CommandForm) (words : List String) : Demand :=
  match Arguments.read? (sharedForms ++ form.forms) words with
  | none => .misuse
  | some arguments =>
    if arguments.has "help" then .help
    else
      match form.read? arguments with
      | none => .misuse
      | some command =>
        let invocation := invocationOf command arguments
        .run (if arguments.has "verbose" then { invocation with logLevel := some "DEBUG" }
          else invocation)

/-- Reads the name of a command and what follows it. -/
def demandOfCommand : List String → Demand
  | [] => .misuse
  | name :: words =>
    match commandForms.find? (·.name == name) with
    | some form => form.demand words
    | none => .misuse

/-- True when nothing but wishes for help stands in front of the command. -/
def onlyHelpInFront : List String → Bool
  | [] => true
  | word :: rest =>
    if word == "--" then true
    else if word == "--help" then onlyHelpInFront rest
    else !holdsOptions word

/-- Reads a command line. In front of the command only a wish for help may stand. -/
def Demand.read : List String → Demand
  | [] => .misuse
  | word :: rest =>
    if word == "--" then demandOfCommand rest
    else if word == "--help" then (if onlyHelpInFront rest then .help else .misuse)
    else if holdsOptions word then .misuse
    else demandOfCommand (word :: rest)

end Rulebook.CommandLine

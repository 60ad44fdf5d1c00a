import RemoteModel.Client.Calls
import RemoteModel.Text.Similarity

/-!
# Arguments of the command line

Options may stand anywhere among the arguments of a command, but only in front of the name of a
subcommand. Two dashes end them. An option that takes a value takes it from behind an equals
sign or from the next argument, whatever that is; the last value counts.
-/

namespace RemoteModel.Cli

/-- Why arguments are not accepted. -/
inductive Usage where
  /-- Help is asked for. -/
  | help
  /-- The arguments do not fit; nothing is said here about how. -/
  | misfit
  /-- The arguments do not fit, for a reason that is told. -/
  | told (message : String)
deriving DecidableEq, Repr

/-- An option: its name, and whether it takes a value. -/
structure OptionSpec where
  name : String
  takesValue : Bool := true
deriving DecidableEq, Repr

/-- Options in the order in which they are given, and all other arguments. -/
structure Given where
  options : Entries String := []
  positional : List String := []
  help : Bool := false
deriving DecidableEq, Repr

namespace Given

/-- The last value of an option. -/
def value? (g : Given) (name : String) : Option String := Entries.get? g.options.reverse name

def flag (g : Given) (name : String) : Bool := (g.value? name).isSome

def addOption (name value : String) (g : Given) : Given :=
  { g with options := (name, value) :: g.options }

def addPositional (arg : String) (g : Given) : Given :=
  { g with positional := arg :: g.positional }

def askHelp (g : Given) : Given := { g with help := true }

end Given

/-- The arguments ask for help by a single dash and nothing but the letter for it. -/
def isShortHelp : List Char → Bool
  | '-' :: c :: rest => (c :: rest).all (· = 'h')
  | _ => false

/-- An argument that is looked up among the options. -/
def isOption : List Char → Bool
  | '-' :: _ :: _ => true
  | _ => false

/-- The name of an option and the value behind its equals sign, if there is one. -/
def splitOption (arg : String) : String × Option String :=
  match Text.cut? '=' arg.toList with
  | some (name, value) => (String.ofList name, some (String.ofList value))
  | none => (arg, none)

/-- What a single argument is, in front of the end of the options. -/
inductive Argument where
  | positional
  /-- Two dashes. -/
  | ending
  | help
  /-- An option that has what it needs. -/
  | option (name value : String)
  /-- An option whose value is the next argument. -/
  | openOption (name : String)
  | misfit
deriving DecidableEq, Repr

/-- Reads an argument that looks like an option. -/
def readOption (specs : List OptionSpec) (arg : String) : Argument :=
  let (name, attached) := splitOption arg
  if name = "--help" then if attached.isSome then .misfit else .help
  else
    match specs.find? fun s => s.name = name with
    | some spec =>
      match spec.takesValue, attached with
      | true, some value => .option name value
      | true, none => .openOption name
      | false, some _ => .misfit
      | false, none => .option name ""
    | none => if isShortHelp arg.toList then .help else .misfit

/-- Reads an argument. -/
def readArgument (specs : List OptionSpec) (arg : String) : Argument :=
  if arg = "--" then .ending
  else if isOption arg.toList then readOption specs arg
  else .positional

/-- Sorts arguments, behind an option that waits for its value or behind none. If `mixed` is
false, the first argument that is no option ends the options. -/
def sortArguments (specs : List OptionSpec) (mixed : Bool) :
    Option String → List String → Except Usage Given
  | none, [] => .ok {}
  | some _, [] => .error .misfit
  | some name, value :: rest =>
    (sortArguments specs mixed none rest).map (Given.addOption name value)
  | none, arg :: rest =>
    match readArgument specs arg with
    | .positional =>
      if mixed then (sortArguments specs mixed none rest).map (Given.addPositional arg)
      else .ok { positional := arg :: rest }
    | .ending => .ok { positional := rest }
    | .help => (sortArguments specs mixed none rest).map Given.askHelp
    | .option name value => (sortArguments specs mixed none rest).map (Given.addOption name value)
    | .openOption name => sortArguments specs mixed (some name) rest
    | .misfit => .error .misfit

/-- The arguments of a command, sorted; help comes before everything else. -/
def given (specs : List OptionSpec) (mixed : Bool) (args : List String) : Except Usage Given :=
  match sortArguments specs mixed none args with
  | .ok g => if g.help then .error .help else .ok g
  | .error u => .error u

/-! ## Values of options -/

/-- An option whose value must be of some kind. -/
def optionValue {α : Type} (g : Given) (name : String) (read? : String → Option α) :
    Except Usage (Option α) :=
  match g.value? name with
  | none => .ok none
  | some text =>
    match read? text with
    | some a => .ok (some a)
    | none => .error .misfit

/-- The wire format of a name in any case. -/
def formatOf? (s : String) : Option Format := Format.ofName? (Text.fold s)

/-! ## Names of commands -/

/-- Words that come close to a name that is none. -/
def suggestions (name : String) (names : List String) : List String :=
  Text.Similarity.closest 3 45 name names

/-- What is said about a name that is no command. -/
def noCommand (name : String) (names : List String) : Usage :=
  if isOption name.toList then .misfit
  else
    let text := "No such command " ++ Json.Display.quoted name ++ "."
    match suggestions name names with
    | [] => .told text
    | words => .told (text ++ "\n\nDid you mean: " ++ Text.join ", " words)

end RemoteModel.Cli

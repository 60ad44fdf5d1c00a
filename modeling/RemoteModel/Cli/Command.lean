import RemoteModel.Cli.Arguments

/-!
# Commands of the command line

The root command has four groups of subcommands and one command of its own. `Order` is what a
command line asks for once its arguments are read.
-/

namespace RemoteModel.Cli

/-- The options of the root command. -/
structure Settings where
  json : Bool := false
  config : Option String := none
  baseUrl : Option String := none
deriving DecidableEq, Repr

/-- What a command line asks for. -/
inductive Order where
  | listModels (format : Option Format)
  | modelUris
  | getModel (modeluri : String) (format : Option Format)
  | getElement (modeluri : String) (id name : Option String) (format : Option Format)
  | createModel (modeluri file : String) (format : Option Format)
  | updateModel (modeluri file : String) (format : Option Format)
  | deleteModel (modeluri : String)
  | closeModel (modeluri : String)
  | saveModel (modeluri : String)
  | saveAll
  | editModel (modeluri file : String)
  | undo (modeluri : String)
  | redo (modeluri : String)
  | ping
  | configure (workspace : Workspace)
  | validate (modeluri : String) (leaves : Bool)
  | constraints (modeluri : String)
  | typeSchema (modeluri : String)
  | uiSchema (name : String)
  | subscribe (modeluri : String) (timeout : Option Int) (liveValidation : Bool)
      (keepAlive : Option Double)
deriving DecidableEq

/-- A command: its options and how to read its arguments. -/
structure CommandSpec where
  name : String
  options : List OptionSpec := []
  read : Given → Except Usage Order

namespace CommandSpec

/-- Reads the arguments of a command. -/
def parse (c : CommandSpec) (args : List String) : Except Usage Order :=
  (given c.options true args).bind c.read

end CommandSpec

/-- A command without arguments. -/
def noArgument (order : Order) (g : Given) : Except Usage Order :=
  match g.positional with
  | [] => .ok order
  | _ => .error .misfit

/-- A command with one argument. -/
def oneArgument (order : String → Order) (g : Given) : Except Usage Order :=
  match g.positional with
  | [a] => .ok (order a)
  | _ => .error .misfit

/-- A command with two arguments. -/
def twoArguments (order : String → String → Order) (g : Given) : Except Usage Order :=
  match g.positional with
  | [a, b] => .ok (order a b)
  | _ => .error .misfit

def formatOption : OptionSpec := { name := "--format" }

/-- The format that the option names. -/
def formatIn (g : Given) : Except Usage (Option Format) := optionValue g "--format" formatOf?

def modelCommands : List CommandSpec := [
  { name := "list", options := [formatOption],
    read := fun g => do noArgument (.listModels (← formatIn g)) g },
  { name := "uris", read := noArgument .modelUris },
  { name := "get", options := [formatOption],
    read := fun g => do
      let format ← formatIn g
      oneArgument (fun uri => .getModel uri format) g },
  { name := "element", options := [{ name := "--id" }, { name := "--name" }, formatOption],
    read := fun g => do
      let format ← formatIn g
      oneArgument (fun uri => .getElement uri (g.value? "--id") (g.value? "--name") format) g },
  { name := "create", options := [formatOption],
    read := fun g => do
      let format ← formatIn g
      twoArguments (fun uri file => .createModel uri file format) g },
  { name := "update", options := [formatOption],
    read := fun g => do
      let format ← formatIn g
      twoArguments (fun uri file => .updateModel uri file format) g },
  { name := "delete", read := oneArgument .deleteModel },
  { name := "close", read := oneArgument .closeModel },
  { name := "save", read := oneArgument .saveModel },
  { name := "save-all", read := noArgument .saveAll },
  { name := "edit", read := twoArguments .editModel },
  { name := "undo", read := oneArgument .undo },
  { name := "redo", read := oneArgument .redo }]

def serverCommands : List CommandSpec := [
  { name := "ping", read := noArgument .ping },
  { name := "configure",
    options := [{ name := "--workspace-root" }, { name := "--ui-schema-folder" }],
    read := fun g =>
      match g.value? "--workspace-root" with
      | some root =>
        noArgument (.configure { root := root, schemas := g.value? "--ui-schema-folder" }) g
      | none => .error .misfit }]

def validationCommands : List CommandSpec := [
  { name := "run", options := [{ name := "--leaves", takesValue := false }],
    read := fun g => oneArgument (fun uri => .validate uri (g.flag "--leaves")) g },
  { name := "constraints", read := oneArgument .constraints }]

def schemaCommands : List CommandSpec := [
  { name := "type", read := oneArgument .typeSchema },
  { name := "ui", read := oneArgument .uiSchema }]

def subscribeCommand : CommandSpec :=
  { name := "subscribe",
    options := [{ name := "--timeout" }, { name := "--livevalidation", takesValue := false },
      { name := "--keep-alive" }],
    read := fun g => do
      let timeout ← optionValue g "--timeout" Text.integer?
      let keepAlive ← optionValue g "--keep-alive" Text.double?
      oneArgument (fun uri => .subscribe uri timeout (g.flag "--livevalidation") keepAlive) g }

/-- What a name stands for below the root. -/
inductive Branch where
  | command (spec : CommandSpec)
  | group (commands : List CommandSpec)

/-- The commands and groups below the root. -/
def branches : Entries Branch := [
  ("subscribe", .command subscribeCommand), ("models", .group modelCommands),
  ("server", .group serverCommands), ("validation", .group validationCommands),
  ("schema", .group schemaCommands)]

/-- The options of the root. -/
def rootOptions : List OptionSpec :=
  [{ name := "--json", takesValue := false }, { name := "--config" }, { name := "--base-url" }]

/-- Reads the options of the root: the settings, the branch and its arguments. -/
def parseRoot (args : List String) : Except Usage (Settings × Branch × List String) := do
  let g ← given rootOptions false args
  match g.positional with
  | [] => .error .misfit
  | name :: rest =>
    match branches.get? name with
    | some branch =>
      .ok ({ json := g.flag "--json", config := g.value? "--config",
             baseUrl := g.value? "--base-url" }, branch, rest)
    | none => .error (noCommand name branches.names)

/-- Reads the arguments of a branch. -/
def parseBranch (branch : Branch) (args : List String) : Except Usage Order :=
  match branch with
  | .command spec => spec.parse args
  | .group commands => do
    let g ← given [] false args
    match g.positional with
    | [] => .error .misfit
    | name :: rest =>
      match commands.find? fun c => c.name = name with
      | some spec => spec.parse rest
      | none => .error (noCommand name (commands.map CommandSpec.name))

end RemoteModel.Cli

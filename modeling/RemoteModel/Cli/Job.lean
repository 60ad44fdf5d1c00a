import RemoteModel.Cli.Command
import RemoteModel.Cli.Output
import RemoteModel.Cli.Payload

/-!
# What a command line does

A command line becomes a job: it looks into files, keeps a log, asks the server or watches a model,
and ends with a report. A job is a plain value; what the files and the server hold is only asked
for, so one and the same job can be carried out on a computer or looked at in a proof.

**Errors.** An error that is reported as such is printed and decides the exit code. An argument
that is refused ends with the exit code of wrong usage. Every other failure ends the program.
-/

namespace RemoteModel.Cli

open Screen

/-- How a command line ends. -/
inductive Ending where
  | exit (code : Nat)
  | failed (failure : Failure)
deriving DecidableEq

/-- What a command line leaves behind. -/
structure Report where
  lines : List Line := []
  ending : Ending := .exit 0
  /-- What is said about wrong usage. -/
  complaint : Option String := none
deriving DecidableEq

/-- What a command knows besides its arguments. -/
structure Context where
  config : Config
  /-- Who reads the output. -/
  audience : Audience

/-- A subscription to a model that lasts until its channel closes. -/
structure Watch where
  client : Client
  modeluri : String
  options : Subscription.Options
  /-- The seconds between two messages that keep the channel open, if there are any. -/
  interval : Option Double

/-- What is left to do. -/
inductive Job where
  | done (report : Report)
  | look (name : String) (next : File → Job)
  /-- Opens a log file, which is made if it is missing, and goes on with why it cannot be. -/
  | log (name : String) (next : Option Failure → Job)
  | ask (client : Client) (request : SentRequest) (next : Answer → Job)
  | watch (w : Watch) (next : Except Failure Unit → Job)

/-! ## Reports -/

/-- The exit code of wrong usage. -/
def usageCode : Nat := 2

namespace Report

def ofUsage : Usage → Report
  | .help => {}
  | .misfit => { ending := .exit usageCode }
  | .told message => { ending := .exit usageCode, complaint := some message }

/-- The report of a failure that nothing has taken care of. -/
def escaped : Failure → Report
  | .badArgument message => .ofUsage (.told message)
  | failure => { ending := .failed failure }

/-- The report of an error, which ends in another failure if the error cannot be printed. -/
def ofError (audience : Audience) (e : Error) : Report :=
  match errorOutput audience e with
  | (lines, none) => { lines := lines, ending := .exit e.exitCode }
  | (lines, some failure) => { lines := lines, ending := .failed failure }

/-- The report of a result. -/
def ofResult (audience : Audience) : Except Failure (List Line) → Report
  | .ok lines => { lines := lines }
  | .error (.reported e) => ofError audience e
  | .error .interrupted => {}
  | .error failure => escaped failure

end Report

namespace Context

/-- A job that is over. -/
def finish (cx : Context) (result : Except Failure (List Line)) : Job :=
  .done (.ofResult cx.audience result)

/-- A job that goes on with a value, if there is one. -/
def andThen {α : Type} (cx : Context) (value : Except Failure α) (next : α → Job) : Job :=
  match value with
  | .ok a => next a
  | .error failure => cx.finish (.error failure)

/-- A call of the client, whose result is shown. -/
def call {α : Type} (cx : Context) (exchange : Client → Except Failure (Exchange α))
    (shown : α → Except Failure (List Line)) : Job :=
  cx.andThen (Client.ofConfig cx.config none none none) fun client =>
    cx.andThen (exchange client) fun x =>
      match client.start x with
      | .over result => cx.finish (result.bind shown)
      | .waiting request read => .ask client request fun a => cx.finish ((read a).bind shown)

/-- Output with a title, which only tables show. -/
def titled (cx : Context) (title : String) (v : Json) : Except Failure (List Line) :=
  output cx.audience (some title) v

def plain (cx : Context) (v : Json) : Except Failure (List Line) := output cx.audience none v

/-- Output about something that is done to a model. -/
def modelSuccess (cx : Context) (modeluri : String) (success : Bool) :
    Except Failure (List Line) :=
  cx.plain (.obj [("modeluri", .str modeluri), ("success", .bool success)])

/-- Output about an edit. -/
def updated (cx : Context) (r : UpdateResult) : Except Failure (List Line) :=
  cx.plain (.obj [("success", .bool r.success),
    ("operations",
      Json.ofOption (r.operations.map fun os => .arr (os.map Patch.Operation.toWire)))])

/-- Reads a payload file before the job goes on. -/
def withPayload (file : String) (next : Json → Job) : Job :=
  .look file fun content =>
    match readPayload file content with
    | .ok payload => next payload
    | .error failure => .done (.escaped failure)

end Context

/-! ## Commands -/

/-- The selector of an option. -/
def selector : Option Format → Selector
  | some f => .format f.name
  | none => .object

/-- The edit that a payload is; a payload that is tagged as a command must be one. -/
def editOf (payload : Json) : Except Failure Edit :=
  if Command.isCommand payload then (Command.ofWire payload).map .command else .ok (.patch payload)

/-- The row of a problem in a table. -/
def problemRow (d : Diagnostic) : Json :=
  .obj [("severity", .str d.label.name), ("message", .str d.finding.message),
    ("source", .str d.finding.source), ("code", .int d.finding.code), ("id", .str d.finding.id)]

/-- The output about a validated model: its problems, or the whole tree. -/
def validation (cx : Context) (modeluri : String) (onlyLeaves : Bool) (d : Diagnostic) :
    Except Failure (List Line) :=
  if onlyLeaves then
    cx.titled (modeluri ++ ": " ++ d.label.name) (.arr (d.leaves.map problemRow))
  else cx.plain d.dump.finiteOrNull

/-- The options of a subscription, by arguments and configuration. -/
def subscriptionOptions (config : Config.Subscriptions) (timeout : Option Int)
    (liveValidation : Bool) : Subscription.Options :=
  { format := config.format.map Format.name, timeout := timeout.or config.timeout,
    liveValidation := if liveValidation then some true else config.liveValidation,
    errorWhenUnsuccessful := true }

/-- What is said about a time that is none. -/
def intervalRule : String := "--keep-alive must be positive"

/-- Watches a model. -/
def watching (cx : Context) (modeluri : String) (timeout : Option Int) (liveValidation : Bool)
    (keepAlive : Option Double) : Job :=
  let interval := keepAlive.or cx.config.subscription.keepAlive
  if interval.any Double.isNonPositive then cx.finish (.error (.badArgument intervalRule))
  else
    cx.andThen (Client.ofConfig cx.config none none none) fun client =>
      .watch
        { client := client, modeluri := modeluri, interval := interval,
          options := subscriptionOptions cx.config.subscription timeout liveValidation }
        fun result => cx.finish (result.map fun _ => [])

namespace Order

/-- What a command does. -/
def job (cx : Context) : Order → Job
  | listModels format =>
    cx.call (fun c => .ok (c.getAll (selector format))) fun models =>
      cx.titled "Models" (.arr (models.map fun m => m.dump.finiteOrNull))
  | modelUris =>
    cx.call (fun _ => .ok Client.modelUris) fun uris =>
      cx.titled "Model URIs" (.arr (uris.map .str))
  | getModel modeluri format =>
    cx.call (fun c => .ok (c.get modeluri (selector format))) cx.plain
  | getElement modeluri id name format =>
    match id, name with
    | some id, none => cx.call (fun c => .ok (c.elementById modeluri id (selector format))) cx.plain
    | none, some name =>
      cx.call (fun c => .ok (c.elementByName modeluri name (selector format))) cx.plain
    | _, _ => cx.finish (.error (.badArgument "pass exactly one of --id or --name"))
  | createModel modeluri file format =>
    Context.withPayload file fun model =>
      cx.call (fun c => c.create modeluri model (selector format)) cx.plain
  | updateModel modeluri file format =>
    Context.withPayload file fun model =>
      cx.call (fun c => c.update modeluri model (selector format)) cx.plain
  | deleteModel modeluri =>
    cx.call (fun _ => .ok (Client.delete modeluri)) (cx.modelSuccess modeluri)
  | closeModel modeluri =>
    cx.call (fun _ => .ok (Client.close modeluri)) (cx.modelSuccess modeluri)
  | saveModel modeluri =>
    cx.call (fun _ => .ok (Client.save modeluri)) (cx.modelSuccess modeluri)
  | saveAll =>
    cx.call (fun _ => .ok Client.saveAll) fun success =>
      cx.plain (.obj [("success", .bool success)])
  | editModel modeluri file =>
    Context.withPayload file fun payload =>
      match editOf payload with
      | .ok edit => cx.call (fun c => c.edit modeluri edit none) cx.updated
      | .error failure => .done (.escaped failure)
  | undo modeluri => cx.call (fun c => .ok (c.undo modeluri)) cx.updated
  | redo modeluri => cx.call (fun c => .ok (c.redo modeluri)) cx.updated
  | ping =>
    cx.call (fun _ => .ok Client.ping) fun alive =>
      cx.plain (.obj [("base_url", .str cx.config.server.apiUrl), ("alive", .bool alive)])
  | configure w =>
    cx.call (fun _ => .ok (Client.configure w)) fun success =>
      cx.plain (.obj [("success", .bool success), ("workspace_root", .str w.root),
        ("ui_schema_folder", Json.ofText? w.schemas)])
  | validate modeluri leaves =>
    cx.call (fun _ => .ok (Client.validate modeluri)) (validation cx modeluri leaves)
  | constraints modeluri =>
    cx.call (fun _ => .ok (Client.validationConstraints modeluri)) fun s => cx.plain (.str s)
  | typeSchema modeluri =>
    cx.call (fun _ => .ok (Client.typeSchema modeluri)) fun s => cx.plain (.str s)
  | uiSchema name => cx.call (fun _ => .ok (Client.uiSchema name)) fun s => cx.plain (.str s)
  | subscribe modeluri timeout liveValidation keepAlive =>
    watching cx modeluri timeout liveValidation keepAlive

end Order

/-! ## The command line -/

/-- What a command line finds where it runs. -/
structure Setting where
  environment : Entries String
  /-- The home directories of the accounts of the system. -/
  accounts : String → Option String
  /-- The name of the configuration file if no other one is asked for. -/
  configFile : String
  /-- Somebody reads along. -/
  terminal : Bool
  /-- The width of the screen. -/
  width : Nat := 80

/-- The name of the configuration file, unless its home directory is not known. -/
def Settings.file (settings : Settings) (s : Setting) : Except Failure String :=
  match settings.config with
  | some name => Config.expandName s.accounts s.environment name
  | none => .ok s.configFile

/-- The configuration that a file and a setting give, with the address of an option. -/
def configured (s : Setting) (baseUrl : Option String) (f : File) : Except Failure Config :=
  (Config.load s.accounts f.content? s.environment).map fun c =>
    match baseUrl.filter (· ≠ "") with
    | some url => { c with server := { c.server with baseUrl := url } }
    | none => c

/-- Reads the arguments behind the options of the root, and goes on with the command. -/
def branchJob (cx : Context) (branch : Branch) (args : List String) : Job :=
  match parseBranch branch args with
  | .ok order => order.job cx
  | .error usage => .done (.ofUsage usage)

/-- Opens the log file, if there is to be one, before the job goes on. -/
def withLog (file : Option String) (next : Job) : Job :=
  match file with
  | none => next
  | some name =>
    .log name fun
      | none => next
      | some failure => .done (.escaped failure)

/-- What a command line does. -/
def job (s : Setting) (args : List String) : Job :=
  match parseRoot args with
  | .error usage => .done (.ofUsage usage)
  | .ok (settings, branch, rest) =>
    match settings.file s with
    | .error failure => .done (.escaped failure)
    | .ok name =>
      .look name fun f =>
        match configured s settings.baseUrl f with
        | .error failure => .done (.escaped failure)
        | .ok config =>
          let forPrograms := isForPrograms settings.json s.terminal (config.output = .json)
          let audience := if forPrograms then .programs else .people s.width
          withLog config.logging.file (branchJob ⟨config, audience⟩ branch rest)

end RemoteModel.Cli

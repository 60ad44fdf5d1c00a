import RemoteModel.Cli.Job

/-!
# Carrying out a job

A job is carried out in a world that says what files hold, how requests are answered and how
channels behave. Nothing is written to its log file, but the file is there from then on.

**Watching.** Every notification is printed as one line. While the channel is open, messages may
be sent that keep it so; the first one that cannot be sent is the last. In the end the client
closes what is left open.
-/

namespace RemoteModel.Cli

open Screen

/-- What surrounds a job. -/
structure World where
  files : Files := []
  answer : SentRequest → Answer
  conduct : Subscription.Conduct := {}
  /-- How many messages are sent at most to keep a channel open. -/
  beats : Nat := 0

namespace World

/-- Why a log file cannot be written, if it cannot. -/
def logFault? (world : World) (name : String) : Option Failure :=
  if name.toList.contains '\x00' then some .zeroInName
  else File.writeFault? (world.files.look (Text.PathName.folder name)) (world.files.look name)

end World

/-- A job that has been carried out. -/
structure Run where
  requests : List SentRequest := []
  channels : List Subscription.Channel := []
  lines : List Line := []
  report : Report

namespace Run

/-- All that has been printed. -/
def output (r : Run) : String := printed (r.lines ++ r.report.lines)

end Run

/-- The line of a notification. -/
def deliveryLines : List Subscription.Delivery → List Line
  | [] => []
  | .typed call :: rest => compactLine call.notification.toWire :: deliveryLines rest
  | .raw .. :: rest => deliveryLines rest

namespace Watch

/-- Sends messages that keep a channel open, as long as it is. -/
def keepAlive (conduct : Subscription.Conduct) (modeluri : String) :
    Nat → Subscription.Registry → Subscription.Registry × List Subscription.Delivery
  | 0, r => (r, [])
  | beats + 1, r =>
    if r.isSubscribed modeluri then
      let o := r.send (fun _ => conduct) modeluri (.ok Envelope.keepAlive)
      match o.result with
      | .error _ => (o.registry, o.deliveries)
      | .ok _ =>
        let (r, more) := keepAlive conduct modeluri beats o.registry
        (r, o.deliveries ++ more)
    else (r, [])

/-- Closes what is open; a failure to do so comes before an earlier one. -/
def leave (conduct : Subscription.Conduct) (o : Subscription.Outcome Unit) :
    Subscription.Outcome Unit :=
  let last := o.registry.closeAll fun _ => conduct
  ⟨last.registry, o.deliveries ++ last.deliveries,
    match last.result with
    | .ok () => o.result
    | .error failure => .error failure⟩

/-- Watches a model. -/
def run (conduct : Subscription.Conduct) (beats : Nat) (w : Watch) : Subscription.Outcome Unit :=
  let first := w.client.registry.subscribe (fun _ => conduct) w.modeluri
    { protocol := some w.client.protocol } w.options
  leave conduct
    (match first.result, w.interval with
      | .ok (), some _ =>
        let (r, more) := keepAlive conduct w.modeluri beats first.registry
        ⟨r, first.deliveries ++ more, .ok ()⟩
      | _, _ => first)

end Watch

namespace Job

/-- Carries out a job. -/
def run (world : World) : Job → Run
  | done report => { report := report }
  | look name next => run world (next (world.files.look name))
  | log name next =>
    run { world with files := world.files.create name } (next (world.logFault? name))
  | ask _ request next =>
    let r := run world (next (world.answer request))
    { r with requests := request :: r.requests }
  | watch w next =>
    let o := w.run world.conduct world.beats
    let r := run world (next o.result)
    { r with channels := o.registry.channels ++ r.channels,
             lines := deliveryLines o.deliveries ++ r.lines }

end Job

/-- Carries out a command line. -/
def run (s : Setting) (world : World) (args : List String) : Run := (job s args).run world

end RemoteModel.Cli

import RemoteModel.Envelope

/-!
# Notifications

What a subscriber is told. A channel reports four raw events: it opens, it closes, it fails, and
a frame arrives. Each event becomes exactly one call of the subscriber, with a notification.

**Frames.** A frame is read as an envelope and sorted by its type. One that cannot be read
becomes an error notification, and one of a type that the protocol does not know is passed on.

**Protocols.** The two versions differ in their incremental updates: the first one reports the
executed command, the second one the operations of a patch.
-/

namespace RemoteModel

/-- The versions of the protocol. -/
inductive Protocol where
  | v1
  | v2
deriving DecidableEq, Repr

/-- What a failure notification reports. -/
inductive Problem where
  | value (value : Json)
  | failure (failure : Failure)
deriving DecidableEq

/-- The problem as it is written. -/
def Problem.shown : Problem → Json
  | value v => v.finiteOrNull
  | failure f => f.shown.finiteOrNull

/-- What a notification reports. -/
inductive Report where
  | plain
  | closed (code : Int) (reason : String)
  | failed (problem : Problem)
  | dirty (isDirty : Bool)
  | executed (execution : Execution)
  | executedText (text : String)
  | patched (operations : List Patch.Operation)
  | full (model : Json)
  | validated (diagnostic : Diagnostic)
  | unknown (data : Json)

/-- A message to a subscriber of a model. -/
structure Notification where
  modeluri : String
  type : String
  report : Report

namespace Notification

/-- The members that a report adds to a notification. -/
def members : Report → Entries Json
  | .plain => []
  | .closed code reason => [("code", .int code), ("reason", .str reason)]
  | .failed problem => [("error", problem.shown)]
  | .dirty isDirty => [("is_dirty", .bool isDirty)]
  | .executed execution => [("result", execution.dump)]
  | .executedText text => [("result", .str text)]
  | .patched operations => [("patch", .arr (operations.map Patch.Operation.dump))]
  | .full model => [("model", model.finiteOrNull)]
  | .validated diagnostic => [("diagnostic", diagnostic.dump.finiteOrNull)]
  | .unknown data => [("data", data.finiteOrNull)]

def toWire (n : Notification) : Json :=
  .obj ([("model_uri", .str n.modeluri), ("type", .str n.type)] ++ members n.report)

/-- Repeats the change that an incremental update reports on a local copy. -/
def patchModel? (n : Notification) (v : Json) : Option (Except Error Json) :=
  match n.report with
  | .patched operations => some (Patch.apply v operations)
  | _ => none

end Notification

/-- The calls of a subscriber. -/
inductive Callback where
  | opened
  | closed
  | failed
  | success
  | dirtyState
  | incrementalUpdate
  | fullUpdate
  | validation
  | unknown
deriving DecidableEq, Repr

/-- One call of a subscriber. -/
structure Call where
  callback : Callback
  notification : Notification

/-- A raw event of a channel. -/
inductive Event where
  | opened
  | closed (code : Int) (reason : String)
  | failed (problem : Problem)
  | arrived (frame : Frame)
deriving DecidableEq

namespace Event

/-- The reason of a close: two codes have reasons of their own. -/
def closeReason (code : Int) (reason : String) : String :=
  if code = 1005 then "Connection closed by peer"
  else if code = 1006 then "Server shutdown"
  else reason

/-- The call that reports a failure. -/
def failure (modeluri : String) (problem : Problem) : Call :=
  ⟨.failed, ⟨modeluri, MessageKind.error.name, .failed problem⟩⟩

/-- What an incremental update reports. -/
def incremental (protocol : Protocol) (data : Json) : Except Failure Report :=
  match protocol with
  | .v1 =>
    match data with
    | .str text => .ok (.executedText text)
    | _ => (Execution.ofWire data).map Report.executed
  | .v2 =>
    if Patch.Operation.isPatch data then (Patch.operations data).map Report.patched
    else .error (.reported (.undecodable "Operation[]" data))

/-- What the data of a full update reports: a text or an object. -/
def fullUpdate (data : Json) : Except Failure Report :=
  match data with
  | .str _ => .ok (.full data)
  | .obj _ => .ok (.full data)
  | _ => .error (.reported (.undecodable "object" data))

/-- The callback of an envelope and what it reports. -/
def route (protocol : Protocol) (m : Envelope) : Except Failure (Callback × Report) :=
  match m.kind with
  | .dirtyState => .ok (.dirtyState, .dirty (Narrow.truth m.data))
  | .success => .ok (.success, .plain)
  | .keepAlive => .ok (.success, .plain)
  | .error => .ok (.failed, .failed (.value (.str (Narrow.text m.data))))
  | .incrementalUpdate => (incremental protocol m.data).map fun r => (.incrementalUpdate, r)
  | .fullUpdate => (fullUpdate m.data).map fun r => (.fullUpdate, r)
  | .validationResult =>
    match Diagnostic.ofWire m.data with
    | .ok d => .ok (.validation, .validated d)
    | .error e => .error (.reported e)
  | _ => .ok (.unknown, .unknown m.data)

/-- The call for a frame; a failure that is reported as such becomes an error notification. -/
def frameCall (protocol : Protocol) (modeluri : String) (frame : Frame) : Except Failure Call :=
  match Envelope.ofFrame frame with
  | .error e => .ok (failure modeluri (.failure (.reported e)))
  | .ok m =>
    match route protocol m with
    | .ok (callback, report) => .ok ⟨callback, ⟨modeluri, m.type, report⟩⟩
    | .error (.reported e) => .ok (failure modeluri (.failure (.reported e)))
    | .error f => .error f

/-- The call for an event of the channel of a model. -/
def call (protocol : Protocol) (modeluri : String) : Event → Except Failure Call
  | opened => .ok ⟨.opened, ⟨modeluri, MessageKind.opened.name, .plain⟩⟩
  | closed code reason =>
    .ok ⟨.closed,
      ⟨modeluri, MessageKind.closed.name, .closed code (closeReason code reason)⟩⟩
  | failed problem => .ok (failure modeluri problem)
  | arrived frame => frameCall protocol modeluri frame

end Event

end RemoteModel

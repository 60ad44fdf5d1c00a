import RemoteModel.Json.Writer
import RemoteModel.Patch.Fault

/-!
# Reported errors

Every request and every decoding reports its failures as an `Error`: a cause with a code, a
message, details and sometimes a suggestion. The code decides the exit code of the command line.
-/

namespace RemoteModel

/-- The code of a reported error. -/
inductive ErrorCode where
  | server
  | transport
  | http
  | timeout
  | decode
  | alreadySubscribed
  | notSubscribed
  | invalidArgs
  | internal
deriving DecidableEq, Repr

namespace ErrorCode

def all : List ErrorCode :=
  [server, transport, http, timeout, decode, alreadySubscribed, notSubscribed, invalidArgs,
    internal]

def name : ErrorCode → String
  | server => "SERVER_ERROR"
  | transport => "TRANSPORT_ERROR"
  | http => "HTTP_ERROR"
  | timeout => "TIMEOUT"
  | decode => "DECODE_ERROR"
  | alreadySubscribed => "ALREADY_SUBSCRIBED"
  | notSubscribed => "NOT_SUBSCRIBED"
  | invalidArgs => "INVALID_ARGS"
  | internal => "INTERNAL_ERROR"

/-- The code of a name. -/
def ofName? (s : String) : Option ErrorCode := all.find? fun c => c.name = s

/-- The exit code of the command line; codes that have none of their own end with one. -/
def exitCode : ErrorCode → Nat
  | invalidArgs => 2
  | transport => 3
  | http => 4
  | server => 5
  | decode => 6
  | alreadySubscribed => 7
  | notSubscribed => 8
  | timeout => 10
  | internal => 1

/-- Codes that end with an exit code of their own. -/
def mapped : List ErrorCode :=
  [invalidArgs, transport, http, server, decode, alreadySubscribed, notSubscribed, timeout]

theorem ofName?_name (c : ErrorCode) : ofName? c.name = some c := by cases c <;> decide

end ErrorCode

/-- The cause of a reported error. -/
inductive Error where
  /-- A payload does not have the expected shape. -/
  | undecodable (expected : String) (payload : Json)
  /-- An operation of a patch does not apply. -/
  | unpatchable (fault : Patch.Fault) (operation : Json)
  /-- The server reports an error. -/
  | fromServer (message : String) (details : Entries Json)
  /-- The answer has a status that is no success and is no message. -/
  | badStatus (status : Nat) (path body : String)
  /-- No answer arrived in time. -/
  | timedOut (path : String) (seconds : Json)
  /-- The request did not reach the server. -/
  | unreachable (reason path baseUrl : String)
  /-- The model is subscribed to already. -/
  | alreadySubscribed (modeluri state : String)
  /-- The model has no open subscription. -/
  | notSubscribed (modeluri : String)
  /-- The channel has no connection. -/
  | channelNotOpen (address : String)
  /-- The protocol takes commands for edits and nothing else. -/
  | commandsOnly
  /-- An error that is described from outside. -/
  | described (code : ErrorCode) (message : String) (details : Entries Json)
      (suggestion : Option String)
deriving DecidableEq

namespace Error

def code : Error → ErrorCode
  | undecodable .. => .decode
  | unpatchable .. => .invalidArgs
  | fromServer .. => .server
  | badStatus .. => .http
  | timedOut .. => .timeout
  | unreachable .. => .transport
  | alreadySubscribed .. => .alreadySubscribed
  | notSubscribed .. => .notSubscribed
  | channelNotOpen .. => .notSubscribed
  | commandsOnly => .invalidArgs
  | described code .. => code

def message : Error → String
  | undecodable expected _ => "cannot map payload to " ++ expected
  | unpatchable fault _ => fault.message
  | fromServer message _ => message
  | badStatus status .. => "model server returned HTTP " ++ toString status
  | timedOut .. => "request timed out waiting for model server response"
  | unreachable reason _ baseUrl =>
    if reason = "" then "cannot reach model server at " ++ baseUrl else reason
  | alreadySubscribed modeluri _ => modeluri ++ ": cannot open new channel, already subscribed"
  | notSubscribed modeluri => modeluri ++ ": no open subscription channel"
  | channelNotOpen _ => "channel is not open"
  | commandsOnly => "the v1 protocol only accepts commands for edit"
  | described _ message .. => message

def details : Error → Entries Json
  | undecodable expected payload =>
    [("expected", .str expected), ("payload", .str (Json.text payload))]
  | unpatchable _ operation => [("operation", operation)]
  | fromServer _ details => details
  | badStatus status path body =>
    [("status_code", .int status), ("path", .str path), ("body", .str body)]
  | timedOut path seconds => [("path", .str path), ("timeout_seconds", seconds)]
  | unreachable _ path baseUrl => [("path", .str path), ("base_url", .str baseUrl)]
  | alreadySubscribed modeluri state => [("modeluri", .str modeluri), ("state", .str state)]
  | notSubscribed modeluri => [("modeluri", .str modeluri)]
  | channelNotOpen address => [("address", .str address)]
  | commandsOnly => []
  | described _ _ details _ => details

/-- What the caller may do; an empty text is no suggestion. -/
def suggestion : Error → Option String
  | timedOut .. => some "Retry or increase server.request_timeout_seconds in config."
  | unreachable .. =>
    some "Check that the model server is running and server.base_url is correct."
  | alreadySubscribed .. => some "Unsubscribe first or keep using the open subscription."
  | notSubscribed _ => some "Subscribe to the model before sending messages."
  | commandsOnly => some "Use ModelServerClient for patch based edits."
  | described _ _ _ suggestion => suggestion.filter (· ≠ "")
  | _ => none

def exitCode (e : Error) : Nat := e.code.exitCode

/-- The error as an object. -/
def payload (e : Error) : Json :=
  .obj ([("code", .str e.code.name), ("message", .str e.message), ("details", .obj e.details)] ++
    match e.suggestion with
    | some s => [("suggestion", .str s)]
    | none => [])

end Error

end RemoteModel

import RemoteModel.Check
import RemoteModel.Failure
import RemoteModel.Format
import RemoteModel.Notification
import RemoteModel.Text.PathName

/-!
# Configuration

A configuration has four sections: the server and how to talk to it, the defaults of
subscriptions, logging, and output. Every field has a default.

**Checks.** A format is one of the four wire formats, a version is `1` or `2` with an optional
`v`; both may be written in any case and surrounded by blanks.
-/

namespace RemoteModel

namespace Config

/-- The server and how to talk to it. -/
structure Server where
  baseUrl : String := "http://localhost:8081"
  protocol : Protocol := .v2
  defaultFormat : Option Format := none
  timeout : Double := Double.ofQuotient false 15 1
deriving DecidableEq

/-- The defaults of subscriptions. -/
structure Subscriptions where
  format : Option Format := none
  timeout : Option Int := none
  liveValidation : Option Bool := none
  errorWhenUnsuccessful : Bool := false
  keepAlive : Option Double := none
deriving DecidableEq

/-- What is logged, and where to. -/
structure Logging where
  level : String := "WARNING"
  file : Option String := none
deriving DecidableEq

/-- How output is written. -/
inductive Output where
  | human
  | json
deriving DecidableEq, Repr

end Config

/-- A configuration. -/
structure Config where
  server : Config.Server := {}
  subscription : Config.Subscriptions := {}
  logging : Config.Logging := {}
  output : Config.Output := .human
deriving DecidableEq

namespace Protocol

def name : Protocol → String
  | v1 => "v1"
  | v2 => "v2"

/-- The version of a name. -/
def ofName? (s : String) : Option Protocol :=
  if s = "v1" then some v1 else if s = "v2" then some v2 else none

/-- The path of the API. -/
def apiPath : Protocol → String
  | v1 => "api/v1/"
  | v2 => "api/v2/"

/-- The format that is spoken if none is configured. -/
def format : Protocol → Format
  | v1 => .json
  | v2 => .jsonV2

theorem ofName?_name (p : Protocol) : ofName? p.name = some p := by cases p <;> decide

end Protocol

namespace Config

namespace Output

def name : Output → String
  | human => "human"
  | json => "json"

def ofName? (s : String) : Option Output :=
  if s = "human" then some human else if s = "json" then some json else none

end Output

/-! ## Checks -/

/-- A version, in any case and with an optional first letter. -/
def protocol : Check Protocol
  | .str s =>
    let version := Text.lower (Text.strip s)
    Check.ofOption
      (Protocol.ofName? (if version.startsWith "v" then version else "v" ++ version))
  | _ => Check.misfit

/-- The rule for formats, in words. -/
def formatRule : String :=
  "Value error, format must be one of " ++ Text.join ", " (Format.all.map Format.name)

/-- A format, in any case. -/
def format : Check Format
  | .str s =>
    match Format.ofName? (Text.lower (Text.strip s)) with
    | some f => .ok f
    | none => Check.broken formatRule
  | _ => Check.misfit

def fileName : Check String
  | .str s => .ok (Text.PathName.normal s)
  | _ => Check.misfit

namespace Server

def check : Check Server :=
  Check.fields fun ms =>
    Server.mk <$> Check.defaulted ms ["base_url"] ({} : Server).baseUrl Check.text
      <*> Check.defaulted ms ["api_version"] .v2 Config.protocol
      <*> Check.optional ms ["default_format"] Config.format
      <*> Check.defaulted ms ["request_timeout_seconds"] ({} : Server).timeout Check.real

end Server

namespace Subscriptions

def check : Check Subscriptions :=
  Check.fields fun ms =>
    Subscriptions.mk <$> Check.optional ms ["format"] Config.format
      <*> Check.optional ms ["timeout"] Check.integer
      <*> Check.optional ms ["livevalidation"] Check.truth
      <*> Check.defaulted ms ["error_when_unsuccessful"] false Check.truth
      <*> Check.optional ms ["keep_alive_seconds"] Check.real

end Subscriptions

namespace Logging

def check : Check Logging :=
  Check.fields fun ms =>
    Logging.mk <$> Check.defaulted ms ["level"] ({} : Logging).level Check.text
      <*> Check.optional ms ["log_file"] fileName

end Logging

namespace Output

def check : Check Output :=
  Check.fields fun ms =>
    Check.defaulted ms ["default_format"] .human (Check.word Output.ofName?)

end Output

def check : Check Config :=
  Check.fields fun ms =>
    Config.mk <$> Check.defaulted ms ["server"] {} Server.check
      <*> Check.defaulted ms ["subscription"] {} Subscriptions.check
      <*> Check.defaulted ms ["logging"] {} Logging.check
      <*> Check.defaulted ms ["output"] .human Output.check

/-! ## Writing -/

/-- The name of a format, if there is one. -/
def formatName (f : Option Format) : Json := Json.ofText? (f.map Format.name)

def dump (c : Config) : Json :=
  .obj [
    ("server", .obj [("base_url", .str c.server.baseUrl),
      ("api_version", .str c.server.protocol.name),
      ("default_format", formatName c.server.defaultFormat),
      ("request_timeout_seconds", .float c.server.timeout)]),
    ("subscription", .obj [("format", formatName c.subscription.format),
      ("timeout", Json.ofOption (c.subscription.timeout.map .int)),
      ("livevalidation", Json.ofOption (c.subscription.liveValidation.map .bool)),
      ("error_when_unsuccessful", .bool c.subscription.errorWhenUnsuccessful),
      ("keep_alive_seconds", Json.ofOption (c.subscription.keepAlive.map .float))]),
    ("logging", .obj [("level", .str c.logging.level),
      ("log_file", Json.ofText? c.logging.file)]),
    ("output", .obj [("default_format", .str c.output.name)])]

namespace Server

/-- The address of the API. -/
def apiUrl (s : Server) : String :=
  String.ofList (s.baseUrl.toList.reverse.dropWhile (· = '/')).reverse ++ "/" ++ s.protocol.apiPath

/-- The format that is spoken. -/
def format (s : Server) : Format := s.defaultFormat.getD s.protocol.format

end Server

end Config

end RemoteModel

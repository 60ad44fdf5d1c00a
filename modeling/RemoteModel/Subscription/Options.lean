import RemoteModel.Check
import RemoteModel.Failure
import RemoteModel.Json.Display
import RemoteModel.Url.Basic

/-!
# Subscription options

What a subscriber may ask for: a format, a time after which an idle channel is closed, and
whether changes are validated as they come. Further options are passed on to the server.

**Address.** The channel of a model has the address of the API with the scheme of channels, the
path `subscribe` and the options as its query. The model comes first, then the format; an option
that is not set is left out, and an option of the same name replaces the one before it.
-/

namespace RemoteModel.Subscription

/-- The options of a subscription. -/
structure Options where
  format : Option String := none
  timeout : Option Int := none
  liveValidation : Option Bool := none
  /-- A second subscription of a model is an error. -/
  errorWhenUnsuccessful : Bool := false
  extras : Entries Json := []
deriving DecidableEq

namespace Options

def names : List (List String) :=
  [["format"], ["timeout"], ["livevalidation"], ["error_when_unsuccessful"]]

def check : Check Options :=
  Check.fields fun ms =>
    Options.mk <$> Check.optional ms ["format"] Check.text
      <*> Check.optional ms ["timeout"] Check.integer
      <*> Check.optional ms ["livevalidation"] Check.truth
      <*> Check.defaulted ms ["error_when_unsuccessful"] false Check.truth
      <*> .ok (Check.extras ms names)

def dump (o : Options) : Json :=
  .obj ([("format", Json.ofText? o.format), ("timeout", Json.ofOption (o.timeout.map .int)),
    ("livevalidation", Json.ofOption (o.liveValidation.map .bool)),
    ("error_when_unsuccessful", .bool o.errorWhenUnsuccessful)] ++ o.extras)

/-- The text of a value in a query. -/
def queryText : Json → String
  | .bool true => "true"
  | .bool false => "false"
  | v => Json.Display.shown v

/-- Options that are never passed on. -/
def isLocal (name : String) : Bool := name = "errorWhenUnsuccessful" || name = "listener"

/-- The options that are passed on, as the values of a query. -/
def query (defaultFormat : String) (o : Options) : Entries String :=
  let format := match o.format with
    | some f => if f = "" then defaultFormat else f
    | none => defaultFormat
  let timeout := o.timeout.map fun n => ("timeout", toString n)
  let live := o.liveValidation.map fun b => ("livevalidation", queryText (.bool b))
  let extras := o.extras.filter fun e => !e.2.isNull && !isLocal e.1
  Entries.merge ([("format", format)] ++ timeout.toList ++ live.toList)
    (extras.map fun e => (e.1, queryText e.2))

end Options

/-- The path of subscriptions. -/
def pathName : String := "subscribe"

/-- The scheme of channels to a server with some scheme. -/
def channelScheme (scheme : String) : String :=
  if scheme = "https" ∨ scheme = "wss" then "wss" else "ws"

/-- The address of the channel of a model; none if there is no such address. -/
def address? (baseUrl defaultFormat modeluri : String) (o : Options) : Option String := do
  let url ← Url.ofText? baseUrl
  let path := url.decodedPath
  let path := if path.endsWith "/" then path else path ++ "/"
  let params := Entries.merge [("modeluri", modeluri)] (o.query defaultFormat)
  let address ← Url.ofParts?
    { url.parts with
      scheme := channelScheme url.scheme, path := path ++ pathName, query := Url.formQuery params }
  some address.text

end RemoteModel.Subscription

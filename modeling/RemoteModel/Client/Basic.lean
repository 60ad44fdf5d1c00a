import RemoteModel.Client.Request
import RemoteModel.Config.Source
import RemoteModel.Subscription.Registry

/-!
# The client

A client speaks one version of the protocol with the API at one address. What is not given when
it is made comes from a configuration: the address, the format and the time to wait. An empty
text and a time of zero count as not given.
-/

namespace RemoteModel

/-- A client of an API. -/
structure Client where
  protocol : Protocol
  baseUrl : String
  /-- The format of models that no call chooses. -/
  defaultFormat : String
  /-- How many seconds to wait for an answer. -/
  timeout : Json
  /-- The address below which requests are made. -/
  base : Url

namespace Client

/-- The seconds to wait if nothing is given. -/
def usualTimeout : Json := .float ({} : Config.Server).timeout

/-- A number that is zero. -/
def isZero : Json → Bool
  | .int n => n == 0
  | .float x => x.isZero
  | _ => false

/-- The first text that is given and not empty. -/
def firstText (given fallback : Option String) : Option String :=
  (given.filter (· ≠ "")).or fallback

/-- Makes a client. -/
def make (protocol : Protocol) (baseUrl defaultFormat : Option String) (timeout : Option Json)
    (config : Option Config) : Except Failure Client :=
  let server := config.map Config.server
  let url := (firstText baseUrl (server.map Config.Server.apiUrl)).getD ""
  let configured := (server.bind Config.Server.defaultFormat).map Format.name
  let format := (firstText defaultFormat configured).getD protocol.format.name
  let seconds := ((timeout.filter fun t => !isZero t).or
    (server.map fun s => .float s.timeout)).getD usualTimeout
  match (Url.ofText? url).bind Url.asBase? with
  | none => .error .notAUrl
  | some base =>
    .ok { protocol := protocol, baseUrl := url, defaultFormat := format, timeout := seconds,
          base := base }

/-- Makes a client of the configured version. -/
def ofConfig (config : Config) (baseUrl defaultFormat : Option String) (timeout : Option Json) :
    Except Failure Client :=
  make config.server.protocol baseUrl defaultFormat timeout (some config)

/-- The registry of a client that has no subscriptions yet. -/
def registry (c : Client) : Subscription.Registry :=
  { baseUrl := c.baseUrl, defaultFormat := c.defaultFormat }

/-! ## Performing calls -/

/-- Reads the answer to a request. An envelope of an error is one, whatever its status. -/
def read {α : Type} (c : Client) (path : String) (decode : Envelope → Except Error α) (a : Answer) :
    Except Failure α :=
  match a.envelope c.base.text c.timeout path with
  | .error failure => .error failure
  | .ok m =>
    if m.kind = .error then .error (.reported (m.serverError [("path", .str path)]))
    else (decode m).mapError Failure.reported

/-- A call that is over, or one that waits for its answer. -/
inductive Pending (α : Type) where
  | over (result : Except Failure α)
  | waiting (request : SentRequest) (finish : Answer → Except Failure α)

/-- Begins a call. -/
def start {α : Type} (c : Client) : Exchange α → Pending α
  | .done v => .over (.ok v)
  | .ask r decode =>
    match r.sent c.base with
    | .error failure => .over (.error failure)
    | .ok sent => .waiting sent (c.read r.path decode)

/-- Performs a call: the request that is sent, if there is one, and the result. -/
def perform {α : Type} (c : Client) (x : Exchange α) (a : Answer) :
    Option SentRequest × Except Failure α :=
  match c.start x with
  | .over result => (none, result)
  | .waiting request finish => (some request, finish a)

/-- Sends a message to the channel of a model. The second version reports that there is none. -/
def send (c : Client) (conduct : Nat → Subscription.Conduct) (modeluri : String)
    (message : Checked Envelope) (r : Subscription.Registry) : Subscription.Outcome Bool :=
  let o := r.send conduct modeluri message
  match c.protocol, o.result with
  | .v2, .ok false => { o with result := .error (.reported (.notSubscribed modeluri)) }
  | _, _ => o

end Client

end RemoteModel

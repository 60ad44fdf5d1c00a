import RemoteModel.Subscription.Channel
import RemoteModel.Subscription.Options

/-!
# The registry of subscriptions

A client has at most one registered channel per model. A subscription registers a new channel;
it leaves the registry when it is given up, when it cannot be opened, or when its channel
reports a close. Channels that have left may still report events: these go to their own
listeners and change no other subscription.

**Steps.** `register`, `notify`, `drop` and `withdraw` are single steps, between which other
calls may come. `subscribe`, `unsubscribe`, `send` and `closeAll` run such steps to their end
with channels of a given conduct.
-/

namespace RemoteModel.Subscription

/-- All channels ever made, in order, and the numbers of the registered ones by model. -/
structure Registry where
  baseUrl : String
  defaultFormat : String
  channels : List Channel := []
  registered : Entries Nat := []

/-- A registry after a call, what listeners have been told, and what the call gives. -/
structure Outcome (α : Type) where
  registry : Registry
  deliveries : List Delivery
  result : Except Failure α

namespace Registry

/-! ## Looking -/

/-- The registered channel of a model. -/
def channel? (r : Registry) (modeluri : String) : Option Channel :=
  (r.registered.get? modeluri).bind fun n => r.channels[n]?

def state (r : Registry) (modeluri : String) : State :=
  match r.channel? modeluri with
  | some c => c.state
  | none => .closed

def isSubscribed (r : Registry) (modeluri : String) : Bool := r.state modeluri != .closed

/-- The subscribed models, in the order of their registration. -/
def subscribed (r : Registry) : List String :=
  r.registered.names.filter r.isSubscribed

/-! ## Single steps -/

/-- Changes the channel with a number. -/
def modify (r : Registry) (n : Nat) (f : Channel → Channel) : Registry :=
  { r with channels := r.channels.modify n f }

/-- Takes a channel off the registry, unless another one has been registered for its model. -/
def drop (r : Registry) (n : Nat) : Registry :=
  match r.channels[n]? with
  | some c =>
    if r.registered.get? c.modeluri = some n then
      { r with registered := r.registered.erase c.modeluri }
    else r
  | none => r

/-- A channel reports an event: its state changes, its listener is told, and a close that the
listener takes ends its registration. -/
def notify (r : Registry) (n : Nat) (e : Event) : Registry × List Delivery × Option Failure :=
  match r.channels[n]? with
  | none => (r, [], none)
  | some c =>
    let next := r.modify n fun c => { c with state := c.state.after e }
    let (deliveries, failure) := c.listener.react c.modeluri e
    match e, failure with
    | .closed .., none => (next.drop n, deliveries, none)
    | _, failure => (next, deliveries, failure)

/-- Registers a new channel for a model. -/
def register (r : Registry) (modeluri : String) (listener : Listener) (o : Options) :
    Option Registry :=
  (address? r.baseUrl r.defaultFormat modeluri o).map fun address =>
    { r with
      channels :=
        r.channels ++ [{ modeluri := modeluri, address := address, listener := listener }],
      registered := r.registered.insert modeluri r.channels.length }

/-- Gives up a channel that could not be opened. -/
def abandon (r : Registry) (n : Nat) : Registry :=
  (r.modify n fun c => { c with state := .closed }).drop n

/-- Takes the channel of a model off the registry. -/
def withdraw (r : Registry) (modeluri : String) : Option (Registry × Nat) :=
  (r.registered.get? modeluri).map fun n =>
    ({ r with registered := r.registered.erase modeluri }, n)

/-! ## Responses -/

/-- A channel reports events; unless it is shielded, the first failure of a listener ends it. -/
def report (shielded : Bool) (n : Nat) : List Event → Registry →
    Registry × List Delivery × Option Failure
  | [], r => (r, [], none)
  | e :: rest, r =>
    match r.notify n e with
    | (r, deliveries, some failure) =>
      if shielded then
        let (r, more, last) := report shielded n rest r
        (r, deliveries ++ more, last)
      else (r, deliveries, some failure)
    | (r, deliveries, none) =>
      let (r, more, last) := report shielded n rest r
      (r, deliveries ++ more, last)

/-- A channel responds: it reports its events and then fails, if it does. -/
def respond (c : Conduct) (n : Nat) (response : Response) (r : Registry) :
    Registry × List Delivery × Option Failure :=
  let (r, deliveries, failure) := r.report c.shielded n response.events
  (r, deliveries, failure.or response.failure)

/-- A channel is asked to close. -/
def close (c : Conduct) (n : Nat) (r : Registry) : Registry × List Delivery × Option Failure :=
  (r.modify n fun c => { c with closings := c.closings + 1 }).respond c n c.closing

/-! ## Calls -/

/-- The failure, if there is one, and a value otherwise. -/
def orFailure {α : Type} (a : α) : Option Failure → Except Failure α
  | some failure => .error failure
  | none => .ok a

/-- Subscribes to a model. A second subscription is ignored, or refused if the options say so. -/
def subscribe (conduct : Nat → Conduct) (modeluri : String) (listener : Listener) (o : Options)
    (r : Registry) : Outcome Unit :=
  if r.isSubscribed modeluri then
    if o.errorWhenUnsuccessful then
      ⟨r, [], .error (.reported (.alreadySubscribed modeluri (r.state modeluri).name))⟩
    else ⟨r, [], .ok ()⟩
  else
    let n := r.channels.length
    match r.register modeluri listener o, (conduct n).making with
    | none, _ => ⟨r, [], .error .notAUrl⟩
    | some _, some failure => ⟨r, [], .error failure⟩
    | some next, none =>
      match next.respond (conduct n) n (conduct n).opening with
      | (next, deliveries, none) => ⟨next, deliveries, .ok ()⟩
      | (next, deliveries, some failure) =>
        let (next, more, last) := (next.abandon n).close (conduct n) n
        ⟨next, deliveries ++ more, .error (last.getD failure)⟩

/-- Ends the subscription of a model; tells whether there was one. -/
def unsubscribe (conduct : Nat → Conduct) (modeluri : String) (r : Registry) : Outcome Bool :=
  match r.withdraw modeluri with
  | none => ⟨r, [], .ok false⟩
  | some (r, n) =>
    let (r, deliveries, failure) := r.close (conduct n) n
    ⟨r, deliveries, orFailure true failure⟩

/-- Sends a message to the channel of a model; tells whether there is one. The message is looked
at only then. -/
def send (conduct : Nat → Conduct) (modeluri : String) (message : Checked Envelope)
    (r : Registry) : Outcome Bool :=
  match r.registered.get? modeluri, r.isSubscribed modeluri with
  | some n, true =>
    match message with
    | .bad issues => ⟨r, [], .error (.rejected issues)⟩
    | .ok m =>
      let r := r.modify n fun c => { c with sent := c.sent ++ [m.toText] }
      let count := ((r.channels[n]?).map fun c => c.sent.length).getD 0
      let (r, deliveries, failure) := r.respond (conduct n) n ((conduct n).sending count)
      ⟨r, deliveries, orFailure true failure⟩
  | _, _ => ⟨r, [], .ok false⟩

/-- Ends the subscriptions of some models, until one of them fails to close. -/
def closeEach (conduct : Nat → Conduct) : List String → Registry → Outcome Unit
  | [], r => ⟨r, [], .ok ()⟩
  | modeluri :: rest, r =>
    let first := r.unsubscribe conduct modeluri
    match first.result with
    | .error failure => ⟨first.registry, first.deliveries, .error failure⟩
    | .ok _ =>
      let next := closeEach conduct rest first.registry
      ⟨next.registry, first.deliveries ++ next.deliveries, next.result⟩

/-- Ends all subscriptions. -/
def closeAll (conduct : Nat → Conduct) (r : Registry) : Outcome Unit :=
  closeEach conduct r.registered.names r

end Registry

end RemoteModel.Subscription

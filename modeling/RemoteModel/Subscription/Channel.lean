import RemoteModel.Notification

/-!
# Channels and their listeners

A channel carries the events of one subscribed model to one listener. A typed listener gets a
notification for each event, a raw one gets the event itself.

**State.** A channel is opening until it reports something: it is open after it has opened, in
error after a failure that is no close, and closed after a close.

**Conduct.** What a channel does when it is asked to open, to send or to close is its conduct:
it reports events, in order, and then returns or fails. Channels that shield themselves go on
when a listener fails; others pass the failure on. A channel may also fail to be made at all.
-/

namespace RemoteModel.Subscription

/-- The state of a channel. -/
inductive State where
  | closed
  | opening
  | open
  | error
deriving DecidableEq, Repr

namespace State

def name : State → String
  | closed => "closed"
  | opening => "opening"
  | «open» => "open"
  | error => "error"

/-- The state after an event. -/
def after (s : State) : Event → State
  | .opened => «open»
  | .failed _ => if s = closed then closed else error
  | .closed .. => closed
  | .arrived _ => s

end State

/-- Who is told about the events of a channel, and when it fails to take them. -/
structure Listener where
  /-- The protocol of a typed listener; a raw one has none. -/
  protocol : Option Protocol
  fails : Event → Option Failure := fun _ => none

/-- What a listener has been told. -/
inductive Delivery where
  | typed (call : Call)
  | raw (modeluri : String) (event : Event)

namespace Listener

/-- What a listener is told about an event of a model, and the failure that comes of it. -/
def react (l : Listener) (modeluri : String) (e : Event) : List Delivery × Option Failure :=
  match l.protocol with
  | none => ([.raw modeluri e], l.fails e)
  | some protocol =>
    match e.call protocol modeluri with
    | .ok call => ([.typed call], l.fails e)
    | .error failure => ([], some failure)

end Listener

/-- A channel, and what has been done with it. -/
structure Channel where
  modeluri : String
  address : String
  listener : Listener
  state : State := .opening
  sent : List String := []
  /-- How often the channel has been asked to close. -/
  closings : Nat := 0

/-- What a channel does when it is asked for something. -/
structure Response where
  events : List Event := []
  failure : Option Failure := none
deriving DecidableEq

/-- How a channel behaves. -/
structure Conduct where
  /-- The failure for which there is no channel. -/
  making : Option Failure := none
  opening : Response := { events := [.opened] }
  /-- The response to the text with a number, counted from one. -/
  sending : Nat → Response := fun _ => {}
  closing : Response := { events := [.closed 1000 ""] }
  shielded : Bool := false

end RemoteModel.Subscription

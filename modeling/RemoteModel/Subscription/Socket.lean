import RemoteModel.Subscription.Channel

/-!
# Socket channels

A channel over a socket. It never fails to open because of the network: a connection that cannot
be made is reported as a failure and a close. Frames are reported one by one, and the end of the
connection is reported last and once, after a failure if it broke.

**Shielding.** Listeners that fail do not disturb the channel.
-/

namespace RemoteModel.Subscription

/-- The close code of a connection that ends without one. -/
def abnormalClosure : Int := 1006

/-- How a connection ends. -/
structure Ending where
  code : Option Int := none
  reason : Option String := none
  /-- The failure of a connection that breaks. -/
  broken : Option Failure := none
deriving DecidableEq

namespace Ending

/-- The events that report an end. -/
def events (e : Ending) : List Event :=
  (e.broken.map fun failure => Event.failed (.failure failure)).toList ++
    [.closed (e.code.getD abnormalClosure) (e.reason.getD "")]

/-- The end that the channel itself asks for. -/
def normal : Ending := { code := some 1000, reason := some "" }

end Ending

/-- A socket channel: what has been sent over its latest connection, if there was one, and
whether that one is still there. -/
structure Socket where
  address : String
  sent : Option (List String) := none
  isOpen : Bool := false
deriving DecidableEq, Repr

namespace Socket

/-- Opens a connection, or meets a failure. Failures of the network are reported as events. -/
def «open» (s : Socket) : Option Failure → Socket × Response
  | none => ({ s with sent := some [], isOpen := true }, { events := [.opened] })
  | some (.disconnected kind text) =>
    (s, { events := [.failed (.failure (.disconnected kind text)), .closed abnormalClosure text] })
  | some failure => (s, { failure := some failure })

/-- Writes a text. -/
def send (s : Socket) (text : String) : Socket × Response :=
  if s.isOpen then ({ s with sent := some (s.sent.getD [] ++ [text]) }, {})
  else (s, { failure := some (.reported (.channelNotOpen s.address)) })

/-- A frame arrives. -/
def receive (s : Socket) (frame : Frame) : Response :=
  if s.isOpen then { events := [.arrived frame] } else {}

/-- The connection ends. -/
def finish (s : Socket) (e : Ending) : Socket × Response :=
  if s.isOpen then ({ s with isOpen := false }, { events := e.events }) else (s, {})

/-- Closes the connection. -/
def close (s : Socket) : Socket × Response := s.finish .normal

/-- Everything that a channel reports from its opening on: an attempt to connect, the frames
that arrive and the end of the connection. -/
def session (attempt : Option Failure) (frames : List Frame) (e : Ending) (s : Socket) :
    Response :=
  let (s, opening) := s.open attempt
  if s.isOpen then
    { events := opening.events ++ frames.map Event.arrived ++ (s.finish e).2.events }
  else opening

end Socket

end RemoteModel.Subscription

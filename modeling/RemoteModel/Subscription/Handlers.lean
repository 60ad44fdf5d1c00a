import RemoteModel.Subscription.Traffic

/-!
# Channels and their handlers

A channel calls its handlers for each event, one call after the other. Handlers may remember what
they like and may fail. A channel that shields itself notes the failure of a handler and goes on.

**Attendance.** An attended channel goes through what the network does to it: its line changes,
and the handlers are called for what the channel reports. The only failure that anybody else sees
is that of an attempt to connect.

**Registry.** A registry takes part through handlers of its own, which note the event and tell the
listener of the channel.
-/

namespace RemoteModel.Subscription

/-- What somebody who remembers something makes of an event: what is remembered from then on, and
the failure that comes of it. -/
structure Handlers (σ : Type) where
  handle : σ → Event → σ × Option Failure

/-- A call of the handlers, and how it failed, if it did. -/
structure Handled where
  event : Event
  failure : Option Failure
deriving DecidableEq

namespace Handlers

/-- Calls the handlers for some events. What they raise goes no further. -/
def dispatch {σ : Type} (h : Handlers σ) : List Event → σ → σ × List Handled
  | [], memory => (memory, [])
  | e :: rest, memory =>
    let (memory, failure) := h.handle memory e
    let (memory, calls) := h.dispatch rest memory
    (memory, ⟨e, failure⟩ :: calls)

/-- The handlers of a registry for a channel, and what listeners have been told. -/
def ofRegistry (n : Nat) : Handlers (Registry × List Delivery) where
  handle := fun (r, told) e =>
    let (r, deliveries, failure) := r.notify n e
    ((r, told ++ deliveries), failure)

end Handlers

/-- A channel with handlers. -/
structure Attended (σ : Type) where
  line : Line := .connecting
  memory : σ
  calls : List Handled := []
  /-- The failure of the attempt to connect, as far as the handlers are not told about it. -/
  failure : Option Failure := none

namespace Attended

variable {σ : Type}

/-- The network does something to the channel. -/
def next (address : String) (h : Handlers σ) (a : Attended σ) (s : Signal) : Attended σ :=
  let (line, response) := a.line.respond address s
  let (memory, calls) := h.dispatch response.events a.memory
  { line := line, memory := memory, calls := a.calls ++ calls,
    failure := a.failure.or response.failure }

/-- The network does some things to the channel, one after the other. -/
def run (address : String) (h : Handlers σ) (a : Attended σ) (signals : List Signal) :
    Attended σ :=
  signals.foldl (next address h) a

end Attended

end RemoteModel.Subscription

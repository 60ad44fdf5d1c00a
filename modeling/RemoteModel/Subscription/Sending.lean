import RemoteModel.Client.Basic
import RemoteModel.Subscription.Switchboard
import RemoteModel.Subscription.Traffic

/-!
# Sending over connections

A message for a model is handed to the registered channel of the model, which writes it to its
connection. A channel that is still connecting, or that has lost its connection, refuses it. A
connection that is live may fail while it is written to; then nothing is written.

**Acts.** While calls and signals go on, a client sends messages. An act is something that happens
or a message that is sent.
-/

namespace RemoteModel

namespace Subscription

namespace Line

/-- A text is handed to a channel with an address. Writing to a live connection may fail. -/
def send (address text : String) (fault : Option Failure) : Line → Line × Response
  | connecting => (connecting, { failure := some (.reported (.channelNotOpen address)) })
  | settled s =>
    match s.isOpen, fault with
    | true, some failure => (settled s, { failure := some failure })
    | _, _ =>
      let (s, response) := s.send text
      (settled s, response)

/-- What has been written to the connection. -/
def written : Line → List String
  | connecting => []
  | settled s => s.sent.getD []

end Line

namespace Traffic

/-- A text is handed to a channel, which may fail to write it. -/
def handOver (t : Traffic) (n : Nat) (text : String) (fault : Option Failure) :
    Traffic × Option Failure :=
  match t.registry.channels[n]?, t.lines[n]? with
  | some c, some l =>
    let (l, response) := l.send c.address text fault
    ({ t with registry := t.registry.handOver n text, lines := t.lines.set n l }, response.failure)
  | _, _ => (t, none)

/-- Sends a message to the channel of a model; tells whether there is one. -/
def send (t : Traffic) (modeluri : String) (message : Checked Envelope) (fault : Option Failure) :
    Traffic × Except Failure Bool :=
  match t.registry.registered.get? modeluri, t.registry.isSubscribed modeluri with
  | some n, true =>
    match message with
    | .bad issues => (t, .error (.rejected issues))
    | .ok m =>
      let (t, failure) := t.handOver n m.toText fault
      (t, Registry.orFailure true failure)
  | _, _ => (t, .ok false)

/-- What has been written to the connections of all channels. -/
def frames (t : Traffic) : List (List String) := t.lines.map Line.written

/-- What happens by itself, or a message that a client sends. -/
inductive Act where
  | happens (happening : Happening)
  | sends (modeluri : String) (message : Checked Envelope) (fault : Option Failure)

/-- What is there after an act. -/
def perform (t : Traffic) : Act → Traffic
  | .happens happening => t.next happening
  | .sends modeluri message fault => (t.send modeluri message fault).1

/-- What is there after some acts. -/
def play (t : Traffic) (acts : List Act) : Traffic := acts.foldl perform t

end Traffic

end Subscription

/-- Sends a message over the connections of a client. The second version reports that there is no
channel. -/
def Client.sendOver (c : Client) (modeluri : String) (message : Checked Envelope)
    (fault : Option Failure) (t : Subscription.Traffic) :
    Subscription.Traffic × Except Failure Bool :=
  let (t, result) := t.send modeluri message fault
  match c.protocol, result with
  | .v2, .ok false => (t, .error (.reported (.notSubscribed modeluri)))
  | _, _ => (t, result)

end RemoteModel

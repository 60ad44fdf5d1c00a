import RemoteModel.Subscription.Registry
import RemoteModel.Subscription.Socket

/-!
# Calls and connections side by side

The calls of a client on its registry run one at a time only until they have to wait: a call that
subscribes waits for its connection to be made, and a call that ends subscriptions waits for the
connection of each of them to end. While a call waits, other calls start and return, and the
network goes on.

**Lines.** Each channel of the registry has a line, which is connecting until its attempt has
ended and has a socket from then on. A channel that is asked to close while it is connecting
tells nothing and does not give up its attempt.

**Happenings.** What happens is a call that starts, a signal of the network, or the return of a
call that has waited for a connection to end. Each runs until the next wait. A happening that
cannot take place changes nothing.
-/

namespace RemoteModel.Subscription

/-! ## Lines -/

/-- What the network does to a channel. -/
inductive Signal where
  /-- The attempt to connect has ended, in a failure if there is one. -/
  | connected (attempt : Option Failure)
  | arrived (frame : Frame)
  | ended (e : Ending)

/-- The connection of a channel. -/
inductive Line where
  | connecting
  | settled (s : Socket)

namespace Line

def isConnecting : Line → Bool
  | connecting => true
  | settled _ => false

/-- The connection has been made, and its end has not been reported. -/
def isLive : Line → Bool
  | connecting => false
  | settled s => s.isOpen

/-- What a signal does to a channel with an address. -/
def respond (address : String) : Line → Signal → Line × Response
  | connecting, .connected attempt =>
    let (s, response) := ({ address := address } : Socket).open attempt
    (settled s, response)
  | settled s, .arrived frame => (settled s, s.receive frame)
  | settled s, .ended e =>
    let (s, response) := s.finish e
    (settled s, response)
  | l, _ => (l, {})

end Line

/-! ## The state of a client -/

/-- A subscription that a call has taken off the registry. -/
structure Withdrawal where
  modeluri : String
  /-- The number of its channel. -/
  channel : Nat
  /-- How many channels had been made when the caller was told that the subscription has ended;
  the call is waiting until then. -/
  answered : Option Nat := none
  /-- The models whose subscriptions the call ends after this one. -/
  rest : List String := []
deriving DecidableEq, Repr

/-- The registry with the lines of its channels, and all subscriptions that calls have ended. -/
structure Traffic where
  registry : Registry
  lines : List Line := []
  withdrawals : List Withdrawal := []

inductive Happening where
  | subscribe (modeluri : String) (listener : Listener) (o : Options)
  | unsubscribe (modeluri : String)
  | closeAll
  | signal (n : Nat) (s : Signal)
  /-- A call goes on that has waited for the end of a connection. -/
  | resume (k : Nat)

namespace Traffic

/-- A client that has done nothing. -/
def start (baseUrl defaultFormat : String) : Traffic :=
  { registry := { baseUrl := baseUrl, defaultFormat := defaultFormat } }

def isConnecting (t : Traffic) (n : Nat) : Bool := (t.lines[n]?).any Line.isConnecting

def isLive (t : Traffic) (n : Nat) : Bool := (t.lines[n]?).any Line.isLive

/-- A channel reports the end of a connection when it ends, not when it is asked to close. -/
def conduct : Conduct := { closing := {}, shielded := true }

/-! ## Signals -/

/-- The line of a channel after a signal, and the response of the channel. -/
def respond? (t : Traffic) (n : Nat) (s : Signal) : Option (Line × Response) := do
  let c ← t.registry.channels[n]?
  let l ← t.lines[n]?
  some (l.respond c.address s)

/-- What the listener of a channel is told when a signal comes. -/
def told (t : Traffic) (n : Nat) (s : Signal) : List Event :=
  match t.respond? n s with
  | some (_, response) => response.events
  | none => []

/-- A signal reaches a channel. A channel that fails to open is given up. -/
def signal (t : Traffic) (n : Nat) (s : Signal) : Traffic :=
  match t.respond? n s with
  | none => t
  | some (l, response) =>
    let registry := match t.registry.respond conduct n response with
      | (r, _, none) => r
      | (r, _, some _) => ((r.abandon n).close conduct n).1
    { t with registry := registry, lines := t.lines.set n l }

/-! ## Calls -/

/-- Starts to subscribe to a model, unless it is subscribed. -/
def subscribe (t : Traffic) (modeluri : String) (listener : Listener) (o : Options) : Traffic :=
  if t.registry.isSubscribed modeluri then t
  else
    match t.registry.register modeluri listener o with
    | none => t
    | some r => { t with registry := r, lines := t.lines ++ [.connecting] }

/-- A subscription that a call ends. The caller is told at once unless the connection is live. -/
def withdrawal (t : Traffic) (modeluri : String) (n : Nat) (rest : List String) : Withdrawal where
  modeluri := modeluri
  channel := n
  answered := if t.isLive n then none else some t.registry.channels.length
  rest := rest

/-- Takes the channel of a model off the registry and asks it to close. -/
def withdraw (t : Traffic) (modeluri : String) (rest : List String) : Option (Nat × Traffic) :=
  (t.registry.withdraw modeluri).map fun (r, n) =>
    (n, { t with
      registry := (r.close conduct n).1,
      withdrawals := t.withdrawals ++ [t.withdrawal modeluri n rest] })

/-- Ends the subscriptions of some models in order, up to the first connection that is live. -/
def endEach : List String → Traffic → Traffic
  | [], t => t
  | modeluri :: rest, t =>
    match t.withdraw modeluri rest with
    | none => endEach rest t
    | some (n, next) => if t.isLive n then next else endEach rest next

/-- The caller of a withdrawal is told that the subscription has ended. -/
def answer (t : Traffic) (k : Nat) (w : Withdrawal) : Traffic :=
  { t with
    withdrawals := t.withdrawals.set k { w with answered := some t.registry.channels.length } }

/-- A call goes on when the connection that it has waited for has ended. -/
def resume (t : Traffic) (k : Nat) : Traffic :=
  match t.withdrawals[k]? with
  | none => t
  | some w =>
    if w.answered = none ∧ t.isLive w.channel = false then endEach w.rest (t.answer k w) else t

/-- What is there after a happening. -/
def next (t : Traffic) : Happening → Traffic
  | .subscribe modeluri listener o => t.subscribe modeluri listener o
  | .unsubscribe modeluri => endEach [modeluri] t
  | .closeAll => endEach t.registry.registered.names t
  | .signal n s => t.signal n s
  | .resume k => t.resume k

/-- What is there after some happenings. -/
def run (t : Traffic) (hs : List Happening) : Traffic := hs.foldl next t

end Traffic

end RemoteModel.Subscription

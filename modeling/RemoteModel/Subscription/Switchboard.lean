import RemoteModel.Subscription.Registry

/-!
# Calls and events side by side

A call on a registry runs until it has to wait: for its channel to open, for a channel to take a
text, or for a channel to close. While it waits, other calls start and return, and every channel
that was ever made may report events, also one that has left the registry long ago.

**Stages.** A call that has started waits for a channel, or it has returned.

**Moves.** What happens is a call that starts, an event of a channel, or the outcome of what a
call has waited for. A move that cannot take place changes nothing. Nothing is assumed of the
channels: they may report what they like, at any time, and fail to open, to send or to close.

**Listeners.** The listener that a call was given is known by the number of the call. What a
channel reports is told to the listener of the call that has made it.
-/

namespace RemoteModel.Subscription

/-- What a call answers: nothing, or whether there was something to do. -/
abbrev Answer := Except Failure (Option Bool)

/-- Where a call stands. -/
inductive Stage where
  /-- The channel that the call has made is to open. -/
  | opening (n : Nat)
  /-- The channel has failed to open and is to close; then the call fails, too. -/
  | abandoning (n : Nat) (failure : Failure)
  /-- The channel of the subscription that the call ends is to close. -/
  | closing (n : Nat)
  /-- The same, and then the subscriptions of other models are to be ended. -/
  | closingAll (n : Nat) (rest : List String)
  /-- The channel is to take a text. -/
  | sending (n : Nat)
  | returned (answer : Answer)

/-- A registry with the calls on it. -/
structure Switchboard where
  registry : Registry
  /-- The calls that have started, in order. -/
  stages : List Stage := []
  /-- The number of the call that has made each channel. -/
  makers : List Nat := []

inductive Move where
  /-- A call subscribes; there is no channel if making it fails. -/
  | subscribe (modeluri : String) (listener : Listener) (o : Options) (making : Option Failure)
  | unsubscribe (modeluri : String)
  | send (modeluri : String) (message : Checked Envelope)
  | closeAll
  | event (n : Nat) (e : Event)
  /-- What a call has waited for has come about, or it has failed. -/
  | resume (k : Nat) (failure : Option Failure)

/-- What the listener of a call has been told. -/
structure Told where
  call : Nat
  delivery : Delivery

/-- A channel is asked to close. -/
def Registry.askToClose (r : Registry) (n : Nat) : Registry :=
  r.modify n fun c => { c with closings := c.closings + 1 }

/-- A text is handed to a channel. -/
def Registry.handOver (r : Registry) (n : Nat) (text : String) : Registry :=
  r.modify n fun c => { c with sent := c.sent ++ [text] }

namespace Switchboard

/-- A client that has done nothing. -/
def start (baseUrl defaultFormat : String) : Switchboard :=
  { registry := { baseUrl := baseUrl, defaultFormat := defaultFormat } }

/-- A call has started, has left a registry behind and stands at a stage. -/
def enter (t : Switchboard) (r : Registry) (s : Stage) : Switchboard :=
  { t with registry := r, stages := t.stages ++ [s] }

/-- A call has gone on to another stage. -/
def proceed (t : Switchboard) (k : Nat) (r : Registry) (s : Stage) : Switchboard :=
  { t with registry := r, stages := t.stages.set k s }

/-! ## Calls -/

/-- Starts to subscribe to a model. -/
def subscribe (t : Switchboard) (modeluri : String) (listener : Listener) (o : Options)
    (making : Option Failure) : Switchboard :=
  if t.registry.isSubscribed modeluri then
    t.enter t.registry (.returned
      (if o.errorWhenUnsuccessful then
        .error (.reported (.alreadySubscribed modeluri (t.registry.state modeluri).name))
      else .ok none))
  else
    match t.registry.register modeluri listener o, making with
    | none, _ => t.enter t.registry (.returned (.error .notAUrl))
    | some _, some failure => t.enter t.registry (.returned (.error failure))
    | some r, none =>
      { t.enter r (.opening t.registry.channels.length) with
        makers := t.makers ++ [t.stages.length] }

/-- Starts to end the subscription of a model. -/
def unsubscribe (t : Switchboard) (modeluri : String) : Switchboard :=
  match t.registry.withdraw modeluri with
  | none => t.enter t.registry (.returned (.ok (some false)))
  | some (r, n) => t.enter (r.askToClose n) (.closing n)

/-- Starts to send a message to the channel of a model. -/
def send (t : Switchboard) (modeluri : String) (message : Checked Envelope) : Switchboard :=
  match t.registry.registered.get? modeluri, t.registry.isSubscribed modeluri with
  | some n, true =>
    match message with
    | .bad issues => t.enter t.registry (.returned (.error (.rejected issues)))
    | .ok m => t.enter (t.registry.handOver n m.toText) (.sending n)
  | _, _ => t.enter t.registry (.returned (.ok (some false)))

/-- Ends the subscriptions of some models in order, up to the first one that is there. -/
def endNext : List String → Registry → Registry × Stage
  | [], r => (r, .returned (.ok none))
  | modeluri :: rest, r =>
    match r.withdraw modeluri with
    | none => endNext rest r
    | some (r, n) => (r.askToClose n, .closingAll n rest)

/-- Starts to end all subscriptions. -/
def closeAll (t : Switchboard) : Switchboard :=
  let (r, s) := endNext t.registry.registered.names t.registry
  t.enter r s

/-- A call goes on after what it has waited for. -/
def resume (t : Switchboard) (k : Nat) (failure : Option Failure) : Switchboard :=
  match t.stages[k]?, failure with
  | some (.opening _), none => t.proceed k t.registry (.returned (.ok none))
  | some (.opening n), some failure =>
    t.proceed k ((t.registry.abandon n).askToClose n) (.abandoning n failure)
  | some (.abandoning _ first), last =>
    t.proceed k t.registry (.returned (.error (last.getD first)))
  | some (.closing _), failure =>
    t.proceed k t.registry (.returned (Registry.orFailure (some true) failure))
  | some (.closingAll _ _), some failure => t.proceed k t.registry (.returned (.error failure))
  | some (.closingAll _ rest), none =>
    let (r, s) := endNext rest t.registry
    t.proceed k r s
  | some (.sending _), failure =>
    t.proceed k t.registry (.returned (Registry.orFailure (some true) failure))
  | some (.returned _), _ => t
  | none, _ => t

/-! ## Runs -/

/-- What is there after a move. -/
def next (t : Switchboard) : Move → Switchboard
  | .subscribe modeluri listener o making => t.subscribe modeluri listener o making
  | .unsubscribe modeluri => t.unsubscribe modeluri
  | .send modeluri message => t.send modeluri message
  | .closeAll => t.closeAll
  | .event n e => { t with registry := (t.registry.notify n e).1 }
  | .resume k failure => t.resume k failure

/-- What is told in a move. -/
def told (t : Switchboard) : Move → List Told
  | .event n e =>
    match t.makers[n]? with
    | some k => (t.registry.notify n e).2.1.map (Told.mk k)
    | none => []
  | _ => []

/-- What is there after some moves. -/
def run (t : Switchboard) (ms : List Move) : Switchboard := ms.foldl next t

/-- What is told in some moves. -/
def log (t : Switchboard) : List Move → List Told
  | [] => []
  | m :: rest => t.told m ++ (t.next m).log rest

end Switchboard

end RemoteModel.Subscription

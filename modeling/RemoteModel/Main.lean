import RemoteModel.Cli.Run
import RemoteModel.Network.Frames
import RemoteModel.Subscription.Socket
import Std.Async.DNS
import Std.Async.Select
import Std.Async.TCP
import Std.Async.Timer
import Std.Internal.UV.System

/-!
# The program

Carries out the job of its command line: files are read, requests and channels go over sockets,
results are printed. Every decision is made by the job; here it only meets the world.

**Connections** are not encrypted, so servers behind `https` or `wss` cannot be reached.
-/

namespace RemoteModel.Program

open Std.Async Std.Net

/-! ## Printing and files -/

def printLines (lines : List Screen.Line) : IO Unit := do
  let out ← IO.getStdout
  out.putStr (Cli.printed lines)
  out.flush

/-- What stands under a file name. -/
def fileAt (name : String) : IO Cli.File := do
  try
    return .content (← IO.FS.readBinFile name).toList
  catch e =>
    match e with
    | .noFileOrDirectory .. => return .missing
    | .inappropriateType _ _ "not a directory" => return .beyondFile
    | .inappropriateType .. => return .directory
    | _ => return .missing

/-- Opens a log file; gives the reason if that is not possible. -/
def openLog (name : String) : IO (Option Failure) := do
  let folder := Text.PathName.folder name
  if let some failure := Cli.File.writeFault? (← fileAt folder) (← fileAt name) then
    return some failure
  try
    IO.FS.createDirAll folder
    discard (IO.FS.Handle.mk name .append)
    return none
  catch e => return some (.raised "file" e.toString)

/-- Ends with a report. -/
def finish (r : Cli.Report) : IO UInt32 := do
  printLines r.lines
  if let some complaint := r.complaint then IO.eprintln complaint
  match r.ending with
  | .exit code => return UInt32.ofNat code
  | .failed failure =>
    IO.eprintln failure.message
    return 1

/-! ## Connections -/

/-- The port of an address. -/
def portOf (u : Url) : UInt16 := UInt16.ofNat (u.port.getD 80).toNat

/-- Connects to the host of an address. -/
def connect (u : Url) : Async TCP.Socket.Client := do
  if u.scheme = "https" || u.scheme = "wss" then
    throw (IO.userError (u.text ++ ": encrypted connections are not supported"))
  let found ← DNS.getAddrInfo u.host (toString (portOf u))
  let socket ← TCP.Socket.Client.mk
  match found[0]? with
  | none => throw (IO.userError (u.host ++ ": no such host"))
  | some (IPAddr.v4 a) => socket.connect (.v4 { addr := a, port := portOf u })
  | some (IPAddr.v6 a) => socket.connect (.v6 { addr := a, port := portOf u })
  return socket

def write (socket : TCP.Socket.Client) (bytes : List UInt8) : Async Unit :=
  socket.send ⟨bytes.toArray⟩

/-- Everything that arrives until the other side ends the connection. -/
partial def readAll (socket : TCP.Socket.Client) (before : ByteArray) : Async ByteArray := do
  match ← socket.recv? 65536 with
  | some bytes => readAll socket (before ++ bytes)
  | none => return before

/-- Sends a request and waits for its answer. -/
def exchange (r : SentRequest) : Async Answer := do
  try
    let socket ← connect r.url
    write socket (Http.requestBytes r)
    let bytes ← readAll socket ByteArray.empty
    match Http.response? bytes.toList with
    | some response => return .response response
    | none => return .unreachable "Server disconnected without sending a response."
  catch e => return .unreachable e.toString

/-- A number of seconds in milliseconds, rounded down. -/
def milliseconds : Json → Nat
  | .int n => n.toNat * 1000
  | .float (.finite false m e) =>
    if e ≥ 0 then m * Nat.pow 2 e.toNat * 1000 else m * 1000 / Nat.pow 2 (-e).toNat
  | _ => 0

/-- The answer to a request, if it comes in time. -/
def answer (c : Client) (r : SentRequest) : Async Answer :=
  Async.race (exchange r) do
    sleep (Std.Time.Millisecond.Offset.ofNat (milliseconds c.timeout))
    return .timedOut

/-! ## Channels -/

/-- The number of the only channel. -/
def channelNumber : Nat := 0

/-- Passes events on to the registry, and prints what the listener is told. -/
def report (events : List Event) (r : Subscription.Registry) : IO Subscription.Registry := do
  let (r, deliveries, _) := r.report true channelNumber events
  printLines (Cli.deliveryLines deliveries)
  return r

/-- Sends a frame under a fresh mask. -/
def sendPacket (socket : TCP.Socket.Client) (p : Frames.Packet) : Async Unit := do
  let key ← IO.getRandomBytes 4
  write socket (p.encode key.toList)

/-- The next bytes; none of them if it is time to keep the channel open, and no list at its end. -/
def nextBytes (socket : TCP.Socket.Client) (interval : Option Nat) :
    Async (Option (List UInt8)) := do
  match interval with
  | none => return (← socket.recv? 65536).map ByteArray.toList
  | some n =>
    let timer ← Selector.sleep (Std.Time.Millisecond.Offset.ofNat n)
    Selectable.one #[
      .case (socket.recvSelector 65536) fun bytes => return bytes.map ByteArray.toList,
      .case timer fun _ => return some []]

/-- Sends a message that keeps the channel of a model open. -/
def keepAlive (socket : TCP.Socket.Client) (w : Cli.Watch) (r : Subscription.Registry) :
    Async Subscription.Registry := do
  let o := r.send (fun _ => {}) w.modeluri (.ok Envelope.keepAlive)
  if let some text := (o.registry.channel? w.modeluri).bind fun c => c.sent.getLast? then
    sendPacket socket { kind := .text, payload := Text.Utf8.encode text.toList }
  return o.registry

/-- Passes on all frames that have arrived completely; the registry, the unfinished message and
the bytes that are left, or only the registry at the end of the channel. -/
partial def passOn (socket : TCP.Socket.Client) (u : Frames.Unfinished) (bytes : List UInt8)
    (r : Subscription.Registry) :
    Async (Subscription.Registry × Option (Frames.Unfinished × List UInt8)) := do
  match Frames.Packet.decode? bytes with
  | none => return (r, some (u, bytes))
  | some (p, rest) =>
    let (u, signal) := Frames.receive u p
    match signal with
    | .nothing => passOn socket u rest r
    | .arrived frame => passOn socket u rest (← report [.arrived frame] r)
    | .asked payload =>
      sendPacket socket { kind := .pong, payload := payload }
      passOn socket u rest r
    | .closed code reason =>
      sendPacket socket { p with payload := p.payload.take 2 }
      return (← report (Subscription.Ending.events { code := code, reason := some reason }) r, none)
    | .broken => return (← report (Subscription.Ending.events {}) r, none)

/-- Listens to a channel until it ends. -/
partial def listen (socket : TCP.Socket.Client) (w : Cli.Watch) (u : Frames.Unfinished)
    (bytes : List UInt8) (r : Subscription.Registry) : Async Unit := do
  match ← passOn socket u bytes r with
  | (_, none) => return
  | (r, some (u, rest)) =>
    match ← nextBytes socket (w.interval.map fun x => milliseconds (.float x)) with
    | none => discard (report (Subscription.Ending.events {}) r)
    | some [] => listen socket w u rest (← keepAlive socket w r)
    | some more => listen socket w u (rest ++ more) r

/-- Reads until the head of an answer is complete; what follows it belongs to the channel. -/
partial def awaitHead (socket : TCP.Socket.Client) (before : List UInt8) : Async (List UInt8) := do
  match Http.head? before with
  | some (head, rest) =>
    if head.status = Frames.openingStatus then return rest
    else throw (IO.userError ("server rejected the channel: HTTP " ++ toString head.status))
  | none =>
    match ← socket.recv? 65536 with
    | some bytes => awaitHead socket (before ++ bytes.toList)
    | none => throw (IO.userError "connection closed while the channel was opened")

/-- Opens the channel of an address. -/
def openChannel (address : String) : Async (TCP.Socket.Client × List UInt8) := do
  match Url.ofText? address with
  | none => throw (IO.userError (address ++ ": no address"))
  | some u =>
    let socket ← connect u
    write socket (Frames.openingBytes u (← IO.getRandomBytes 16).toList)
    return (socket, ← awaitHead socket [])

/-- Watches a model until its channel closes. -/
def watch (w : Cli.Watch) : Async (Except Failure Unit) := do
  match w.client.registry.register w.modeluri { protocol := some w.client.protocol } w.options with
  | none => return .error .notAUrl
  | some r =>
    let address := ((r.channel? w.modeluri).map fun c => c.address).getD ""
    let opened : Except IO.Error (TCP.Socket.Client × List UInt8) ←
      try
        pure (.ok (← openChannel address))
      catch e => pure (.error e)
    let started : Subscription.Socket := { address := address }
    match opened with
    | .error e =>
      discard (report (started.open (some (.disconnected "network" e.toString))).2.events r)
    | .ok (socket, rest) => listen socket w none rest (← report (started.open none).2.events r)
    return .ok ()

/-! ## The job -/

/-- Carries out a job; gives the exit code. -/
def perform : Cli.Job → IO UInt32
  | .done r => finish r
  | .look name next => do
    let f ← fileAt name
    perform (next f)
  | .log name next => do
    let fault ← openLog name
    perform (next fault)
  | .ask client request next => do
    let a ← (answer client request).block
    perform (next a)
  | .watch w next => do
    let result ← (watch w).block
    perform (next result)

/-- The width of the screen, which the environment may give. -/
def screenWidth (environment : Entries String) : Nat :=
  match (Entries.get? environment "COLUMNS").bind Text.integer? with
  | some (.ofNat (n + 1)) => n + 1
  | _ => 80

/-- The home directory of a user in a table of accounts, which has one line for each of them. -/
def homeIn? (table user : String) : Option String :=
  (Text.split '\n' table).findSome? fun line =>
    match Text.split ':' line with
    | [name, _, _, _, _, home, _] => if name = user then some home else none
    | _ => none

/-- The home directories of the accounts of the system. -/
def accounts : IO (String → Option String) := do
  let own ← try pure (← Std.Internal.UV.System.osGetPasswd).homedir catch _ => pure none
  let table ← try IO.FS.readFile "/etc/passwd" catch _ => pure ""
  return fun user => if user = "" then own else homeIn? table user

/-- Carries out a command line. -/
def run (args : List String) : IO UInt32 := do
  let environment := (← Std.Internal.UV.System.osEnviron).toList
  let accounts ← accounts
  match Config.defaultFile accounts environment with
  | .error failure => finish (.escaped failure)
  | .ok file =>
    let terminal ← (← IO.getStdout).isTty
    perform (Cli.job
      { environment := environment, accounts := accounts, configFile := file,
        terminal := terminal, width := screenWidth environment } args)

end RemoteModel.Program

def main (args : List String) : IO UInt32 := RemoteModel.Program.run args

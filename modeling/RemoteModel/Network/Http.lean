import RemoteModel.Client.Received
import RemoteModel.Client.Request

/-!
# HTTP messages

A request as the bytes that are sent, and an answer from the bytes that arrive. Every request
has a connection of its own, so an answer ends with its connection, unless its head tells the
length of its body or says that the body comes in chunks.
-/

namespace RemoteModel.Http

/-! ## Requests -/

/-- The head of a request: its first line and its fields. -/
def headBytes (first : String) (fields : Entries String) : List UInt8 :=
  let lines := first :: fields.map fun f => f.1 ++ ": " ++ f.2
  Text.Utf8.encode (String.join (lines.map (· ++ "\r\n")) ++ "\r\n").toList

/-- The host and the port of an address. -/
def hostOf (u : Url) : String := Url.authority { u with userinfo := "" }

/-- The bytes of a body. -/
def bodyBytes (v : Json) : List UInt8 :=
  Text.Utf8.encode (Json.render { Json.compact with asciiOnly := false } v).toList

/-- The bytes of a request. -/
def requestBytes (r : SentRequest) : List UInt8 :=
  let first := r.method.name ++ " " ++ r.url.target ++ " HTTP/1.1"
  let fields := [("Host", hostOf r.url), ("Accept", "*/*"), ("Connection", "close")]
  match r.body with
  | none => headBytes first fields
  | some v =>
    let body := bodyBytes v
    let more := [("Content-Length", toString body.length), ("Content-Type", "application/json")]
    headBytes first (fields ++ more) ++ body

/-! ## Answers -/

/-- The first line and what follows it; none if there is no line end. -/
def line? : List UInt8 → Option (List UInt8 × List UInt8)
  | [] => none
  | 13 :: 10 :: rest => some ([], rest)
  | b :: rest => (line? rest).map fun (l, after) => (b :: l, after)

/-- The lines in front of the first empty one, and what follows it. -/
def lines? : Nat → List UInt8 → Option (List (List UInt8) × List UInt8)
  | 0, _ => none
  | fuel + 1, bytes =>
    match line? bytes with
    | none => none
    | some ([], rest) => some ([], rest)
    | some (l, rest) => (lines? fuel rest).map fun (ls, after) => (l :: ls, after)

/-- A line of a head, byte by byte. -/
def lineText (l : List UInt8) : List Char := l.map fun b => Char.ofNat b.toNat

/-- The status that the first line of an answer tells. -/
def status? (l : List Char) : Option Nat :=
  match Text.pieces ' ' l with
  | _ :: code :: _ => (code.mapM Text.asciiDigit?).map Text.valueOf
  | _ => none

/-- A field of a head. -/
def field? (l : List Char) : Option (String × String) :=
  (Text.cut? ':' l).map fun (name, value) => (String.ofList name, Text.trim (String.ofList value))

/-- The number that hexadecimal digits write. -/
def hexNumber? (cs : List Char) : Option Nat :=
  if cs.isEmpty then none
  else (cs.mapM Text.hexDigit?).map fun ds => ds.foldl (fun n d => 16 * n + d) 0

/-- The size of a chunk by its first line. -/
def chunkSize? (l : List UInt8) : Option Nat :=
  let cs := lineText l
  hexNumber? (Text.trimBy Text.isWhiteSpace (((Text.cut? ';' cs).map (·.1)).getD cs))

/-- A body that comes in chunks, up to the empty one. -/
def unchunk? : Nat → List UInt8 → Option (List UInt8)
  | 0, _ => none
  | fuel + 1, bytes =>
    match line? bytes with
    | none => none
    | some (l, rest) =>
      match chunkSize? l with
      | none => none
      | some 0 => some []
      | some n =>
        if rest.length < n + 2 then none
        else (unchunk? fuel (rest.drop (n + 2))).map fun more => rest.take n ++ more

/-- The head of an answer. -/
structure Head where
  status : Nat
  headers : Entries String

/-- The body behind a head; none if it does not end as the head says. -/
def body? (head : Head) (bytes : List UInt8) : Option (List UInt8) :=
  if (Header.value? head.headers "transfer-encoding").any fun v => Text.lower v = "chunked" then
    unchunk? (bytes.length + 1) bytes
  else
    let length := Header.value? head.headers "content-length"
    match length.map fun v => v.toList.mapM Text.asciiDigit? with
    | some (some ds) =>
      let n := Text.valueOf ds
      if bytes.length < n then none else some (bytes.take n)
    | some none => none
    | none => some bytes

/-- The head of an answer and the bytes behind it; none if the head does not end. -/
def head? (bytes : List UInt8) : Option (Head × List UInt8) := do
  let (lines, rest) ← lines? (bytes.length + 1) bytes
  let status ← lines.head?.bind fun l => status? (lineText l)
  some (⟨status, (lines.drop 1).filterMap fun l => field? (lineText l)⟩, rest)

/-- The answer that some bytes are. -/
def response? (bytes : List UInt8) : Option Response := do
  let (head, rest) ← head? bytes
  some (.received head.status head.headers (← body? head rest))

end RemoteModel.Http

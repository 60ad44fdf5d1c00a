import RemoteModel.Network.Http
import RemoteModel.Notification

/-!
# Frames of a channel

A channel over a socket begins with a request to leave HTTP. From then on both sides send
frames: parts of messages, and signs that ask for an answer or end the channel.

**Masks.** What a client sends is masked with a key of four bytes; masking twice with one key
gives back what was masked (`masked_masked`).
-/

namespace RemoteModel.Frames

/-! ## Opening -/

/-- The characters of base 64. -/
def base64Digit (n : Nat) : Char :=
  if n < 26 then Char.ofNat (0x41 + n)
  else if n < 52 then Char.ofNat (0x61 + n - 26)
  else if n < 62 then Char.ofNat (0x30 + n - 52)
  else if n = 62 then '+' else '/'

/-- Bytes in base 64. -/
def base64 : List UInt8 → List Char
  | [] => []
  | [a] => digits 2 (a.toNat * 0x10000) ++ ['=', '=']
  | [a, b] => digits 3 (a.toNat * 0x10000 + b.toNat * 0x100) ++ ['=']
  | a :: b :: c :: rest =>
    digits 4 (a.toNat * 0x10000 + b.toNat * 0x100 + c.toNat) ++ base64 rest
where
  /-- The first digits of a group of four. -/
  digits (count n : Nat) : List Char :=
    (List.range count).map fun i => base64Digit (n / Nat.pow 64 (3 - i) % 64)

/-- The request that opens a channel; the nonce has sixteen bytes. -/
def openingBytes (u : Url) (nonce : List UInt8) : List UInt8 :=
  Http.headBytes ("GET " ++ u.target ++ " HTTP/1.1")
    [("Host", Http.hostOf u), ("Upgrade", "websocket"), ("Connection", "Upgrade"),
      ("Sec-WebSocket-Key", String.ofList (base64 nonce)), ("Sec-WebSocket-Version", "13")]

/-- The status of an answer that opens the channel. -/
def openingStatus : Nat := 101

/-! ## Frames -/

/-- What a frame is part of. -/
inductive Kind where
  | continuation
  | text
  | binary
  | close
  | ping
  | pong
  | unknown
deriving DecidableEq, Repr

namespace Kind

def number : Kind → Nat
  | continuation => 0
  | text => 1
  | binary => 2
  | close => 8
  | ping => 9
  | pong => 10
  | unknown => 15

def all : List Kind := [continuation, text, binary, close, ping, pong]

def ofNumber (n : Nat) : Kind := (all.find? fun k => k.number = n).getD unknown

theorem ofNumber_number (k : Kind) : ofNumber k.number = k := by cases k <;> decide

end Kind

/-- A frame as it travels. -/
structure Packet where
  kind : Kind
  /-- The last frame of its message. -/
  final : Bool := true
  payload : List UInt8
deriving DecidableEq, Repr

/-- Masks bytes with a key, or takes the mask off. -/
def masked (key : List UInt8) (payload : List UInt8) : List UInt8 :=
  payload.zipIdx.map fun (b, i) => b ^^^ key.getD (i % 4) 0

theorem masked_masked (key payload : List UInt8) : masked key (masked key payload) = payload := by
  apply List.ext_getElem
  · simp [masked]
  · intro i h₁ h₂
    simp only [masked, List.getElem_map, List.getElem_zipIdx]
    rw [UInt8.xor_assoc, UInt8.xor_self, UInt8.xor_zero]

/-- A number as bytes, the greatest first. -/
def bigEndian (count n : Nat) : List UInt8 :=
  (List.range count).map fun i => UInt8.ofNat (n / Nat.pow 256 (count - 1 - i) % 256)

/-- The number that some bytes are, the greatest first. -/
def ofBigEndian (bytes : List UInt8) : Nat := bytes.foldl (fun n b => 256 * n + b.toNat) 0

/-- The length of a payload, with the bit that says that it is masked. -/
def lengthBytes (n : Nat) : List UInt8 :=
  if n < 126 then [UInt8.ofNat (128 + n)]
  else if n < 65536 then UInt8.ofNat (128 + 126) :: bigEndian 2 n
  else UInt8.ofNat (128 + 127) :: bigEndian 8 n

namespace Packet

/-- The bytes of a frame of a client. -/
def encode (key : List UInt8) (p : Packet) : List UInt8 :=
  UInt8.ofNat ((if p.final then 128 else 0) + p.kind.number) ::
    (lengthBytes p.payload.length ++ key ++ masked key p.payload)

/-- The length of a payload by the bytes behind the first one, and what follows. -/
def length? : List UInt8 → Option (Bool × Nat × List UInt8)
  | [] => none
  | b :: rest =>
    let isMasked := b.toNat ≥ 128
    let n := b.toNat % 128
    let wide (count : Nat) : Option (Bool × Nat × List UInt8) :=
      if rest.length < count then none
      else some (isMasked, ofBigEndian (rest.take count), rest.drop count)
    if n = 126 then wide 2 else if n = 127 then wide 8 else some (isMasked, n, rest)

/-- The first frame of some bytes and what follows it; none as long as it is not complete. -/
def decode? : List UInt8 → Option (Packet × List UInt8)
  | [] => none
  | b :: rest =>
    match length? rest with
    | none => none
    | some (isMasked, n, rest) =>
      let key := if isMasked then rest.take 4 else []
      let rest := if isMasked then rest.drop 4 else rest
      if rest.length < n then none
      else
        let payload := if isMasked then masked key (rest.take n) else rest.take n
        some
          ({ kind := .ofNumber (b.toNat % 16), final := b.toNat ≥ 128, payload := payload },
            rest.drop n)

end Packet

/-! ## Messages -/

/-- What a frame tells its receiver. -/
inductive Signal where
  | arrived (frame : Frame)
  /-- The other side asks for an answer with the same payload. -/
  | asked (payload : List UInt8)
  | closed (code : Option Int) (reason : String)
  /-- The frame has no place here, or its text is none. -/
  | broken
  | nothing

/-- A message of which the last frame has not arrived: its kind and what there is of it. -/
abbrev Unfinished := Option (Kind × List UInt8)

/-- A complete message. -/
def message (kind : Kind) (payload : List UInt8) : Signal :=
  match kind, Text.Utf8.decode? payload with
  | .text, some cs => .arrived (.text (String.ofList cs))
  | .text, none => .broken
  | _, _ => .arrived (.bytes payload)

/-- The end of a channel, by the payload that tells it. -/
def closing : List UInt8 → Signal
  | a :: b :: reason => .closed (some (ofBigEndian [a, b])) (Text.Utf8.shown reason)
  | _ => .closed none ""

/-- A frame arrives. -/
def receive (u : Unfinished) (p : Packet) : Unfinished × Signal :=
  match p.kind, u with
  | .close, u => (u, closing p.payload)
  | .ping, u => (u, .asked p.payload)
  | .pong, u => (u, .nothing)
  | .continuation, some (kind, bytes) =>
    if p.final then (none, message kind (bytes ++ p.payload))
    else (some (kind, bytes ++ p.payload), .nothing)
  | .text, none =>
    if p.final then (none, message .text p.payload) else (some (.text, p.payload), .nothing)
  | .binary, none =>
    if p.final then (none, message .binary p.payload) else (some (.binary, p.payload), .nothing)
  | _, u => (u, .broken)

end RemoteModel.Frames

import RemoteModel.Json.Basic
import RemoteModel.Text.Numeral
import RemoteModel.Text.Wide

/-!
# Reading JSON

**Grammar.** The usual one, and the words `NaN`, `Infinity` and `-Infinity` for the special
numbers. Blanks are the space, the tab and the two line ends. Control characters must be
escaped in texts. A number is an integer unless it has a fraction or an exponent. Of members
with one name the last value counts, at the first one's place.

**Faults.** A text is malformed, or it holds an integer of too many digits; the fault that
stands first is reported.

**Bytes** are read in the encoding that a byte order mark or the place of zero bytes tells, and
as UTF-8 otherwise.

**Lone surrogates** are no characters, but they are read: escaped in a text, and among bytes. Such
a text has gaps where they stand, and is read with the replacement character in each of them.
-/

namespace RemoteModel.Json

/-- Why a text is not read. -/
inductive ReadFault where
  | malformed
  | tooManyDigits (count : Nat)
  /-- The bytes are not text in their encoding. -/
  | undecodable
deriving DecidableEq, Repr

namespace Reader

def isBlank (c : Char) : Bool := c == ' ' || c == '\t' || c == '\n' || c == '\r'

def skip (cs : List Char) : List Char := cs.dropWhile isBlank

/-- The number of four digits of base sixteen. -/
def unit? (a b c d : Char) : Option Nat := do
  let a ← Text.hexDigit? a
  let b ← Text.hexDigit? b
  let c ← Text.hexDigit? c
  let d ← Text.hexDigit? d
  some (((a * 16 + b) * 16 + c) * 16 + d)

/-- The character that a letter stands for behind a backslash. -/
def escape? : Char → Option Char
  | '"' => some '"'
  | '\\' => some '\\'
  | '/' => some '/'
  | 'b' => some '\x08'
  | 'f' => some '\x0c'
  | 'n' => some '\n'
  | 'r' => some '\r'
  | 't' => some '\t'
  | _ => none

/-- The units of a text up to its closing quote, and what follows it. -/
inductive Piece where
  | char (c : Char)
  | unit (n : Nat)
deriving DecidableEq, Repr

/-- The pieces of a text up to its closing quote, and what follows the quote. -/
def piecesOf : List Char → Option (List Piece × List Char)
  | [] => none
  | '"' :: rest => some ([], rest)
  | '\\' :: 'u' :: a :: b :: c :: d :: rest => do
    let n ← unit? a b c d
    let (ps, rest) ← piecesOf rest
    some (.unit n :: ps, rest)
  | '\\' :: c :: rest => do
    let c ← escape? c
    let (ps, rest) ← piecesOf rest
    some (.char c :: ps, rest)
  | c :: rest =>
    if c.toNat < 0x20 || c == '\\' then none
    else do
      let (ps, rest) ← piecesOf rest
      some (.char c :: ps, rest)

/-- The characters of the pieces: a surrogate pair is one character, a lone surrogate a gap. -/
def join : List Piece → List (Option Char)
  | [] => []
  | .char c :: rest => some c :: join rest
  | [.unit n] => [Text.Wide.point? n]
  | .unit n :: .unit m :: rest =>
    if Text.Wide.isHigh n && Text.Wide.isLow m then some (Text.Wide.pair n m) :: join rest
    else Text.Wide.point? n :: join (.unit m :: rest)
  | .unit n :: .char c :: rest => Text.Wide.point? n :: some c :: join rest

/-- Reads a text, its opening quote being read. -/
def string (cs : List Char) : Except ReadFault (String × List Char) :=
  match piecesOf cs with
  | some (ps, rest) => .ok (String.ofList (Text.Utf8.filled (join ps)), rest)
  | none => .error .malformed

def isDigit (c : Char) : Bool := '0' ≤ c && c ≤ '9'

/-- Splits off a run of digits. -/
def digits (cs : List Char) : List Char × List Char := (cs.takeWhile isDigit, cs.dropWhile isDigit)

/-- The number that a run of digits stands for. -/
def natural (cs : List Char) : Nat := Text.valueOf (cs.map fun c => c.toNat - 0x30)

/-- The digits of a fraction: a point that no digit follows belongs to no number. -/
def fraction (cs : List Char) : Option (List Char) × List Char :=
  match cs with
  | '.' :: rest =>
    match digits rest with
    | ([], _) => (none, cs)
    | (ds, rest) => (some ds, rest)
  | _ => (none, cs)

/-- An exponent: a mark that no digits follow belongs to no number. -/
def exponent (cs : List Char) : Option Int × List Char :=
  match cs with
  | c :: rest =>
    if c = 'e' ∨ c = 'E' then
      let (down, rest) := Text.signed rest
      match digits rest with
      | ([], _) => (none, cs)
      | (ds, rest) => (some (Double.signed down (natural ds)), rest)
    else (none, cs)
  | [] => (none, cs)

/-- The whole digits of a number: a zero, or digits that do not begin with one. -/
def whole? : List Char → Option (List Char × List Char)
  | '0' :: rest => some (['0'], rest)
  | cs =>
    match digits cs with
    | ([], _) => none
    | (ds, rest) => some (ds, rest)

/-- The sign of a number and what follows it. -/
def sign : List Char → Bool × List Char
  | '-' :: rest => (true, rest)
  | cs => (false, cs)

/-- Reads a number. -/
def number (cs : List Char) : Except ReadFault (Json × List Char) :=
  let (negative, body) := sign cs
  match whole? body with
  | none => .error .malformed
  | some (ds, rest) =>
    let (frac, rest) := fraction rest
    let (exp, rest) := exponent rest
    match frac, exp with
    | none, none =>
      if ds.length ≤ Text.maxDigits then .ok (.int (Double.signed negative (natural ds)), rest)
      else .error (.tooManyDigits ds.length)
    | _, _ =>
      let fs := frac.getD []
      .ok (.float (Double.ofDecimal negative (natural (ds ++ fs)) (exp.getD 0 - fs.length)), rest)

mutual

/-- Reads a value that begins here. -/
def value : Nat → List Char → Except ReadFault (Json × List Char)
  | 0, _ => .error .malformed
  | fuel + 1, cs =>
    match cs with
    | '"' :: rest => do
      let (s, rest) ← string rest
      .ok (.str s, rest)
    | '[' :: rest =>
      match skip rest with
      | ']' :: rest => .ok (.arr [], rest)
      | rest => do
        let (vs, rest) ← items fuel rest
        .ok (.arr vs, rest)
    | '\x7b' :: rest =>
      match skip rest with
      | '\x7d' :: rest => .ok (.obj [], rest)
      | rest => do
        let (ms, rest) ← members fuel rest
        .ok (.obj (Entries.ofList ms), rest)
    | 'n' :: 'u' :: 'l' :: 'l' :: rest => .ok (.null, rest)
    | 't' :: 'r' :: 'u' :: 'e' :: rest => .ok (.bool true, rest)
    | 'f' :: 'a' :: 'l' :: 's' :: 'e' :: rest => .ok (.bool false, rest)
    | 'N' :: 'a' :: 'N' :: rest => .ok (.float .nan, rest)
    | 'I' :: 'n' :: 'f' :: 'i' :: 'n' :: 'i' :: 't' :: 'y' :: rest =>
      .ok (.float (.infinite false), rest)
    | '-' :: 'I' :: 'n' :: 'f' :: 'i' :: 'n' :: 'i' :: 't' :: 'y' :: rest =>
      .ok (.float (.infinite true), rest)
    | cs => number cs

/-- Reads the items of an array that begin here, with the closing bracket. -/
def items : Nat → List Char → Except ReadFault (List Json × List Char)
  | 0, _ => .error .malformed
  | fuel + 1, cs => do
    let (v, rest) ← value fuel cs
    match skip rest with
    | ']' :: rest => .ok ([v], rest)
    | ',' :: rest => do
      let (vs, rest) ← items fuel (skip rest)
      .ok (v :: vs, rest)
    | _ => .error .malformed

/-- Reads the members of an object that begin here, with the closing brace. -/
def members : Nat → List Char → Except ReadFault (List (String × Json) × List Char)
  | 0, _ => .error .malformed
  | fuel + 1, cs =>
    match cs with
    | '"' :: rest => do
      let (k, rest) ← string rest
      match skip rest with
      | ':' :: rest => do
        let (v, rest) ← value fuel (skip rest)
        match skip rest with
        | '\x7d' :: rest => .ok ([(k, v)], rest)
        | ',' :: rest => do
          let (ms, rest) ← members fuel (skip rest)
          .ok ((k, v) :: ms, rest)
        | _ => .error .malformed
      | _ => .error .malformed
    | _ => .error .malformed

end

/-- Reads a value that fills the text. -/
def document (cs : List Char) : Except ReadFault Json := do
  -- A level of nesting takes at most two steps and at least one character.
  let (v, rest) ← value (2 * cs.length + 2) (skip cs)
  match skip rest with
  | [] => .ok v
  | _ => .error .malformed

/-! ## Bytes -/

/-- How bytes stand for characters. -/
inductive Encoding where
  | utf8
  | utf16 (order : Text.Wide.Order)
  | utf32 (order : Text.Wide.Order)
deriving DecidableEq, Repr

/-- The byte order marks. A mark of two bytes may begin one of four, so it stands behind. -/
def marks : List (List UInt8 × Encoding) :=
  [([0x00, 0x00, 0xFE, 0xFF], .utf32 .big), ([0xFF, 0xFE, 0x00, 0x00], .utf32 .little),
    ([0xFE, 0xFF], .utf16 .big), ([0xFF, 0xFE], .utf16 .little), ([0xEF, 0xBB, 0xBF], .utf8)]

/-- The encoding that the zeros among the first bytes tell. -/
def unmarkedEncoding : List UInt8 → Encoding
  | a :: b :: c :: d :: _ =>
    if a == 0 then if b == 0 then .utf32 .big else .utf16 .big
    else if b == 0 then if c == 0 && d == 0 then .utf32 .little else .utf16 .little
    else .utf8
  | [a, b] => if a == 0 then .utf16 .big else if b == 0 then .utf16 .little else .utf8
  | _ => .utf8

/-- The encoding that the first bytes tell, and the bytes behind a byte order mark. -/
def encodingOf (bytes : List UInt8) : Encoding × List UInt8 :=
  match marks.find? fun m => m.1.isPrefixOf bytes with
  | some (mark, encoding) => (encoding, bytes.drop mark.length)
  | none => (unmarkedEncoding bytes, bytes)

/-- The text of bytes in the encoding they tell, with a gap for each lone surrogate. -/
def textOf? (bytes : List UInt8) : Option (List (Option Char)) :=
  match encodingOf bytes with
  | (.utf8, rest) => Text.Utf8.passed? rest
  | (.utf16 order, rest) => Text.Wide.decode16? order rest
  | (.utf32 order, rest) => Text.Wide.decode32? order rest

end Reader

/-- Reads a text. -/
def read (s : String) : Except ReadFault Json := Reader.document s.toList

/-- Reads bytes. -/
def readBytes (bytes : List UInt8) : Except ReadFault Json :=
  match Reader.textOf? bytes with
  | some cs => Reader.document (Text.Utf8.filled cs)
  | none => .error .undecodable

end RemoteModel.Json

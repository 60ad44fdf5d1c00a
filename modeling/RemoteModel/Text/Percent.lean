import RemoteModel.Text.Blank
import RemoteModel.Text.Digit
import RemoteModel.Text.Utf8

/-!
# Percent encoding

A character that may not stand in some place is written as the bytes of its UTF-8 form, each as
a percent sign and two digits of base sixteen. Which characters may stand is a parameter.

**Form encoding** writes names and values of a query: letters, digits and `_.-~` stand for
themselves, a space is a plus sign, all else is percent-encoded.
-/

namespace RemoteModel.Text.Percent

/-- A digit of base sixteen, in upper case. -/
def hexDigit (n : Nat) : Char := if n < 10 then Char.ofNat (0x30 + n) else Char.ofNat (0x37 + n)

/-- One byte, percent-encoded. -/
def encodeByte (b : UInt8) : List Char :=
  ['%', hexDigit (b.toNat / 16), hexDigit (b.toNat % 16)]

/-- Percent-encodes the characters that do not satisfy `safe`. -/
def encode (safe : Char → Bool) (cs : List Char) : List Char :=
  cs.flatMap fun c => if safe c then [c] else (Utf8.encodeChar c).flatMap encodeByte

/-- The bytes of a text in which percent signs introduce bytes. -/
def bytes : List Char → List UInt8
  | [] => []
  | '%' :: a :: b :: rest =>
    match hexDigit? a, hexDigit? b with
    | some x, some y => UInt8.ofNat (16 * x + y) :: bytes rest
    | _, _ => Utf8.encodeChar '%' ++ bytes (a :: b :: rest)
  | c :: rest => Utf8.encodeChar c ++ bytes rest

/-- The text that a percent-encoded text stands for. -/
def decode (cs : List Char) : String := Utf8.shown (bytes cs)

/-! ## Query forms -/

def isAsciiAlphanum (c : Char) : Bool :=
  (c.isAlpha || c.isDigit) && c.toNat < 0x80

/-- A character that stands for itself in a form. -/
def isFormSafe (c : Char) : Bool :=
  isAsciiAlphanum c || c == '_' || c == '.' || c == '-' || c == '~'

/-- One name or value of a form. -/
def formText (s : String) : List Char :=
  s.toList.flatMap fun c =>
    if c = ' ' then ['+'] else if isFormSafe c then [c] else (Utf8.encodeChar c).flatMap encodeByte

/-- A form: its named values, joined by ampersands. -/
def form : List (String × String) → List Char
  | [] => []
  | [(name, value)] => formText name ++ '=' :: formText value
  | (name, value) :: rest => formText name ++ '=' :: formText value ++ '&' :: form rest

/-- Reads one name or value of a form. -/
def unform (cs : List Char) : String := decode (cs.map fun c => if c = '+' then ' ' else c)

/-- Reads one entry of a form; without an equals sign the value is empty. -/
def unformEntry (cs : List Char) : String × String :=
  match Text.cut? '=' cs with
  | some (name, value) => (unform name, unform value)
  | none => (unform cs, "")

/-- Reads a form; empty entries are skipped. -/
def readForm (cs : List Char) : List (String × String) :=
  ((Text.pieces '&' cs).filter fun e => !e.isEmpty).map unformEntry

end RemoteModel.Text.Percent

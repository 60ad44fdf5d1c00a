import RemoteModel.Text.Utf8

/-!
# Wide encodings

Texts of units of two or four bytes, in either byte order. A surrogate pair of two-byte units is
one character. A lone surrogate is none: it is a gap in the text, and shown as the replacement
character.
-/

namespace RemoteModel.Text.Wide

/-- The order of the bytes of a unit. -/
inductive Order where
  | big
  | little
deriving DecidableEq, Repr

/-- The number that the bytes of a unit stand for. -/
def number (order : Order) (bytes : List UInt8) : Nat :=
  let ordered := match order with
    | .big => bytes
    | .little => bytes.reverse
  ordered.foldl (fun n b => n * 256 + b.toNat) 0

/-- The units of two bytes; none if a byte is left over. -/
def pairs? (order : Order) : List UInt8 → Option (List Nat)
  | [] => some []
  | a :: b :: rest => (pairs? order rest).map (number order [a, b] :: ·)
  | [_] => none

/-- The units of four bytes; none if bytes are left over. -/
def quads? (order : Order) : List UInt8 → Option (List Nat)
  | [] => some []
  | a :: b :: c :: d :: rest => (quads? order rest).map (number order [a, b, c, d] :: ·)
  | _ => none

def isHigh (n : Nat) : Bool := 0xD800 ≤ n && n ≤ 0xDBFF

def isLow (n : Nat) : Bool := 0xDC00 ≤ n && n ≤ 0xDFFF

/-- The character of a surrogate pair. -/
def pair (high low : Nat) : Char :=
  Char.ofNat (0x10000 + (high - 0xD800) * 0x400 + (low - 0xDC00))

/-- The character of a code point; a surrogate is none. -/
def point? (n : Nat) : Option Char := if isHigh n || isLow n then none else some (Char.ofNat n)

/-- A code point as it is shown. -/
def point (n : Nat) : Char := (point? n).getD Utf8.replacement

/-- The characters of units of two bytes, with a gap for each lone surrogate. -/
def ofPairs : List Nat → List (Option Char)
  | [] => []
  | [n] => [point? n]
  | n :: m :: rest =>
    if isHigh n && isLow m then some (pair n m) :: ofPairs rest
    else point? n :: ofPairs (m :: rest)

/-- A text of units of two bytes, with a gap for each lone surrogate. -/
def decode16? (order : Order) (bytes : List UInt8) : Option (List (Option Char)) :=
  (pairs? order bytes).map ofPairs

/-- A text of units of four bytes, with a gap for each surrogate; a number above U+10FFFF is an
error. -/
def decode32? (order : Order) (bytes : List UInt8) : Option (List (Option Char)) :=
  (quads? order bytes).bind fun ns =>
    ns.mapM fun n => if n ≤ 0x10FFFF then some (point? n) else none

end RemoteModel.Text.Wide

import RemoteModel.Number.Double
import RemoteModel.Text.Blank
import RemoteModel.Text.Digit
import RemoteModel.Text.Letters

/-!
# Numerals in free text

Numbers in configured texts, options and paths are written freely: white space may surround
them, a sign may precede them, single underscores may stand between digits, and the digits may
be those of any script. `integer?` and `double?` read such texts; they refuse everything else.

**Limit.** An integer has at most 4300 digits.
-/

namespace RemoteModel.Text

/-- The most digits an integer may be written with. -/
def maxDigits : Nat := 4300

/-- The number written by some digits. -/
def valueOf (ds : List Nat) : Nat := ds.foldl (fun n d => 10 * n + d) 0

/-- Reads a run of digits, in which single underscores may stand between two digits. -/
def grouped? (digit? : Char → Option Nat) : List Char → Option (List Nat)
  | [] => none
  | [c] => (digit? c).map ([·])
  | c :: '_' :: rest => do
    let d ← digit? c
    let ds ← grouped? digit? rest
    some (d :: ds)
  | c :: rest => do
    let d ← digit? c
    let ds ← grouped? digit? rest
    some (d :: ds)

/-- The sign of a numeral and what follows it. -/
def signed : List Char → Bool × List Char
  | '-' :: rest => (true, rest)
  | '+' :: rest => (false, rest)
  | rest => (false, rest)

/-- Reads an integer. -/
def integer? (s : String) : Option Int :=
  let (negative, body) := signed (trimBy isWhiteSpace s.toList)
  match grouped? digit? body with
  | some ds => if ds.length ≤ maxDigits then some (Double.signed negative (valueOf ds)) else none
  | none => none

/-- Reads digits that may be missing. -/
def optional? (run? : List Char → Option (List Nat)) (cs : List Char) : Option (List Nat) :=
  if cs.isEmpty then some [] else run? cs

/-- Splits off an exponent, marked by the letter `e`. -/
def splitExponent (cs : List Char) : List Char × Option (List Char) :=
  let mantissa := cs.takeWhile fun c => c != 'e' && c != 'E'
  match cs.drop mantissa.length with
  | [] => (mantissa, none)
  | _ :: rest => (mantissa, some rest)

/-- Reads an unsigned number with an optional fraction and exponent. -/
def unsignedDouble? (run? : List Char → Option (List Nat)) (negative : Bool) (cs : List Char) :
    Option Double := do
  let (mantissa, exponentText) := splitExponent cs
  let (whole, fraction) := (cut? '.' mantissa).getD (mantissa, [])
  let whole ← optional? run? whole
  let fraction ← optional? run? fraction
  if whole.isEmpty && fraction.isEmpty then none
  let exponent ←
    match exponentText with
    | none => some (0 : Int)
    | some text =>
      let (down, digits) := signed text
      (run? digits).map fun ds => Double.signed down (valueOf ds)
  some (Double.ofDecimal negative (valueOf (whole ++ fraction)) (exponent - fraction.length))

/-- Reads a number with an optional fraction and exponent, an infinity or `nan`. -/
def doubleBy? (run? : List Char → Option (List Nat)) (cs : List Char) : Option Double :=
  let (negative, body) := signed cs
  match String.ofList (body.map Char.toLower) with
  | "inf" => some (.infinite negative)
  | "infinity" => some (.infinite negative)
  | "nan" => some .nan
  | _ => unsignedDouble? run? negative body

/-- Reads a double. -/
def double? (s : String) : Option Double :=
  doubleBy? (grouped? digit?) (trimBy isWhiteSpace s.toList)

end RemoteModel.Text

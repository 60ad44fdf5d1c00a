import RemoteModel.Text.Blank
import RemoteModel.Text.Digit
import RemoteModel.Text.Numeral

/-!
# Parameters of an action

A tag may name an action, with parameters in brackets. The parameters are a literal value: a
number, a text in quotes, one of three words, or a row, a set or an object of such values.
Numbers may have a sign, and an imaginary one may be added to a real one. What belongs to a set
or is the key of an object must not be a set or an object itself.

Nobody needs the value; `isAction` only tells whether there is one.
-/

namespace RemoteModel.Screen.Literal

open Text

/-- What is known of a value. -/
inductive Kind where
  | real
  | imaginary
  /-- A real number with a sign. -/
  | signedReal
  /-- An imaginary number with a sign, or a sum. -/
  | otherNumber
  /-- Any other value that can be a key. -/
  | key
  /-- A set, an object, or a row with one of them in it. -/
  | noKey
deriving DecidableEq, Repr

/-- What a reader has found, and the rest of the text. -/
abbrev Found (α : Type) := Option (α × List Char)

/-! ## Between values -/

/-- Skips blanks and remarks; inside brackets a line may end anywhere. -/
def skipIn (inside : Bool) : Nat → List Char → List Char
  | _, [] => []
  | 0, cs => cs
  | fuel + 1, c :: rest =>
    if [' ', '\t', '\x0c'].contains c || (inside && c = '\n') then
      skipIn inside fuel rest
    else if c = '#' then skipIn inside fuel (rest.dropWhile (· ≠ '\n'))
    else if c = '\\' && rest.head? == some '\n' then skipIn inside fuel (rest.drop 1)
    else c :: rest

def skip (inside : Bool) (cs : List Char) : List Char := skipIn inside cs.length cs

/-- A character of a name. -/
def isWordChar (c : Char) : Bool := c.isAlphanum || c = '_' || c.toNat ≥ 0x80

/-- The rest behind a number or a word, which must have ended. -/
def ended {α : Type} (a : α) (rest : List Char) : Found α :=
  if rest.head?.any isWordChar then none else some (a, rest)

/-! ## Numbers -/

/-- Digits of a base, with single underscores between them, and the rest. -/
def digitsOf (base : Nat) : List Char → List Char × List Char
  | [] => ([], [])
  | [c] => if (hexDigit? c).any (· < base) then ([c], []) else ([], [c])
  | c :: d :: rest =>
    if (hexDigit? c).any (· < base) then
      if d = '_' && rest.head?.any fun e => (hexDigit? e).any (· < base) then
        let (digits, rest) := digitsOf base rest
        (c :: digits, rest)
      else
        let (digits, rest) := digitsOf base (d :: rest)
        (c :: digits, rest)
    else ([], c :: d :: rest)

/-- A number in another base than ten, behind its mark. -/
def based? (base : Nat) (cs : List Char) : Found Kind :=
  let (digits, rest) := digitsOf base (if cs.head? == some '_' then cs.drop 1 else cs)
  if digits.isEmpty then none else ended .real rest

/-- An exponent, if there is one, and the rest. -/
def exponent (cs : List Char) : Bool × List Char :=
  match cs with
  | c :: rest =>
    if c = 'e' || c = 'E' then
      let (digits, rest) := digitsOf 10 (signed rest).2
      if digits.isEmpty then (false, cs) else (true, rest)
    else (false, cs)
  | [] => (false, cs)

/-- A number in base ten: whole ones have no zeros in front and a limited number of digits. -/
def decimal? (cs : List Char) : Found Kind :=
  let (whole, rest) := digitsOf 10 cs
  let pointed := rest.head? == some '.'
  let (fraction, rest) := if pointed then digitsOf 10 (rest.drop 1) else ([], rest)
  let (raised, rest) := exponent rest
  if whole.isEmpty && fraction.isEmpty then none
  else if rest.head? == some 'j' || rest.head? == some 'J' then ended .imaginary (rest.drop 1)
  else if pointed || raised then ended .real rest
  else if whole.head? == some '0' && whole.any (· ≠ '0') then none
  else if whole.length > maxDigits then none
  else ended .real rest

def number? : List Char → Found Kind
  | '0' :: c :: rest =>
    if c = 'x' || c = 'X' then based? 16 rest
    else if c = 'o' || c = 'O' then based? 8 rest
    else if c = 'b' || c = 'B' then based? 2 rest
    else decimal? ('0' :: c :: rest)
  | cs => decimal? cs

/-! ## Texts -/

/-- How a text is written. -/
structure Quoting where
  quote : Char
  /-- The quote is written three times at either end. -/
  tripled : Bool
  /-- Backslashes stand for themselves. -/
  raw : Bool
  /-- The text is one of bytes, and so in ASCII. -/
  bytes : Bool

namespace Quoting

/-- The number of digits behind the letter of an escape. -/
def escapeDigits (q : Quoting) (c : Char) : Nat :=
  if c = 'x' then 2
  else if q.bytes then 0
  else if c = 'u' then 4
  else if c = 'U' then 8
  else 0

/-- An escape can be read: its digits are there, and they are the number of a character. -/
def isEscape (q : Quoting) : List Char → Bool
  | [] => false
  | c :: rest =>
    let width := q.escapeDigits c
    let digits := rest.take width
    if c = 'N' && !q.bytes then rest.head? == some '\x7b' && rest.contains '\x7d'
    else digits.length == width && digits.all (fun d => (hexDigit? d).isSome) &&
      digits.foldl (fun n d => 16 * n + (hexDigit? d).getD 0) 0 ≤ 0x10FFFF

/-- The quotes that end the text. -/
def ending (q : Quoting) : List Char := List.replicate (if q.tripled then 3 else 1) q.quote

/-- What follows the text. -/
def after? (q : Quoting) : Nat → List Char → Option (List Char)
  | 0, _ => none
  | fuel + 1, cs =>
    match Text.after? q.ending cs, cs with
    | some rest, _ => some rest
    | none, [] => none
    | none, '\\' :: rest =>
      if rest.isEmpty || !(q.raw || q.isEscape rest) || (q.bytes && rest.any (·.toNat ≥ 0x80)) then
        none
      else q.after? fuel (rest.drop 1)
    | none, c :: rest =>
      if (c = '\n' && !q.tripled) || (q.bytes && c.toNat ≥ 0x80) then none else q.after? fuel rest

end Quoting

/-- The letters before a quote: whether the text is raw, and whether it is one of bytes. -/
def quoting? (letters : List Char) : Option (Bool × Bool) :=
  match letters.map Char.toLower with
  | [] => some (false, false)
  | ['u'] => some (false, false)
  | ['r'] => some (true, false)
  | ['b'] => some (false, true)
  | ['b', 'r'] => some (true, true)
  | ['r', 'b'] => some (true, true)
  | _ => none

/-- One text in quotes: whether it is one of bytes. -/
def text? (cs : List Char) : Found Bool :=
  let letters := cs.takeWhile Char.isAlpha
  match quoting? letters, cs.drop letters.length with
  | some (raw, bytes), quote :: rest =>
    if quote = '"' || quote = '\'' then
      let tripled := rest.take 2 == [quote, quote]
      let q : Quoting := { quote := quote, tripled := tripled, raw := raw, bytes := bytes }
      (q.after? (rest.length + 1) (if tripled then rest.drop 2 else rest)).map fun rest =>
        (bytes, rest)
    else none
  | _, _ => none

/-- Texts of one kind that follow each other are one text. -/
def texts? (inside : Bool) : Nat → List Char → Found Kind
  | 0, _ => none
  | fuel + 1, cs =>
    match text? cs with
    | none => none
    | some (bytes, rest) =>
      match text? (skip inside rest) with
      | some (more, _) => if more = bytes then texts? inside fuel (skip inside rest) else none
      | none => some (.key, rest)

/-! ## Values -/

/-- The values that have a name. -/
def word? (cs : List Char) : Found Kind :=
  let word := String.ofList (cs.takeWhile isWordChar)
  let rest := cs.dropWhile isWordChar
  if ["None", "True", "False"].contains word then some (.key, rest)
  else if word = "set" then
    match skip true rest with
    | '(' :: rest => (after? [')'] (skip true rest)).map fun rest => (.noKey, rest)
    | _ => none
  else (after? "...".toList cs).map fun rest => (.key, rest)

/-- A number behind a sign. -/
def signedKind? : Kind → Option Kind
  | .real => some .signedReal
  | .imaginary => some .otherNumber
  | _ => none

/-- A real number and an imaginary one behind a plus or minus. -/
def sumKind? : Kind → Kind → Option Kind
  | .real, .imaginary => some .otherNumber
  | .signedReal, .imaginary => some .otherNumber
  | _, _ => none

/-- What a row of values is. -/
def rowKind (kinds : List Kind) : Kind := if kinds.contains .noKey then .noKey else .key

/-- The next character is one of some. -/
def starts (cs : List Char) (chars : List Char) : Bool := cs.head?.any chars.contains

mutual

/-- A value without a sign in front. -/
def atom? (inside : Bool) : Nat → List Char → Found Kind
  | 0, _ => none
  | fuel + 1, cs =>
    match cs with
    | '(' :: rest => row? fuel (skip true rest)
    | '\x7b' :: rest => members? fuel (skip true rest)
    | _ => (number? cs).or ((texts? inside cs.length cs).or (word? cs))

/-- A value with a sign in front or without one. -/
def term? (inside : Bool) : Nat → List Char → Found Kind
  | 0, _ => none
  | fuel + 1, cs =>
    if starts cs ['+', '-'] then
      (atom? inside fuel (skip inside (cs.drop 1))).bind fun (kind, rest) =>
        (signedKind? kind).map fun kind => (kind, rest)
    else atom? inside fuel cs

/-- A value, or a sum of two. -/
def value? (inside : Bool) : Nat → List Char → Found Kind
  | 0, _ => none
  | fuel + 1, cs =>
    (term? inside fuel cs).bind fun (kind, rest) =>
      let rest := skip inside rest
      if starts rest ['+', '-'] then
        (atom? inside fuel (skip inside (rest.drop 1))).bind fun (other, rest) =>
          (sumKind? kind other).map fun kind => (kind, skip inside rest)
      else some (kind, rest)

/-- What stands in round brackets: a single value is itself. -/
def row? : Nat → List Char → Found Kind
  | 0, _ => none
  | fuel + 1, cs =>
    if starts cs [')'] then some (.key, cs.drop 1)
    else
      (value? true fuel cs).bind fun (kind, rest) =>
        if starts rest [')'] then some (kind, rest.drop 1)
        else (values? true [')'] fuel [kind] rest).map fun (kinds, rest) =>
          (rowKind kinds, rest.drop 1)

/-- More values, each behind a comma, up to an end; the last comma may end them. -/
def values? (inside : Bool) (ends : List Char) : Nat → List Kind → List Char → Found (List Kind)
  | 0, _, _ => none
  | fuel + 1, kinds, cs =>
    let ended := fun (cs : List Char) =>
      if ends.isEmpty then (skip true cs).isEmpty else starts cs ends
    if ended cs then some (kinds, cs)
    else if starts cs [','] then
      let cs := skip inside (cs.drop 1)
      if ended cs then some (kinds, cs)
      else
        (value? inside fuel cs).bind fun (kind, rest) =>
          values? inside ends fuel (kinds ++ [kind]) rest
    else none

/-- What stands in braces: members of a set, or of an object. -/
def members? : Nat → List Char → Found Kind
  | 0, _ => none
  | fuel + 1, cs =>
    if starts cs ['\x7d'] then some (.noKey, cs.drop 1)
    else
      (value? true fuel cs).bind fun (kind, rest) =>
        if starts rest [':'] then pairs? fuel cs
        else
          (values? true ['\x7d'] fuel [kind] rest).bind fun (kinds, rest) =>
            if kinds.contains .noKey then none else some (.noKey, rest.drop 1)

/-- Members of an object. -/
def pairs? : Nat → List Char → Found Kind
  | 0, _ => none
  | fuel + 1, cs =>
    (value? true fuel cs).bind fun (kind, rest) =>
      if kind = .noKey || !starts rest [':'] then none
      else
        (value? true fuel (skip true (rest.drop 1))).bind fun (_, rest) =>
          let more := skip true (rest.drop 1)
          if starts rest ['\x7d'] then some (.noKey, rest.drop 1)
          else if !starts rest [','] then none
          else if starts more ['\x7d'] then some (.noKey, more.drop 1)
          else pairs? fuel more

end

/-- The text from its first line on that holds more than blanks and a remark. -/
def firstLine : Nat → List Char → List Char
  | 0, cs => cs
  | fuel + 1, cs =>
    match (cs.dropWhile [' ', '\t', '\x0c'].contains) with
    | '#' :: rest => firstLine fuel ((rest.dropWhile (· ≠ '\n')).drop 1)
    | '\n' :: rest => firstLine fuel rest
    | _ => cs

/-- The line of a value begins with blanks, perhaps on a line that it continues. -/
def isIndented (cs : List Char) : Bool :=
  (cs.takeWhile [' ', '\t', '\x0c', '\\', '\n'].contains).any [' ', '\t'].contains

/-- A text is a literal value, or a row of them without brackets. Lines of remarks may stand before
it and behind it, and a carriage return ends a line too. -/
def isLiteral (cs : List Char) : Bool :=
  let fuel := 8 * cs.length + 8
  let lines := (cs.dropWhile [' ', '\t'].contains).map fun c => if c = '\r' then '\n' else c
  let cs := firstLine fuel lines
  !isIndented cs && !lines.contains '\x00' &&
    match value? false fuel (skip false cs) with
    | some (kind, rest) => (values? false [] fuel [kind] rest).isSome
    | none => false

/-- The parameters of an action: none, a name, or a name and a literal in brackets; all else is a
literal by itself. -/
def isAction (cs : List Char) : Bool :=
  let cs := trimBy isBlank cs
  let rest := cs.dropWhile fun c => isWordChar c || c = '.'
  rest.isEmpty ||
    if starts rest ['('] && rest.length ≥ 2 && rest.getLast? == some ')' && !rest.contains '\n' then
      isLiteral rest
    else isLiteral cs

end RemoteModel.Screen.Literal

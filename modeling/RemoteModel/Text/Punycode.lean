import RemoteModel.Text.Wide

/-!
# Punycode

A label of a host name with characters outside ASCII is written in ASCII: its ASCII characters
first, then a numeral for each further character that tells where it is inserted. The numerals
have 36 digits and mark their own end; the limits between digits follow a bias that adapts to
the distances seen so far.
-/

namespace RemoteModel.Text.Punycode

/-- A digit of base 36. -/
def digit (n : Nat) : Char := if n < 26 then Char.ofNat (0x61 + n) else Char.ofNat (0x30 + n - 26)

/-- Halves a distance until it is small, counting the steps. -/
def scale : Nat → Nat → Nat → Nat × Nat
  | 0, delta, k => (delta, k)
  | fuel + 1, delta, k => if delta > 455 then scale fuel (delta / 35) (k + 36) else (delta, k)

/-- The bias after a distance among a number of characters. -/
def adapt (delta count : Nat) (first : Bool) : Nat :=
  let delta := if first then delta / 700 else delta / 2
  let (delta, k) := scale 10 (delta + delta / count) 0
  k + 36 * delta / (delta + 38)

/-- The limit at the position `k`: a smaller digit is the last one of its numeral. -/
def limit (bias k : Nat) : Nat := if k ≤ bias then 1 else if k ≥ bias + 26 then 26 else k - bias

/-- The digits of a distance from the position `k` on. -/
def numeral (bias : Nat) : Nat → Nat → Nat → List Char
  | 0, _, _ => []
  | fuel + 1, q, k =>
    let t := limit bias k
    if q < t then [digit q]
    else digit (t + (q - t) % (36 - t)) :: numeral bias fuel ((q - t) / (36 - t)) (k + 36)

/-- Where the writing of numerals stands. -/
structure Progress where
  delta : Nat := 0
  bias : Nat := 72
  written : Nat
  output : List Char

/-- Passes one character in the round that inserts the character `n`. -/
def pass (basic n : Nat) (p : Progress) (c : Char) : Progress :=
  if c.toNat < n then { p with delta := p.delta + 1 }
  else if c.toNat = n then
    { delta := 0, bias := adapt p.delta (p.written + 1) (p.written == basic),
      written := p.written + 1, output := p.output ++ numeral p.bias 40 p.delta 36 }
  else p

/-- Inserts the characters from `n` on, the smallest first; each round inserts at least one. -/
def rounds (cs : List Char) (basic : Nat) : Nat → Nat → Progress → List Char
  | 0, _, p => p.output
  | fuel + 1, n, p =>
    match (cs.map Char.toNat).filter (n ≤ ·) with
    | [] => p.output
    | m :: ms =>
      let next := ms.foldl min m
      let p := { p with delta := p.delta + (next - n) * (p.written + 1) }
      let p := cs.foldl (pass basic next) p
      rounds cs basic fuel (next + 1) { p with delta := p.delta + 1 }

/-! ## Encoding -/

/-- A text in ASCII. -/
def encode (cs : List Char) : List Char :=
  let basic := cs.filter fun c => c.toNat < 0x80
  let lead := if basic.isEmpty then [] else basic ++ ['-']
  rounds cs basic.length cs.length 0x80 { written := basic.length, output := lead }

/-! ## Decoding -/

/-- The value of a digit of base 36, in either case. -/
def value? (c : Char) : Option Nat :=
  if 'a' ≤ c ∧ c ≤ 'z' then some (c.toNat - 0x61)
  else if 'A' ≤ c ∧ c ≤ 'Z' then some (c.toNat - 0x41)
  else if '0' ≤ c ∧ c ≤ '9' then some (c.toNat - 0x30 + 26)
  else none

/-- The number that begins a text, from the position `k` and the weight `w` on, and the rest. -/
def number? (bias : Nat) : List Char → Nat → Nat → Nat → Option (Nat × List Char)
  | [], _, _, _ => none
  | c :: rest, k, w, sum =>
    match value? c with
    | none => none
    | some d =>
      let t := limit bias k
      if d < t then some (sum + d * w, rest)
      else number? bias rest (k + 36) (w * (36 - t)) (sum + d * w)

/-- Where the reading of numerals stands: the next character, and where it would be inserted. -/
structure Reading where
  code : Nat := 0x80
  place : Nat := 0
  bias : Nat := 72
  first : Bool := true
  text : List Char

/-- The code point at a distance. -/
def Reading.codeAt (r : Reading) (delta : Nat) : Nat :=
  r.code + (r.place + delta) / (r.text.length + 1)

/-- Inserts the character of a code point at a distance. -/
def Reading.insert (r : Reading) (delta code : Nat) : Reading :=
  let count := r.text.length + 1
  let place := (r.place + delta) % count
  { code := code, place := place + 1, bias := adapt delta count r.first, first := false
    text := r.text.insertIdx place (Wide.point code) }

/-- Inserts the character at a distance, if there is such a character. -/
def Reading.insert? (r : Reading) (delta : Nat) : Option Reading :=
  if r.codeAt delta ≤ 0x10FFFF then some (r.insert delta (r.codeAt delta)) else none

/-- Inserts a character for each numeral; a numeral has at least one digit. -/
def insertions : Nat → Reading → List Char → Option (List Char)
  | _, r, [] => some r.text
  | 0, _, _ :: _ => none
  | fuel + 1, r, cs =>
    match number? r.bias cs 36 1 0 with
    | none => none
    | some (delta, rest) => (r.insert? delta).bind fun r => insertions fuel r rest

/-- The text that is written in ASCII: what stands before the last hyphen is kept. -/
def decode? (cs : List Char) : Option (List Char) :=
  let numerals := (cs.reverse.takeWhile (· ≠ '-')).reverse
  let basic := (cs.take (cs.length - numerals.length)).dropLast
  insertions numerals.length { text := basic } numerals

/-! ## Showing -/

/-- Inserts a character for each numeral up to one that is none; a question mark stands for a code
point that there is not. -/
def shownInsertions : Nat → Reading → List Char → List Char
  | 0, r, _ => r.text
  | fuel + 1, r, cs =>
    match number? r.bias cs 36 1 0 with
    | none => r.text
    | some (delta, rest) =>
      let code := if r.codeAt delta ≤ 0x10FFFF then r.codeAt delta else 0x3F
      shownInsertions fuel (r.insert delta code) rest

/-- The text of some characters and of numerals that insert others, as far as it can be read. -/
def shown (basic numerals : List Char) : List Char :=
  shownInsertions numerals.length { text := basic } numerals

end RemoteModel.Text.Punycode

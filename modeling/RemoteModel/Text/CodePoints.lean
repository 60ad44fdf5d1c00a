import RemoteModel.Text.Blank
import RemoteModel.Text.Digit

/-!
# Sets of code points

A property of characters is a set of code points: closed ranges, ascending and apart. A table of
ranges is written as a text, in which blanks separate the ranges; a range is a number in base
sixteen, or two of them with a hyphen between them.
-/

namespace RemoteModel.Text

/-! ## Tables as texts -/

/-- Blanks between the entries of a table. -/
def isGap (c : Char) : Bool := c = ' ' || c = '\n'

/-- Puts a word in front of others; nothing between two blanks is no word. -/
def putWord (word : List Char) (words : List (List Char)) : List (List Char) :=
  if word.isEmpty then words else word :: words

/-- The words of a table. -/
def tableWords (s : String) : List (List Char) :=
  let (word, words) := s.toList.foldr
    (fun c (word, words) => if isGap c then ([], putWord word words) else (c :: word, words))
    ([], [])
  putWord word words

/-- A number in base sixteen. -/
def hexNumber (cs : List Char) : Nat := cs.foldl (fun n c => 16 * n + (hexDigit? c).getD 0) 0

/-- The first and the last code point of a range. -/
def rangeOf (word : List Char) : Nat × Nat :=
  match cut? '-' word with
  | some (first, last) => (hexNumber first, hexNumber last)
  | none => (hexNumber word, hexNumber word)

/-! ## Sets -/

/-- Closed ranges of code points, ascending and apart. -/
structure CodePoints where
  ranges : List (Nat × Nat)
deriving DecidableEq

namespace CodePoints

/-- The set that a table lists. -/
def ofText (s : String) : CodePoints := ⟨(tableWords s).map rangeOf⟩

/-- Looks for a number in ranges, up to the first one that begins above it. -/
def covers : List (Nat × Nat) → Nat → Bool
  | [], _ => false
  | (first, last) :: rest, n => first ≤ n && (n ≤ last || covers rest n)

def contains (s : CodePoints) (c : Char) : Bool := covers s.ranges c.toNat

end CodePoints

end RemoteModel.Text

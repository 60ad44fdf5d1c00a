import RemoteModel.Screen.Cells

/-!
# Lines of a width

A text is laid out in lines of at most so many cells. A line ends where the text has a line
break, or before a word that would not fit. A word that is too long for any line is folded or,
in a cell of a table, cut. Tabs reach to the next multiple of eight.
-/

namespace RemoteModel.Screen

open Text

/-- What a text is for. -/
inductive Layout where
  /-- Running text: long words are folded. -/
  | text
  /-- A title: long words are folded, and lines stand in the middle. -/
  | title
  /-- A cell of a table: long words are cut, and lines are filled up. -/
  | cell
deriving DecidableEq, Repr

/-! ## Words -/

/-- The first word with the blanks around it, and the rest; none if there are only blanks. -/
def word? (cs : List Char) : Option (List Char × List Char) :=
  let before := cs.takeWhile isBlank
  let rest := cs.dropWhile isBlank
  let word := rest.takeWhile fun c => !isBlank c
  let rest := rest.dropWhile fun c => !isBlank c
  if word.isEmpty then none
  else some (before ++ word ++ rest.takeWhile isBlank, rest.dropWhile isBlank)

/-- The words of a line; each takes at least one character. -/
def wordsIn : Nat → List Char → List (List Char)
  | 0, _ => []
  | fuel + 1, cs =>
    match word? cs with
    | some (word, rest) => word :: wordsIn fuel rest
    | none => []

def words (cs : List Char) : List (List Char) := wordsIn cs.length cs

/-- A text without the blanks at its end. -/
def withoutEnd (cs : List Char) : List Char := (cs.reverse.dropWhile isBlank).reverse

/-! ## Breaks -/

/-- Where the breaking of a line stands: the cells that are taken, the characters that have been
passed, and the places of the breaks. -/
structure Breaking where
  taken : Nat := 0
  passed : Nat := 0
  breaks : List Nat := []

namespace Breaking

/-- Breaks before the next character, unless it is the first one. -/
def here (b : Breaking) : Breaking :=
  if b.passed = 0 then b else { b with breaks := b.breaks ++ [b.passed] }

/-- Puts a piece on the line. -/
def put (b : Breaking) (taken : Nat) (piece : List Char) : Breaking :=
  { b with taken := taken + cells piece, passed := b.passed + piece.length }

/-- Takes the next word. -/
def next (folds : Bool) (width : Nat) (b : Breaking) (word : List Char) : Breaking :=
  let needed := cells (withoutEnd word)
  if b.taken + needed ≤ width then b.put b.taken word
  else if folds && needed > width then
    (chop width word).foldl (fun b piece => b.here.put 0 piece) b
  else b.here.put 0 word

end Breaking

/-- The pieces of a text between breaks; so many characters have been passed. -/
def piecesAt (passed : Nat) (cs : List Char) : List Nat → List (List Char)
  | [] => [cs]
  | n :: rest => cs.take (n - passed) :: piecesAt n (cs.drop (n - passed)) rest

/-- A line in pieces that fit a width. -/
def breakLine (folds : Bool) (width : Nat) (cs : List Char) : List (List Char) :=
  piecesAt 0 cs ((words cs).foldl (Breaking.next folds width) {}).breaks

/-! ## Lines -/

/-- The distance between two tab stops. -/
def tabStop : Nat := 8

/-- Replaces tabs by blanks, behind some cells. -/
def expandTabs (taken : Nat) : List Char → List Char
  | [] => []
  | c :: rest =>
    if c = '\t' then
      let n := tabStop - taken % tabStop
      blanks n ++ expandTabs (taken + n) rest
    else c :: expandTabs (taken + charCells c) rest

/-- Drops blanks at the end as far as the line has more characters than its width. -/
def dropExcess (width : Nat) (cs : List Char) : List Char :=
  cs.take (max (withoutEnd cs).length (min width cs.length))

/-- Places a piece in its line. -/
def place (layout : Layout) (width : Nat) (cs : List Char) : List Char :=
  match layout with
  | .text => truncate false width cs
  | .title =>
    let cs := truncate false width (withoutEnd cs)
    let before := (width - cells cs) / 2
    blanks before ++ cs ++ blanks (width - cells cs - before)
  | .cell => truncate true width cs ++ blanks (width - cells cs)

/-- Long words are folded. -/
def Layout.folds (layout : Layout) : Bool := layout != .cell

/-- A text in lines of a width. -/
def wrap (layout : Layout) (width : Nat) (cs : List Char) : List (List Char) :=
  (pieces '\n' cs).flatMap fun line =>
    (breakLine layout.folds width (expandTabs 0 line)).map fun piece =>
      place layout width (dropExcess width piece)

end RemoteModel.Screen

import RemoteModel.Screen.Emoji
import RemoteModel.Screen.Literal
import RemoteModel.Screen.Style

/-!
# Markup

A text for people may hold tags, in square brackets: a style begins with its name and ends with a
slash and its name, or with a slash alone if it began last. Tags are not shown. A bracket begins
a tag only if a small letter, a slash, a number sign or an at sign follows; a backslash before it
takes its meaning away.

Names of pictures are replaced in what stands between tags, and some controls are left out.
-/

namespace RemoteModel.Screen.Markup

open Text

/-! ## Tags -/

/-- A part of a text. -/
inductive Piece where
  | text (cs : List Char)
  /-- A tag: its name, and what follows the first equals sign in it. -/
  | tag (name : List Char) (parameters : Option (List Char))
deriving DecidableEq

/-- A character with which a tag begins. -/
def beginsTag (c : Char) : Bool := c.isLower || c = '#' || c = '/' || c = '@'

/-- The rest of a tag up to its bracket, and what follows it. -/
def upToBracket? : List Char → Option (List Char × List Char)
  | [] => none
  | c :: rest =>
    if c = ']' then some ([], rest)
    else if c = '[' then none
    else (upToBracket? rest).map fun (body, rest) => (c :: body, rest)

/-- The tag behind an opening bracket, and what follows it. -/
def tag? : List Char → Option (List Char × List Char)
  | c :: rest =>
    if beginsTag c then (upToBracket? rest).map fun (body, rest) => (c :: body, rest) else none
  | [] => none

/-- A tag by its text. -/
def Piece.ofTag (cs : List Char) : Piece :=
  match cut? '=' cs with
  | some (name, parameters) => .tag name (some parameters)
  | none => .tag cs none

/-- A text as a piece, if it is not empty. -/
def textPiece (cs : List Char) : List Piece := if cs.isEmpty then [] else [.text cs]

/-- A tag behind some backslashes: two of them are one, and a single one makes it a text. -/
def escapedTag (backslashes : Nat) (cs : List Char) : List Piece :=
  textPiece (List.replicate (backslashes / 2) '\\') ++
    [if backslashes % 2 = 1 then .text ('[' :: cs ++ [']']) else .ofTag cs]

/-- The backslashes and the tag with which a text begins, and what follows it. -/
def leadingTag? (cs : List Char) : Option (Nat × List Char × List Char) :=
  let backslashes := (cs.takeWhile (· = '\\')).length
  match cs.drop backslashes with
  | '[' :: rest => (tag? rest).map fun (body, rest) => (backslashes, body, rest)
  | _ => none

/-- The pieces of a text, behind the characters of a piece that has begun. -/
def piecesFrom : Nat → List Char → List Char → List Piece
  | _, begun, [] => textPiece begun.reverse
  | 0, begun, _ :: _ => textPiece begun.reverse
  | fuel + 1, begun, c :: rest =>
    match leadingTag? (c :: rest) with
    | some (backslashes, body, rest) =>
      textPiece begun.reverse ++ escapedTag backslashes body ++ piecesFrom fuel [] rest
    | none => piecesFrom fuel (c :: begun) rest

/-- The pieces of a text; each takes at least one character. -/
def pieces (cs : List Char) : List Piece := piecesFrom cs.length [] cs

/-! ## What is shown -/

/-- Controls that have no place in a text for people. -/
def isUnwanted (c : Char) : Bool := [7, 8, 11, 12, 13].contains c.toNat

/-- A text without tags as it is shown. -/
def plain (cs : List Char) : List Char := (Emoji.replace cs).filter fun c => !isUnwanted c

/-- Drops the backslashes before brackets that begin no tag. -/
def unescaped : List Char → List Char
  | '\\' :: '[' :: rest => '[' :: unescaped rest
  | c :: rest => c :: unescaped rest
  | [] => []

/-- A style that has begun and has not ended yet. -/
structure Open where
  name : String
  parameters : Option (List Char)
deriving DecidableEq

namespace Open

/-- The style as it applies to the text. -/
def style (o : Open) : String :=
  match o.parameters with
  | some cs => o.name ++ " " ++ String.ofList cs
  | none => o.name

/-- An action, which can only end if its parameters can be read. -/
def isAction (o : Open) : Bool := o.name.startsWith "@"

end Open

/-- What has been shown so far, the styles that have begun, the last one first, and those that
have ended. -/
structure Progress where
  shown : List Char := []
  begun : List Open := []
  ended : List Open := []

namespace Progress

/-- Takes the style out that began last among those of a name, or at all. -/
def take? (p : Progress) (name : Option String) : Option (Open × Progress) :=
  match p.begun.find? fun o => name.all (o.name = ·) with
  | some o => some (o, { p with begun := p.begun.erase o })
  | none => none

/-- Ends a style. -/
def close (p : Progress) (name : Option String) : Except Failure Progress :=
  match p.take? name with
  | some (o, p) =>
    if !o.isAction then .ok { p with ended := o :: p.ended }
    else if Literal.isAction (o.parameters.getD []) then .ok p
    else .error .badMarkup
  | none => .error .badMarkup

/-- Takes the next piece. -/
def next (p : Progress) : Piece → Except Failure Progress
  | .text cs => .ok { p with shown := p.shown ++ plain (unescaped cs) }
  | .tag ('/' :: name) _ => do
    let name := strip (String.ofList name)
    if name = "" then p.close none else p.close (some (← Style.normalForm name))
  | .tag name parameters => do
    let name ← Style.normalForm (String.ofList name)
    .ok { p with begun := ⟨name, parameters⟩ :: p.begun }

end Progress

/-- A text without its tags, and the styles that apply to it. -/
structure Marked where
  shown : List Char
  styles : List String
deriving DecidableEq

namespace Marked

/-- Reads a text with tags. -/
def ofText (s : String) : Except Failure Marked := do
  let p ← (pieces s.toList).foldlM Progress.next {}
  .ok { shown := p.shown, styles := (p.ended ++ p.begun).map Open.style }

/-- Reads the styles, as it happens when the text is put on a screen. -/
def readStyles (m : Marked) : Except Failure Unit :=
  m.styles.forM fun style => (Style.ofText style).map fun _ => ()

end Marked

end RemoteModel.Screen.Markup

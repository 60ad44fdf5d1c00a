import RemoteModel.Json.Basic
import RemoteModel.Number.Decimal
import RemoteModel.Text.Percent
import RemoteModel.Text.Wide

/-!
# Writing JSON

One writer, with the layout as a parameter. Texts are quoted; inside, the quote, the backslash
and control characters are escaped and, where only ASCII is written, so is every character
outside U+0020 to U+007E, as one or two units of two bytes.

**Layouts.** `spaced` puts a blank behind each comma and colon, `compact` puts none, `indented`
puts each item on a line of its own.
-/

namespace RemoteModel.Json

/-- The layout of written JSON. -/
structure Layout where
  afterName : List Char := [':', ' ']
  afterItem : List Char := [',', ' ']
  /-- The blanks per level, if every item has a line of its own. -/
  indent : Option Nat := none
  asciiOnly : Bool := true

def spaced : Layout := {}

def compact : Layout := { afterName := [':'], afterItem := [','] }

def indented : Layout := { afterItem := [','], indent := some 2 }

/-- Numbers are laid out as usual; the special ones are spelled as words. -/
def numbers : Notation := { Notation.plain with infinity := "Infinity", nan := "NaN" }

/-- A unit of two bytes, escaped. -/
def escapedUnit (n : Nat) : List Char :=
  let hex (k : Nat) : Char := (Text.Percent.hexDigit (n / Nat.pow 16 k % 16)).toLower
  ['\\', 'u', hex 3, hex 2, hex 1, hex 0]

/-- A character, escaped as one or two units. -/
def escaped (c : Char) : List Char :=
  let n := c.toNat
  if n < 0x10000 then escapedUnit n
  else
    escapedUnit (0xD800 + (n - 0x10000) / 0x400) ++ escapedUnit (0xDC00 + (n - 0x10000) % 0x400)

/-- One character of a quoted text. -/
def quotedChar (asciiOnly : Bool) (c : Char) : List Char :=
  if c = '"' then ['\\', '"']
  else if c = '\\' then ['\\', '\\']
  else if c = '\n' then ['\\', 'n']
  else if c = '\r' then ['\\', 'r']
  else if c = '\t' then ['\\', 't']
  else if c.toNat = 8 then ['\\', 'b']
  else if c.toNat = 12 then ['\\', 'f']
  else if c.toNat < 0x20 then escaped c
  else if asciiOnly && c.toNat > 0x7E then escaped c
  else [c]

/-- A text in quotes. -/
def quoted (asciiOnly : Bool) (s : String) : List Char :=
  '"' :: s.toList.flatMap (quotedChar asciiOnly) ++ ['"']

namespace Layout

/-- The line break and indentation in front of an item at a level. -/
def lineBreak (l : Layout) (level : Nat) : List Char :=
  match l.indent with
  | some width => '\n' :: List.replicate (width * level) ' '
  | none => []

end Layout

mutual

/-- The text of a value that stands at some level of nesting. -/
def write (l : Layout) (level : Nat) : Json → List Char
  | .null => "null".toList
  | .bool true => "true".toList
  | .bool false => "false".toList
  | .int n => (toString n).toList
  | .float x => numbers.text x
  | .str s => quoted l.asciiOnly s
  | .arr [] => ['[', ']']
  | .arr (v :: rest) =>
    '[' :: l.lineBreak (level + 1) ++ write l (level + 1) v ++ writeItems l (level + 1) rest ++
      l.lineBreak level ++ [']']
  | .obj [] => ['\x7b', '\x7d']
  | .obj ((k, v) :: rest) =>
    '\x7b' :: l.lineBreak (level + 1) ++ quoted l.asciiOnly k ++ l.afterName ++
      write l (level + 1) v ++ writeMembers l (level + 1) rest ++ l.lineBreak level ++ ['\x7d']

/-- The items behind the first one. -/
def writeItems (l : Layout) (level : Nat) : List Json → List Char
  | [] => []
  | v :: rest => l.afterItem ++ l.lineBreak level ++ write l level v ++ writeItems l level rest

/-- The members behind the first one. -/
def writeMembers (l : Layout) (level : Nat) : List (String × Json) → List Char
  | [] => []
  | (k, v) :: rest =>
    l.afterItem ++ l.lineBreak level ++ quoted l.asciiOnly k ++ l.afterName ++ write l level v ++
      writeMembers l level rest

end

/-- The text of a value. -/
def render (l : Layout) (v : Json) : String := String.ofList (write l 0 v)

/-- The text of a value with a blank behind each comma and colon. -/
def text (v : Json) : String := render spaced v

end RemoteModel.Json

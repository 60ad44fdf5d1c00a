import RemoteModel.Json.Basic
import RemoteModel.Number.Decimal
import RemoteModel.Text.Blank
import RemoteModel.Text.Percent
import RemoteModel.Text.Printable

/-!
# Plain text of a value

Cells of a table and values of a query show a value as plain text. A text is shown as it is; the
words are `None`, `True` and `False`. Inside a list or an object every text stands in quotes:
single ones, unless it holds a single quote and no double one. What cannot be printed is escaped.
-/

namespace RemoteModel.Json.Display

/-- The code point in base sixteen, with at least the given number of digits. -/
def hex (width n : Nat) : List Char := Notation.pad width (Nat.toDigits 16 n)

/-- One character of a quoted text. -/
def shownChar (quote c : Char) : List Char :=
  if c = quote ∨ c = '\\' then ['\\', c]
  else if c = '\n' then ['\\', 'n']
  else if c = '\r' then ['\\', 'r']
  else if c = '\t' then ['\\', 't']
  else if Text.isPrintable c then [c]
  else if c.toNat < 0x100 then '\\' :: 'x' :: hex 2 c.toNat
  else if c.toNat < 0x10000 then '\\' :: 'u' :: hex 4 c.toNat
  else '\\' :: 'U' :: hex 8 c.toNat

/-- A text in quotes. -/
def quoted (s : String) : String :=
  let cs := s.toList
  let quote := if cs.contains '\'' && !cs.contains '"' then '"' else '\''
  String.ofList (quote :: cs.flatMap (shownChar quote) ++ [quote])

mutual

/-- A value inside a list or an object. -/
def inner : Json → String
  | .null => "None"
  | .bool true => "True"
  | .bool false => "False"
  | .int n => toString n
  | .float x => String.ofList (Notation.plain.text x)
  | .str s => quoted s
  | .arr items => "[" ++ Text.join ", " (innerItems items) ++ "]"
  | .obj members => "\x7b" ++ Text.join ", " (innerMembers members) ++ "\x7d"

def innerItems : List Json → List String
  | [] => []
  | v :: rest => inner v :: innerItems rest

def innerMembers : List (String × Json) → List String
  | [] => []
  | (k, v) :: rest => (quoted k ++ ": " ++ inner v) :: innerMembers rest

end

/-- A value on its own. -/
def shown : Json → String
  | .str s => s
  | v => inner v

end RemoteModel.Json.Display

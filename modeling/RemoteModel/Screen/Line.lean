import RemoteModel.Text.Blank

/-!
# Lines of output

A line of output is a text, or a part of a table: a line of its title, a row of cells, or the
border between rows. The border around the header is heavy, all others are light.
-/

namespace RemoteModel.Screen

/-- A border of a table. -/
inductive Edge where
  | top
  | belowHeader
  | bottom
deriving DecidableEq, Repr

/-- A line of output. -/
inductive Line where
  | text (text : String)
  /-- A line of the title of a table. -/
  | title (text : String)
  /-- A line of a row, by its cells with the blanks around them. -/
  | row (header : Bool) (cells : List String)
  /-- A border over columns of some widths. -/
  | border (edge : Edge) (widths : List Nat)
deriving DecidableEq, Repr

namespace Edge

/-- The signs of a border: at its beginning, in a column, between two columns and at its end. -/
def signs : Edge → String × Char × String × String
  | top => ("┏", '━', "┳", "┓")
  | belowHeader => ("┡", '━', "╇", "┩")
  | bottom => ("└", '─', "┴", "┘")

end Edge

namespace Line

/-- The line as a text. -/
def plain : Line → String
  | text s => s
  | title s => s
  | row header cells =>
    let sign := if header then "┃" else "│"
    sign ++ Text.join sign cells ++ sign
  | border edge widths =>
    let (first, inner, between, last) := edge.signs
    first ++ Text.join between (widths.map fun n => String.ofList (List.replicate n inner)) ++ last

end Line

end RemoteModel.Screen

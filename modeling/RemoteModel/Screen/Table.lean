import RemoteModel.Screen.Line
import RemoteModel.Screen.Wrap

/-!
# Tables

A table has a header, rows of as many cells, and sometimes a title. A column is as wide as its
widest line and has a blank on either side. If all columns together are too wide for the screen,
the widest ones are made narrower until they fit, and their texts are wrapped.

The title is wrapped to the width of the table. Cells of the header stand at the bottom of their
row, all others at the top.
-/

namespace RemoteModel.Screen

/-- A table, by the texts of its cells; each column begins with its header. -/
structure Table where
  title : Option (List Char)
  columns : List (List (List Char))

/-! ## Shares -/

/-- A quotient, rounded to the nearest integer and, halfway between two, to the even one. -/
def roundedQuotient (num den : Nat) : Nat :=
  let q := num / den
  let twice := 2 * (num % den)
  if twice < den || (twice = den && q % 2 = 0) then q else q + 1

/-- A value that can be reduced: its share in the reduction, and by how much at most. -/
structure Share where
  value : Nat
  ratio : Nat
  limit : Nat

namespace Share

/-- The share that counts: none where nothing can be taken. -/
def weight (s : Share) : Nat := if s.limit = 0 then 0 else s.ratio

/-- Takes a total from values by their shares, one after the other. -/
def takeFrom (total weights : Nat) : List Share → List Nat
  | [] => []
  | s :: rest =>
    if s.weight ≠ 0 ∧ weights ≠ 0 then
      let n := min s.limit (roundedQuotient (s.weight * total) weights)
      (s.value - n) :: takeFrom (total - n) (weights - s.weight) rest
    else s.value :: takeFrom total weights rest

end Share

/-- Takes a total from values by their shares. -/
def reduced (total : Nat) (shares : List Share) : List Nat :=
  Share.takeFrom total ((shares.map Share.weight).foldl (· + ·) 0) shares

/-! ## Widths -/

def total (widths : List Nat) : Nat := widths.foldl (· + ·) 0

def greatest (ns : List Nat) : Nat := ns.foldl max 0

/-- Makes the widest columns as narrow as the next ones, until all fit; each step takes at least
one cell. -/
def narrowed (room : Nat) : Nat → List Nat → List Nat
  | 0, widths => widths
  | fuel + 1, widths =>
    let excess := total widths - room
    let widest := greatest widths
    let difference := widest - greatest (widths.filter (· ≠ widest))
    if excess = 0 || difference = 0 then widths
    else
      narrowed room fuel (reduced excess (widths.map fun w =>
        ⟨w, if w = widest then 1 else 0, min excess difference⟩))

/-- Widths that fit: the widest columns give first, and in the end all give evenly. -/
def fitted (room : Nat) (widths : List Nat) : List Nat :=
  let widths := narrowed room (total widths) widths
  if total widths > room then reduced (total widths - room) (widths.map fun w => ⟨w, 1, w⟩)
  else widths

/-- The blanks of a cell. -/
def padding : Nat := 2

/-- A character that ends a line when a text is measured. -/
def endsLine (c : Char) : Bool :=
  let n := c.toNat
  (0x0A ≤ n && n ≤ 0x0D) || (0x1C ≤ n && n ≤ 0x1E) || n = 0x85 || n = 0x2028 || n = 0x2029

/-- The cells of the widest line, of which the last one has taken some already. -/
def widestLine (taken : Nat) : List Char → Nat
  | [] => taken
  | c :: rest =>
    if endsLine c then max taken (widestLine 0 rest) else widestLine (taken + charCells c) rest

/-- The width of a cell in some room. -/
def cellWidth (room : Nat) (cs : List Char) : Nat :=
  if room ≤ padding then room else min (min (widestLine 0 cs) room + padding) room

/-- The width of a column in some room. -/
def columnWidth (room : Nat) (column : List (List Char)) : Nat :=
  greatest (column.map (cellWidth room))

namespace Table

/-- The width of all borders. -/
def borders (t : Table) : Nat := t.columns.length + 1

/-- The widths of the columns on a screen. -/
def widths (t : Table) (width : Nat) : List Nat :=
  let room := width - t.borders
  let natural := t.columns.map fun c => max 1 (columnWidth room c)
  if total natural ≤ room then natural
  else List.zipWith columnWidth (fitted room natural) t.columns

/-! ## Rows -/

/-- The lines of a cell; one without room for a text has none. -/
def cellLines (width : Nat) (cs : List Char) : List (List Char) :=
  if width ≤ padding then []
  else (wrap .cell (width - padding) cs).map fun line => ' ' :: fit (width - padding) line ++ [' ']

/-- The cells of a row; the header is the first one. -/
def row (t : Table) (i : Nat) : List (List Char) := t.columns.map fun c => c.getD i []

/-- The number of rows without the header. -/
def height (t : Table) : Nat := greatest (t.columns.map List.length) - 1

/-- The line of a cell in a row of some height: those at the bottom have empty lines above. -/
def cellLine (bottom : Bool) (height width : Nat) (lines : List (List Char)) (i : Nat) :
    List Char :=
  let above := if bottom then height - lines.length else 0
  if i < above then blanks width else lines.getD (i - above) (blanks width)

/-- A row as lines: the cell of the most lines gives its height. -/
def rowLines (header : Bool) (widths : List Nat) (row : List (List Char)) : List Line :=
  let texts := List.zipWith (fun w cs => (w, cellLines w cs)) widths row
  let height := max 1 (greatest (texts.map fun (_, lines) => lines.length))
  (List.range height).map fun i =>
    .row header (texts.map fun (w, lines) => String.ofList (cellLine header height w lines i))

/-! ## Lines -/

/-- The lines of the title, if there is one. -/
def titleLines (t : Table) (width : Nat) : List Line :=
  match t.title with
  | some cs => (wrap .title width cs).map fun line => .title (String.ofList line)
  | none => []

/-- A table on a screen; one without columns is an empty line. -/
def lines (t : Table) (width : Nat) : List Line :=
  if t.columns.isEmpty then [.text ""]
  else
    let widths := t.widths width
    t.titleLines (total widths + t.borders) ++
      [.border .top widths] ++ rowLines true widths (t.row 0) ++ [.border .belowHeader widths] ++
      (List.range t.height).flatMap (fun i => rowLines false widths (t.row (i + 1))) ++
      [.border .bottom widths]

end Table

end RemoteModel.Screen

/-
# Tables in box characters

rflink specification, §10: `--format table`.

A table has a header and rows of cells.  A line feed in a cell starts a
further line of its row; every line of a cell is padded to the width of its
column, and the columns are as wide as they have to be.

Main statement: `width_pad` (a padded text is as wide as it should be).
-/

import PacketRadio.Text.Width

namespace PacketRadio
namespace Text

/-- A table: the header and the rows below it. -/
structure Table where
  /-- The titles of the columns. -/
  header : List String
  /-- The cells of each row. -/
  rows : List (List String) := []

namespace Table

/-- The lines of a cell; there is always one. -/
def lines : List Char → List (List Char)
  | [] => [[]]
  | '\n' :: rest => [] :: lines rest
  | c :: rest =>
    match lines rest with
    | [] => [[c]]
    | line :: others => (c :: line) :: others

/-- A row as the lines of its cells. -/
def cells (row : List String) : List (List (List Char)) :=
  row.map fun cell => lines cell.toList

/-- The width of a cell: that of its widest line. -/
def cellWidth (cell : List (List Char)) : Nat :=
  (cell.map width).foldl max 0

/-- The widths of the columns. -/
def widths (rows : List (List (List (List Char)))) : List Nat :=
  let columns := (rows.map List.length).foldl max 0
  (List.range columns).map fun i =>
    (rows.map fun row => cellWidth (row.getD i [])).foldl max 0

/-- A text with blanks up to a width. -/
def pad (columns : Nat) (text : List Char) : List Char :=
  text ++ List.replicate (columns - width text) ' '

/-- A line of a row. -/
def contentLine (widths : List Nat) (parts : List (List Char)) : List Char :=
  let padded := List.zipWith (fun w part => ' ' :: pad w part ++ [' ']) widths parts
  '│' :: List.intercalate ['┆'] padded ++ ['│']

/-- The lines of a row; a cell that has fewer than another is blank below its own. -/
def rowLines (widths : List Nat) (row : List (List (List Char))) : List (List Char) :=
  let height := (row.map List.length).foldl max 0
  (List.range height).map fun i => contentLine widths (row.map fun cell => cell.getD i [])

/-- A line between rows, made of these four characters. -/
def rule (left fill crossing right : Char) (widths : List Nat) : List Char :=
  left :: List.intercalate [crossing] (widths.map fun w => List.replicate (w + 2) fill) ++ [right]

/-- The lines of a table. -/
def toLines (t : Table) : List (List Char) :=
  let header := cells t.header
  let rows := t.rows.map cells
  let w := widths (header :: rows)
  let separator := rule '├' '╌' '┼' '┤' w
  [rule '┌' '─' '┬' '┐' w] ++ rowLines w header ++ [rule '╞' '═' '╪' '╡' w] ++
    List.flatten (List.intersperse [separator] (rows.map (rowLines w))) ++
    [rule '└' '─' '┴' '┘' w]

/-- The text of a table, without a line feed at its end. -/
def render (t : Table) : String :=
  String.ofList (List.intercalate ['\n'] t.toLines)

end Table

/-- **A padded text is as wide as it should be**, unless it was too wide before. -/
theorem Table.width_pad (columns : Nat) (text : List Char) :
    width (Table.pad columns text) = max columns (width text) := by
  rw [Table.pad, width_append_blanks]
  omega

end Text
end PacketRadio

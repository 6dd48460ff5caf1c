import AttrFold.Terminal.Line

/-!
Tables with a heavy frame around the headings and a light one around the rows. Each column is as wide
as its longest cell; when the table becomes too wide, its widest column gives way and the cells of
that column are broken into several lines.
-/

namespace AttrFold.Terminal

open Text (cells)

/-- The cells of a column from top to bottom, and its width without margins. -/
def columnWidth (column : List Text) : Nat := (column.map cells).foldl max 0

/-- The widths of columns of which the widest gives way until the table fits. Each column has a
margin of one cell on both of its sides, and there are lines beside and between the columns. -/
def fitWidths (total : Nat) (widths : List Nat) : List Nat :=
  let needed := widths.foldl (fun cells width => cells + width + 3) 1
  let widest := widths.foldl max 0
  match widths.idxOf? widest with
  | some i => widths.set i (widest - (needed - total))
  | none => widths

/-- A cell filled up with spaces to a width. -/
def padCell (width : Nat) (t : Text) : Text := t ++ List.replicate (width - cells t) ' '

/-- A line of cells between bars. -/
def cellLine (bar : Char) (widths : List Nat) (row : List Text) : Text :=
  let cell (width : Nat) (t : Text) : Text := ' ' :: padCell width t ++ [' ']
  bar :: Text.joinWith [bar] (List.zipWith cell widths row) ++ [bar]

/-- The lines of a row whose cells may take several lines. -/
def rowLines (bar : Char) (widths : List Nat) (row : List Text) : List Text :=
  let broken := List.zipWith (breakLine .ellipsis) widths row
  let height := (broken.map List.length).foldl max 1
  (List.range height).map fun i => cellLine bar widths (broken.map fun lines => lines.getD i [])

/-- A rule across the table. -/
def rule (left line middle right : Char) (widths : List Nat) : Text :=
  left :: Text.joinWith [middle] (widths.map fun w => List.replicate (w + 2) line) ++ [right]

/-- The lines of a table of at most `total` cells. -/
def table (total : Nat) (headings : List Text) (rows : List (List Text)) : List Text :=
  let columns := (List.range headings.length).map fun i =>
    (headings :: rows).map fun row => row.getD i []
  let widths := fitWidths total (columns.map columnWidth)
  [rule '┏' '━' '┳' '┓' widths] ++ rowLines '┃' widths headings
    ++ [rule '┡' '━' '╇' '┩' widths] ++ rows.flatMap (rowLines '│' widths)
    ++ [rule '└' '─' '┴' '┘' widths]

end AttrFold.Terminal

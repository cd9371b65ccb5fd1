import ModuleCatalog.Text.Blank
import ModuleCatalog.Text.Width

/-!
Tables with rounded corners. Every cell is padded by a space on both sides, a column is as wide as
its widest line, and a cell with line feeds takes several lines.
-/
namespace ModuleCatalog.Table

/-- Where the text of a cell stands in its column. -/
inductive Alignment where
  | left
  | center
  deriving DecidableEq, Repr

def cellLines (cell : String) : List (List Char) :=
  Text.splitAtEach '\n' cell.toList

def cellWidth (cell : String) : Nat :=
  ((cellLines cell).map Text.width).foldl max 0

def columnWidths (rows : List (List String)) : List Nat :=
  rows.foldl
    (fun widths row =>
      let cells := row.map cellWidth
      (List.range (max widths.length cells.length)).map fun i =>
        max (widths.getD i 0) (cells.getD i 0))
    []

def spaces (n : Nat) : List Char :=
  List.replicate n ' '

/-- A line of a cell filled up to the width of its column. -/
def padded (alignment : Alignment) (width : Nat) (line : List Char) : List Char :=
  let free := width - Text.width line
  match alignment with
  | .left => line ++ spaces free
  | .center => spaces (free / 2) ++ line ++ spaces (free - free / 2)

def rowLines (alignment : Alignment) (widths : List Nat) (row : List String) :
    List (List Char) :=
  let cells := row.map cellLines
  let height := (cells.map List.length).foldl max 1
  (List.range height).map fun i =>
    '│' :: (widths.zip cells).flatMap fun (width, cell) =>
      ' ' :: padded alignment width (cell.getD i []) ++ [' ', '│']

/-- A horizontal line with its left end, its crossings and its right end. -/
def rule (left cross right : Char) (widths : List Nat) : List Char :=
  let pieces := widths.map fun width => List.replicate (width + 2) '─'
  left :: (pieces.intersperse [cross]).flatten ++ [right]

/-- A table with a header, which is set apart by a line. -/
def render (headerAlignment : Alignment) (header : List String) (rows : List (List String)) :
    String :=
  let widths := columnWidths (header :: rows)
  let lines :=
    rule '╭' '┬' '╮' widths :: rowLines headerAlignment widths header ++
      rule '├' '┼' '┤' widths :: rows.flatMap (rowLines .left widths) ++
      [rule '╰' '┴' '╯' widths]
  .ofList (lines.intersperse ['\n']).flatten

end ModuleCatalog.Table

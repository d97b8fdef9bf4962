import QueryTemplate.Text.Columns

/-! Tables of methods: a header over rows, with a border around them and a double line between. A
column is as wide as its widest cell. -/

set_option autoImplicit false

namespace QueryTemplate.Command

structure MethodRow where
  name : Text
  params : Text
  placeholders : Nat
  deriving DecidableEq, Repr

namespace Table

abbrev Cell := List Text

def cell (text : Text) : Cell := text.splitOn '\n'

def Cell.width (c : Cell) : Nat := (c.map Text.columns).foldl max 0

def header : List Cell := ["Method", "Parameters", "Placeholders"].map fun title => cell title.toList

def MethodRow.cells (row : MethodRow) : List Cell :=
  [cell row.name, cell row.params, cell (Text.decimal row.placeholders)]

/-- The widths of the columns of a list of rows with three cells each. -/
def widths (rows : List (List Cell)) : List Nat :=
  rows.foldl (fun widths row => List.zipWith max widths (row.map Cell.width)) [0, 0, 0]

def padded (width : Nat) (text : Text) : Text :=
  text ++ List.replicate (width - Text.columns text) ' '

def line (widths : List Nat) (texts : List Text) : Text :=
  '│' :: ' ' :: Text.join [' ', ' ', ' '] (List.zipWith padded widths texts) ++ [' ', '│']

def rowLines (widths : List Nat) (row : List Cell) : List Text :=
  let height := (row.map List.length).foldl max 1
  (List.range height).map fun n => line widths (row.map fun texts => texts[n]?.getD [])

def rule (widths : List Nat) (left stroke right : Char) : Text :=
  left :: List.replicate (widths.foldl (· + ·) 0 + 3 * (widths.length - 1) + 2) stroke ++ [right]

def render (methods : List MethodRow) : Text :=
  let rows := methods.map MethodRow.cells
  let widths := widths (header :: rows)
  Text.join ['\n'] <|
    rule widths '┌' '─' '┐' :: rowLines widths header ++
      rule widths '╞' '═' '╡' :: rows.flatMap (rowLines widths) ++ [rule widths '└' '─' '┘']

end Table

end QueryTemplate.Command

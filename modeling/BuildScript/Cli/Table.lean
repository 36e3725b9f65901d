/-! # Tables

A table with a title, a heavy head and light rows. Columns are as wide as their widest cell with
a blank on either side.
-/

namespace BuildScript.Cli

structure Table where
  title : String
  head : List String
  rows : List (List String)

namespace Table

def blanks (n : Nat) : String := String.ofList (List.replicate n ' ')

def repeated (c : Char) (n : Nat) : String := String.ofList (List.replicate n c)

/-- Widths of the columns without the blanks around the cells. -/
def widths (t : Table) : List Nat :=
  t.rows.foldl (fun ws row => List.zipWith (fun w cell => max w cell.length) ws row)
    (t.head.map String.length)

def rule (t : Table) (left middle right line : String) (c : Char) : String :=
  left ++ middle.intercalate (t.widths.map fun w => repeated c (w + 2)) ++ right ++ line

def row (t : Table) (bar : String) (cells : List String) : String :=
  let padded := List.zipWith (fun w cell => " " ++ cell ++ blanks (w - cell.length) ++ " ")
    t.widths cells
  bar ++ bar.intercalate padded ++ bar ++ "\n"

/-- The title in the middle; of an odd rest the smaller part goes to the left. -/
def titleLine (t : Table) : String :=
  let width := t.widths.foldl (fun n w => n + w + 3) 1
  let rest := width - t.title.length
  blanks (rest / 2) ++ t.title ++ blanks (rest - rest / 2) ++ "\n"

def render (t : Table) : String :=
  t.titleLine ++ t.rule "┏" "┳" "┓" "\n" '━' ++ t.row "┃" t.head ++ t.rule "┡" "╇" "┩" "\n" '━' ++
    String.join (t.rows.map (t.row "│")) ++ t.rule "└" "┴" "┘" "\n" '─'

end Table

end BuildScript.Cli

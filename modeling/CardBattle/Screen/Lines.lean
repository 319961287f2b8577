/-
Drawings as lines of plain text.

* `StyledText.lines`, `Table.lines` : texts and tables without styles and frames;
* `Drawing.lines` : a drawing in plain text.
-/
import CardBattle.Screen.Drawing

namespace CardBattle.Screen

/-- The lines of a text; a line break at the end opens no further line. -/
def linesOf (text : String) : List String :=
  let lines := (text.toList.splitOn '\n').map String.ofList
  if lines.getLast? = some "" then lines.dropLast else lines

/-- The lines of a styled text. -/
def StyledText.lines (t : StyledText) : List String := linesOf t.text

/-- A title between bars. -/
def barred (title : String) : String := s!"--- {title} ---"

/-- The lines of a panel under its title. -/
def Panel.lines (p : Panel) : List String := (p.title?.map barred).toList ++ p.content.lines

/-- Cells in a row. -/
def rowLine (cells : List String) : String := " | ".intercalate cells

/-- The lines of a table under its title. -/
def Table.lines (t : Table) : List String :=
  barred t.title.text :: rowLine t.headers :: t.rows.map fun row => rowLine (row.map (·.text))

/-- The lines of a drawing. -/
def Drawing.lines : Drawing → List String
  | .text t => t.lines
  | .panel p => p.lines
  | .columns panels => panels.flatMap Panel.lines
  | .table t => t.lines
  | .centred t => t.lines
  | .note level words => [s!"{level.name} {words}"]

theorem length_lines_table (t : Table) : t.lines.length = t.rows.length + 2 := by
  simp [Table.lines]

end CardBattle.Screen

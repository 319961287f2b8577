/-
What is drawn on the terminal.

* `Panel`, `Table` : framed text, and rows under headers;
* `Drawing` : everything that is drawn in one go.
-/
import CardBattle.Journal
import CardBattle.Screen.Styled

namespace CardBattle.Screen

/-- A text in a frame, which may carry a title. -/
structure Panel where
  title? : Option String := none
  content : StyledText
  deriving DecidableEq, Repr

/-- Rows of texts under headers. -/
structure Table where
  title : StyledText
  headers : List String
  rows : List (List StyledText)
  deriving DecidableEq, Repr

/-- What is drawn in one go. -/
inductive Drawing where
  | text (t : StyledText)
  | panel (p : Panel)
  | columns (panels : List Panel)
  | table (t : Table)
  | centred (t : Table)
  /-- A note of the journal. -/
  | note (level : Level) (text : String)
  deriving DecidableEq, Repr

/-- A text without styles. -/
def Drawing.plain (text : String) : Drawing := .text (.ofString text)

end CardBattle.Screen

/-
Wordings: texts with numbers that are yet to be written.

* `Wording` : pieces of text and numbers, put together with `++`;
* `Wording.written` : the text of a wording, unless a number in it has too many digits.

A wording can be made of any numbers; only writing it out can fail. Main statements:
`written_append`, two wordings in a row are written one after the other, and
`written_eq_error_iff`.
-/
import CardBattle.Text.Numeral

namespace CardBattle.Text

/-- A part of a wording. -/
inductive Piece where
  | text (s : String)
  | number (n : Int)
  /-- A number with its sign, plus included. -/
  | signed (n : Int)
  deriving DecidableEq, Repr

namespace Piece

/-- The text of a piece. -/
def render : Piece → String
  | .text s => s
  | .number n => toString n
  | .signed n => withSign n

/-- Whether a piece can be written. -/
def canBeWritten : Piece → Bool
  | .text _ => true
  | .number n => isShort n
  | .signed n => isShort n

end Piece

/-- A text with numbers that are yet to be written. -/
structure Wording where
  pieces : List Piece
  deriving DecidableEq, Repr

/-- A number. -/
def number (n : Int) : Wording := ⟨[.number n]⟩

/-- A number with its sign, plus included. -/
def signed (n : Int) : Wording := ⟨[.signed n]⟩

namespace Wording

instance : Coe String Wording := ⟨fun s => ⟨[.text s]⟩⟩

instance : Append Wording := ⟨fun first second => ⟨first.pieces ++ second.pieces⟩⟩

/-- Wordings in a row, a text between each two. -/
def joined (between : String) (ws : List Wording) : Wording :=
  ⟨[Piece.text between].intercalate (ws.map (·.pieces))⟩

/-- The text of a wording, however long its numbers are. -/
def render (w : Wording) : String := w.pieces.foldr (fun piece rest => piece.render ++ rest) ""

/-- Whether every number of a wording can be written. -/
def canBeWritten (w : Wording) : Bool := w.pieces.all Piece.canBeWritten

/-- The text of a wording, unless a number in it has too many digits. -/
def written (w : Wording) : Except NumeralFault String :=
  if w.canBeWritten then .ok w.render else .error .unwritable

@[simp] theorem pieces_append (first second : Wording) :
    (first ++ second).pieces = first.pieces ++ second.pieces := rfl

theorem render_append (first second : Wording) :
    (first ++ second).render = first.render ++ second.render := by
  simp only [render, pieces_append]
  induction first.pieces with
  | nil => simp
  | cons piece rest ih => simp [ih, String.append_assoc]

theorem canBeWritten_append (first second : Wording) :
    (first ++ second).canBeWritten = (first.canBeWritten && second.canBeWritten) := by
  simp [canBeWritten]

theorem written_append (first second : Wording) :
    (first ++ second).written = do return (← first.written) ++ (← second.written) := by
  unfold written
  rw [canBeWritten_append, render_append]
  cases first.canBeWritten <;> cases second.canBeWritten <;> rfl

theorem written_eq_error_iff {w : Wording} {fault : NumeralFault} :
    w.written = .error fault ↔ w.canBeWritten = false ∧ fault = .unwritable := by
  unfold written
  cases w.canBeWritten <;> simp [eq_comm]

end Wording

end CardBattle.Text

/-
Card numbers typed by the player.

* `isQuit` : the lines that end a game;
* `Selection` : places in the hand, and what could not be read as one;
* `readSelection` : the numbers of a line, divided by commas;
* `Selection.cards` : the chosen cards.

Main statement: `mem_places`, every place that is read lies in the hand.
-/
import CardBattle.Card
import CardBattle.Text.Case
import CardBattle.Text.Numeral

namespace CardBattle

/-! ### Quitting -/

/-- The words that end a game. -/
def quitWords : List String := ["x", "q", "quit", "exit"]

/-- A line without the blanks around it, in lower case. -/
def commandOf (line : String) : List Char := Text.lower (Text.trim line.toList)

/-- Whether a line ends the game. -/
def isQuit (line : String) : Bool := String.ofList (commandOf line) ∈ quitWords

/-! ### Numbers -/

/-- Whether a text consists of digits of any script, with or without a place value. -/
def looksLikeNumber (text : List Char) : Bool := !text.isEmpty && text.all Text.isDigitLike

/-- The place that a number stands for in a list of so many, counted from one; `none` if the text
is no number or the number is no place. A digit without a place value is a fault. -/
def readPlace (count : Nat) (text : List Char) : Except Text.NumeralFault (Option Nat) :=
  if looksLikeNumber text then
    (Text.readInteger text).map fun (n : Int) =>
      if 1 ≤ n ∧ n ≤ count then some (n - 1).toNat else none
  else .ok none

/-- Places in the hand, and what could not be read as one. -/
structure Selection where
  places : List Nat := []
  rejected : List String := []
  deriving DecidableEq, Repr

namespace Selection

/-- A selection with one more token in front. -/
def put (token : List Char) (place? : Option Nat) (s : Selection) : Selection :=
  match place? with
  | some place => { s with places := place :: s.places }
  | none => { s with rejected := String.ofList token :: s.rejected }

/-- The chosen cards of a hand. -/
def cards (s : Selection) (hand : List Card) : List Card := s.places.filterMap (hand[·]?)

end Selection

/-- The tokens of a command: what stands between commas, without blanks. -/
def tokensOf (command : List Char) : List (List Char) :=
  ((command.splitOn ',').map Text.trim).filter (!·.isEmpty)

/-- The selection that tokens make. -/
def selectionOf (handSize : Nat) : List (List Char) → Except Text.NumeralFault Selection
  | [] => .ok {}
  | token :: rest => do
      let place? ← readPlace handSize token
      return (← selectionOf handSize rest).put token place?

/-- The selection that a line makes, `none` if it ends the game. -/
def readSelection (line : String) (handSize : Nat) :
    Except Text.NumeralFault (Option Selection) :=
  if isQuit line then .ok none
  else (selectionOf handSize (tokensOf (commandOf line))).map some

/-! ### Small laws -/

theorem readPlace_lt {count place : Nat} {text : List Char}
    (h : readPlace count text = .ok (some place)) : place < count := by
  unfold readPlace at h
  split at h
  · cases hread : Text.readInteger text with
    | error fault => rw [hread] at h; cases h
    | ok n =>
        rw [hread] at h
        simp only [Except.map, Except.ok.injEq] at h
        split at h
        · simp only [Option.some.injEq] at h; omega
        · cases h
  · cases h

theorem mem_places {handSize : Nat} {tokens : List (List Char)} {s : Selection}
    (h : selectionOf handSize tokens = .ok s) : ∀ place ∈ s.places, place < handSize := by
  induction tokens generalizing s with
  | nil => cases h; simp
  | cons token rest ih =>
      simp only [selectionOf, bind, Except.bind] at h
      cases hplace : readPlace handSize token with
      | error fault => simp [hplace] at h
      | ok place? =>
          cases hrest : selectionOf handSize rest with
          | error fault => simp [hplace, hrest] at h
          | ok tail =>
              simp only [hplace, hrest, pure, Except.pure, Except.ok.injEq] at h
              subst h
              have hall := ih hrest
              intro place hmem
              cases place? with
              | none => exact hall place hmem
              | some first =>
                  rcases List.mem_cons.1 hmem with rfl | hmem
                  · exact readPlace_lt hplace
                  · exact hall place hmem

end CardBattle

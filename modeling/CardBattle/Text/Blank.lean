/-
Blank characters and the blanks around a text.

* `isBlank` : the characters with the property White_Space and the four information separators;
* `trim` : a text without the blanks at its two ends.

Main statements: `isBlank_of_isWhitespace`, and `trim_eq_self` (a text that neither starts nor
ends with a blank is its own trim).
-/
import CardBattle.Text.Ranges

namespace CardBattle.Text

/-- The code points of blank characters. -/
def blankRanges : List (Nat × Nat) :=
  [(9, 13), (28, 32), (133, 133), (160, 160), (5760, 5760), (8192, 8202), (8232, 8233),
   (8239, 8239), (8287, 8287), (12288, 12288)]

/-- Whether a character is blank. -/
def isBlank (c : Char) : Bool := inRanges blankRanges c

/-- A text without the blanks that open it. -/
def trimStart (cs : List Char) : List Char := cs.dropWhile isBlank

/-- A text without the blanks at its two ends. -/
def trim (cs : List Char) : List Char := (trimStart (trimStart cs).reverse).reverse

theorem isBlank_of_isWhitespace {c : Char} (h : c.isWhitespace = true) : isBlank c = true := by
  simp only [Char.isWhitespace, Bool.or_eq_true, decide_eq_true_eq] at h
  rcases h with ((rfl | rfl) | rfl) | rfl <;> rfl

theorem trimStart_eq_self {cs : List Char} (h : ∀ c ∈ cs.head?, isBlank c = false) :
    trimStart cs = cs := by
  cases cs with
  | nil => rfl
  | cons c rest => simp [trimStart, List.dropWhile, h c rfl]

theorem trim_eq_self {cs : List Char} (hhead : ∀ c ∈ cs.head?, isBlank c = false)
    (hlast : ∀ c ∈ cs.getLast?, isBlank c = false) : trim cs = cs := by
  have h : ∀ c ∈ cs.reverse.head?, isBlank c = false := by simpa using hlast
  rw [trim, trimStart_eq_self hhead, trimStart_eq_self h, List.reverse_reverse]

end CardBattle.Text

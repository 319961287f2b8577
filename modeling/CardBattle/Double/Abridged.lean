/-
Integers abridged to 64 binary digits before they are rounded.

* `abridged` : a natural number by its first 64 binary digits, the last of them set where some digit
  past them counts;
* `Double.ofAbridged` : the double nearest to an abridged integer, infinite past the range.

The digits past the first 64 are looked at word by word, and in each word at as many of its last
ones as the first word has. All of them are looked at in a number of at most two words; a longer one
may pass for a half, and then goes to the even neighbour.

Main statement: `abridged_of_lt`, a number of one word stays as it is.
-/
import CardBattle.Double.Basic

namespace CardBattle

/-! ### Words -/

/-- The binary digits that a word has room for. -/
def wordDigits : Nat := 64

/-- The words of a number below its first one, the last word of the number first. -/
def lowerWords (n : Nat) : List Nat :=
  (List.range (n.log2 / wordDigits)).map fun i =>
    n / Nat.pow 2 (wordDigits * i) % Nat.pow 2 wordDigits

/-- How many binary digits the first word of a number has. -/
def firstWordDigits (n : Nat) : Nat := n.log2 % wordDigits + 1

/-- Whether some digit past the first word counts for the rounding. -/
def hasTail (n : Nat) : Bool :=
  (lowerWords n).any fun word => word % Nat.pow 2 (firstWordDigits n) ≠ 0

/-! ### Abridging -/

/-- A number by its first 64 binary digits, zeros after them. -/
def abridged (n : Nat) : Nat :=
  let dropped := n.log2 + 1 - wordDigits
  let kept := n / Nat.pow 2 dropped
  (if hasTail n then kept ||| 1 else kept) * Nat.pow 2 dropped

theorem lowerWords_of_lt {n : Nat} (h : n.log2 < wordDigits) : lowerWords n = [] := by
  simp [lowerWords, Nat.div_eq_of_lt h]

theorem abridged_of_lt {n : Nat} (h : n.log2 < wordDigits) : abridged n = n := by
  have hdropped : n.log2 + 1 - wordDigits = 0 := Nat.sub_eq_zero_of_le h
  simp [abridged, hasTail, lowerWords_of_lt h, hdropped]

/-- The double nearest to an abridged integer. -/
def Double.ofAbridged (n : Int) : Double := ofRatio (n < 0) (abridged n.natAbs) 1

end CardBattle

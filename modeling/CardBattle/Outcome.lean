/-
The outcome of a battle.

* `Outcome` : undecided, or who won and on which turn;
* `Outcome.decide` : the outcome for the two actors' hit points. The player's knock-out is looked at
  first, so when both are knocked out the enemy wins;
* `Outcome.words` : the outcome in words, its turn yet to be written.

Main statement: `decide_eq_undecided_iff`.
-/
import CardBattle.Actors

namespace CardBattle

open Text (Wording number)

/-- Who won, and on which turn. -/
inductive Outcome where
  | undecided
  | playerWins (turn : Int)
  | enemyWins (turn : Int)
  deriving DecidableEq, Repr

namespace Outcome

/-- The outcome on a turn. -/
def decide (enemyHitPoints playerHitPoints turn : Int) : Outcome :=
  if playerHitPoints ≤ 0 then .enemyWins turn
  else if enemyHitPoints ≤ 0 then .playerWins turn
  else .undecided

/-- Whether the battle is decided. -/
def isOver : Outcome → Bool
  | .undecided => false
  | _ => true

/-- The turn that decided the battle. -/
def turn? : Outcome → Option Int
  | .undecided => none
  | .playerWins turn => some turn
  | .enemyWins turn => some turn

/-- The outcome in words. -/
def words : Outcome → Wording
  | .undecided => "No one has won yet"
  | .playerWins turn => "The Player won on turn #" ++ number turn
  | .enemyWins turn => "The enemy won on turn #" ++ number turn

/-- The text of the outcome, however long its turn is. -/
def message (o : Outcome) : String := o.words.render

theorem decide_eq_undecided_iff {enemyHitPoints playerHitPoints turn : Int} :
    decide enemyHitPoints playerHitPoints turn = .undecided ↔
      0 < playerHitPoints ∧ 0 < enemyHitPoints := by
  unfold decide
  split
  · next h => simp [Int.not_lt.mpr h]
  · next h =>
      split
      · next h' => simp [Int.not_lt.mpr h']
      · next h' => simp [Int.not_le.mp h, Int.not_le.mp h']

end Outcome

end CardBattle

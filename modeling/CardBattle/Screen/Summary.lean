/-
What a turn changed, and how a battle ended.

* `turnSummary` : hit points and power before and after a turn;
* `gameOver` : the outcome.
-/
import CardBattle.Battle
import CardBattle.Screen.Drawing
import CardBattle.Screen.Markup

namespace CardBattle.Screen

open Text (NumeralFault number signed)

/-! ### Changes -/

/-- The style of a change. -/
def changeStyle (change : Int) : Style :=
  if 0 < change then "green" else if change < 0 then "red" else "dim"

/-- A value and its change. -/
def changeRow (name : String) (before now : Int) : Except NumeralFault (List StyledText) := do
  let change := now - before
  return [.ofString name, ← StyledText.ofWording (number now),
    ← StyledText.ofWording (signed change) (changeStyle change)]

/-- Hit points and power before and after a turn. -/
def changeTable (before now : Battle) (label : String) : Except NumeralFault Drawing := do
  return .table
    { title := .ofString label
      headers := ["", "Now", "Change"]
      rows :=
        [← changeRow "Player HP" before.player.hitPoints now.player.hitPoints,
          ← changeRow "Player power" before.player.reserve now.player.reserve,
          ← changeRow s!"{now.enemy.name} HP" before.enemy.hitPoints now.enemy.hitPoints] }

/-- The number of cards that left the hand; negative if cards came. -/
def discarded (before now : Battle) : Int :=
  before.player.cards.length - now.player.cards.length

/-- The changes of a turn, and the number of cards that left the hand if there were any. -/
def turnSummary (before now : Battle) (label : String) :
    Except NumeralFault (List Drawing) := do
  let count := discarded before now
  return (← changeTable before now label)
    :: if 0 < count then [.text (Markup.render s!"[dim]{count} card(s) discarded[/dim]")] else []

/-! ### The end -/

/-- The style of an outcome. -/
def outcomeStyle : Outcome → Style
  | .playerWins _ => "bold green"
  | .enemyWins _ => "bold red"
  | .undecided => "bold yellow"

/-- The end of a battle. -/
def gameOver (b : Battle) : Drawing :=
  .panel
    { content := .ofString s!"Game finished. {b.outcome.message}" (outcomeStyle b.outcome) }

end CardBattle.Screen

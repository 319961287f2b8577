/-
How a battle stands.

* `playerPanel`, `enemyPanel`, `sides` : the two sides;
* `handTable` : the cards that can be asked for, under their numbers.
-/
import CardBattle.Battle
import CardBattle.Screen.Menu

namespace CardBattle.Screen

open Text (NumeralFault Wording number)

/-! ### The two sides -/

/-- More hit points than this look healthy. -/
def lowHitPoints : Int := 5

/-- A line for each enchantment. -/
def enchantmentLines (enchantments : List Enchantment) : List Part :=
  enchantments.map fun e => line ("  • " ++ e.description)

/-- The lines on the player of a battle. -/
def playerLines (b : Battle) : List Part :=
  let player := b.player
  let colour := if lowHitPoints < player.hitPoints then "green" else "red"
  [line ("HP: " ++ number player.hitPoints) s!"bold {colour}",
      line ("Power reserve: " ++ number player.reserve) "yellow",
      line ("Power next turn: " ++ number b.pool) "yellow"]
    ++ (if player.activated.isEmpty then []
        else line "Enchantments:" "bold" :: enchantmentLines player.activated)

/-- The player of a battle. -/
def playerPanel (b : Battle) : Except NumeralFault Panel := do
  return { title? := some "Player", content := ← StyledText.ofParts (playerLines b) }

/-- The lines on the enemy of a battle. -/
def enemyLines (enemy : Enemy) : List Part :=
  [line enemy.name "bold red", line ("HP: " ++ number enemy.hitPoints) "bold",
      line ("Defense: " ++ enemy.defense.description), line ("Attack: " ++ enemy.attackText)]
    ++ (enemy.onPlayerCard.map fun e => line ("  ⚡ " ++ e.trigger.description) "magenta")
    ++ enchantmentLines enemy.activated
    ++ (if enemy.skipsNext then [line "Skipping next turn" "italic green"] else [])

/-- The enemy of a battle. -/
def enemyPanel (enemy : Enemy) : Except NumeralFault Panel := do
  return { title? := some "Enemy", content := ← StyledText.ofParts (enemyLines enemy) }

/-- The two sides of a battle. -/
def sides (b : Battle) : Except NumeralFault Drawing := do
  return .columns [← playerPanel b, ← enemyPanel b.enemy]

/-! ### The hand -/

/-- The name of a card, and a mark if it cannot be played. -/
def cardName (card : Card) : StyledText :=
  let name := StyledText.ofString card.name
  if card.canPlay then name else name.append " (CAN'T PLAY)" "dim"

/-- The row of a card under a number. -/
def cardRow (place : Nat) (card : Card) : Except NumeralFault (List StyledText) := do
  return [← StyledText.ofWording (number place), cardName card,
    .ofString card.element.label card.element.colour, ← StyledText.ofWording (number card.cost),
    .ofString card.text]

/-- The cards of a hand under their numbers, which count from one. -/
def handTable (hand : List Card) : Except NumeralFault Drawing := do
  let rows ← (hand.zipIdx 1).mapM fun (card, place) => cardRow place card
  return .table
    { title := .ofString "Your Cards"
      headers := ["#", "Card", "Element", "Cost", "Description"]
      rows }

/-! ### The heading -/

/-- The heading of a turn. -/
def turnHeading (b : Battle) : StyledText := .ofString s!"Turn {b.turn}"

end CardBattle.Screen

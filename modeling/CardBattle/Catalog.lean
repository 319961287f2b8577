/-
Battles from the catalog.

* `Catalog.newBattle` : the start of a battle against a listed enemy;
* `Catalog.announcement` : the note on a new battle.
-/
import CardBattle.Card.Supply
import CardBattle.Catalog.Cards
import CardBattle.Catalog.Enemies
import CardBattle.Journal.Battle
import CardBattle.Settings

namespace CardBattle.Catalog

/-- The enemy that is fought where none is chosen. -/
def defaultSlug : String := "blackout"

/-- The hand that is dealt where none is chosen. -/
def starterHand (s : Supply) : List Card × Supply := s.deal starterTemplates

/-- The note on a new battle. -/
def announcement (source : Source) (enemy : Enemy) (cards : List Card) : Draft :=
  .kept .info source s!"New game against {enemy.name} with {cards.length} cards"

/-- The start of a battle of a hand against an enemy. -/
def opening (settings : Settings) (enemy : Enemy) (cards : List Card) :
    Except BattleError Battle := do
  let player ← Player.declare { hitPoints := settings.startingHitPoints, cards }
  return .start enemy player settings.powerPerTurn

/-- The start of a battle against a listed enemy. -/
def newBattle (settings : Settings) (slug : String) (cards : List Card) :
    Except BattleError Battle := do
  opening settings (← enemy slug) cards

/-- The notes on the start of a battle against a listed enemy. -/
def newBattleNotes (b : Battle) : List Draft :=
  announcement .catalog b.enemy b.player.cards :: b.startNotes

end CardBattle.Catalog

/-
The first screen of the game.

* `titlePanel` : the name of the game;
* `Enemy.attackText` : the attacks of an enemy in words;
* `enemyTable` : the enemies that can be chosen.
-/
import CardBattle.Enemy
import CardBattle.Screen.Drawing

namespace CardBattle

open Text (NumeralFault Wording number)

/-- The attacks of an enemy in words. -/
def Enemy.attackText (enemy : Enemy) : Wording :=
  if enemy.turnEnd.isEmpty then "-" else .joined ", " (enemy.turnEnd.map (·.trigger.description))

namespace Screen

/-- The lines of the title. -/
def titleLines : List String :=
  ["",
   "  ___  _                 _             ___                  _",
   " |   \\(_)___ __ _ _ __| |_ ___ _ _  | _ \\___ ____ __  ___ _ _  ___ ___",
   " | |) | (_-</ _` (_-<  _/ -_) '_| |   / -_|_-< '_ \\/ _ \\ ' \\(_-</ -_)",
   " |___/|_/__/\\__,_/__/\\__\\___|_|   |_|_\\___/__/ .__/\\___/_||_/__/\\___|",
   "                                             |_|",
   ""]

/-- The name of the game. -/
def titlePanel : Drawing :=
  .panel
    { title? := some "Card Game Simulator"
      content := .ofString ("\n".intercalate titleLines) "bold red" }

/-- The row of an enemy under a number. -/
def enemyRow (place : Nat) (enemy : Enemy) : Except NumeralFault (List StyledText) :=
  [number place, enemy.name, number enemy.hitPoints, enemy.attackText].mapM (StyledText.ofWording ·)

/-- Enemies under their numbers, which count from one. -/
def enemyTable (enemies : List Enemy) : Except NumeralFault Drawing := do
  let rows ← (enemies.zipIdx 1).mapM fun (enemy, place) => enemyRow place enemy
  return .centred
    { title := .ofString "Choose your disaster"
      headers := ["#", "Enemy", "HP", "Attack"]
      rows }

end Screen

end CardBattle

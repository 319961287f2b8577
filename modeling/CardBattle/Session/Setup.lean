/-
How a session is set up.

* `Setup` : what is known before a session starts;
* `Setup.battle` : the first snapshot, once the enemy is known.

A file of an enemy comes before a listed enemy, and an empty name counts as none.
-/
import CardBattle.Catalog
import CardBattle.Journal.Threshold
import CardBattle.Loading

namespace CardBattle

/-- What is known before a session starts. -/
structure Setup where
  settings : Settings := {}
  enemySlug? : Option String := none
  enemyFile? : Option String := none
  deckFile? : Option String := none
  files : FileTree := []
  /-- The notes that are shown on the terminal, if any are. -/
  terminal? : Option Threshold := none
  deriving Repr

/-- A name that is given and not empty. -/
def given (name? : Option String) : Option String := name?.filter (· ≠ "")

/-- Where the enemy of a session comes from. -/
inductive Foe where
  | file (path : String)
  | listed (slug : String)
  deriving DecidableEq, Repr

namespace Setup

/-- Where the enemy comes from, if that is known. -/
def foe? (s : Setup) : Option Foe :=
  match given s.enemyFile? with
  | some path => some (.file path)
  | none => (given s.enemySlug?).map .listed

/-- The enemy. -/
def enemy (s : Setup) : Foe → Except Failure Enemy
  | .file path => loadEnemy s.files path
  | .listed slug => (Catalog.enemy slug).mapError .battle

/-- The player, with the deck of the file or else the starter hand. -/
def player (s : Setup) : Except Failure Player :=
  match given s.deckFile? with
  | some path => (loadPlayer s.files path s.settings.startingHitPoints {}).map (·.1)
  | none =>
      (Player.declare
        { hitPoints := s.settings.startingHitPoints
          cards := (Catalog.starterHand {}).1 }).mapError .battle

/-- The first snapshot. -/
def battle (s : Setup) (foe : Foe) : Except Failure Battle := do
  let enemy ← s.enemy foe
  let player ← s.player
  return .start enemy player s.settings.powerPerTurn

/-- Who announces the battle: the catalog if all of it is listed. -/
def announcer (s : Setup) : Foe → Source
  | .listed _ => if (given s.deckFile?).isNone then .catalog else .application
  | .file _ => .application

/-- The notes on the first snapshot. -/
def openingNotes (s : Setup) (foe : Foe) (b : Battle) : List Draft :=
  Catalog.announcement (s.announcer foe) b.enemy b.player.cards :: b.startNotes

/-- Whether a draft has to be worded for the terminal. -/
def watches (s : Setup) (d : Draft) : Bool := s.terminal?.any (·.keeps d.level)

end Setup

end CardBattle

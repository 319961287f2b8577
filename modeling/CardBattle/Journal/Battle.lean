/-
Notes on battles.

* `Battle.startNotes` : the note on the activated enchantments;
* `Battle.playerTurnNotes` : the fates of the requests, then the effects, then the outcome if the
  turn decides it;
* `Battle.enemyTurnNotes` : the effects, the skip if there is one, then the outcome;
* `Battle.roundNotes`, `Battle.alternateNotes` : the notes on a round and on a whole battle.
-/
import CardBattle.Battle.Alternation
import CardBattle.Journal.Actors

namespace CardBattle

open Text (Wording number)

/-! ### Requests -/

/-- The notes on the effects of the enemy that answer a played card. -/
def Enemy.counterNotes (enemy : Enemy) (element : Element) : List Draft :=
  (enemy.counters element).filterMap fun e =>
    e.payload?.map fun payload =>
      .told .info .play
        (s!"Player causes counter effect on {e.target.label} due to casting spell of element "
          ++ s!"{element.label}: " ++ payload.description)

/-- The notes on a verdict. -/
def Verdict.notes (enemy : Enemy) (card : Card) : Verdict → List Draft
  | .unplayable => [.kept .info .play s!"Cannot play card: {card.name}"]
  | .forbidden => [.kept .info .play s!"Cannot play card: {card.name} (element forbidden)"]
  | .unaffordable cost available =>
      [.kept .info .play
        (s!"Cannot play card: {card.name} (cost " ++ number cost ++ ", power " ++ number available
          ++ ")")]
  | .accepted working _ =>
      .told .info .play ("Play card: " ++ working.displayName) :: enemy.counterNotes working.element

/-- The notes on the fate of a request. -/
def Fate.notes (enemy : Enemy) : Fate → List Draft
  | .absent request =>
      [.told .warning .battle ("Card not in hand, skipped: " ++ request.displayName)]
  | .judged card verdict => verdict.notes enemy card

namespace Battle

/-! ### Turns -/

/-- The note on the first snapshot of a battle. -/
def startNotes (b : Battle) : List Draft :=
  [.told .info .battle
    ("Game starting with global enchantments: enemy ["
      ++ Enchantment.descriptions b.enemy.activated ++ "] player ["
      ++ Enchantment.descriptions b.player.activated ++ "]")]

/-- The note on a snapshot that a turn decides. -/
def outcomeNotes : Except Double.Fault Battle → List Draft
  | .ok b => if b.isOver then [.told .info .battle b.outcome.words] else []
  | .error _ => []

/-- The notes on the player's turn. -/
def playerTurnNotes (b : Battle) (requests : List Card) : List Draft :=
  if b.isOver then [.kept .debug .battle "Player turn ignored: match already decided"]
  else
    (b.fates requests).flatMap (·.notes b.enemy)
      ++ (Actors.mk b.enemy b.readyPlayer).runNotes (b.playerTurnEffects requests)
      ++ outcomeNotes (b.playerTurn requests)

/-- The notes on the enemy's own phase. -/
def enemyPhaseNotes (actors : Actors) : List Draft :=
  if actors.enemy.skipsNext then [.kept .info .battle s!"{actors.enemy.name} skips its turn"]
  else actors.runNotes (enemyPhaseEffects actors.enemy)

/-- The notes on the enemy's turn. -/
def enemyTurnNotes (b : Battle) : List Draft :=
  if b.isOver then [.kept .debug .battle "Enemy turn ignored: match already decided"]
  else
    b.actors.runNotes b.enemy.oneShot
      ++ (match b.actors.run b.enemy.oneShot with
          | .error _ => []
          | .ok queued => enemyPhaseNotes queued)
      ++ outcomeNotes b.enemyTurn

/-! ### Whole battles -/

/-- The note on a battle that is stopped before it is decided. -/
def stopNotes (b : Battle) : List Draft :=
  [.kept .info .battle s!"Match stopped by driver on turn {b.turn}"]

/-- The notes on a round. -/
def roundNotes (b : Battle) (cards : List Card) : List Draft :=
  b.playerTurnNotes cards ++
    match b.playerTurn cards with
    | .error _ => []
    | .ok played => if played.isOver then [] else played.enemyTurnNotes

/-- The notes on rounds under choices. -/
def alternateNotes (cap? : Option Int) : List Choice → Battle → List Draft
  | [], b => if b.asks cap? then b.stopNotes else []
  | choose :: rest, b =>
      if b.asks cap? then
        match choose b with
        | none => b.stopNotes
        | some cards =>
            b.roundNotes cards ++
              match b.round cards with
              | .error _ => []
              | .ok next => next.alternateNotes cap? rest
      else []

end Battle

end CardBattle

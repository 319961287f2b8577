/-
Battles.

* `Battle` : a snapshot of a battle;
* `Battle.start` : the first snapshot, with the activated enchantments of both sides;
* `Battle.playerTurn` : the requests are judged against the hand and the power at the start of the
  turn, then all effects of the turn are resolved in one run;
* `Battle.enemyTurn` : the queue first, then, unless the turn is skipped, the enemy's own effects.

A decided battle stays as it is. Main statements: `playerTurn_of_isOver`, `enemyTurn_of_isOver`,
`turn_playerTurn` and `turn_enemyTurn`.
-/
import CardBattle.Battle.Activation
import CardBattle.Outcome
import CardBattle.Play

namespace CardBattle

/-- A snapshot of a battle. -/
structure Battle where
  enemy : Enemy
  player : Player
  turn : Int := 1
  outcome : Outcome := .undecided
  powerPerTurn : Int := 3
  deriving DecidableEq, Repr

/-! ### Plans -/

/-- What becomes of a request in a plan. -/
inductive Fate where
  /-- No card of its id is in the hand. -/
  | absent (request : Card)
  /-- The card in the hand is judged in its place. -/
  | judged (card : Card) (verdict : Verdict)
  deriving DecidableEq, Repr

namespace Fate

/-- The effects that a request brings about. -/
def effects : Fate → List Effect
  | .absent _ => []
  | .judged _ verdict => verdict.effects

/-- The power that a request costs. -/
def spent : Fate → Int
  | .absent _ => 0
  | .judged _ verdict => verdict.spent

end Fate

/-- The fate of each request, in order, where some power is left. -/
def plan (player : Player) (enemy : Enemy) : Int → List Card → List Fate
  | _, [] => []
  | available, request :: rest =>
      let fate :=
        match player.find? request.id with
        | none => .absent request
        | some card => .judged card (judge player enemy card available)
      fate :: plan player enemy (available - fate.spent) rest

namespace Battle

/-- The two actors of a battle. -/
def actors (b : Battle) : Actors := ⟨b.enemy, b.player⟩

/-- Whether the battle is decided. -/
def isOver (b : Battle) : Bool := b.outcome.isOver

/-- The first snapshot of a battle. Enchantments that were active before do not count. -/
def start (enemy : Enemy) (player : Player) (powerPerTurn : Int) : Battle :=
  let actors : Actors := ⟨enemy, player⟩
  { enemy := { enemy with activated := actors.activatedFor .enemy actors.declarations }
    player := { player with activated := actors.activatedFor .player actors.declarations }
    powerPerTurn }

/-! ### The player's turn -/

/-- The power of the player's turn. -/
def pool (b : Battle) : Int := b.player.powerForTurn b.powerPerTurn

/-- The player at the start of its turn, with the power of the turn in reserve. -/
def readyPlayer (b : Battle) : Player := { b.player with reserve := b.pool }

/-- The fates of the requests of a turn. -/
def fates (b : Battle) (requests : List Card) : List Fate :=
  plan b.readyPlayer b.enemy b.pool requests

/-- The effects of the player's turn: those of the hand and of the enemy at its start, those of the
played cards, and those at its end. -/
def playerTurnEffects (b : Battle) (requests : List Card) : List Effect :=
  b.readyPlayer.turnStart ++ b.enemy.playerTurnStart ++ (b.fates requests).flatMap (·.effects)
    ++ b.readyPlayer.turnEnd

/-- The snapshot with two actors and the outcome that their hit points give. -/
def settled (b : Battle) (actors : Actors) : Battle :=
  { b with
    enemy := actors.enemy
    player := actors.player
    outcome := .decide actors.enemy.hitPoints actors.player.hitPoints b.turn }

/-- The snapshot after the player's turn. -/
def playerTurn (b : Battle) (requests : List Card) : Except Double.Fault Battle :=
  if b.isOver then .ok b
  else ((Actors.mk b.enemy b.readyPlayer).run (b.playerTurnEffects requests)).map b.settled

/-! ### The enemy's turn -/

/-- The effects of the enemy's own phase. -/
def enemyPhaseEffects (enemy : Enemy) : List Effect := enemy.turnStartEffects ++ enemy.turnEnd

/-- The two actors after the enemy's own phase, which a pending skip suppresses. -/
def enemyPhase (actors : Actors) : Except Double.Fault Actors :=
  if actors.enemy.skipsNext then .ok actors
  else actors.run (enemyPhaseEffects actors.enemy)

/-- The snapshot at the end of the enemy's turn. -/
def closed (b : Battle) (actors : Actors) : Battle :=
  { b.settled actors with enemy := actors.enemy.settle, turn := b.turn + 1 }

/-- The snapshot after the enemy's turn. -/
def enemyTurn (b : Battle) : Except Double.Fault Battle :=
  if b.isOver then .ok b
  else do
    let queued ← b.actors.run b.enemy.oneShot
    return b.closed (← enemyPhase queued)

/-! ### Small laws -/

theorem playerTurn_of_isOver {b : Battle} (h : b.isOver = true) (requests : List Card) :
    b.playerTurn requests = .ok b := by
  simp [playerTurn, h]

theorem enemyTurn_of_isOver {b : Battle} (h : b.isOver = true) : b.enemyTurn = .ok b := by
  simp [enemyTurn, h]

theorem turn_playerTurn {b next : Battle} {requests : List Card}
    (h : b.playerTurn requests = .ok next) : next.turn = b.turn := by
  unfold playerTurn at h
  split at h
  · cases h; rfl
  · cases hrun : (Actors.mk b.enemy b.readyPlayer).run (b.playerTurnEffects requests) with
    | error f => simp [hrun, Except.map] at h
    | ok actors => simp [hrun, Except.map] at h; simp [← h, settled]

theorem turn_enemyTurn {b next : Battle} (hover : b.isOver = false) (h : b.enemyTurn = .ok next) :
    next.turn = b.turn + 1 := by
  simp only [enemyTurn, hover, Bool.false_eq_true, ↓reduceIte, bind, Except.bind] at h
  cases hqueue : b.actors.run b.enemy.oneShot with
  | error f => simp [hqueue] at h
  | ok queued =>
      cases hphase : enemyPhase queued with
      | error f => simp [hqueue, hphase] at h
      | ok actors => simp [hqueue, hphase, pure, Except.pure] at h; simp [← h, closed]

end Battle

end CardBattle

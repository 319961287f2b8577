/-
The enemy.

* `Enemy` : hit points, a defense and the effects it declares for each occasion;
* `Enemy.create` : an enemy with a base attack;
* `Enemy.receive` : the enemy after a trigger aimed at it, given the elements of the hand.

The skip flag and the queue of one-shot effects are the only parts that do not outlast an enemy
turn. Main statements: `receive_when_of_not`, `settle_settle`.
-/
import CardBattle.Effect.Templates

namespace CardBattle

open Text (Wording number)

/-- The enemy's side of a battle. -/
structure Enemy where
  name : String
  hitPoints : Int
  defense : Defense := {}
  /-- Whether the next turn of the enemy is skipped. -/
  skipsNext : Bool := false
  turnStart : List Effect := []
  turnEnd : List Effect := []
  /-- Effects that are resolved once, at the next turn of the enemy. -/
  oneShot : List Effect := []
  playerTurnStart : List Effect := []
  onPlayerCard : List Effect := []
  /-- Enchantments that are activated at the start of a battle. -/
  declared : List Effect := []
  activated : List Enchantment := []
  deriving DecidableEq, Repr

namespace Enemy

/-- An enemy whose turn ends with its base attack, if it has one. -/
def create (name : String) (hitPoints : Int) (defense : Defense) (turnDamage : Int) : Enemy :=
  { name, hitPoints, defense, turnEnd := if turnDamage = 0 then [] else [.enemyAttack turnDamage] }

/-! ### More effects -/

/-- The enemy with one more effect at the start of its turn. -/
def withTurnStart (enemy : Enemy) (e : Effect) : Enemy :=
  { enemy with turnStart := enemy.turnStart ++ [e] }

/-- The enemy with one more effect at the end of its turn. -/
def withTurnEnd (enemy : Enemy) (e : Effect) : Enemy :=
  { enemy with turnEnd := enemy.turnEnd ++ [e] }

/-- The enemy with one more effect at the start of the player's turn. -/
def withPlayerTurnStart (enemy : Enemy) (e : Effect) : Enemy :=
  { enemy with playerTurnStart := enemy.playerTurnStart ++ [e] }

/-- The enemy with one more effect that answers a played card. -/
def withPlayerCard (enemy : Enemy) (e : Effect) : Enemy :=
  { enemy with onPlayerCard := enemy.onPlayerCard ++ [e] }

/-- The enemy with one more enchantment to activate. -/
def withDeclared (enemy : Enemy) (e : Effect) : Enemy :=
  { enemy with declared := enemy.declared ++ [e] }

/-! ### Queries -/

/-- Whether the enemy is knocked out. -/
def isDefeated (enemy : Enemy) : Bool := enemy.hitPoints ≤ 0

/-- The regeneration that an enchantment brings at the start of a turn. -/
def regeneration (amount : Int) : Effect :=
  .onEnemy "Enemy Regeneration" (.always (.life amount))

/-- The effects at the start of a turn: the declared ones, then regeneration. -/
def turnStartEffects (enemy : Enemy) : List Effect :=
  enemy.turnStart ++ (enemy.activated.filterMap (·.lifePerTurn?)).map regeneration

/-- The enemy in words. -/
def description (enemy : Enemy) : Wording :=
  s!"{enemy.name} - HP [" ++ number enemy.hitPoints ++ "]\n"
    ++ "  * Defense [" ++ enemy.defense.description ++ "]\n"
    ++ "  * Start Turn Effects [" ++ Effect.descriptions enemy.turnStart ++ "]\n"
    ++ "  * End Turn Effects [" ++ Effect.descriptions enemy.turnEnd ++ "]\n"
    ++ "  * Player Start Turn Effects [" ++ Effect.descriptions enemy.playerTurnStart ++ "]\n"
    ++ "  * Player Play Card Effects [" ++ Effect.descriptions enemy.onPlayerCard ++ "]\n"
    ++ "  * Current Enchantments [" ++ Enchantment.descriptions enemy.activated ++ "]"

/-! ### Receiving effects -/

/-- The mark that a skipped turn leaves in the queue. -/
def skipMark : Effect := .onEnemy "Skip Turn" (.always .skipTurn)

/-- The enemy after damage. -/
def takeDamage (enemy : Enemy) (damage : Damage) : Except Double.Fault Enemy :=
  (enemy.defense.resolve damage).map fun actual =>
    { enemy with hitPoints := enemy.hitPoints - actual }

/-- The neutral damage of a fraction of the enemy's hit points. -/
def fractionDamage (enemy : Enemy) (fraction : Double) : Except Double.Fault Damage :=
  (percentOf enemy.hitPoints fraction).map fun amount => ⟨amount, .neutral⟩

/-- The enemy with its next turn skipped. -/
def markSkipped (enemy : Enemy) : Enemy :=
  { enemy with skipsNext := true, oneShot := enemy.oneShot ++ [skipMark] }

/-- The enemy after a payload. -/
def apply (enemy : Enemy) : Payload → Except Double.Fault Enemy
  | .damage damage => enemy.takeDamage damage
  | .life amount => .ok { enemy with hitPoints := enemy.hitPoints + amount }
  | .percentDamage fraction => do enemy.takeDamage (← enemy.fractionDamage fraction)
  | .skipTurn => .ok enemy.markSkipped
  | .power _ => .ok enemy
  | .grant _ => .ok enemy

/-- The enemy after a trigger, where the player's hand holds the given elements. -/
def receive (enemy : Enemy) (hand : List Element) : Trigger → Except Double.Fault Enemy
  | .always payload => enemy.apply payload
  | .when condition payload =>
      if condition.ofEnemy && condition.inHand hand then enemy.apply payload else .ok enemy
  | .discard _ => .ok enemy

/-- The enemy at the end of its turn: the skip flag and the queue are cleared. -/
def settle (enemy : Enemy) : Enemy := { enemy with skipsNext := false, oneShot := [] }

theorem receive_when_of_not {enemy : Enemy} {hand : List Element} {condition : Condition}
    {payload : Payload} (h : condition.inHand hand = false) :
    enemy.receive hand (.when condition payload) = .ok enemy := by
  simp [receive, h]

theorem settle_settle (enemy : Enemy) : enemy.settle.settle = enemy.settle := rfl

end Enemy

end CardBattle

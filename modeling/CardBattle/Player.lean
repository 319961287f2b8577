/-
The player.

* `Player` : hit points, the hand, the power carried over and the active enchantments;
* `Player.declare` : a player, refused if two cards share an id;
* `Player.powerForTurn` : the power of a turn;
* `Player.receive` : the player after a trigger aimed at it.

Main statements: `receive_when_of_not`, a condition that is false of the hand changes nothing;
`mem_cards_discard`, a discard removes the cards of its id and no others.
-/
import CardBattle.Card
import CardBattle.Effect.Templates

namespace CardBattle

open Text (Wording number)

/-- The player's side of a battle. -/
structure Player where
  hitPoints : Int
  cards : List Card := []
  reserve : Int := 0
  activated : List Enchantment := []
  deriving DecidableEq, Repr

namespace Player

/-- A player, refused if two cards share an id. -/
def declare (player : Player) : Except BattleError Player :=
  match Card.firstRepeat? (player.cards.map (·.id)) with
  | some id => .error (.duplicateCard id none)
  | none => .ok player

/-! ### Queries -/

/-- The elements of the hand, in order. -/
def elements (player : Player) : List Element := player.cards.map (·.element)

/-- The card of an id. -/
def find? (player : Player) (id : String) : Option Card := player.cards.find? (·.id = id)

/-- Whether the player is knocked out. -/
def isDefeated (player : Player) : Bool := player.hitPoints ≤ 0

/-- The power of a turn: what was carried over, what each turn brings, and what enchantments
add. -/
def powerForTurn (player : Player) (grant : Int) : Int :=
  (player.activated.filterMap (·.powerPerTurn?)).foldl (· + ·) (player.reserve + grant)

/-- The effects of the hand at the start of a turn, in hand order. -/
def turnStart (player : Player) : List Effect := player.cards.flatMap (·.turnStart)

/-- The effects at the end of a turn: a heal for each enchantment of that kind. -/
def turnEnd (player : Player) : List Effect :=
  (player.activated.filterMap (·.lifePerTurn?)).map Effect.heal

/-- The active shields, in order of activation. -/
def shields (player : Player) : List Int := player.activated.filterMap (·.shield?)

/-- The player in words. -/
def description (player : Player) : Wording :=
  "HP [" ++ number player.hitPoints ++ "] Power [" ++ number player.reserve ++ "]\n"
    ++ "  * Enchantment Effects [" ++ Enchantment.descriptions player.activated ++ "]"

/-! ### Receiving effects -/

/-- The amount of damage that gets through the shields. -/
def taken (player : Player) (damage : Damage) : Int := absorb damage.amount player.shields

/-- The player after damage. -/
def takeDamage (player : Player) (damage : Damage) : Player :=
  { player with hitPoints := player.hitPoints - player.taken damage }

/-- The neutral damage of a fraction of the player's hit points. -/
def fractionDamage (player : Player) (fraction : Double) : Except Double.Fault Damage :=
  (percentOf player.hitPoints fraction).map fun amount => ⟨amount, .neutral⟩

/-- The player after a payload. -/
def apply (player : Player) : Payload → Except Double.Fault Player
  | .damage damage => .ok (player.takeDamage damage)
  | .life amount => .ok { player with hitPoints := player.hitPoints + amount }
  | .power amount => .ok { player with reserve := player.reserve + amount }
  | .percentDamage fraction => (player.fractionDamage fraction).map player.takeDamage
  | .grant _ => .ok player
  | .skipTurn => .ok player

/-- The player without the cards of an id. -/
def discard (player : Player) (cardId : String) : Player :=
  { player with cards := player.cards.filter (·.id ≠ cardId) }

/-- The player after a trigger. -/
def receive (player : Player) : Trigger → Except Double.Fault Player
  | .always payload => player.apply payload
  | .when condition payload =>
      if condition.inHand player.elements then player.apply payload else .ok player
  | .discard cardId => .ok (player.discard cardId)

theorem receive_when_of_not {player : Player} {condition : Condition} {payload : Payload}
    (h : condition.inHand player.elements = false) :
    player.receive (.when condition payload) = .ok player := by
  simp [receive, h]

theorem mem_cards_discard {player : Player} {cardId : String} {card : Card} :
    card ∈ (player.discard cardId).cards ↔ card ∈ player.cards ∧ card.id ≠ cardId := by
  simp [discard]

end Player

end CardBattle

/-
What becomes of a card that the player asks to play.

* `Card.enchantedBy` : a card under active enchantments;
* `Card.boundEffects` : its play effects, discards bound to the card itself;
* `Enemy.counters` : the effects of the enemy that answer a played card;
* `Verdict` : the fate of a request; only an accepted one costs power and has effects.

Main statements: `enchantedBy_append`; `judge_accepted_effects`, the effects of an accepted card.
-/
import CardBattle.Actors

namespace CardBattle

/-! ### Enchanting a card -/

/-- Enchantments do not lower a cost below this. -/
def leastCost : Int := 1

namespace Card

/-- The extra damage that an enchantment adds to a played card. -/
def extraDamage (element : Element) (amount : Int) : Effect :=
  .onEnemy "Spell Damage Adjust Effect" (.always (.damage ⟨amount, element⟩))

/-- A card under one enchantment. -/
def enchant (card : Card) (e : Enchantment) : Card :=
  if e.touches card.element then
    match e with
    | .spellCost _ amount => { card with cost := max leastCost (card.cost + amount) }
    | .spellDamage element amount => card.withPlay (extraDamage element amount)
    | .forbidden _ => { card with canPlay := false }
    | _ => card
  else card

/-- A card under enchantments, in order. -/
def enchantedBy (card : Card) (es : List Enchantment) : Card := es.foldl enchant card

/-- The play effects of a card, discards bound to the card itself. -/
def boundEffects (card : Card) : List Effect :=
  card.onPlay.map fun e => if e.isDiscard then .onPlayer "Discard" (.discard card.id) else e

theorem enchantedBy_append (card : Card) (first second : List Enchantment) :
    card.enchantedBy (first ++ second) = (card.enchantedBy first).enchantedBy second := by
  simp [enchantedBy]

end Card

/-! ### Counter-effects -/

namespace Enemy

/-- The effect that an enemy's declaration becomes when a card of the element is played: a
declaration that waits for it fires, aimed where it was declared, and no other one does. -/
def counter? (element : Element) (e : Effect) : Option Effect :=
  match e.trigger with
  | .when condition payload =>
      if condition.isPlayEvent && condition.byPlay element then
        some { e with trigger := .always payload }
      else none
  | _ => none

/-- The effects of the enemy that answer a played card of the element, in order. -/
def counters (enemy : Enemy) (element : Element) : List Effect :=
  enemy.onPlayerCard.filterMap (counter? element)

end Enemy

/-! ### Verdicts -/

/-- The fate of a card that the player asks to play. -/
inductive Verdict where
  /-- The card only counts by being held. -/
  | unplayable
  /-- An enchantment forbids its element. -/
  | forbidden
  /-- Its cost is above the power that is left. -/
  | unaffordable (cost available : Int)
  /-- It is played; `working` is the card under the active enchantments. -/
  | accepted (working : Card) (effects : List Effect)
  deriving DecidableEq, Repr

namespace Verdict

/-- The effects of a verdict. -/
def effects : Verdict → List Effect
  | .accepted _ effects => effects
  | _ => []

/-- The power that a verdict costs. -/
def spent : Verdict → Int
  | .accepted working _ => working.cost
  | _ => 0

/-- Whether the card is played. -/
def isAccepted : Verdict → Bool
  | .accepted .. => true
  | _ => false

end Verdict

/-- The power that a played card takes from the reserve. -/
def costEffect (cost : Int) : Effect := .onPlayer "Power Cost" (.always (.power (-cost)))

/-- The card as it is played by the player. -/
def Player.enchant (player : Player) (card : Card) : Card := card.enchantedBy player.activated

/-- The effects of a card that is played: its cost, its own effects, then the enemy's answers. -/
def playedEffects (enemy : Enemy) (working : Card) : List Effect :=
  costEffect working.cost :: (working.boundEffects ++ enemy.counters working.element)

/-- The fate of a card, where some power is left. -/
def judge (player : Player) (enemy : Enemy) (card : Card) (available : Int) : Verdict :=
  if !card.canPlay then .unplayable
  else
    let working := player.enchant card
    if !working.canPlay then .forbidden
    else if available < working.cost then .unaffordable working.cost available
    else .accepted working (playedEffects enemy working)

theorem judge_accepted_effects {player : Player} {enemy : Enemy} {card working : Card}
    {available : Int} {effects : List Effect}
    (h : judge player enemy card available = .accepted working effects) :
    working = player.enchant card ∧ effects = playedEffects enemy working := by
  unfold judge at h
  split at h
  · cases h
  · dsimp only at h
    split at h
    · cases h
    · split at h
      · cases h
      · cases h; exact ⟨rfl, rfl⟩

end CardBattle

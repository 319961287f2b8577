/-
Enchantments that are activated at the start of a battle.

* `Actors.declarations` : what may be activated, the enemy's first, then the hand's;
* `Actors.activates?` : the enchantment that a declaration activates;
* `Actors.activatedFor` : the enchantments of one side, in the order of their declarations.

A condition on the player's side is put to the hand; on the enemy's side it is put to the enemy,
which fails none.
-/
import CardBattle.Actors

namespace CardBattle.Actors

/-- The declarations of a battle: the enemy's, then those of each card in hand order. -/
def declarations (actors : Actors) : List Effect :=
  actors.enemy.declared ++ actors.player.cards.flatMap (·.gameStart)

/-- Whether a condition holds for a declaration that is aimed at a side. -/
def admits (actors : Actors) (side : Side) (condition : Condition) : Bool :=
  match side with
  | .player => condition.inHand actors.player.elements
  | .enemy => condition.ofEnemy

/-- The enchantment that a declaration activates. -/
def activates? (actors : Actors) (e : Effect) : Option Enchantment :=
  match e.trigger with
  | .always (.grant enchantment) => some enchantment
  | .when condition (.grant enchantment) =>
      if actors.admits e.target condition then some enchantment else none
  | _ => none

/-- The enchantments that declarations activate for a side. -/
def activatedFor (actors : Actors) (side : Side) (declarations : List Effect) : List Enchantment :=
  (declarations.filter (·.target = side)).filterMap actors.activates?

theorem activatedFor_append (actors : Actors) (side : Side) (first second : List Effect) :
    actors.activatedFor side (first ++ second)
      = actors.activatedFor side first ++ actors.activatedFor side second := by
  simp [activatedFor]

end CardBattle.Actors

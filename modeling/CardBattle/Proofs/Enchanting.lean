/-
What the active enchantments make of a card.

* `Enchantment.costChange?`, `Enchantment.extraDamage?`, `Enchantment.forbids` : what an enchantment
  changes about a card of an element;
* `enchantedBy_eq` : cost, play effects and playability each follow from the enchantments that
  change them, however those are mixed with others; all else about the card stays as it is;
* `enchant_closedForm` : so it is for a card of a player, and the cost is the greatest of the sums
  that it can come to above the least cost of one.
-/
import CardBattle.Catalog.Cards
import CardBattle.Play
import CardBattle.Proofs.Clamped
import Mathlib.Tactic

namespace CardBattle

/-! ### What an enchantment changes -/

namespace Enchantment

/-- The change of the cost of cards of an element. -/
def costChange? (element : Element) : Enchantment → Option Int
  | .spellCost own amount => if own = element ∨ own = .neutral then some amount else none
  | _ => none

/-- The effect that cards of an element have besides their own when they are played. -/
def extraDamage? (element : Element) : Enchantment → Option Effect
  | .spellDamage own amount => if own = element then some (Card.extraDamage own amount) else none
  | _ => none

/-- Whether cards of an element cannot be played. -/
def forbids (element : Element) : Enchantment → Bool
  | .forbidden own => own = element
  | _ => false

end Enchantment

namespace Card

/-- One enchantment changes the cost, adds an effect, forbids the card, or does nothing. -/
lemma enchant_eq (card : Card) (e : Enchantment) :
    card.enchant e =
      { card with
        cost := clamped leastCost card.cost (e.costChange? card.element).toList
        canPlay := card.canPlay && !e.forbids card.element
        onPlay := card.onPlay ++ (e.extraDamage? card.element).toList } := by
  cases e with
  | spellCost own amount =>
      by_cases htouches : own = card.element ∨ own = .neutral <;>
        simp [enchant, Enchantment.touches, Enchantment.touches?, Enchantment.costChange?,
          Enchantment.extraDamage?, Enchantment.forbids, htouches]
  | spellDamage own amount =>
      by_cases htouches : own = card.element <;>
        simp [enchant, withPlay, Enchantment.touches, Enchantment.touches?,
          Enchantment.costChange?, Enchantment.extraDamage?, Enchantment.forbids, htouches]
  | forbidden own =>
      by_cases htouches : own = card.element <;>
        simp [enchant, Enchantment.touches, Enchantment.touches?, Enchantment.costChange?,
          Enchantment.extraDamage?, Enchantment.forbids, htouches]
  | _ =>
      simp [enchant, Enchantment.touches, Enchantment.touches?, Enchantment.costChange?,
        Enchantment.extraDamage?, Enchantment.forbids]

/-- Enchantments that change the cost, add effects and forbid the card do so apart from each other,
each kind in its own order. -/
theorem enchantedBy_eq (card : Card) (es : List Enchantment) :
    card.enchantedBy es =
      { card with
        cost := clamped leastCost card.cost (es.filterMap (·.costChange? card.element))
        canPlay := card.canPlay && !es.any (·.forbids card.element)
        onPlay := card.onPlay ++ es.filterMap (·.extraDamage? card.element) } := by
  induction es generalizing card with
  | nil => simp [enchantedBy]
  | cons e es ih =>
      have hcons {β : Type} (f : Enchantment → Option β) :
          (e :: es).filterMap f = (f e).toList ++ es.filterMap f := by
        cases h : f e <;> simp [h]
      calc card.enchantedBy (e :: es)
          = (card.enchant e).enchantedBy es := rfl
        _ = _ := by
            rw [ih, enchant_eq]
            simp only [hcons, clamped_append, List.any_cons, Bool.not_or, Bool.and_assoc,
              List.append_assoc]

end Card

/-! ### Cards of a player -/

namespace Player

/-- The changes of the cost of cards of an element, in the order of activation. -/
def costChanges (player : Player) (element : Element) : List Int :=
  player.activated.filterMap (·.costChange? element)

/-- Of a card that a player plays the active enchantments change the cost, the play effects and
whether it can be played, and nothing else. Damage of an enchantment for its element comes behind
its own play effects, in the order of activation, and it cannot be played if an enchantment forbids
its element. The cost stays as it is where no enchantment changes it. Else it is the greatest of the
sums of all changes with the cost and of the later changes with one; so it is at least one, and
where every change lowers it, it is what they leave of it above one. -/
theorem enchant_closedForm (player : Player) (card : Card) :
    ∃ cost, player.enchant card =
        { card with
          cost
          canPlay := card.canPlay && !player.activated.any (·.forbids card.element)
          onPlay := card.onPlay ++ player.activated.filterMap (·.extraDamage? card.element) }
      ∧ (player.costChanges card.element = [] → cost = card.cost)
      ∧ IsGreatest {x | x = card.cost + (player.costChanges card.element).sum
          ∨ ∃ k, 1 ≤ k ∧ k ≤ (player.costChanges card.element).length
              ∧ x = 1 + ((player.costChanges card.element).drop k).sum} cost
      ∧ (player.costChanges card.element ≠ [] → 1 ≤ cost)
      ∧ (player.costChanges card.element ≠ [] →
          (∀ change ∈ player.costChanges card.element, change < 0) →
            cost = max 1 (card.cost + (player.costChanges card.element).sum)) := by
  refine ⟨_, card.enchantedBy_eq player.activated, fun hnone => ?_,
    isGreatest_clamped leastCost card.cost _, floor_le_clamped, fun hsome hlower => ?_⟩
  · exact (congrArg (clamped leastCost card.cost) hnone).trans (clamped_nil _ _)
  · exact clamped_of_nonpos hsome fun change hchange => (hlower change hchange).le

/-- A player whose enchantments of all kinds are mixed. -/
def mixedPlayer : Player where
  hitPoints := 20
  activated :=
    [.spellCost .wind (-1), .shield 2, .spellDamage .wind 3, .spellCost .land 9,
      .spellCost .neutral (-4), .forbidden .water, .spellDamage .neutral 5, .lifePerTurn 1,
      .spellDamage .wind 1, .powerPerTurn 1]

/-- A jet blast of cost 2 is lowered by 1 and by 4, down to 1, and deals 3 and 1 extra damage. -/
theorem enchant_closedForm_jetBlast :
    mixedPlayer.costChanges .wind = [-1, -4]
      ∧ ∃ cost, mixedPlayer.enchant (Catalog.jetBlast "jet") =
          { Catalog.jetBlast "jet" with
            cost
            onPlay := [.elementDamage .wind 6, .discardThis, Card.extraDamage .wind 3,
              Card.extraDamage .wind 1] }
        ∧ 1 ≤ cost ∧ cost = max 1 (2 + (-1 + -4)) := by
  have hchanges : mixedPlayer.costChanges .wind = [-1, -4] := rfl
  have hsome : mixedPlayer.costChanges (Catalog.jetBlast "jet").element ≠ [] := by decide
  have hlower : ∀ change ∈ mixedPlayer.costChanges (Catalog.jetBlast "jet").element,
      change < 0 := by decide
  obtain ⟨cost, hcard, _, _, hleast, hcost⟩ :=
    enchant_closedForm mixedPlayer (Catalog.jetBlast "jet")
  exact ⟨hchanges, cost, hcard, hleast hsome, hcost hsome hlower⟩

/-- Changes of both signs cost differently in another order. -/
example :
    ((Catalog.jetBlast "jet").enchantedBy [.spellCost .wind (-4), .spellCost .neutral 3]).cost = 4
      ∧ ((Catalog.jetBlast "jet").enchantedBy
          [.spellCost .neutral 3, .spellCost .wind (-4)]).cost = 1 := by
  decide

end Player

end CardBattle

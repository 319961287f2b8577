/-
What a discount does to the cost of a card.

* `Player.discounted` : a player with one more change of costs among the active enchantments;
  `affords_discounted_iff`: that player can play a card if the new cost is covered, and all else is
  as it was;
* `LiftsFreeCard` : where the least cost makes a discount raise the cost of a card that is free;
* `enchant_discounted` : a discount raises a cost there alone, by one, and refuses no play but one
  whose power was just the old cost.
-/
import CardBattle.Proofs.Verdicts
import Mathlib.Tactic

namespace CardBattle

variable {player : Player} {card : Card} {own : Element} {amount available : Int}
  {first rest : List Enchantment}

namespace Player

/-- The player whose active enchantments are some, then a change of the cost of cards of an element,
then some others. -/
def discounted (player : Player) (own : Element) (amount : Int) (first rest : List Enchantment) :
    Player :=
  { player with activated := first ++ .spellCost own amount :: rest }

lemma cost_enchant (player : Player) (card : Card) :
    (player.enchant card).cost
      = clamped leastCost card.cost (player.activated.filterMap (·.costChange? card.element)) := by
  rw [enchant, Card.enchantedBy_eq]

/-- A change of the cost of other cards leaves the cost as it is. -/
lemma cost_discounted_of_not (hsplit : player.activated = first ++ rest)
    (happlies : ¬ (own = card.element ∨ own = .neutral)) :
    ((player.discounted own amount first rest).enchant card).cost = (player.enchant card).cost := by
  have hnone : (Enchantment.spellCost own amount).costChange? card.element = none :=
    if_neg happlies
  rw [cost_enchant, cost_enchant, hsplit, discounted, List.filterMap_append, List.filterMap_append,
    List.filterMap_cons_none hnone]

/-- A change of the cost of the card comes between the changes before and behind it. -/
lemma cost_discounted (happlies : own = card.element ∨ own = .neutral) :
    ((player.discounted own amount first rest).enchant card).cost
      = clamped leastCost card.cost (first.filterMap (·.costChange? card.element)
        ++ amount :: rest.filterMap (·.costChange? card.element)) := by
  have hsome : (Enchantment.spellCost own amount).costChange? card.element = some amount :=
    if_pos happlies
  rw [cost_enchant, discounted, List.filterMap_append, List.filterMap_cons_some hsome]

/-- With one more change of costs a card can be played if its new cost is covered, and it could be
played apart from its cost. -/
lemma affords_discounted_iff (hsplit : player.activated = first ++ rest)
    (h : player.Affords card available) :
    (player.discounted own amount first rest).Affords card available
      ↔ ((player.discounted own amount first rest).enchant card).cost ≤ available := by
  refine ⟨fun hdiscounted => hdiscounted.covered, fun hcovered => ⟨h.playable, ?_, hcovered⟩⟩
  have hallowed := h.allowed
  rw [hsplit] at hallowed
  simpa [discounted] using hallowed

end Player

/-- Where one more change of costs lifts a card that is free to the least cost, for good: it is the
first one that applies to the card, and the later ones never bring its cost below the least. -/
structure LiftsFreeCard (card : Card) (own : Element) (first rest : List Enchantment) : Prop where
  free : card.cost = 0
  applies : own = card.element ∨ own = .neutral
  foremost : first.filterMap (·.costChange? card.element) = []
  unraised : NeverRaised leastCost card.cost (rest.filterMap (·.costChange? card.element))

/-- A discount that lifts a free card raises its cost by one. -/
lemma cost_discounted_of_lifts (hsplit : player.activated = first ++ rest) (hamount : amount ≤ 0)
    (h : LiftsFreeCard card own first rest) :
    ((player.discounted own amount first rest).enchant card).cost
      = (player.enchant card).cost + 1 := by
  have hlifted : max leastCost (card.cost + amount) = card.cost + 1 := by
    rw [h.free, leastCost]
    omega
  rw [Player.cost_discounted h.applies, Player.cost_enchant, hsplit, List.filterMap_append,
    h.foremost, List.nil_append, List.nil_append, clamped_cons, hlifted, clamped_add_one h.unraised]

/-- Any other discount leaves a cost lower or as it was. -/
lemma cost_discounted_le (hcard : 0 ≤ card.cost) (hsplit : player.activated = first ++ rest)
    (hamount : amount ≤ 0) (h : ¬ LiftsFreeCard card own first rest) :
    ((player.discounted own amount first rest).enchant card).cost
      ≤ (player.enchant card).cost := by
  by_cases happlies : own = card.element ∨ own = .neutral
  · rw [Player.cost_discounted happlies, Player.cost_enchant, hsplit, List.filterMap_append]
    by_cases hfree : card.cost = 0 ∧ first.filterMap (·.costChange? card.element) = []
    · obtain ⟨hcost, hforemost⟩ := hfree
      have hraised : ¬ NeverRaised leastCost card.cost
          (rest.filterMap (·.costChange? card.element)) := fun hunraised =>
        h ⟨hcost, happlies, hforemost, hunraised⟩
      have hlifted : max leastCost (card.cost + amount) = card.cost + 1 := by
        rw [hcost, leastCost]
        omega
      rw [hforemost, List.nil_append, List.nil_append, clamped_cons, hlifted,
        clamped_add_one_of_not hraised]
    · -- the cost is at the least cost or above when it comes to the discount
      refine clamped_insert_le hamount ?_
      by_cases hforemost : first.filterMap (·.costChange? card.element) = []
      · have hcost : card.cost ≠ 0 := fun hcost => hfree ⟨hcost, hforemost⟩
        rw [hforemost, clamped_nil, leastCost]
        omega
      · exact floor_le_clamped hforemost
  · exact (Player.cost_discounted_of_not hsplit happlies).le

/-- What is told at once of a card that is played can also be written if the card costs less. -/
lemma Enemy.Tells.of_cost_le {enemy : Enemy} {working cheaper : Card} (h : enemy.Tells working)
    (helement : cheaper.element = working.element) (hcheaper : 0 ≤ cheaper.cost)
    (hle : cheaper.cost ≤ working.cost) : enemy.Tells cheaper := by
  have hfewer : cheaper.cost.natAbs ≤ working.cost.natAbs := by omega
  have hshort := of_decide_eq_true h.cost
  exact ⟨decide_eq_true (hfewer.trans_lt hshort), helement ▸ h.answers⟩

/-- A discount never raises the cost of a card, and it never refuses a play that was accepted; but
if the card is free, the discount is the first change of its cost, and the later changes never bring
that below the least cost of one, then the discount raises it by one, and refuses the play whose
power was just the old cost. Where it does not raise the cost, what could be told at once of the
play still can be. -/
theorem enchant_discounted (player : Player) (card : Card) (own : Element)
    (hcard : 0 ≤ card.cost) (hsplit : player.activated = first ++ rest) (hamount : amount ≤ 0) :
    (¬ LiftsFreeCard card own first rest →
        ((player.discounted own amount first rest).enchant card).cost
          ≤ (player.enchant card).cost)
      ∧ (LiftsFreeCard card own first rest →
        ((player.discounted own amount first rest).enchant card).cost
          = (player.enchant card).cost + 1)
      ∧ ∀ enemy available, (judge player enemy card available).isAccepted = true →
        ((judge (player.discounted own amount first rest) enemy card available).isAccepted = true
          ↔ ¬ (LiftsFreeCard card own first rest ∧ available = (player.enchant card).cost))
          ∧ (¬ LiftsFreeCard card own first rest → enemy.Tells (player.enchant card) →
            enemy.Tells ((player.discounted own amount first rest).enchant card)) := by
  refine ⟨cost_discounted_le hcard hsplit hamount, cost_discounted_of_lifts hsplit hamount,
    fun enemy available h => ⟨?_, fun hlifts htells => ?_⟩⟩
  · have haffords := isAccepted_judge_iff.mp h
    rw [isAccepted_judge_iff, Player.affords_discounted_iff hsplit haffords]
    have hcovered := haffords.covered
    by_cases hlifts : LiftsFreeCard card own first rest
    · rw [cost_discounted_of_lifts hsplit hamount hlifts]
      simp only [hlifts, true_and]
      omega
    · have hle := cost_discounted_le hcard hsplit hamount hlifts
      simp only [hlifts, false_and, not_false_eq_true, iff_true]
      exact hle.trans hcovered
  · refine htells.of_cost_le ?_ (Player.cost_enchant_nonneg hcard)
      (cost_discounted_le hcard hsplit hamount hlifts)
    rw [Player.element_enchant, Player.element_enchant]

/-- A player under a surcharge of two. -/
def surchargedPlayer : Player := { hitPoints := 20, activated := [.spellCost .neutral 2] }

/-- A gust that costs nothing. -/
def freeGust : Card := { Catalog.gust "gust" with cost := 0 }

/-- In front of a surcharge of two, a discount of one lowers the cost of a jet blast from 4 to 3. It
raises the cost of a free gust from 2 to 3: a power of 3 still covers that, and a power of 2 does
not. -/
theorem enchant_discounted_surcharged :
    ¬ LiftsFreeCard (Catalog.jetBlast "jet") .wind [] [.spellCost .neutral 2]
      ∧ ((surchargedPlayer.discounted .wind (-1) [] [.spellCost .neutral 2]).enchant
          (Catalog.jetBlast "jet")).cost
        ≤ (surchargedPlayer.enchant (Catalog.jetBlast "jet")).cost
      ∧ LiftsFreeCard freeGust .wind [] [.spellCost .neutral 2]
      ∧ ((surchargedPlayer.discounted .wind (-1) [] [.spellCost .neutral 2]).enchant
          freeGust).cost
        = (surchargedPlayer.enchant freeGust).cost + 1
      ∧ (judge (surchargedPlayer.discounted .wind (-1) [] [.spellCost .neutral 2]) Catalog.floods
          freeGust 3).isAccepted = true
      ∧ (judge (surchargedPlayer.discounted .wind (-1) [] [.spellCost .neutral 2]) Catalog.floods
          freeGust 2).isAccepted = false := by
  have hnot : ¬ LiftsFreeCard (Catalog.jetBlast "jet") .wind [] [.spellCost .neutral 2] :=
    fun h => absurd h.free (by decide)
  have hlifts : LiftsFreeCard freeGust .wind [] [.spellCost .neutral 2] :=
    ⟨rfl, Or.inl rfl, rfl, neverRaised_cons_iff.mpr ⟨by decide, fun k hpos hle =>
      absurd (hpos.trans hle) (by simp)⟩⟩
  have hsplit : surchargedPlayer.activated = [] ++ [.spellCost .neutral 2] := rfl
  have hamount : (-1 : Int) ≤ 0 := by decide
  obtain ⟨hlower, _, _⟩ :=
    enchant_discounted surchargedPlayer (Catalog.jetBlast "jet") .wind (by decide) hsplit hamount
  obtain ⟨_, hhigher, hplays⟩ :=
    enchant_discounted surchargedPlayer freeGust .wind (by decide) hsplit hamount
  refine ⟨hnot, hlower hnot, hlifts, hhigher hlifts, ?_, ?_⟩
  · exact (hplays Catalog.floods 3 rfl).1.mpr fun h => absurd h.2 (by decide)
  · exact Bool.eq_false_iff.mpr fun h => (hplays Catalog.floods 2 rfl).1.mp h ⟨hlifts, rfl⟩

/-- A player without active enchantments. -/
def plainPlayer : Player := { hitPoints := 20 }

/-- A discount of one raises the cost of a free gust from 0 to 1, and without power it is not played
any more. -/
theorem cost_discounted_freeGust :
    (plainPlayer.enchant freeGust).cost = 0
      ∧ ((plainPlayer.discounted .neutral (-1) [] []).enchant freeGust).cost = 1
      ∧ (judge plainPlayer Catalog.floods freeGust 0).isAccepted = true
      ∧ (judge (plainPlayer.discounted .neutral (-1) [] []) Catalog.floods freeGust 0).isAccepted
        = false := by
  decide

end CardBattle

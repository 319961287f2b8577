/-
The requests of a turn and the cards that are played.

* `judge_eq_accepted_iff` : when a card is played, and what it brings about;
* `fateOf` : the fate of a request; `fateOf_cases`: it plays a card, whose cost is taken off the
  power that is left, or it is skipped at no cost and without effects;
* `Battle.played`, `Battle.costs` : the cards that a turn plays, under the active enchantments, and
  what they cost;
* `flatMap_effects_plan` : the requests bring about what the played cards do, and nothing else;
* `sum_take_costs_le` : the cards played so far never cost more than the power of the turn.
-/
import CardBattle.Battle
import Mathlib.Tactic

namespace CardBattle

variable {player : Player} {enemy : Enemy}

/-! ### Single requests -/

/-- A card is played if it can be, no enchantment forbids it and its cost is covered. -/
lemma judge_eq_accepted_iff {card working : Card} {available : Int} {effects : List Effect} :
    judge player enemy card available = .accepted working effects
      ↔ card.canPlay = true ∧ working = player.enchant card ∧ working.canPlay = true
        ∧ working.cost ≤ available ∧ effects = playedEffects enemy working := by
  constructor
  · intro h
    obtain ⟨rfl, heffects⟩ := judge_accepted_effects h
    rw [judge] at h
    dsimp only at h
    split_ifs at h with hcard hforbidden hcost
    exact ⟨by simpa using hcard, rfl, by simpa using hforbidden, not_lt.mp hcost, heffects⟩
  · rintro ⟨hcard, rfl, hworking, hcost, rfl⟩
    rw [judge, if_neg (by simp [hcard]), if_neg (by simp [hworking]), if_neg (not_lt.mpr hcost)]

namespace Fate

/-- The card of a request that is played, under the active enchantments. -/
def played? : Fate → Option Card
  | .judged _ (.accepted working _) => some working
  | _ => none

/-- A card that is judged is played at its cost, which the power that is left covers, or it is
skipped at no cost and without effects. -/
lemma judged_cases (player : Player) (enemy : Enemy) (card : Card) (available : Int) :
    (∃ working, (judged card (judge player enemy card available)).played? = some working
        ∧ working.cost ≤ available
        ∧ (judged card (judge player enemy card available)).spent = working.cost
        ∧ (judged card (judge player enemy card available)).effects
            = playedEffects enemy working)
      ∨ ((judged card (judge player enemy card available)).played? = none
        ∧ (judged card (judge player enemy card available)).spent = 0
        ∧ (judged card (judge player enemy card available)).effects = []) := by
  cases hverdict : judge player enemy card available with
  | accepted working effects =>
      obtain ⟨_, _, _, hcost, rfl⟩ := judge_eq_accepted_iff.mp hverdict
      exact Or.inl ⟨working, rfl, hcost, rfl, rfl⟩
  | unplayable => exact Or.inr ⟨rfl, rfl, rfl⟩
  | forbidden => exact Or.inr ⟨rfl, rfl, rfl⟩
  | unaffordable cost left => exact Or.inr ⟨rfl, rfl, rfl⟩

end Fate

/-! ### Plans -/

/-- The fate of a request, where some power is left. -/
def fateOf (player : Player) (enemy : Enemy) (available : Int) (request : Card) : Fate :=
  match player.find? request.id with
  | none => .absent request
  | some card => .judged card (judge player enemy card available)

/-- The first of the requests has its fate, and the rest is planned with the power it leaves. -/
lemma plan_cons (player : Player) (enemy : Enemy) (available : Int) (request : Card)
    (rest : List Card) :
    plan player enemy available (request :: rest)
      = fateOf player enemy available request
        :: plan player enemy (available - (fateOf player enemy available request).spent) rest :=
  rfl

/-- A request plays a card at its cost, which the power that is left covers, or it is skipped at no
cost and without effects. -/
lemma fateOf_cases (player : Player) (enemy : Enemy) (available : Int) (request : Card) :
    (∃ working, (fateOf player enemy available request).played? = some working
        ∧ working.cost ≤ available
        ∧ (fateOf player enemy available request).spent = working.cost
        ∧ (fateOf player enemy available request).effects = playedEffects enemy working)
      ∨ ((fateOf player enemy available request).played? = none
        ∧ (fateOf player enemy available request).spent = 0
        ∧ (fateOf player enemy available request).effects = []) := by
  rw [fateOf]
  cases player.find? request.id with
  | none => exact Or.inr ⟨rfl, rfl, rfl⟩
  | some card => exact Fate.judged_cases player enemy card available

/-- The card that a request plays is the card of its id, under the active enchantments. -/
lemma eq_enchant_of_played? {available : Int} {request working : Card}
    (h : (fateOf player enemy available request).played? = some working) :
    ∃ card, player.find? request.id = some card ∧ working = player.enchant card := by
  rw [fateOf] at h
  split at h
  · cases h
  · next card hfind =>
      refine ⟨card, hfind, ?_⟩
      cases hverdict : judge player enemy card available with
      | accepted played effects =>
          rw [hverdict] at h
          obtain rfl := Option.some.inj h
          exact (judge_accepted_effects hverdict).1
      | _ => simp [hverdict, Fate.played?] at h

/-- What the requests bring about is what the played cards do. -/
lemma flatMap_effects_plan (available : Int) (requests : List Card) :
    (plan player enemy available requests).flatMap (·.effects)
      = ((plan player enemy available requests).filterMap Fate.played?).flatMap
          (playedEffects enemy) := by
  induction requests generalizing available with
  | nil => rfl
  | cons request rest ih =>
      rw [plan_cons, List.flatMap_cons, ih]
      rcases fateOf_cases player enemy available request with
        ⟨working, hplayed, _, _, heffects⟩ | ⟨hplayed, _, heffects⟩
      · rw [List.filterMap_cons_some hplayed, List.flatMap_cons, heffects]
      · rw [List.filterMap_cons_none hplayed, heffects, List.nil_append]

/-- The cards played so far cost no more than the power there was. -/
lemma sum_take_costs_plan_le (available : Int) (requests : List Card) (n : Nat) :
    ((((plan player enemy available requests).filterMap Fate.played?).map (·.cost)).take n).sum
      ≤ max available 0 := by
  induction requests generalizing available n with
  | nil => simp [plan]
  | cons request rest ih =>
      rw [plan_cons]
      rcases fateOf_cases player enemy available request with
        ⟨working, hplayed, hcost, hspent, _⟩ | ⟨hplayed, hspent, _⟩
      · rw [List.filterMap_cons_some hplayed, List.map_cons]
        cases n with
        | zero => simp
        | succ n =>
            have hrest := ih (available - (fateOf player enemy available request).spent) n
            rw [List.take_succ_cons, List.sum_cons]
            -- what the first card leaves is not negative, so it bounds the rest by itself
            rw [max_eq_left (by omega)] at hrest
            omega
      · rw [List.filterMap_cons_none hplayed]
        rw [hspent, sub_zero]
        exact ih available n

/-! ### The player's turn -/

namespace Battle

/-- The cards that a turn of the player plays, under the active enchantments, in order. -/
def played (b : Battle) (requests : List Card) : List Card :=
  (b.fates requests).filterMap Fate.played?

/-- The costs of the cards that a turn of the player plays, in order. -/
def costs (b : Battle) (requests : List Card) : List Int := (b.played requests).map (·.cost)

/-- The effects of the player's turn, by the cards that are played. -/
lemma playerTurnEffects_eq (b : Battle) (requests : List Card) :
    b.playerTurnEffects requests
      = b.readyPlayer.turnStart ++ b.enemy.playerTurnStart
        ++ (b.played requests).flatMap (playedEffects b.enemy) ++ b.readyPlayer.turnEnd := by
  rw [playerTurnEffects, fates, flatMap_effects_plan]
  rfl

/-- The cards played so far cost no more than the power of the turn. -/
lemma sum_take_costs_le (b : Battle) (requests : List Card) (n : Nat) :
    ((b.costs requests).take n).sum ≤ max b.pool 0 :=
  sum_take_costs_plan_le b.pool requests n

end Battle

end CardBattle

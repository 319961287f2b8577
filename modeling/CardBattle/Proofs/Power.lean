/-
Where the power of a turn goes.

* `Posting` : an effect of the player's turn, the costs of played cards kept apart from what cards
  and the enemy declare; `map_effect_postings`: together they are the effects of the turn;
* `Actors.powerGain?` : the power that an effect brings when it is resolved, if it fires;
* `Actors.gains` : the gains of postings, each read where the earlier ones left the hand;
* `reserve_run` : a run changes the reserve by its costs and gains;
* `reserve_playerTurn` : the reserve after the player's turn.
-/
import CardBattle.Catalog.Cards
import CardBattle.Catalog.Enemies
import CardBattle.Proofs.Plan
import CardBattle.Proofs.Turns
import Mathlib.Tactic

namespace CardBattle

/-! ### Gains -/

namespace Actors

variable {actors next : Actors}

/-- The power that an effect brings where it is resolved: the amount of a power payload that is
aimed at the player and fires on the hand. -/
def powerGain? (actors : Actors) (e : Effect) : Option Int :=
  match e.target, e.trigger.fired? actors.player.elements with
  | .player, some (.power amount) => some amount
  | _, _ => none

/-- One effect changes the reserve by its gain. -/
lemma reserve_resolve {e : Effect} (h : actors.resolve e = .ok next) :
    next.player.reserve = actors.player.reserve + (actors.powerGain? e).getD 0 := by
  rcases resolve_cases h with ⟨htarget, player, hplayer, rfl⟩ | ⟨htarget, enemy, _, rfl⟩
  · rcases Player.receive_cases hplayer with
      ⟨cardId, htrigger, rfl⟩ | ⟨payload, hfired, happly⟩ | ⟨_, hfired, rfl⟩
    · simp [powerGain?, htarget, htrigger, Trigger.fired?, Player.discard]
    · rcases Player.apply_cases happly with ⟨amount, rfl, rfl⟩ | ⟨hpower, hitPoints, rfl⟩
      · simp [powerGain?, htarget, hfired]
      · have hnone : actors.powerGain? e = none := by
          rw [powerGain?, htarget, hfired]
          cases payload with
          | power amount => exact absurd rfl (hpower amount)
          | _ => rfl
        simp [hnone]
    · simp [powerGain?, htarget, hfired]
  · simp [powerGain?, htarget]

end Actors

/-! ### Postings -/

/-- An effect of the player's turn: the cost of a played card, or an effect that was declared by a
card, by an enchantment or by the enemy. -/
inductive Posting where
  | cost (amount : Int)
  | declared (e : Effect)
  deriving DecidableEq, Repr

namespace Posting

/-- The effect of a posting. -/
def effect : Posting → Effect
  | .cost amount => costEffect amount
  | .declared e => e

/-- The cost that a posting takes from the reserve. -/
def cost? : Posting → Option Int
  | .cost amount => some amount
  | .declared _ => none

/-- The power that a posting brings besides costs. -/
def gain? (actors : Actors) : Posting → Option Int
  | .cost _ => none
  | .declared e => actors.powerGain? e

@[simp] lemma map_effect_declared (es : List Effect) : (es.map declared).map effect = es := by
  rw [List.map_map]
  exact List.map_id es

@[simp] lemma filterMap_cost?_declared (es : List Effect) :
    (es.map declared).filterMap cost? = [] := by
  simp [cost?]

end Posting

namespace Actors

variable {actors next : Actors}

/-- The gains of postings, each one read where the earlier ones have been resolved. -/
def gains (actors : Actors) : List Posting → List Int
  | [] => []
  | posting :: rest =>
      (posting.gain? actors).toList
        ++ match actors.resolve posting.effect with
          | .error _ => []
          | .ok next => next.gains rest

/-- One posting changes the reserve by its cost and its gain. -/
lemma reserve_posting {posting : Posting} (h : actors.resolve posting.effect = .ok next) :
    next.player.reserve
      = actors.player.reserve - posting.cost?.toList.sum + (posting.gain? actors).toList.sum := by
  have hreserve := reserve_resolve h
  cases posting with
  | cost amount =>
      have hgain : actors.powerGain? (Posting.cost amount).effect = some (-amount) := rfl
      rw [hgain] at hreserve
      simp [hreserve, Posting.cost?, Posting.gain?, sub_eq_add_neg]
  | declared e =>
      rw [hreserve]
      cases hgain : actors.powerGain? e with
      | none => simp [Posting.effect, Posting.cost?, Posting.gain?, hgain]
      | some amount => simp [Posting.effect, Posting.cost?, Posting.gain?, hgain]

/-- A run changes the reserve by the costs and the gains of its postings. -/
theorem reserve_run {postings : List Posting}
    (h : actors.run (postings.map Posting.effect) = .ok next) :
    next.player.reserve
      = actors.player.reserve - (postings.filterMap Posting.cost?).sum
        + (actors.gains postings).sum := by
  induction postings generalizing actors with
  | nil =>
      rw [List.map_nil, run_nil] at h
      obtain rfl := Except.ok.inj h
      simp [gains]
  | cons posting rest ih =>
      rw [List.map_cons] at h
      obtain ⟨mid, hmid, hrest⟩ := run_cons_eq_ok_iff.mp h
      have hstep := reserve_posting hmid
      have hcosts : ((posting :: rest).filterMap Posting.cost?).sum
          = posting.cost?.toList.sum + (rest.filterMap Posting.cost?).sum := by
        cases hcost : posting.cost? <;> simp [hcost]
      rw [ih hrest, hstep, hcosts, gains, hmid, List.sum_append]
      ring

/-- The gains of the first postings come first. -/
lemma gains_prefix (actors : Actors) (first rest : List Posting) :
    actors.gains first <+: actors.gains (first ++ rest) := by
  induction first generalizing actors with
  | nil => exact List.nil_prefix
  | cons posting first ih =>
      rw [List.cons_append, gains, gains, List.prefix_append_right_inj]
      cases hnext : actors.resolve posting.effect with
      | error fault => exact List.nil_prefix
      | ok next => exact ih next

end Actors

/-! ### The player's turn -/

/-- The postings of a played card: its cost, then what it and the enemy declare for it. -/
def Card.postings (enemy : Enemy) (working : Card) : List Posting :=
  .cost working.cost
    :: (working.boundEffects ++ enemy.counters working.element).map Posting.declared

lemma Card.map_effect_postings (enemy : Enemy) (working : Card) :
    (working.postings enemy).map Posting.effect = playedEffects enemy working := by
  rw [postings, List.map_cons, Posting.map_effect_declared]
  rfl

lemma Card.filterMap_cost?_postings (enemy : Enemy) (working : Card) :
    (working.postings enemy).filterMap Posting.cost? = [working.cost] := by
  rw [postings, List.filterMap_cons, Posting.filterMap_cost?_declared]
  rfl

namespace Battle

variable {b next : Battle}

/-- The postings of the player's turn, in the order of its effects. -/
def postings (b : Battle) (requests : List Card) : List Posting :=
  (b.readyPlayer.turnStart ++ b.enemy.playerTurnStart).map Posting.declared
    ++ (b.played requests).flatMap (·.postings b.enemy)
    ++ b.readyPlayer.turnEnd.map Posting.declared

/-- The gains of the player's turn. -/
def gains (b : Battle) (requests : List Card) : List Int :=
  (Actors.mk b.enemy b.readyPlayer).gains (b.postings requests)

/-- The postings of a turn are its effects. -/
lemma map_effect_postings (b : Battle) (requests : List Card) :
    (b.postings requests).map Posting.effect = b.playerTurnEffects requests := by
  rw [postings, playerTurnEffects_eq, List.map_append, List.map_append, List.map_flatMap,
    Posting.map_effect_declared, Posting.map_effect_declared]
  simp only [Card.map_effect_postings]

/-- The costs among the postings of a turn are the costs of the cards it plays. -/
lemma filterMap_cost?_postings (b : Battle) (requests : List Card) :
    (b.postings requests).filterMap Posting.cost? = b.costs requests := by
  rw [postings, List.filterMap_append, List.filterMap_append, List.filterMap_flatMap,
    Posting.filterMap_cost?_declared, Posting.filterMap_cost?_declared, List.nil_append,
    List.append_nil, costs]
  simp only [Card.filterMap_cost?_postings]
  exact List.map_eq_flatMap.symm

/-- Where some effects of a turn have been resolved, the reserve holds the power of the turn less
the costs and with the gains so far. -/
lemma reserve_of_run_prefix {requests : List Card} {first rest : List Effect} {mid : Actors}
    (heffects : b.playerTurnEffects requests = first ++ rest)
    (hrun : (Actors.mk b.enemy b.readyPlayer).run first = .ok mid) :
    ∃ n, ∃ gained, gained <+: b.gains requests
      ∧ mid.player.reserve = b.pool - ((b.costs requests).take n).sum + gained.sum := by
  rw [← map_effect_postings] at heffects
  obtain ⟨before, after, hpostings, rfl, rfl⟩ := List.map_eq_append_iff.mp heffects
  have hcosts : before.filterMap Posting.cost? <+: b.costs requests := by
    rw [← filterMap_cost?_postings, hpostings, List.filterMap_append]
    exact List.prefix_append _ _
  refine ⟨(before.filterMap Posting.cost?).length,
    (Actors.mk b.enemy b.readyPlayer).gains before, ?_, ?_⟩
  · rw [gains, hpostings]
    exact Actors.gains_prefix _ before after
  · rw [← List.prefix_iff_eq_take.mp hcosts]
    exact Actors.reserve_run hrun

/-- After the player's turn the reserve holds the power of the turn, less the costs of the cards
that were played, with what the other effects of the turn brought; the costs stay within the power
of the turn. Where that is not negative and nothing else takes power, the reserve is not negative
at the end of the turn, nor after any of its effects. -/
theorem reserve_playerTurn {requests : List Card} (hopen : b.isOver = false)
    (h : b.playerTurn requests = .ok next) :
    (b.postings requests).map Posting.effect = b.playerTurnEffects requests
      ∧ next.player.reserve = b.pool - (b.costs requests).sum + (b.gains requests).sum
      ∧ (b.costs requests).sum ≤ max b.pool 0
      ∧ (0 ≤ b.pool → (∀ amount ∈ b.gains requests, 0 ≤ amount) →
          0 ≤ next.player.reserve
          ∧ ∀ first rest mid, b.playerTurnEffects requests = first ++ rest →
              (Actors.mk b.enemy b.readyPlayer).run first = .ok mid → 0 ≤ mid.player.reserve) := by
  obtain ⟨after, hrun, rfl⟩ := playerTurn_cases hopen h
  have hreserve : after.player.reserve
      = b.pool - (b.costs requests).sum + (b.gains requests).sum := by
    rw [← map_effect_postings] at hrun
    rw [← filterMap_cost?_postings]
    exact Actors.reserve_run hrun
  have hcosts : (b.costs requests).sum ≤ max b.pool 0 := by
    have hall := b.sum_take_costs_le requests (b.costs requests).length
    rwa [List.take_length] at hall
  have hnonneg (hpool : 0 ≤ b.pool) (hgains : ∀ amount ∈ b.gains requests, 0 ≤ amount)
      (first rest : List Effect) (mid : Actors)
      (heffects : b.playerTurnEffects requests = first ++ rest)
      (hmid : (Actors.mk b.enemy b.readyPlayer).run first = .ok mid) :
      0 ≤ mid.player.reserve := by
    obtain ⟨n, gained, hgained, hreserve⟩ := reserve_of_run_prefix heffects hmid
    have hspent := b.sum_take_costs_le requests n
    have hsum : 0 ≤ gained.sum :=
      List.sum_nonneg fun amount hamount => hgains amount (hgained.subset hamount)
    rw [max_eq_left hpool] at hspent
    omega
  refine ⟨b.map_effect_postings requests, hreserve, hcosts, fun hpool hgains => ⟨?_, ?_⟩⟩
  · exact hnonneg hpool hgains _ [] after (List.append_nil _).symm hrun
  · exact hnonneg hpool hgains

/-- A card that is held for the power it brings while the hand holds a water card. -/
def reservoir : Card :=
  { id := "reservoir", name := "Reservoir", element := .land, canPlay := false
    turnStart := [.onPlayer "Reservoir" (.when (.holds .water) (.power 2))] }

/-- A player with more power than the first turn brings by itself. -/
def frugalPlayer : Player :=
  { hitPoints := 20
    cards := [Catalog.militaryAid "aid", reservoir, Catalog.powerSurge "surge",
      Catalog.firstAid "kit"] }

/-- A surge for 1 and one of two first aids for 2 are played from a power of 4; the reservoir
brings 2 and the surge 3. -/
theorem reserve_playerTurn_floods :
    (start Catalog.floods frugalPlayer 3).isOver = false
      ∧ ∃ next, (start Catalog.floods frugalPlayer 3).playerTurn
            [Catalog.powerSurge "surge", Catalog.firstAid "kit", Catalog.firstAid "kit"] = .ok next
          ∧ next.player.reserve = 4 - ([1, 2] : List Int).sum + ([2, 3] : List Int).sum
          ∧ 0 ≤ next.player.reserve := by
  have hopen : (start Catalog.floods frugalPlayer 3).isOver = false := rfl
  have hturn : (start Catalog.floods frugalPlayer 3).playerTurn
      [Catalog.powerSurge "surge", Catalog.firstAid "kit", Catalog.firstAid "kit"] = .ok _ := rfl
  have hgains : (start Catalog.floods frugalPlayer 3).gains
      [Catalog.powerSurge "surge", Catalog.firstAid "kit", Catalog.firstAid "kit"] = [2, 3] := rfl
  obtain ⟨_, hreserve, _, hnonneg⟩ := reserve_playerTurn hopen hturn
  refine ⟨hopen, _, hturn, hreserve, (hnonneg (by decide) ?_).1⟩
  rw [hgains]
  decide

end Battle

end CardBattle

/-
What no turn may change.

* `Enemy.Keeps`, `Player.Keeps`, `Actors.Keeps`, `Battle.Keeps` : a later state agrees with an
  earlier one on the name, the defense, the declared effects and the activated enchantments of the
  enemy, on the activated enchantments of the player and on the power of a turn; and its hand is a
  sublist of the earlier hand;
* `Actors.keeps_run` : a run of effects keeps all that, whatever the effects are;
* `Battle.keeps_take` : so does a turn of either side;
* `takeAll_keeps` : so does every sequence of turns of a started battle.
-/
import CardBattle.Catalog.Cards
import CardBattle.Catalog.Enemies
import CardBattle.Proofs.Turns
import Mathlib.Tactic

namespace CardBattle

/-! ### The enemy -/

/-- `after` is the enemy `before` up to hit points, the skip of its turn and its queue. -/
structure Enemy.Keeps (before after : Enemy) : Prop where
  name : after.name = before.name
  defense : after.defense = before.defense
  turnStart : after.turnStart = before.turnStart
  turnEnd : after.turnEnd = before.turnEnd
  playerTurnStart : after.playerTurnStart = before.playerTurnStart
  onPlayerCard : after.onPlayerCard = before.onPlayerCard
  declared : after.declared = before.declared
  activated : after.activated = before.activated

namespace Enemy

variable {first second third enemy next : Enemy}

lemma Keeps.refl (enemy : Enemy) : enemy.Keeps enemy := ⟨rfl, rfl, rfl, rfl, rfl, rfl, rfl, rfl⟩

lemma Keeps.trans (h : first.Keeps second) (h' : second.Keeps third) : first.Keeps third where
  name := h'.name.trans h.name
  defense := h'.defense.trans h.defense
  turnStart := h'.turnStart.trans h.turnStart
  turnEnd := h'.turnEnd.trans h.turnEnd
  playerTurnStart := h'.playerTurnStart.trans h.playerTurnStart
  onPlayerCard := h'.onPlayerCard.trans h.onPlayerCard
  declared := h'.declared.trans h.declared
  activated := h'.activated.trans h.activated

lemma keeps_apply {payload : Payload} (h : enemy.apply payload = .ok next) :
    enemy.Keeps next := by
  rcases apply_cases h with ⟨_, rfl⟩ | ⟨_, hitPoints, rfl⟩
  · exact ⟨rfl, rfl, rfl, rfl, rfl, rfl, rfl, rfl⟩
  · exact ⟨rfl, rfl, rfl, rfl, rfl, rfl, rfl, rfl⟩

lemma keeps_receive {hand : List Element} {trigger : Trigger}
    (h : enemy.receive hand trigger = .ok next) : enemy.Keeps next := by
  rcases receive_cases h with ⟨payload, _, happly⟩ | ⟨_, rfl⟩
  · exact keeps_apply happly
  · exact Keeps.refl _

end Enemy

/-! ### The player -/

/-- `after` has the enchantments of `before`, and its hand is left of the hand of `before`. -/
structure Player.Keeps (before after : Player) : Prop where
  activated : after.activated = before.activated
  cards : after.cards.Sublist before.cards

namespace Player

variable {first second third player next : Player}

lemma Keeps.refl (player : Player) : player.Keeps player := ⟨rfl, List.Sublist.refl _⟩

lemma Keeps.trans (h : first.Keeps second) (h' : second.Keeps third) : first.Keeps third :=
  ⟨h'.activated.trans h.activated, h'.cards.trans h.cards⟩

lemma keeps_apply {payload : Payload} (h : player.apply payload = .ok next) :
    player.Keeps next := by
  rcases apply_cases h with ⟨amount, _, rfl⟩ | ⟨_, hitPoints, rfl⟩
  · exact ⟨rfl, List.Sublist.refl _⟩
  · exact ⟨rfl, List.Sublist.refl _⟩

lemma keeps_receive {trigger : Trigger} (h : player.receive trigger = .ok next) :
    player.Keeps next := by
  rcases receive_cases h with ⟨cardId, _, rfl⟩ | ⟨payload, _, happly⟩ | ⟨_, _, rfl⟩
  · exact ⟨rfl, List.filter_sublist⟩
  · exact keeps_apply happly
  · exact Keeps.refl _

/-- Ids that are pairwise distinct stay so. -/
lemma Keeps.nodup_ids (h : player.Keeps next) (hnodup : (player.cards.map (·.id)).Nodup) :
    (next.cards.map (·.id)).Nodup :=
  hnodup.sublist (h.cards.map _)

end Player

/-! ### Both actors -/

/-- Both actors keep what no turn may change. -/
structure Actors.Keeps (before after : Actors) : Prop where
  enemy : before.enemy.Keeps after.enemy
  player : before.player.Keeps after.player

namespace Actors

variable {first second third actors next : Actors}

lemma Keeps.refl (actors : Actors) : actors.Keeps actors := ⟨.refl _, .refl _⟩

lemma Keeps.trans (h : first.Keeps second) (h' : second.Keeps third) : first.Keeps third :=
  ⟨h.enemy.trans h'.enemy, h.player.trans h'.player⟩

lemma keeps_resolve {e : Effect} (h : actors.resolve e = .ok next) : actors.Keeps next := by
  rcases resolve_cases h with ⟨_, player, hplayer, rfl⟩ | ⟨_, enemy, henemy, rfl⟩
  · exact ⟨.refl _, Player.keeps_receive hplayer⟩
  · exact ⟨Enemy.keeps_receive henemy, .refl _⟩

lemma keeps_run {es : List Effect} (h : actors.run es = .ok next) : actors.Keeps next :=
  run_preserves (P := actors.Keeps) (fun _ _ _ _ hkept hstep => hkept.trans (keeps_resolve hstep))
    (.refl actors) h

end Actors

/-! ### Battles -/

namespace Battle

variable {first second third b next : Battle}

/-- `after` agrees with `before` on all that no turn may change. -/
structure Keeps (before after : Battle) : Prop where
  actors : before.actors.Keeps after.actors
  powerPerTurn : after.powerPerTurn = before.powerPerTurn

lemma Keeps.refl (b : Battle) : b.Keeps b := ⟨.refl _, rfl⟩

lemma Keeps.trans (h : first.Keeps second) (h' : second.Keeps third) : first.Keeps third :=
  ⟨h.actors.trans h'.actors, h'.powerPerTurn.trans h.powerPerTurn⟩

/-- The player gets the power of the turn, and the effects are resolved. -/
lemma keeps_playerTurn {requests : List Card} (hopen : b.isOver = false)
    (h : b.playerTurn requests = .ok next) : b.Keeps next := by
  obtain ⟨after, hrun, rfl⟩ := playerTurn_cases hopen h
  have hready : b.actors.Keeps ⟨b.enemy, b.readyPlayer⟩ := ⟨.refl _, ⟨rfl, List.Sublist.refl _⟩⟩
  exact ⟨hready.trans (Actors.keeps_run hrun), rfl⟩

/-- The queue and the enemy's phase are resolved, and the enemy is cleared of its queue. -/
lemma keeps_enemyTurn (hopen : b.isOver = false) (h : b.enemyTurn = .ok next) : b.Keeps next := by
  obtain ⟨queued, after, hqueue, hphase, rfl⟩ := enemyTurn_cases hopen h
  have hkept := (Actors.keeps_run hqueue).trans (Actors.keeps_run hphase)
  have hcleared : after.Keeps ⟨after.enemy.settle, after.player⟩ :=
    ⟨⟨rfl, rfl, rfl, rfl, rfl, rfl, rfl, rfl⟩, .refl _⟩
  exact ⟨hkept.trans hcleared, rfl⟩

lemma keeps_take {turn : Turn} (h : b.take turn = .ok next) : b.Keeps next := by
  cases hover : b.isOver with
  | true =>
      rw [take_of_isOver hover] at h
      exact Except.ok.inj h ▸ Keeps.refl b
  | false =>
      cases turn with
      | player requests => exact keeps_playerTurn hover h
      | enemy => exact keeps_enemyTurn hover h

lemma keeps_takeAll {turns : List Turn} (h : b.takeAll turns = .ok next) : b.Keeps next :=
  takeAll_preserves (P := b.Keeps) (fun _ _ _ hkept hstep => hkept.trans (keeps_take hstep))
    (.refl b) h

/-- No sequence of turns changes the name, the defense, the declared effects or the activated
enchantments of the enemy, the activated enchantments of the player or the power of a turn; the
hand of every snapshot is a sublist of the first hand, so distinct ids stay distinct. -/
theorem takeAll_keeps {enemy : Enemy} {player : Player} {powerPerTurn : Int} {turns : List Turn}
    (h : (start enemy player powerPerTurn).takeAll turns = .ok b) :
    (start enemy player powerPerTurn).Keeps b ∧ b.player.cards.Sublist player.cards
      ∧ ((player.cards.map (·.id)).Nodup → (b.player.cards.map (·.id)).Nodup) := by
  have hkept : (start enemy player powerPerTurn).Keeps b := keeps_takeAll h
  exact ⟨hkept, hkept.actors.player.cards, hkept.actors.player.nodup_ids⟩

/-- A player with a card that is held, a card that is discarded when played, and a plain one. -/
def suppliedPlayer : Player :=
  { hitPoints := 20
    cards := [Catalog.powerAmp "amp", Catalog.logistics "chain", Catalog.gust "gust"] }

/-- The played supply chain leaves the hand; what the other cards and the avalanche brought into
the battle stays. -/
theorem takeAll_keeps_avalanche :
    ∃ b, (start Catalog.avalanche suppliedPlayer 3).takeAll
          [.player suppliedPlayer.cards, .enemy, .player suppliedPlayer.cards] = .ok b
      ∧ b.player.cards = [Catalog.powerAmp "amp", Catalog.gust "gust"]
      ∧ (start Catalog.avalanche suppliedPlayer 3).Keeps b
      ∧ (b.player.cards.map (·.id)).Nodup := by
  have hrun : (start Catalog.avalanche suppliedPlayer 3).takeAll
      [.player suppliedPlayer.cards, .enemy, .player suppliedPlayer.cards] = .ok _ := rfl
  obtain ⟨hkept, _, hnodup⟩ := takeAll_keeps hrun
  exact ⟨_, hrun, rfl, hkept, hnodup (by decide)⟩

end Battle

end CardBattle

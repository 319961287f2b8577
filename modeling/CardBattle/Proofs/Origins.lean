/-
Where the effects that turns resolve come from.

* `Battle.effects` : the effects that a battle declares, by the cards of the hand and by the enemy,
  those in the queue of the enemy included;
* `Battle.Arises` : an effect is declared, or it answers a played card, or a turn makes it up;
  `arises_of_mem_playerTurnEffects`, `arises_of_mem_phaseEffects`: a turn resolves no other effects;
* `arises_take` : no turn brings new effects into a battle;
* `Battle.WellFormed` : all cards and effects of a battle could be declared, and its hand could;
  `Arises.wellFormed` and `WellFormed.take`: so could every effect that arises, and every turn keeps
  that.
-/
import CardBattle.Proofs.Frame
import CardBattle.Proofs.Plan
import CardBattle.Proofs.Skips
import Mathlib.Tactic

namespace CardBattle

/-! ### Enchanted cards -/

namespace Card

variable {card : Card} {e : Effect}

lemma mem_onPlay_enchant {enchantment : Enchantment} (h : e ∈ (card.enchant enchantment).onPlay) :
    e ∈ card.onPlay
      ∨ ∃ element amount, enchantment = .spellDamage element amount
          ∧ e = extraDamage element amount := by
  cases enchantment with
  | spellDamage element amount =>
      simp only [enchant] at h
      split at h
      · rcases List.mem_append.mp h with hold | hnew
        · exact Or.inl hold
        · exact Or.inr ⟨element, amount, rfl, List.mem_singleton.mp hnew⟩
      · exact Or.inl h
  | _ =>
      simp only [enchant] at h
      split at h <;> exact Or.inl h

/-- Enchantments bring no play effects about but extra damage. -/
lemma mem_onPlay_enchantedBy {es : List Enchantment} (h : e ∈ (card.enchantedBy es).onPlay) :
    e ∈ card.onPlay
      ∨ ∃ element amount, .spellDamage element amount ∈ es ∧ e = extraDamage element amount := by
  induction es generalizing card with
  | nil => exact Or.inl h
  | cons enchantment es ih =>
      rcases ih h with hfirst | ⟨element, amount, hmem, rfl⟩
      · rcases mem_onPlay_enchant hfirst with hold | ⟨element, amount, rfl, rfl⟩
        · exact Or.inl hold
        · exact Or.inr ⟨element, amount, by simp, rfl⟩
      · exact Or.inr ⟨element, amount, by simp [hmem], rfl⟩

end Card

/-- The cards that requests play are cards of the hand, under the active enchantments. -/
lemma mem_played_plan {player : Player} {enemy : Enemy} {available : Int} {requests : List Card}
    {working : Card}
    (h : working ∈ (plan player enemy available requests).filterMap Fate.played?) :
    ∃ card ∈ player.cards, working = player.enchant card := by
  induction requests generalizing available with
  | nil => simp [plan] at h
  | cons request rest ih =>
      obtain ⟨fate, hfate, hplayed⟩ := List.mem_filterMap.mp h
      rw [plan_cons] at hfate
      rcases List.mem_cons.mp hfate with rfl | hrest
      · obtain ⟨card, hfind, hworking⟩ := eq_enchant_of_played? hplayed
        exact ⟨card, List.mem_of_find?_eq_some hfind, hworking⟩
      · exact ih (List.mem_filterMap.mpr ⟨fate, hrest, hplayed⟩)

/-- An effect that answers a played card is declared to wait for one, and fires where it is
aimed. -/
lemma Enemy.mem_counters {enemy : Enemy} {element : Element} {e : Effect}
    (h : e ∈ enemy.counters element) :
    ∃ own ∈ enemy.onPlayerCard, ∃ condition payload, own.trigger = .when condition payload
      ∧ e = { own with trigger := .always payload } := by
  obtain ⟨own, hown, hfired⟩ := List.mem_filterMap.mp h
  rw [counter?] at hfired
  split at hfired
  · next condition payload htrigger =>
      split at hfired
      · exact ⟨own, hown, condition, payload, htrigger, (Option.some.inj hfired).symm⟩
      · cases hfired
  · cases hfired

/-! ### Origins -/

/-- The hand declares the effects at the start of a turn. -/
lemma Player.mem_effects_of_mem_turnStart {player : Player} {e : Effect}
    (h : e ∈ player.turnStart) : e ∈ player.cards.flatMap (·.effects) := by
  obtain ⟨card, hcard, hmem⟩ := List.mem_flatMap.mp h
  exact List.mem_flatMap.mpr ⟨card, hcard, by simp [Card.effects, hmem]⟩

/-- All effects of an enemy, those in its queue included. -/
def Enemy.effects (enemy : Enemy) : List Effect :=
  enemy.turnStart ++ enemy.turnEnd ++ enemy.oneShot ++ enemy.playerTurnStart
    ++ enemy.onPlayerCard ++ enemy.declared

namespace Battle

variable {b next : Battle} {e : Effect}

/-- All effects that are declared in a battle. -/
def effects (b : Battle) : List Effect := b.player.cards.flatMap (·.effects) ++ b.enemy.effects

/-- An effect that a turn of a battle can resolve, by where it comes from. -/
inductive Arises (b : Battle) : Effect → Prop
  | declared {e : Effect} (h : e ∈ b.effects) : Arises b e
  /-- The enemy's declaration fires where it was aimed. -/
  | answer {e : Effect} {condition : Condition} {payload : Payload} (h : e ∈ b.enemy.onPlayerCard)
      (htrigger : e.trigger = .when condition payload) :
      Arises b { e with trigger := .always payload }
  | extra {element : Element} {amount : Int}
      (h : .spellDamage element amount ∈ b.player.activated) :
      Arises b (Card.extraDamage element amount)
  | cost (amount : Int) : Arises b (costEffect amount)
  | discard (cardId : String) : Arises b (.onPlayer "Discard" (.discard cardId))
  | heal (amount : Int) : Arises b (.heal amount)
  | regeneration (amount : Int) : Arises b (Enemy.regeneration amount)
  | skip : Arises b Enemy.skipMark

lemma Arises.of_mem_enemy (h : e ∈ b.enemy.effects) : b.Arises e :=
  .declared (List.mem_append_right _ h)

lemma Arises.of_mem_card {card : Card} (hcard : card ∈ b.player.cards) (h : e ∈ card.effects) :
    b.Arises e :=
  .declared (List.mem_append_left _ (List.mem_flatMap.mpr ⟨card, hcard, h⟩))

/-- A card that is played costs its power, does what it declares and what enchantments add, and the
enemy answers it. -/
lemma arises_of_mem_playedEffects {card : Card} (hcard : card ∈ b.player.cards)
    (h : e ∈ playedEffects b.enemy (b.player.enchant card)) : b.Arises e := by
  rcases List.mem_cons.mp h with rfl | hrest
  · exact .cost _
  rcases List.mem_append.mp hrest with hbound | hcounter
  · obtain ⟨own, hown, rfl⟩ := List.mem_map.mp hbound
    split
    · exact .discard _
    · rcases Card.mem_onPlay_enchantedBy hown with hplay | ⟨element, amount, hmem, rfl⟩
      · exact .of_mem_card hcard (by simp [Card.effects, hplay])
      · exact .extra hmem
  · obtain ⟨own, hown, condition, payload, htrigger, rfl⟩ := Enemy.mem_counters hcounter
    exact .answer hown htrigger

/-- A turn of the player resolves effects that arise in the battle, and no others. -/
theorem arises_of_mem_playerTurnEffects {requests : List Card}
    (h : e ∈ b.playerTurnEffects requests) : b.Arises e := by
  rw [playerTurnEffects_eq] at h
  simp only [List.mem_append] at h
  rcases h with ((hstart | hstart) | hplayed) | hend
  · exact .declared (List.mem_append_left _ (Player.mem_effects_of_mem_turnStart hstart))
  · exact .of_mem_enemy (by simp [Enemy.effects, hstart])
  · obtain ⟨working, hworking, hmem⟩ := List.mem_flatMap.mp hplayed
    obtain ⟨card, hcard, rfl⟩ := mem_played_plan hworking
    exact arises_of_mem_playedEffects hcard hmem
  · obtain ⟨amount, _, rfl⟩ := List.mem_map.mp hend
    exact .heal amount

/-- The phase of an enemy that still declares what it did resolves effects that it declares, and
regeneration. -/
lemma mem_phaseEffects_cases {enemy : Enemy} (hkept : b.enemy.Keeps enemy)
    (h : e ∈ phaseEffects enemy) :
    e ∈ b.enemy.effects ∨ ∃ amount, e = Enemy.regeneration amount := by
  rw [phaseEffects] at h
  split at h
  · cases h
  simp only [enemyPhaseEffects, Enemy.turnStartEffects, hkept.turnStart, hkept.turnEnd,
    List.mem_append] at h
  rcases h with (hstart | hregeneration) | hend
  · exact Or.inl (by simp [Enemy.effects, hstart])
  · obtain ⟨amount, _, rfl⟩ := List.mem_map.mp hregeneration
    exact Or.inr ⟨amount, rfl⟩
  · exact Or.inl (by simp [Enemy.effects, hend])

/-- The phase of an enemy that still declares what it did resolves effects that arise in the
battle, and no others. -/
theorem arises_of_mem_phaseEffects {enemy : Enemy} (hkept : b.enemy.Keeps enemy)
    (h : e ∈ phaseEffects enemy) : b.Arises e := by
  rcases mem_phaseEffects_cases hkept h with hdeclared | ⟨amount, rfl⟩
  · exact .of_mem_enemy hdeclared
  · exact .regeneration amount

/-! ### Turns -/

/-- A turn queues marks of skips and nothing else. -/
lemma mem_oneShot_take {turn : Turn} (h : b.take turn = .ok next)
    (he : e ∈ next.enemy.oneShot) : e ∈ b.enemy.oneShot ∨ e = Enemy.skipMark := by
  cases hover : b.isOver with
  | true =>
      rw [take_of_isOver hover] at h
      obtain rfl := Except.ok.inj h
      exact Or.inl he
  | false =>
      cases turn with
      | player requests =>
          obtain ⟨after, hrun, rfl⟩ := playerTurn_cases hover h
          have hqueue : e ∈ after.enemy.oneShot := he
          rw [(Actors.marked_run hrun).oneShot] at hqueue
          exact (List.mem_append.mp hqueue).imp id List.eq_of_mem_replicate
      | enemy =>
          obtain ⟨_, after, _, _, rfl⟩ := enemyTurn_cases hover h
          cases he

/-- After a turn a battle declares what it did before, up to marks of skips. -/
lemma mem_effects_take {turn : Turn} (h : b.take turn = .ok next) (he : e ∈ next.effects) :
    e ∈ b.effects ∨ e = Enemy.skipMark := by
  obtain ⟨⟨henemy, hplayer⟩, _⟩ := keeps_take h
  rcases List.mem_append.mp he with hhand | hside
  · obtain ⟨card, hcard, hmem⟩ := List.mem_flatMap.mp hhand
    refine Or.inl (List.mem_append_left _ (List.mem_flatMap.mpr ⟨card, ?_, hmem⟩))
    exact hplayer.cards.subset hcard
  · have hqueue := mem_oneShot_take (e := e) h
    have hturnStart : next.enemy.turnStart = b.enemy.turnStart := henemy.turnStart
    have hturnEnd : next.enemy.turnEnd = b.enemy.turnEnd := henemy.turnEnd
    have hplayerTurnStart : next.enemy.playerTurnStart = b.enemy.playerTurnStart :=
      henemy.playerTurnStart
    have honPlayerCard : next.enemy.onPlayerCard = b.enemy.onPlayerCard := henemy.onPlayerCard
    have hdeclared : next.enemy.declared = b.enemy.declared := henemy.declared
    simp only [Enemy.effects, hturnStart, hturnEnd, hplayerTurnStart, honPlayerCard, hdeclared,
      List.mem_append] at hside
    simp only [effects, Enemy.effects, List.mem_append]
    -- the queue is the only list that a turn adds to
    tauto

/-- No turn brings new effects into a battle. -/
theorem arises_take {turn : Turn} (h : b.take turn = .ok next) (he : next.Arises e) :
    b.Arises e := by
  obtain ⟨⟨henemy, hplayer⟩, _⟩ := keeps_take h
  cases he with
  | declared he =>
      rcases mem_effects_take h he with hold | rfl
      · exact .declared hold
      · exact .skip
  | answer he htrigger =>
      have hkept : next.enemy.onPlayerCard = b.enemy.onPlayerCard := henemy.onPlayerCard
      exact .answer (hkept ▸ he) htrigger
  | extra he =>
      have hkept : next.player.activated = b.player.activated := hplayer.activated
      exact .extra (hkept ▸ he)
  | cost amount => exact .cost amount
  | discard cardId => exact .discard cardId
  | heal amount => exact .heal amount
  | regeneration amount => exact .regeneration amount
  | skip => exact .skip

end Battle

/-! ### Well-formed battles -/

/-- A card that could be declared, with all its effects. -/
def Card.WellFormed (card : Card) : Prop := 0 ≤ card.cost ∧ ∀ e ∈ card.effects, e.WellFormed

instance (card : Card) : Decidable card.WellFormed := inferInstanceAs (Decidable (_ ∧ _))

/-- A player that could be declared, with all its cards. -/
def Player.WellFormed (player : Player) : Prop :=
  (player.cards.map (·.id)).Nodup ∧ ∀ card ∈ player.cards, card.WellFormed

instance (player : Player) : Decidable player.WellFormed := inferInstanceAs (Decidable (_ ∧ _))

lemma Player.declare_eq_ok_iff {player declared : Player} :
    player.declare = .ok declared ↔ (player.cards.map (·.id)).Nodup ∧ declared = player := by
  rw [declare, ← Card.firstRepeat?_eq_none_iff]
  split <;> simp [*, eq_comm]

/-- An enemy whose effects could all be declared. -/
def Enemy.WellFormed (enemy : Enemy) : Prop := ∀ e ∈ enemy.effects, e.WellFormed

instance (enemy : Enemy) : Decidable enemy.WellFormed :=
  inferInstanceAs (Decidable (∀ e ∈ enemy.effects, e.WellFormed))

lemma Effect.WellFormed.always {e : Effect} {payload : Payload}
    (htrigger : e.trigger = .always payload) (hmisuse : e.trigger.misuse? e.target = none)
    (hfraction : payload.hasFraction = true) : e.WellFormed := by
  refine ⟨hmisuse, fun own hown => ?_⟩
  rw [Effect.payload?, htrigger] at hown
  obtain rfl := Option.some.inj hown
  exact hfraction

/-- An effect that fires at once is received where the same payload was declared to wait. -/
lemma Effect.WellFormed.fire {e : Effect} {condition : Condition} {payload : Payload}
    (h : e.WellFormed) (htrigger : e.trigger = .when condition payload) :
    ({ e with trigger := .always payload } : Effect).WellFormed := by
  obtain ⟨hmisuse, hfraction⟩ := h
  rw [Effect.payload?, htrigger] at hfraction
  rw [htrigger] at hmisuse
  refine ⟨?_, hfraction⟩
  show (Trigger.always payload).misuse? e.target = none
  rw [← hmisuse]
  cases payload <;> cases e.target <;> rfl

namespace Battle

variable {b next : Battle} {e : Effect}

/-- A battle whose two sides could be declared. -/
structure WellFormed (b : Battle) : Prop where
  enemy : b.enemy.WellFormed
  player : b.player.WellFormed

lemma WellFormed.start {enemy : Enemy} {player : Player} (henemy : enemy.WellFormed)
    (hplayer : player.WellFormed) (powerPerTurn : Int) :
    (start enemy player powerPerTurn).WellFormed :=
  ⟨henemy, hplayer⟩

lemma WellFormed.of_mem_effects (h : b.WellFormed) (he : e ∈ b.effects) : e.WellFormed := by
  rcases List.mem_append.mp he with hhand | hside
  · obtain ⟨card, hcard, hmem⟩ := List.mem_flatMap.mp hhand
    exact (h.player.2 card hcard).2 e hmem
  · exact h.enemy e hside

/-- Every effect that arises in a well-formed battle could be declared. -/
theorem Arises.wellFormed (h : b.WellFormed) (he : b.Arises e) : e.WellFormed := by
  cases he with
  | declared he => exact h.of_mem_effects he
  | answer he htrigger => exact (h.enemy _ (by simp [Enemy.effects, he])).fire htrigger
  | extra _ => exact .always rfl rfl rfl
  | cost amount => exact .always rfl rfl rfl
  | discard cardId => exact ⟨rfl, by simp [Effect.onPlayer, Effect.payload?, Trigger.payload?]⟩
  | heal amount => exact .always rfl rfl rfl
  | regeneration amount => exact .always rfl rfl rfl
  | skip => exact .always rfl rfl rfl

/-- Turns keep a battle well-formed. -/
theorem WellFormed.take {turn : Turn} (h : b.WellFormed) (hnext : b.take turn = .ok next) :
    next.WellFormed := by
  obtain ⟨⟨_, hplayer⟩, _⟩ := keeps_take hnext
  have heffect : ∀ e ∈ next.effects, e.WellFormed := fun e he =>
    (arises_take hnext (.declared he)).wellFormed h
  refine ⟨fun e he => heffect e (List.mem_append_right _ he), hplayer.nodup_ids h.player.1,
    fun card hcard => ?_⟩
  exact h.player.2 card (hplayer.cards.subset hcard)

end Battle

end CardBattle

/-
Turns in which every declaration is checked again.

In a turn effects are made up, copies of cards are changed and the player is changed. Here each
effect, each card and each player that comes of it is declared anew, and may be refused.

* `Effect.redeclare` : an effect declared anew;
* `Card.guardedEnchantedBy`, `Card.guardedBoundEffects`, `guardedJudge`, `guardedPlan` : requests
  judged with the copies of the cards declared;
* `Actors.guardedRun` : effects resolved with the player declared after each one;
* `Battle.guardedTakeAll` : turns that declare all that they make;
* `guardedTakeAll_eq` : in a well-formed battle they come to what the turns come to, so no
  declaration is refused;
* `guardedTakeAll_wellFormed` : and where neither multiples nor fractions are declared, they give a
  result.
-/
import CardBattle.Catalog.Cards
import CardBattle.Catalog.Enemies
import CardBattle.Declaration.Enemy
import CardBattle.Proofs.Totality
import Mathlib.Tactic

namespace CardBattle

open Declaration (Refusal)

/-! ### Results under other errors -/

section Results

variable {ε ε' α β : Type}

lemma map_mapError (f : ε → ε') (g : α → β) (x : Except ε α) :
    (x.mapError f).map g = (x.map g).mapError f := by
  cases x <;> rfl

lemma ok_mapError_bind (f : ε → ε') (a : α) (g : α → Except ε' β) :
    ((Except.ok a).mapError f >>= g) = g a := rfl

lemma mapM_eq_ok_map {f : α → Except ε β} {g : α → β} {xs : List α}
    (h : ∀ x ∈ xs, f x = .ok (g x)) : xs.mapM f = .ok (xs.map g) := by
  induction xs with
  | nil => rfl
  | cons x rest ih =>
      rw [List.mapM_cons, h x (by simp), ih fun y hy => h y (by simp [hy])]
      rfl

end Results

/-! ### Effects -/

namespace Effect

/-- An effect declared anew from its parts. -/
def redeclare (e : Effect) : Except BattleError Effect := declare e.name e.target e.trigger

/-- Effects declared anew, in order. -/
def redeclareAll (es : List Effect) : Except BattleError (List Effect) := es.mapM redeclare

lemma redeclare_eq {e : Effect} (h : e.trigger.misuse? e.target = none) : e.redeclare = .ok e :=
  declare_eq_ok_iff.mpr ⟨h, rfl⟩

lemma redeclareAll_eq {es : List Effect} (h : ∀ e ∈ es, e.trigger.misuse? e.target = none) :
    redeclareAll es = .ok es := by
  have hall : es.mapM redeclare = .ok (es.map id) :=
    mapM_eq_ok_map fun e he => redeclare_eq (h e he)
  rwa [List.map_id] at hall

end Effect

/-! ### Cards -/

namespace Card

variable {card : Card}

/-- A card under one enchantment; the card that comes of it is declared, and so is extra damage. -/
def guardedEnchant (card : Card) (e : Enchantment) : Except BattleError Card :=
  if e.touches card.element then
    match e with
    | .spellCost _ amount => card.withCost (max leastCost (card.cost + amount))
    | .spellDamage element amount => do
        declare (card.withPlay (← (extraDamage element amount).redeclare))
    | .forbidden _ => declare card.heldOnly
    | _ => .ok card
  else .ok card

/-- A card under enchantments, in order, each copy declared. -/
def guardedEnchantedBy (card : Card) (es : List Enchantment) : Except BattleError Card :=
  es.foldlM guardedEnchant card

/-- The play effects of a card, each bound discard declared. -/
def guardedBoundEffects (card : Card) : Except BattleError (List Effect) :=
  card.onPlay.mapM fun e =>
    if e.isDiscard then (Effect.onPlayer "Discard" (.discard card.id)).redeclare else .ok e

/-- No enchantment makes a cost negative. -/
lemma cost_enchant_nonneg (h : 0 ≤ card.cost) (e : Enchantment) : 0 ≤ (card.enchant e).cost := by
  cases e with
  | spellCost element amount =>
      simp only [enchant]
      split
      · exact le_max_of_le_left (by decide)
      · exact h
  | _ =>
      simp only [enchant]
      split <;> exact h

/-- No card that an enchantment changes is refused. -/
lemma guardedEnchant_eq (h : 0 ≤ card.cost) (e : Enchantment) :
    card.guardedEnchant e = .ok (card.enchant e) := by
  have hcost := cost_enchant_nonneg h e
  cases e with
  | spellCost element amount =>
      simp only [enchant, guardedEnchant] at hcost ⊢
      split
      · next htouches =>
          rw [if_pos htouches] at hcost
          exact declare_eq_ok_iff.mpr ⟨hcost, rfl⟩
      · rfl
  | spellDamage element amount =>
      have hextra : (extraDamage element amount).redeclare = .ok (extraDamage element amount) :=
        Effect.redeclare_eq rfl
      simp only [enchant, guardedEnchant, hextra]
      split
      · exact declare_eq_ok_iff.mpr ⟨h, rfl⟩
      · rfl
  | forbidden element =>
      simp only [enchant, guardedEnchant]
      split
      · exact declare_eq_ok_iff.mpr ⟨h, rfl⟩
      · rfl
  | _ =>
      simp only [enchant, guardedEnchant]
      split <;> rfl

/-- A card that could not have been declared is refused once an enchantment changes it. -/
example :
    guardedEnchant { id := "rift", name := "Rift", element := .wind, cost := -1 } (.forbidden .wind)
      = .error (.negativeCost "Rift" (-1) "rift") := rfl

lemma guardedEnchantedBy_eq (h : 0 ≤ card.cost) (es : List Enchantment) :
    card.guardedEnchantedBy es = .ok (card.enchantedBy es) := by
  induction es generalizing card with
  | nil => rfl
  | cons e rest ih =>
      rw [guardedEnchantedBy, List.foldlM_cons, guardedEnchant_eq h]
      exact ih (cost_enchant_nonneg h e)

lemma guardedBoundEffects_eq (card : Card) :
    card.guardedBoundEffects = .ok card.boundEffects := by
  refine mapM_eq_ok_map fun e _ => ?_
  split
  · exact Effect.redeclare_eq rfl
  · rfl

end Card

/-! ### Requests -/

/-- The fate of a card, where some power is left; the copies of the card are declared, and so are
the effects that the card brings about. -/
def guardedJudge (player : Player) (enemy : Enemy) (card : Card) (available : Int) :
    Except BattleError Verdict :=
  if !card.canPlay then .ok .unplayable
  else do
    let working ← card.guardedEnchantedBy player.activated
    if !working.canPlay then return .forbidden
    else if available < working.cost then return .unaffordable working.cost available
    else
      let debit ← (costEffect working.cost).redeclare
      let bound ← working.guardedBoundEffects
      let answers ← Effect.redeclareAll (enemy.counters working.element)
      return .accepted working (debit :: (bound ++ answers))

/-- The fate of each request, in order, where some power is left, with declared copies. -/
def guardedPlan (player : Player) (enemy : Enemy) :
    Int → List Card → Except BattleError (List Fate)
  | _, [] => .ok []
  | available, request :: rest => do
      let fate ← match player.find? request.id with
        | none => .ok (.absent request)
        | some card => (guardedJudge player enemy card available).map (.judged card)
      return fate :: (← guardedPlan player enemy (available - fate.spent) rest)

section Requests

variable {player : Player} {enemy : Enemy}

lemma guardedJudge_eq (henemy : ∀ e ∈ enemy.onPlayerCard, e.WellFormed) {card : Card}
    (h : 0 ≤ card.cost) (available : Int) :
    guardedJudge player enemy card available = .ok (judge player enemy card available) := by
  have hdebit : (costEffect (player.enchant card).cost).redeclare
      = .ok (costEffect (player.enchant card).cost) := Effect.redeclare_eq rfl
  have hbound := (player.enchant card).guardedBoundEffects_eq
  have hanswers : Effect.redeclareAll (enemy.counters (player.enchant card).element)
      = .ok (enemy.counters (player.enchant card).element) :=
    Effect.redeclareAll_eq fun e he => by
      obtain ⟨own, hown, condition, payload, htrigger, rfl⟩ := Enemy.mem_counters he
      exact ((henemy own hown).fire htrigger).1
  have hworking : card.guardedEnchantedBy player.activated = .ok (player.enchant card) :=
    Card.guardedEnchantedBy_eq h player.activated
  simp only [guardedJudge, judge, hworking, hdebit, hbound, hanswers, bind, Except.bind, pure,
    Except.pure]
  split_ifs <;> rfl

lemma guardedPlan_eq (henemy : ∀ e ∈ enemy.onPlayerCard, e.WellFormed)
    (hplayer : ∀ card ∈ player.cards, 0 ≤ card.cost) (available : Int) (requests : List Card) :
    guardedPlan player enemy available requests = .ok (plan player enemy available requests) := by
  induction requests generalizing available with
  | nil => rfl
  | cons request rest ih =>
      rw [guardedPlan, plan]
      cases hfind : player.find? request.id with
      | none =>
          show (guardedPlan player enemy _ rest >>= fun fates => .ok (_ :: fates)) = _
          rw [ih]
          rfl
      | some card =>
          have hcost : 0 ≤ card.cost := hplayer card (List.mem_of_find?_eq_some hfind)
          simp only [guardedJudge_eq henemy hcost]
          show (guardedPlan player enemy _ rest >>= fun fates => .ok (_ :: fates)) = _
          rw [ih]
          rfl

end Requests

/-! ### Effects that are resolved -/

/-- The player after a trigger, declared anew. -/
def Player.guardedReceive (player : Player) (trigger : Trigger) : Except Refusal Player := do
  let next ← (player.receive trigger).mapError .arithmetic
  next.declare.mapError .declaration

/-- The enemy after a payload; the mark of a skip is declared. -/
def Enemy.guardedApply (enemy : Enemy) : Payload → Except Refusal Enemy
  | .skipTurn => do
      let mark ← skipMark.redeclare.mapError .declaration
      return { enemy with skipsNext := true, oneShot := enemy.oneShot ++ [mark] }
  | payload => (enemy.apply payload).mapError .arithmetic

/-- The enemy after a trigger, where the player's hand holds the given elements. -/
def Enemy.guardedReceive (enemy : Enemy) (hand : List Element) (trigger : Trigger) :
    Except Refusal Enemy :=
  match trigger.fired? hand with
  | some payload => enemy.guardedApply payload
  | none => .ok enemy

lemma Enemy.guardedReceive_eq (enemy : Enemy) (hand : List Element) (trigger : Trigger) :
    enemy.guardedReceive hand trigger = (enemy.receive hand trigger).mapError .arithmetic := by
  rw [guardedReceive, receive_eq]
  cases trigger.fired? hand with
  | none => rfl
  | some payload => cases payload <;> rfl

lemma Player.guardedReceive_eq {player : Player} (h : (player.cards.map (·.id)).Nodup)
    (trigger : Trigger) :
    player.guardedReceive trigger = (player.receive trigger).mapError .arithmetic := by
  rw [guardedReceive]
  cases hnext : player.receive trigger with
  | error fault => rfl
  | ok next =>
      have hids : (next.cards.map (·.id)).Nodup := (keeps_receive hnext).nodup_ids h
      have hdeclared : next.declare = .ok next := declare_eq_ok_iff.mpr ⟨hids, rfl⟩
      show (next.declare.mapError Refusal.declaration) = _
      rw [hdeclared]
      rfl

namespace Actors

variable {actors : Actors}

/-- The pair after one effect; whatever is made on the way is declared. -/
def guardedResolve (actors : Actors) (e : Effect) : Except Refusal Actors :=
  match e.target with
  | .player => (actors.player.guardedReceive e.trigger).map fun player => { actors with player }
  | .enemy =>
      (actors.enemy.guardedReceive actors.player.elements e.trigger).map fun enemy =>
        { actors with enemy }

/-- The pair after effects, left to right. -/
def guardedRun (actors : Actors) (effects : List Effect) : Except Refusal Actors :=
  effects.foldlM guardedResolve actors

lemma guardedResolve_eq (h : (actors.player.cards.map (·.id)).Nodup) (e : Effect) :
    actors.guardedResolve e = (actors.resolve e).mapError .arithmetic := by
  rw [guardedResolve, resolve]
  cases e.target with
  | player =>
      simp only [Player.guardedReceive_eq h]
      exact map_mapError _ _ _
  | enemy =>
      simp only [Enemy.guardedReceive_eq]
      exact map_mapError _ _ _

/-- Where no two cards share an id, resolving effects meets no refusal. -/
theorem guardedRun_eq (h : (actors.player.cards.map (·.id)).Nodup) (es : List Effect) :
    actors.guardedRun es = (actors.run es).mapError .arithmetic := by
  induction es generalizing actors with
  | nil => rfl
  | cons e rest ih =>
      rw [guardedRun, List.foldlM_cons, run_cons, guardedResolve_eq h]
      cases hnext : actors.resolve e with
      | error fault => rfl
      | ok next => exact ih ((keeps_resolve hnext).player.nodup_ids h)

end Actors

/-! ### Turns -/

namespace Battle

variable {b : Battle}

/-- The player's turn; the player of the turn is declared, and so are the copies of its cards and
the effects that are made up. -/
def guardedPlayerTurn (b : Battle) (requests : List Card) : Except Refusal Battle :=
  if b.isOver then .ok b
  else do
    let ready ← b.readyPlayer.declare.mapError .declaration
    let fates ← (guardedPlan ready b.enemy b.pool requests).mapError .declaration
    let heals ← (Effect.redeclareAll ready.turnEnd).mapError .declaration
    let effects :=
      ready.turnStart ++ b.enemy.playerTurnStart ++ fates.flatMap (·.effects) ++ heals
    return b.settled (← (Actors.mk b.enemy ready).guardedRun effects)

/-- The enemy's phase; its regeneration is declared. -/
def guardedPhase (actors : Actors) : Except Refusal Actors :=
  if actors.enemy.skipsNext then .ok actors
  else do
    let regeneration ←
      (Effect.redeclareAll
        ((actors.enemy.activated.filterMap (·.lifePerTurn?)).map Enemy.regeneration)).mapError
          .declaration
    actors.guardedRun (actors.enemy.turnStart ++ regeneration ++ actors.enemy.turnEnd)

/-- The enemy's turn, with all that is made in it declared. -/
def guardedEnemyTurn (b : Battle) : Except Refusal Battle :=
  if b.isOver then .ok b
  else do
    let queued ← b.actors.guardedRun b.enemy.oneShot
    return b.closed (← guardedPhase queued)

/-- A turn with all that is made in it declared. -/
def guardedTake (b : Battle) : Turn → Except Refusal Battle
  | .player requests => b.guardedPlayerTurn requests
  | .enemy => b.guardedEnemyTurn

/-- Turns, in order, with all that is made in them declared. -/
def guardedTakeAll (b : Battle) (turns : List Turn) : Except Refusal Battle :=
  turns.foldlM guardedTake b

lemma guardedPlayerTurn_eq (h : b.WellFormed) (requests : List Card) :
    b.guardedPlayerTurn requests = (b.playerTurn requests).mapError .arithmetic := by
  rw [guardedPlayerTurn, playerTurn]
  split
  · rfl
  · have hready : b.readyPlayer.declare = .ok b.readyPlayer :=
      Player.declare_eq_ok_iff.mpr ⟨h.player.1, rfl⟩
    have hanswers : ∀ e ∈ b.enemy.onPlayerCard, e.WellFormed := fun e he =>
      h.enemy e (by simp [Enemy.effects, he])
    have hcosts : ∀ card ∈ b.readyPlayer.cards, 0 ≤ card.cost := fun card hcard =>
      (h.player.2 card hcard).1
    have hfates : guardedPlan b.readyPlayer b.enemy b.pool requests = .ok (b.fates requests) :=
      guardedPlan_eq hanswers hcosts b.pool requests
    have hheals : Effect.redeclareAll b.readyPlayer.turnEnd = .ok b.readyPlayer.turnEnd := by
      refine Effect.redeclareAll_eq fun e he => ?_
      obtain ⟨amount, _, rfl⟩ := List.mem_map.mp he
      rfl
    have hrun : (Actors.mk b.enemy b.readyPlayer).guardedRun (b.playerTurnEffects requests)
        = ((Actors.mk b.enemy b.readyPlayer).run (b.playerTurnEffects requests)).mapError
            .arithmetic := Actors.guardedRun_eq h.player.1 _
    simp only [hready, hfates, hheals, ok_mapError_bind]
    show (((Actors.mk b.enemy b.readyPlayer).guardedRun (b.playerTurnEffects requests)).map
      b.settled) = _
    rw [hrun, map_mapError]

lemma guardedPhase_eq {actors : Actors} (h : (actors.player.cards.map (·.id)).Nodup) :
    guardedPhase actors = (enemyPhase actors).mapError .arithmetic := by
  rw [guardedPhase, enemyPhase]
  split
  · rfl
  · have hregeneration : ∀ e ∈ (actors.enemy.activated.filterMap (·.lifePerTurn?)).map
        Enemy.regeneration, e.trigger.misuse? e.target = none := by
      intro e he
      obtain ⟨amount, _, rfl⟩ := List.mem_map.mp he
      rfl
    rw [Effect.redeclareAll_eq hregeneration]
    exact Actors.guardedRun_eq h _

lemma guardedEnemyTurn_eq (h : b.WellFormed) :
    b.guardedEnemyTurn = b.enemyTurn.mapError .arithmetic := by
  rw [guardedEnemyTurn, enemyTurn]
  split
  · rfl
  · have hrun : b.actors.guardedRun b.enemy.oneShot
        = (b.actors.run b.enemy.oneShot).mapError .arithmetic :=
      Actors.guardedRun_eq h.player.1 _
    rw [hrun]
    cases hqueued : b.actors.run b.enemy.oneShot with
    | error fault => rfl
    | ok queued =>
        have hids : (queued.player.cards.map (·.id)).Nodup :=
          (Actors.keeps_run hqueued).player.nodup_ids h.player.1
        show ((guardedPhase queued).map b.closed) = ((enemyPhase queued).map b.closed).mapError _
        rw [guardedPhase_eq hids, map_mapError]

lemma guardedTake_eq (h : b.WellFormed) (turn : Turn) :
    b.guardedTake turn = (b.take turn).mapError .arithmetic := by
  cases turn with
  | player requests => exact guardedPlayerTurn_eq h requests
  | enemy => exact guardedEnemyTurn_eq h

/-- In a well-formed battle, turns that declare all that they make come to what the turns come
to. -/
theorem guardedTakeAll_eq (h : b.WellFormed) (turns : List Turn) :
    b.guardedTakeAll turns = (b.takeAll turns).mapError .arithmetic := by
  induction turns generalizing b with
  | nil => rfl
  | cons turn rest ih =>
      rw [guardedTakeAll, List.foldlM_cons, takeAll_cons, guardedTake_eq h]
      cases hnext : b.take turn with
      | error fault => rfl
      | ok next => exact ih (h.take hnext)

/-- Turns of a well-formed battle never refuse a declaration. -/
lemma guardedTakeAll_ne_declaration (h : b.WellFormed) (turns : List Turn) (error : BattleError) :
    b.guardedTakeAll turns ≠ .error (.declaration error) := by
  rw [guardedTakeAll_eq h]
  cases b.takeAll turns <;> simp [Except.mapError]

/-- A hand that could not have been declared is refused in the first turn of the player. -/
example :
    guardedTake
        { enemy := Catalog.floods
          player := { hitPoints := 20, cards := [Catalog.gust "gust", Catalog.stream "gust"] } }
        (.player [])
      = .error (.declaration (.duplicateCard "gust" none)) := rfl

/-- In a battle whose cards, effects and hand could be declared, no turn refuses a declaration,
whatever enchantments are active and whatever is requested: turns that declare all that they make
come to what the turns come to. Where no slot of the enemy is a multiple and no declared effect
takes a fraction of hit points, they give a result. -/
theorem guardedTakeAll_wellFormed (h : b.WellFormed) (turns : List Turn) :
    b.guardedTakeAll turns = (b.takeAll turns).mapError .arithmetic
      ∧ (∀ error, b.guardedTakeAll turns ≠ .error (.declaration error))
      ∧ ((∀ slot ∈ b.enemy.defense.slots, slot.factor? = none) →
          (∀ e ∈ b.effects, ∀ payload ∈ e.payload?, payload.fraction? = none) →
          ∃ next, b.guardedTakeAll turns = .ok next ∧ b.takeAll turns = .ok next) := by
  refine ⟨guardedTakeAll_eq h turns, guardedTakeAll_ne_declaration h turns, ?_⟩
  intro hslots heffects
  obtain ⟨next, hnext⟩ := exists_takeAll_of_steady h (steady_of_no_fraction hslots heffects) turns
  refine ⟨next, ?_, hnext⟩
  rw [guardedTakeAll_eq h, hnext]
  rfl

/-- A battle in which turns make up effects of every kind: costs are lowered below zero and raised
again, damage of wind is lowered, discards are bound, the enemy answers wind twice, both sides heal
and a turn is skipped. -/
def busy : Battle where
  enemy := { Catalog.meltdown with activated := [.lifePerTurn 2] }
  player :=
    { hitPoints := 20
      cards := [Catalog.gust "gust", Catalog.logistics "chain", Catalog.timeSlip "slip"]
      activated := [.spellCost .neutral (-9), .spellDamage .wind (-1), .lifePerTurn 3] }
  powerPerTurn := 6

/-- The busy battle goes on for three turns without a refusal. -/
theorem guardedTakeAll_wellFormed_busy :
    busy.WellFormed ∧ (∀ slot ∈ busy.enemy.defense.slots, slot.factor? = none)
      ∧ (∀ e ∈ busy.effects, ∀ payload ∈ e.payload?, payload.fraction? = none)
      ∧ ∃ next, busy.guardedTakeAll [.player busy.player.cards, .enemy, .enemy] = .ok next
          ∧ busy.takeAll [.player busy.player.cards, .enemy, .enemy] = .ok next
          ∧ next.player.cards = [Catalog.gust "gust"] := by
  have hwf : busy.WellFormed := ⟨by decide, by decide⟩
  have hslots : ∀ slot ∈ busy.enemy.defense.slots, slot.factor? = none := by decide
  have heffects : ∀ e ∈ busy.effects, ∀ payload ∈ e.payload?, payload.fraction? = none := by
    decide
  have hrun : busy.takeAll [.player busy.player.cards, .enemy, .enemy] = .ok _ := rfl
  obtain ⟨next, hguarded, hnext⟩ :=
    (guardedTakeAll_wellFormed hwf [.player busy.player.cards, .enemy, .enemy]).2.2 hslots heffects
  obtain rfl := Except.ok.inj (hrun.symm.trans hnext)
  exact ⟨hwf, hslots, heffects, _, hguarded, hnext, rfl⟩

end Battle

end CardBattle

/-
When turns give a result.

Nothing but arithmetic can keep an effect from being resolved.

* `Enemy.Admits`, `Player.Admits`, `Actors.Admits` : the numbers that a payload meets are not too
  large; `Actors.AdmitsAll`, `Battle.Admits`, `Battle.AdmitsAll`: nor are those that effects meet
  one after another, those of a turn, and those of a sequence of turns;
* `exists_takeAll_iff` : the turns of a well-formed battle give a result exactly when it admits
  them;
* `Battle.Steady` : no fraction of hit points is taken, and every slot that damage to the enemy
  meets can be applied to it; `exists_takeAll_of_steady`: then every sequence of turns gives a
  result.
-/
import CardBattle.Proofs.Origins
import CardBattle.Proofs.Overflow
import Mathlib.Tactic

namespace CardBattle

/-! ### Payloads -/

/-- Whether the numbers that a payload for the player meets are not too large. -/
def Player.Admits (player : Player) : Payload → Prop
  | .percentDamage _ => player.hitPoints.natAbs < Double.overflow
  | _ => True

/-- Whether the numbers that a payload for the enemy meets are not too large. -/
def Enemy.Admits (enemy : Enemy) : Payload → Prop
  | .damage damage => enemy.defense.Applies damage
  | .percentDamage fraction =>
      enemy.hitPoints.natAbs < Double.overflow
        ∧ ∀ amount, percentOf enemy.hitPoints fraction = .ok amount →
            enemy.defense.Applies ⟨amount, .neutral⟩
  | _ => True

lemma Player.exists_apply_iff {player : Player} {payload : Payload}
    (h : payload.hasFraction = true) :
    (∃ next, player.apply payload = .ok next) ↔ player.Admits payload := by
  cases payload with
  | percentDamage fraction =>
      rw [Admits, ← exists_percentOf_iff h]
      exact exists_map_eq_ok_iff.trans exists_map_eq_ok_iff
  | _ => exact iff_of_true ⟨_, rfl⟩ trivial

lemma Enemy.exists_apply_iff {enemy : Enemy} {payload : Payload}
    (h : payload.hasFraction = true) :
    (∃ next, enemy.apply payload = .ok next) ↔ enemy.Admits payload := by
  cases payload with
  | damage damage => exact exists_map_eq_ok_iff.trans Defense.exists_resolve_iff
  | percentDamage fraction =>
      rw [Admits, ← exists_percentOf_iff h]
      refine exists_bind_eq_ok_iff.trans (and_congr exists_map_eq_ok_iff ?_)
      constructor
      · intro htaken amount hamount
        have hdamage : enemy.fractionDamage fraction = .ok ⟨amount, .neutral⟩ :=
          map_eq_ok_iff.mpr ⟨amount, hamount, rfl⟩
        exact Defense.exists_resolve_iff.mp (exists_map_eq_ok_iff.mp (htaken _ hdamage))
      · intro happlies damage hdamage
        obtain ⟨amount, hamount, rfl⟩ := map_eq_ok_iff.mp hdamage
        exact exists_map_eq_ok_iff.mpr (Defense.exists_resolve_iff.mpr (happlies amount hamount))
  | _ => exact iff_of_true ⟨_, rfl⟩ trivial

/-! ### Effects -/

namespace Actors

variable {actors : Actors}

/-- Whether the numbers that an effect meets are not too large, if it fires. -/
def Admits (actors : Actors) (e : Effect) : Prop :=
  ∀ payload ∈ e.trigger.fired? actors.player.elements,
    match e.target with
    | .player => actors.player.Admits payload
    | .enemy => actors.enemy.Admits payload

/-- Whether the numbers that effects meet are not too large, each one read where the earlier ones
have been resolved. -/
def AdmitsAll (actors : Actors) : List Effect → Prop
  | [] => True
  | e :: rest => actors.Admits e ∧ ∀ next, actors.resolve e = .ok next → next.AdmitsAll rest

/-- An effect that could be declared is resolved exactly when the actors admit it. -/
theorem exists_resolve_iff {e : Effect} (h : e.WellFormed) :
    (∃ next, actors.resolve e = .ok next) ↔ actors.Admits e := by
  have hfraction : ∀ payload, e.trigger.fired? actors.player.elements = some payload →
      payload.hasFraction = true := fun payload hfired =>
    h.2 payload (Trigger.payload?_of_fired? hfired)
  obtain ⟨name, target, trigger⟩ := e
  cases target with
  | player =>
      refine exists_map_eq_ok_iff.trans ?_
      cases hdiscard : trigger.isDiscard with
      | true =>
          cases trigger with
          | discard cardId => exact iff_of_true ⟨_, rfl⟩ (by simp [Admits, Trigger.fired?])
          | _ => simp [Trigger.isDiscard] at hdiscard
      | false =>
          rw [Player.receive_eq hdiscard]
          cases hfired : trigger.fired? actors.player.elements with
          | none => exact iff_of_true ⟨_, rfl⟩ (by simp [Admits, hfired])
          | some payload =>
              simpa [Admits, hfired] using Player.exists_apply_iff (hfraction payload hfired)
  | enemy =>
      refine exists_map_eq_ok_iff.trans ?_
      rw [Enemy.receive_eq]
      cases hfired : trigger.fired? actors.player.elements with
      | none => exact iff_of_true ⟨_, rfl⟩ (by simp [Admits, hfired])
      | some payload =>
          simpa [Admits, hfired] using Enemy.exists_apply_iff (hfraction payload hfired)

/-- Effects that could be declared are resolved exactly when the actors admit them. -/
theorem exists_run_iff {es : List Effect} (h : ∀ e ∈ es, e.WellFormed) :
    (∃ next, actors.run es = .ok next) ↔ actors.AdmitsAll es := by
  induction es generalizing actors with
  | nil => exact iff_of_true ⟨_, rfl⟩ trivial
  | cons e rest ih =>
      have hrest : ∀ e ∈ rest, e.WellFormed := fun e he => h e (by simp [he])
      rw [run_cons, AdmitsAll, exists_bind_eq_ok_iff, exists_resolve_iff (h e (by simp))]
      exact and_congr_right fun _ => forall₂_congr fun mid _ => ih hrest

end Actors

/-! ### Turns -/

namespace Battle

variable {b next : Battle} {turn : Turn}

/-- Whether the numbers that a turn meets are not too large. In a decided battle it meets none. -/
def Admits (b : Battle) (turn : Turn) : Prop :=
  b.isOver = false →
    match turn with
    | .player requests =>
        (Actors.mk b.enemy b.readyPlayer).AdmitsAll (b.playerTurnEffects requests)
    | .enemy =>
        b.actors.AdmitsAll b.enemy.oneShot
          ∧ ∀ queued, b.actors.run b.enemy.oneShot = .ok queued →
              queued.AdmitsAll (phaseEffects queued.enemy)

/-- Whether the numbers that turns meet are not too large, each turn taken after the earlier
ones. -/
def AdmitsAll (b : Battle) : List Turn → Prop
  | [] => True
  | turn :: rest => b.Admits turn ∧ ∀ next, b.take turn = .ok next → next.AdmitsAll rest

/-- A turn of a well-formed battle gives a result exactly when the battle admits it. -/
theorem exists_take_iff (h : b.WellFormed) :
    (∃ next, b.take turn = .ok next) ↔ b.Admits turn := by
  cases hover : b.isOver with
  | true => exact iff_of_true ⟨b, take_of_isOver hover turn⟩ (by simp [Admits, hover])
  | false =>
      cases turn with
      | player requests =>
          have hall : ∀ e ∈ b.playerTurnEffects requests, e.WellFormed := fun e he =>
            (arises_of_mem_playerTurnEffects he).wellFormed h
          simp only [Admits, hover, forall_const, ← Actors.exists_run_iff hall]
          rw [take, playerTurn, if_neg (by simp [hover])]
          exact exists_map_eq_ok_iff
      | enemy =>
          have hqueue : ∀ e ∈ b.enemy.oneShot, e.WellFormed := fun e he =>
            h.enemy e (by simp [Enemy.effects, he])
          simp only [Admits, hover, forall_const, ← Actors.exists_run_iff hqueue]
          rw [take, enemyTurn, if_neg (by simp [hover]), exists_bind_eq_ok_iff]
          refine and_congr_right fun _ => forall₂_congr fun queued hqueued => ?_
          -- the enemy still declares what it did before its queue was resolved
          have hall : ∀ e ∈ phaseEffects queued.enemy, e.WellFormed := fun e he =>
            (arises_of_mem_phaseEffects (Actors.keeps_run hqueued).enemy he).wellFormed h
          rw [← Actors.exists_run_iff hall, ← enemyPhase_eq_run]
          exact exists_map_eq_ok_iff

/-- The turns of a well-formed battle give a result exactly when the battle admits them. -/
theorem exists_takeAll_iff {turns : List Turn} (h : b.WellFormed) :
    (∃ next, b.takeAll turns = .ok next) ↔ b.AdmitsAll turns := by
  induction turns generalizing b with
  | nil => exact iff_of_true ⟨b, rfl⟩ trivial
  | cons turn rest ih =>
      rw [takeAll_cons, AdmitsAll, exists_bind_eq_ok_iff, exists_take_iff h]
      exact and_congr_right fun _ => forall₂_congr fun mid hmid => ih (h.take hmid)

end Battle

/-! ### Steady battles -/

/-- The fraction of hit points that a payload takes. -/
def Payload.fraction? : Payload → Option Double
  | .percentDamage fraction => some fraction
  | _ => none

/-- Whether a payload for a side can be received whatever the hit points are: it takes no fraction
of them, and if it is damage to the enemy, the slots that it meets can be applied to it. -/
def Payload.Steady (d : Defense) (side : Side) : Payload → Prop
  | .percentDamage _ => False
  | .damage event => side = .enemy → d.Applies event
  | _ => True

/-- Whether an effect can be resolved whatever the hit points are. -/
def Effect.Steady (d : Defense) (e : Effect) : Prop :=
  ∀ payload ∈ e.payload?, payload.Steady d e.target

instance (d : Defense) (side : Side) (payload : Payload) : Decidable (payload.Steady d side) :=
  match payload with
  | .percentDamage _ => inferInstanceAs (Decidable False)
  | .damage _ => inferInstanceAs (Decidable (_ → _))
  | .life _ => inferInstanceAs (Decidable True)
  | .power _ => inferInstanceAs (Decidable True)
  | .grant _ => inferInstanceAs (Decidable True)
  | .skipTurn => inferInstanceAs (Decidable True)

instance (d : Defense) (e : Effect) : Decidable (e.Steady d) :=
  inferInstanceAs (Decidable (∀ payload ∈ e.payload?, _))

/-- A steady effect is admitted. -/
lemma Actors.admits_of_steady {actors : Actors} {e : Effect}
    (h : e.Steady actors.enemy.defense) : actors.Admits e := by
  intro payload hfired
  have hsteady := h payload (Trigger.payload?_of_fired? hfired)
  cases htarget : e.target with
  | player =>
      cases payload with
      | percentDamage fraction => exact hsteady.elim
      | _ => trivial
  | enemy =>
      cases payload with
      | percentDamage fraction => exact hsteady.elim
      | damage damage => exact hsteady htarget
      | _ => trivial

/-- So are steady effects, one after another, since the defense stays as it is. -/
lemma Actors.admitsAll_of_steady {actors : Actors} {es : List Effect}
    (h : ∀ e ∈ es, e.Steady actors.enemy.defense) : actors.AdmitsAll es := by
  induction es generalizing actors with
  | nil => trivial
  | cons e rest ih =>
      refine ⟨admits_of_steady (h e (by simp)), fun next hnext => ih fun e he => ?_⟩
      rw [(keeps_resolve hnext).enemy.defense]
      exact h e (by simp [he])

namespace Battle

variable {b next : Battle} {e : Effect} {turn : Turn}

/-- Whether no declared effect takes a fraction of hit points, and every slot that declared damage
to the enemy, or extra damage of an active enchantment, meets can be applied to it. -/
structure Steady (b : Battle) : Prop where
  effects : ∀ e ∈ b.effects, e.Steady b.enemy.defense
  extra : ∀ element amount, .spellDamage element amount ∈ b.player.activated →
    b.enemy.defense.Applies ⟨amount, element⟩

/-- A battle without multiples in the enemy's defense and without fractions is steady. -/
lemma steady_of_no_fraction (hslots : ∀ slot ∈ b.enemy.defense.slots, slot.factor? = none)
    (heffects : ∀ e ∈ b.effects, ∀ payload ∈ e.payload?, payload.fraction? = none) :
    b.Steady where
  effects e he payload hpayload := by
    cases payload with
    | percentDamage fraction => cases heffects e he _ hpayload
    | damage event => exact fun _ => Defense.applies_of_factor?_eq_none hslots event
    | _ => trivial
  extra element amount _ := Defense.applies_of_factor?_eq_none hslots _

/-- Every effect that arises in a steady battle is steady. -/
lemma Arises.steady (h : b.Steady) (he : b.Arises e) : e.Steady b.enemy.defense := by
  cases he with
  | declared he => exact h.effects e he
  | @answer own condition payload he htrigger =>
      have hown : own.Steady b.enemy.defense :=
        h.effects own (List.mem_append_right _ (by simp [Enemy.effects, he]))
      have hpayload : own.payload? = some payload := by
        rw [Effect.payload?, htrigger]
        rfl
      intro fired hfired
      obtain rfl := Option.some.inj hfired
      exact hown payload hpayload
  | extra he =>
      intro payload hpayload
      obtain rfl := Option.some.inj hpayload
      exact fun _ => h.extra _ _ he
  | discard cardId => simp [Effect.Steady, Effect.payload?, Effect.onPlayer, Trigger.payload?]
  | cost amount | heal amount | regeneration amount | skip =>
      intro payload hpayload
      obtain rfl := Option.some.inj hpayload
      exact trivial

/-- Turns keep a battle steady. -/
lemma Steady.take (h : b.Steady) (hnext : b.take turn = .ok next) : next.Steady := by
  have hdefense : next.enemy.defense = b.enemy.defense := (keeps_take hnext).actors.enemy.defense
  have hactivated : next.player.activated = b.player.activated :=
    (keeps_take hnext).actors.player.activated
  refine ⟨fun e he => ?_, fun element amount hmem => ?_⟩
  · rw [hdefense]
    exact (arises_take hnext (.declared he)).steady h
  · rw [hdefense]
    exact h.extra element amount (hactivated ▸ hmem)

lemma admits_of_steady (h : b.Steady) (turn : Turn) : b.Admits turn := by
  intro _
  cases turn with
  | player requests =>
      exact Actors.admitsAll_of_steady fun e he => (arises_of_mem_playerTurnEffects he).steady h
  | enemy =>
      refine ⟨Actors.admitsAll_of_steady fun e he => ?_, fun queued hqueued => ?_⟩
      · exact h.effects e (List.mem_append_right _ (by simp [Enemy.effects, he]))
      · have hkept : b.enemy.Keeps queued.enemy := (Actors.keeps_run hqueued).enemy
        refine Actors.admitsAll_of_steady fun e he => ?_
        rw [hkept.defense]
        exact (arises_of_mem_phaseEffects hkept he).steady h

/-- In a well-formed battle that is steady, every sequence of turns gives a result. -/
theorem exists_takeAll_of_steady (hwf : b.WellFormed) (h : b.Steady) (turns : List Turn) :
    ∃ next, b.takeAll turns = .ok next := by
  induction turns generalizing b with
  | nil => exact ⟨b, rfl⟩
  | cons turn rest ih =>
      obtain ⟨mid, hmid⟩ := (exists_take_iff hwf).mpr (admits_of_steady h turn)
      obtain ⟨next, hrest⟩ := ih (hwf.take hmid) (h.take hmid)
      exact ⟨next, takeAll_cons_eq_ok_iff.mpr ⟨mid, hmid, hrest⟩⟩

end Battle

end CardBattle

/-
Effects whose order does not matter.

* `Shift` : what effects change and what can be added up: the hit points of both actors, the power
  in reserve and the skips that are queued; `Actors.shifted`: the actors after a shift;
* `Actors.shiftOf` : the shift that an effect brings to the actors; `resolve_eq_shifted`: an effect
  that is no discard does that and nothing else;
* `Effect.Additive` : an effect that is no discard and takes no fraction of hit points;
  `shiftOf_shifted`: its shift is read from the hand, the shields and the defense, which no shift
  changes;
* `run_eq_shifted` : a run of such effects shifts the actors by the sum of all their shifts;
* `run_perm` : so it gives the same result in every order, and the same notes in another order.
-/
import CardBattle.Catalog.Cards
import CardBattle.Catalog.Enemies
import CardBattle.Journal.Actors
import CardBattle.Proofs.Totality
import Mathlib.Tactic

namespace CardBattle

/-! ### Shifts -/

/-- What effects change, by amounts that add up. -/
@[ext]
structure Shift where
  enemyHitPoints : Int := 0
  playerHitPoints : Int := 0
  reserve : Int := 0
  /-- The skips of the enemy's next turn that are queued. -/
  skips : ℕ := 0
  deriving DecidableEq, Repr

namespace Shift

instance : Zero Shift := ⟨{}⟩

instance : Add Shift where
  add s t :=
    { enemyHitPoints := s.enemyHitPoints + t.enemyHitPoints
      playerHitPoints := s.playerHitPoints + t.playerHitPoints
      reserve := s.reserve + t.reserve
      skips := s.skips + t.skips }

variable (s t : Shift)

@[simp] lemma enemyHitPoints_zero : (0 : Shift).enemyHitPoints = 0 := rfl

@[simp] lemma playerHitPoints_zero : (0 : Shift).playerHitPoints = 0 := rfl

@[simp] lemma reserve_zero : (0 : Shift).reserve = 0 := rfl

@[simp] lemma skips_zero : (0 : Shift).skips = 0 := rfl

@[simp] lemma enemyHitPoints_add :
    (s + t).enemyHitPoints = s.enemyHitPoints + t.enemyHitPoints := rfl

@[simp] lemma playerHitPoints_add :
    (s + t).playerHitPoints = s.playerHitPoints + t.playerHitPoints := rfl

@[simp] lemma reserve_add : (s + t).reserve = s.reserve + t.reserve := rfl

@[simp] lemma skips_add : (s + t).skips = s.skips + t.skips := rfl

instance : AddCommMonoid Shift where
  add_assoc s t u := by ext <;> simp [add_assoc]
  zero_add s := by ext <;> simp
  add_zero s := by ext <;> simp
  add_comm s t := by ext <;> simp [add_comm]
  nsmul := nsmulRec

end Shift

/-! ### One actor -/

/-- The enemy after a shift. -/
def Enemy.shifted (enemy : Enemy) (s : Shift) : Enemy :=
  { enemy with
    hitPoints := enemy.hitPoints + s.enemyHitPoints
    skipsNext := enemy.skipsNext || decide (0 < s.skips)
    oneShot := enemy.oneShot ++ List.replicate s.skips skipMark }

/-- The player after a shift. -/
def Player.shifted (player : Player) (s : Shift) : Player :=
  { player with
    hitPoints := player.hitPoints + s.playerHitPoints
    reserve := player.reserve + s.reserve }

lemma Enemy.shifted_shifted (enemy : Enemy) (s t : Shift) :
    (enemy.shifted s).shifted t = enemy.shifted (s + t) := by
  have hskips : (decide (0 < s.skips) || decide (0 < t.skips))
      = decide (0 < s.skips + t.skips) := by
    rw [← Bool.decide_or]
    exact decide_eq_decide.mpr (by omega)
  simp only [shifted, Shift.enemyHitPoints_add, Shift.skips_add, add_assoc, Bool.or_assoc, hskips,
    List.append_assoc, List.replicate_append_replicate]

lemma Player.shifted_shifted (player : Player) (s t : Shift) :
    (player.shifted s).shifted t = player.shifted (s + t) := by
  simp only [shifted, Shift.playerHitPoints_add, Shift.reserve_add, add_assoc]

/-- The shift that a payload brings to the enemy. -/
def Enemy.shiftOf (enemy : Enemy) : Payload → Except Double.Fault Shift
  | .damage damage => (enemy.defense.resolve damage).map fun actual => { enemyHitPoints := -actual }
  | .life amount => .ok { enemyHitPoints := amount }
  | .percentDamage fraction => do
      let damage ← enemy.fractionDamage fraction
      (enemy.defense.resolve damage).map fun actual => { enemyHitPoints := -actual }
  | .skipTurn => .ok { skips := 1 }
  | .power _ => .ok 0
  | .grant _ => .ok 0

/-- The shift that a payload brings to the player. -/
def Player.shiftOf (player : Player) : Payload → Except Double.Fault Shift
  | .damage damage => .ok { playerHitPoints := -player.taken damage }
  | .life amount => .ok { playerHitPoints := amount }
  | .power amount => .ok { reserve := amount }
  | .percentDamage fraction =>
      (player.fractionDamage fraction).map fun damage =>
        { playerHitPoints := -player.taken damage }
  | .grant _ => .ok 0
  | .skipTurn => .ok 0

/-! ### Both actors -/

namespace Actors

variable {actors next : Actors} {e : Effect} {es others : List Effect}

/-- The actors after a shift. -/
def shifted (actors : Actors) (s : Shift) : Actors :=
  ⟨actors.enemy.shifted s, actors.player.shifted s⟩

@[simp] lemma shifted_zero (actors : Actors) : actors.shifted 0 = actors := by
  simp [shifted, Enemy.shifted, Player.shifted]

lemma shifted_shifted (actors : Actors) (s t : Shift) :
    (actors.shifted s).shifted t = actors.shifted (s + t) := by
  rw [shifted, shifted, shifted, Enemy.shifted_shifted, Player.shifted_shifted]

/-- The shift that an effect brings: that of the payload that fires, to the actor it is aimed
at. -/
def shiftOf (actors : Actors) (e : Effect) : Except Double.Fault Shift :=
  match e.trigger.fired? actors.player.elements with
  | none => .ok 0
  | some payload =>
      match e.target with
      | .player => actors.player.shiftOf payload
      | .enemy => actors.enemy.shiftOf payload

/-- A payload for the player does nothing but shift it. -/
lemma map_apply_player (actors : Actors) (payload : Payload) :
    (actors.player.apply payload).map (fun player => { actors with player })
      = (actors.player.shiftOf payload).map actors.shifted := by
  cases payload with
  | percentDamage fraction =>
      rw [Player.apply, Player.shiftOf]
      cases actors.player.fractionDamage fraction with
      | error fault => rfl
      | ok damage =>
          simp [Except.map, shifted, Enemy.shifted, Player.shifted, Player.takeDamage,
            sub_eq_add_neg]
  | _ =>
      simp [Player.apply, Player.shiftOf, Except.map, shifted, Enemy.shifted, Player.shifted,
        Player.takeDamage, sub_eq_add_neg]

lemma map_takeDamage_enemy (actors : Actors) (damage : Damage) :
    (actors.enemy.takeDamage damage).map (fun enemy => { actors with enemy })
      = ((actors.enemy.defense.resolve damage).map fun actual =>
          { enemyHitPoints := -actual : Shift }).map actors.shifted := by
  rw [Enemy.takeDamage]
  cases actors.enemy.defense.resolve damage with
  | error fault => rfl
  | ok actual => simp [Except.map, shifted, Enemy.shifted, Player.shifted, sub_eq_add_neg]

/-- A payload for the enemy does nothing but shift it. -/
lemma map_apply_enemy (actors : Actors) (payload : Payload) :
    (actors.enemy.apply payload).map (fun enemy => { actors with enemy })
      = (actors.enemy.shiftOf payload).map actors.shifted := by
  cases payload with
  | damage damage => exact map_takeDamage_enemy actors damage
  | percentDamage fraction =>
      rw [Enemy.apply, Enemy.shiftOf]
      cases actors.enemy.fractionDamage fraction with
      | error fault => rfl
      | ok damage => exact map_takeDamage_enemy actors damage
  | _ =>
      simp [Enemy.apply, Enemy.shiftOf, Except.map, shifted, Enemy.shifted, Player.shifted,
        Enemy.markSkipped]

/-- An effect that is no discard shifts the actors, and does nothing else. -/
lemma resolve_eq_shifted (hdiscard : e.isDiscard = false) :
    actors.resolve e = (actors.shiftOf e).map actors.shifted := by
  rw [resolve, shiftOf]
  cases hfired : e.trigger.fired? actors.player.elements with
  | none =>
      show _ = Except.ok (actors.shifted 0)
      rw [shifted_zero]
      cases e.target with
      | player => simp [Player.receive_eq hdiscard, hfired, Except.map]
      | enemy => simp [Enemy.receive_eq, hfired, Except.map]
  | some payload =>
      cases e.target with
      | player =>
          rw [Player.receive_eq hdiscard, hfired]
          exact map_apply_player actors payload
      | enemy =>
          rw [Enemy.receive_eq, hfired]
          exact map_apply_enemy actors payload

end Actors

/-! ### Notes -/

/-- What is noted on a trigger that is no discard is noted on the payload that fires. -/
lemma Player.receiveNotes_eq {player : Player} {trigger : Trigger}
    (h : trigger.isDiscard = false) :
    player.receiveNotes trigger
      = ((trigger.fired? player.elements).map player.applyNotes).getD [] := by
  cases trigger with
  | always payload => rfl
  | when condition payload =>
      rw [receiveNotes, Trigger.fired?]
      split <;> rfl
  | discard cardId => cases h

lemma Enemy.receiveNotes_eq {enemy : Enemy} (hand : List Element) (trigger : Trigger) :
    enemy.receiveNotes hand trigger
      = ((trigger.fired? hand).map enemy.applyNotes).getD [] := by
  cases trigger with
  | always payload => rfl
  | when condition payload =>
      rw [receiveNotes, Trigger.fired?, Condition.ofEnemy, Bool.true_and]
      split <;> rfl
  | discard cardId => rfl

lemma Player.applyNotes_shifted {player : Player} {payload : Payload}
    (h : payload.fraction? = none) (s : Shift) :
    (player.shifted s).applyNotes payload = player.applyNotes payload := by
  have htaken (damage : Damage) : (player.shifted s).taken damage = player.taken damage := rfl
  cases payload with
  | percentDamage fraction => cases h
  | damage damage => rw [applyNotes, applyNotes, damageNotes, damageNotes, htaken]
  | _ => rw [applyNotes, applyNotes]

lemma Enemy.applyNotes_shifted {enemy : Enemy} {payload : Payload}
    (h : payload.fraction? = none) (s : Shift) :
    (enemy.shifted s).applyNotes payload = enemy.applyNotes payload := by
  have hdefense : (enemy.shifted s).defense = enemy.defense := rfl
  cases payload with
  | percentDamage fraction => cases h
  | damage damage => rw [applyNotes, applyNotes, damageNotes, damageNotes, hdefense]
  | _ => rw [applyNotes, applyNotes]

/-! ### Effects that add up -/

/-- Whether what an effect brings about does not depend on what other effects have changed: it is no
discard, and takes no fraction of hit points. -/
structure Effect.Additive (e : Effect) : Prop where
  kept : e.isDiscard = false
  whole : ∀ payload ∈ e.payload?, payload.fraction? = none

instance (e : Effect) : Decidable e.Additive :=
  decidable_of_iff (e.isDiscard = false ∧ ∀ payload ∈ e.payload?, payload.fraction? = none)
    ⟨fun h => ⟨h.1, h.2⟩, fun h => ⟨h.kept, h.whole⟩⟩

namespace Actors

variable {actors next : Actors} {e : Effect} {es others : List Effect}

/-- No shift changes what an additive effect brings. -/
lemma shiftOf_shifted (h : e.Additive) (s : Shift) :
    (actors.shifted s).shiftOf e = actors.shiftOf e := by
  have hfired_eq : e.trigger.fired? (actors.shifted s).player.elements
      = e.trigger.fired? actors.player.elements := rfl
  rw [shiftOf, shiftOf, hfired_eq]
  cases hfired : e.trigger.fired? actors.player.elements with
  | none => rfl
  | some payload =>
      have hwhole := h.whole payload (Trigger.payload?_of_fired? hfired)
      cases payload with
      | percentDamage fraction => cases hwhole
      | _ => rfl

/-- Nor what is noted on it. -/
lemma stepNotes_shifted (h : e.Additive) (s : Shift) :
    (actors.shifted s).stepNotes e = actors.stepNotes e := by
  have hhand : (actors.shifted s).player.elements = actors.player.elements := rfl
  have hnotes : (actors.shifted s).resolveNotes e = actors.resolveNotes e := by
    rw [resolveNotes, resolveNotes, Player.receiveNotes_eq h.kept, Player.receiveNotes_eq h.kept,
      Enemy.receiveNotes_eq, Enemy.receiveNotes_eq, hhand]
    cases hfired : e.trigger.fired? actors.player.elements with
    | none => simp only [Option.map_none, Option.getD_none]
    | some payload =>
        have hwhole := h.whole payload (Trigger.payload?_of_fired? hfired)
        simp only [Option.map_some, Option.getD_some, shifted, Player.applyNotes_shifted hwhole,
          Enemy.applyNotes_shifted hwhole]
  rw [stepNotes, stepNotes, hnotes]

/-- Additive effects shift the actors by the sum of what each of them brings. -/
lemma run_shifted (actors : Actors) (h : ∀ e ∈ es, e.Additive) (s : Shift) :
    (actors.shifted s).run es
      = (es.mapM actors.shiftOf).map fun shifts => actors.shifted (s + shifts.sum) := by
  induction es generalizing s with
  | nil => simp [Except.map, pure, Except.pure]
  | cons e es ih =>
      obtain ⟨hfirst, hrest⟩ := List.forall_mem_cons.mp h
      rw [run_cons, resolve_eq_shifted hfirst.kept, shiftOf_shifted hfirst, List.mapM_cons]
      cases actors.shiftOf e with
      | error fault => rfl
      | ok t =>
          show ((actors.shifted s).shifted t).run es = _
          rw [shifted_shifted, ih hrest]
          cases es.mapM actors.shiftOf with
          | error fault => rfl
          | ok shifts => simp [Except.map, bind, Except.bind, pure, Except.pure, add_assoc]

/-- Each of them is noted as if it were the first one. -/
lemma runNotes_shifted (h : ∀ e ∈ es, e.Additive) {s : Shift}
    (hrun : (actors.shifted s).run es = .ok next) :
    (actors.shifted s).runNotes es = es.flatMap actors.stepNotes := by
  induction es generalizing s with
  | nil => rfl
  | cons e es ih =>
      obtain ⟨hfirst, hrest⟩ := List.forall_mem_cons.mp h
      obtain ⟨mid, hmid, hothers⟩ := run_cons_eq_ok_iff.mp hrun
      rw [runNotes, hmid, stepNotes_shifted hfirst, List.flatMap_cons]
      rw [resolve_eq_shifted hfirst.kept] at hmid
      obtain ⟨t, _, rfl⟩ := map_eq_ok_iff.mp hmid
      rw [shifted_shifted] at hothers
      show _ ++ ((actors.shifted s).shifted t).runNotes es = _
      rw [shifted_shifted, ih hrest hothers]

lemma runNotes_eq_flatMap (h : ∀ e ∈ es, e.Additive) (hrun : actors.run es = .ok next) :
    actors.runNotes es = es.flatMap actors.stepNotes := by
  have hzero := shifted_zero actors
  rw [← hzero] at hrun
  simpa only [hzero] using runNotes_shifted h hrun

/-- A run of additive effects shifts the actors by the sum of all shifts, or it fails with the first
effect that brings none. -/
theorem run_eq_shifted (h : ∀ e ∈ es, e.Additive) :
    actors.run es = (es.mapM actors.shiftOf).map fun shifts => actors.shifted shifts.sum := by
  simpa only [shifted_zero, zero_add] using run_shifted actors h 0

/-- A result of additive effects is their result in every order. -/
lemma run_of_perm (h : ∀ e ∈ es, e.Additive) (hperm : es.Perm others)
    (hrun : actors.run es = .ok next) : actors.run others = .ok next := by
  have hothers : ∀ e ∈ others, e.Additive := fun e he => h e (hperm.mem_iff.mpr he)
  rw [run_eq_shifted h] at hrun
  obtain ⟨shifts, hshifts, rfl⟩ := map_eq_ok_iff.mp hrun
  obtain ⟨shifts', hshifts', hperm'⟩ := exists_mapM_of_perm hperm hshifts
  rw [run_eq_shifted hothers, hshifts', hperm'.sum_eq]
  rfl

/-- Effects of which none is a discard and none takes a fraction of hit points give the same result
in every order, or in no order a result. Where they give one, what is noted is the same up to the
order, so in every order it can be written out, or in none. -/
theorem run_perm (actors : Actors) (h : ∀ e ∈ es, e.Additive) (hperm : es.Perm others) :
    (∀ next, actors.run es = .ok next ↔ actors.run others = .ok next)
      ∧ ∀ next, actors.run es = .ok next →
        (actors.runNotes es).Perm (actors.runNotes others)
          ∧ ∀ watched, (Draft.notes watched (actors.runNotes es)).2
            = (Draft.notes watched (actors.runNotes others)).2 := by
  have hothers : ∀ e ∈ others, e.Additive := fun e he => h e (hperm.mem_iff.mpr he)
  refine ⟨fun next => ⟨run_of_perm h hperm, run_of_perm hothers hperm.symm⟩, fun next hrun => ?_⟩
  have hnotes : (actors.runNotes es).Perm (actors.runNotes others) := by
    rw [runNotes_eq_flatMap h hrun, runNotes_eq_flatMap hothers (run_of_perm h hperm hrun)]
    exact hperm.flatMap_right actors.stepNotes
  refine ⟨hnotes, fun watched => ?_⟩
  rw [Draft.ending_notes, Draft.ending_notes, hnotes.any_eq]

/-- An oil spill against a player with a water card and two active shields, one of which lets more
damage through. -/
def slickActors : Actors where
  enemy := Catalog.oilSpill
  player :=
    { hitPoints := 20, cards := [Catalog.stream "stream"]
      activated := [.shield 3, .shield (-1)] }

/-- Effects of every additive kind, for both sides. -/
def slickEffects : List Effect :=
  [.elementDamage .water 6, .enemyAttack 2, .skipTurn,
    .onPlayer "Tide" (.when (.holds .water) (.power 4)), .elementDamage .land 3, .heal 5,
    .enemyAttack 9, .shield 4, .skipTurn]

/-- Forward and backward, the spill loses 5 and 3 hit points and the player 1 and 7. -/
theorem run_perm_slick :
    (∀ e ∈ slickEffects, e.Additive) ∧ slickEffects.Perm slickEffects.reverse
      ∧ ∃ next, slickActors.run slickEffects = .ok next
        ∧ slickActors.run slickEffects.reverse = .ok next
        ∧ (slickActors.runNotes slickEffects).Perm (slickActors.runNotes slickEffects.reverse)
        ∧ next.enemy.hitPoints = 6 ∧ next.enemy.oneShot = [Enemy.skipMark, Enemy.skipMark]
        ∧ next.player.hitPoints = 17 ∧ next.player.reserve = 4 := by
  have hadditive : ∀ e ∈ slickEffects, e.Additive := by decide
  have hperm : slickEffects.Perm slickEffects.reverse := (List.reverse_perm _).symm
  have hrun : slickActors.run slickEffects
      = .ok ⟨{ Catalog.oilSpill.markSkipped.markSkipped with hitPoints := 6 },
          { slickActors.player with hitPoints := 17, reserve := 4 }⟩ := rfl
  obtain ⟨hresults, hnotes⟩ := run_perm slickActors hadditive hperm
  exact ⟨hadditive, hperm, _, hrun, (hresults _).mp hrun, (hnotes _ hrun).1, rfl, rfl, rfl, rfl⟩

/-- A fraction is taken of what is left, so its place in the order matters. -/
example :
    (slickActors.run [.physicalDamage 4, .fractionDamage .half]).map (·.enemy.hitPoints) = .ok 5
      ∧ (slickActors.run [.fractionDamage .half, .physicalDamage 4]).map (·.enemy.hitPoints)
        = .ok 3 := by
  decide +kernel

end Actors

end CardBattle

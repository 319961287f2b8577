/-
Slots that raise damage, and have no partner that does.

* `Defense.Alike` : two defenses let the same through of every damage event;
* `Adjustment.Exposes`, `Adjustment.Shelters` : slots that never lower an amount, and slots that
  never raise one, by steps of a fixed size;
* `Defense.DifferAlone` : two defenses differ only in slots of an element that expose, beside a
  normal slot for any damage, or only in an exposing slot for any damage, beside slots that shelter;
  `DifferAlone.alike`: such defenses are alike;
* `Battle.withDefense` : a battle with another defense of the enemy; `Actors.run_withDefense` and
  `Battle.take_withDefense`: an alike defense changes nothing else in a run of effects or in a turn;
* `Draft.BlindToSlots` : whether nobody reads the notes on the slots of a defense;
  `Actors.runTold_withDefense`, `Battle.takeTold_withDefense`: then an alike defense does not change
  either what can be told;
* `takeAll_withDefense` : so a slot that raises damage alone never changes a battle.
-/
import CardBattle.Catalog.Cards
import CardBattle.Catalog.Enemies
import CardBattle.Proofs.Frame
import CardBattle.Proofs.Plan
import CardBattle.Proofs.Told
import Mathlib.Tactic

namespace CardBattle

/-! ### Slots -/

namespace Adjustment

/-- Whether a slot lets every amount through, or a fixed step more. -/
def Exposes : Adjustment → Prop
  | .normal => True
  | .absolute delta => delta ≤ 0
  | _ => False

/-- Whether a slot lets every amount through, or a fixed step less. -/
def Shelters : Adjustment → Prop
  | .normal => True
  | .absolute delta => 0 ≤ delta
  | _ => False

instance : DecidablePred Exposes
  | .normal => inferInstanceAs (Decidable True)
  | .absolute _ => inferInstanceAs (Decidable (_ ≤ _))
  | .percent _ => inferInstanceAs (Decidable False)
  | .cancel => inferInstanceAs (Decidable False)

instance : DecidablePred Shelters
  | .normal => inferInstanceAs (Decidable True)
  | .absolute _ => inferInstanceAs (Decidable (_ ≤ _))
  | .percent _ => inferInstanceAs (Decidable False)
  | .cancel => inferInstanceAs (Decidable False)

variable {a : Adjustment}

lemma Exposes.exists_adjust (h : a.Exposes) (raw : Int) :
    ∃ r, a.adjust raw = .ok r ∧ raw ≤ r := by
  cases a with
  | normal => exact ⟨raw, rfl, le_rfl⟩
  | absolute delta =>
      have hdelta : delta ≤ 0 := h
      exact ⟨raw - delta, rfl, by omega⟩
  | percent factor => exact h.elim
  | cancel => exact h.elim

lemma Shelters.exists_adjust (h : a.Shelters) (raw : Int) :
    ∃ r, a.adjust raw = .ok r ∧ r ≤ raw := by
  cases a with
  | normal => exact ⟨raw, rfl, le_rfl⟩
  | absolute delta =>
      have hdelta : 0 ≤ delta := h
      exact ⟨raw - delta, rfl, by omega⟩
  | percent factor => exact h.elim
  | cancel => exact h.elim

end Adjustment

/-! ### Defenses -/

namespace Defense

variable {d d' : Defense} {damage : Damage}

/-- Two defenses let the same through of every damage event, or refuse it alike. -/
def Alike (d d' : Defense) : Prop := ∀ damage, d'.resolve damage = d.resolve damage

/-- A slot that exposes to an element is inert beside a normal slot for any damage. -/
lemma resolve_of_normal_any (hany : d.any = .normal) (h : (d.slotFor damage.element).Exposes) :
    d.resolve damage = .ok damage.amount := by
  obtain ⟨r, hr, hle⟩ := h.exists_adjust damage.amount
  have hnormal : d.any.adjust damage.amount = .ok damage.amount := by
    rw [hany]
    rfl
  rw [resolve_eq hnormal hr, min_eq_left hle]

/-- A slot that exposes to any damage is inert beside slots that shelter. -/
lemma resolve_of_shelters (hany : d.any.Exposes) (h : (d.slotFor damage.element).Shelters) :
    d.resolve damage = (d.slotFor damage.element).adjust damage.amount := by
  obtain ⟨a, ha, hle⟩ := hany.exists_adjust damage.amount
  obtain ⟨r, hr, hge⟩ := h.exists_adjust damage.amount
  rw [resolve_eq ha hr, hr, min_eq_right (hge.trans hle)]

/-- Two defenses differ only in slots that raise damage alone: in slots of an element, where both
slots for any damage are normal, or in the slot for any damage, where the slots of every element are
the same and raise nothing. -/
inductive DifferAlone (d d' : Defense) : Prop where
  | element (hany : d.any = .normal) (hany' : d'.any = .normal)
      (hslots : ∀ element, d'.slotFor element = d.slotFor element
        ∨ (d.slotFor element).Exposes ∧ (d'.slotFor element).Exposes)
  | any (hany : d.any.Exposes) (hany' : d'.any.Exposes)
      (hslots : ∀ element, d'.slotFor element = d.slotFor element ∧ (d.slotFor element).Shelters)

/-- Defenses that differ only in slots that raise damage alone are alike. -/
theorem DifferAlone.alike (h : d.DifferAlone d') : d.Alike d' := by
  intro damage
  cases h with
  | element hany hany' hslots =>
      rcases hslots damage.element with hsame | ⟨hexposes, hexposes'⟩
      · rw [resolve, resolve, branches, branches, hany, hany', hsame]
      · rw [resolve_of_normal_any hany hexposes, resolve_of_normal_any hany' hexposes']
  | any hany hany' hslots =>
      obtain ⟨hsame, hshelters⟩ := hslots damage.element
      rw [resolve_of_shelters hany hshelters, resolve_of_shelters hany' (hsame ▸ hshelters), hsame]

end Defense

/-! ### Effects under another defense -/

/-- The enemy with another defense. -/
def Enemy.withDefense (enemy : Enemy) (d : Defense) : Enemy := { enemy with defense := d }

/-- The two actors with another defense of the enemy. -/
def Actors.withDefense (actors : Actors) (d : Defense) : Actors :=
  { actors with enemy := actors.enemy.withDefense d }

namespace Enemy

variable {enemy : Enemy} {d : Defense}

/-- Damage under an alike defense takes the same hit points. -/
lemma takeDamage_withDefense (h : enemy.defense.Alike d) (damage : Damage) :
    (enemy.withDefense d).takeDamage damage = (enemy.takeDamage damage).map (·.withDefense d) := by
  rw [takeDamage, takeDamage, withDefense, h]
  cases enemy.defense.resolve damage <;> rfl

lemma apply_withDefense (h : enemy.defense.Alike d) (payload : Payload) :
    (enemy.withDefense d).apply payload = (enemy.apply payload).map (·.withDefense d) := by
  cases payload with
  | damage damage => exact takeDamage_withDefense h damage
  | percentDamage fraction =>
      -- the fraction is taken of the same hit points
      have hsame : (enemy.withDefense d).fractionDamage fraction = enemy.fractionDamage fraction :=
        rfl
      rw [apply, apply, hsame]
      cases enemy.fractionDamage fraction with
      | error fault => rfl
      | ok damage => exact takeDamage_withDefense h damage
  | life amount => rfl
  | skipTurn => rfl
  | power amount => rfl
  | grant enchantment => rfl

lemma receive_withDefense (h : enemy.defense.Alike d) (hand : List Element) (trigger : Trigger) :
    (enemy.withDefense d).receive hand trigger
      = (enemy.receive hand trigger).map (·.withDefense d) := by
  rw [receive_eq, receive_eq]
  cases trigger.fired? hand with
  | none => rfl
  | some payload => exact apply_withDefense h payload

end Enemy

namespace Actors

variable {actors : Actors} {d : Defense}

lemma resolve_withDefense (h : actors.enemy.defense.Alike d) (e : Effect) :
    (actors.withDefense d).resolve e = (actors.resolve e).map (·.withDefense d) := by
  cases htarget : e.target with
  | player =>
      simp only [resolve, htarget, withDefense]
      cases actors.player.receive e.trigger <;> rfl
  | enemy =>
      simp only [resolve, htarget, withDefense, Enemy.receive_withDefense h]
      cases actors.enemy.receive actors.player.elements e.trigger <;> rfl

/-- A run under an alike defense changes the two actors as before, or fails as before. -/
theorem run_withDefense (actors : Actors) (h : actors.enemy.defense.Alike d) (es : List Effect) :
    (actors.withDefense d).run es = (actors.run es).map (·.withDefense d) := by
  induction es generalizing actors with
  | nil => rfl
  | cons e rest ih =>
      rw [run_cons, run_cons, resolve_withDefense h]
      cases hmid : actors.resolve e with
      | error fault => rfl
      | ok mid =>
          -- the defense stays as it is, so the two stay alike
          have hkept : mid.enemy.defense = actors.enemy.defense :=
            (keeps_resolve hmid).enemy.defense
          exact ih mid (hkept ▸ h)

end Actors

/-! ### Turns under another defense -/

/-- A plan does not look at the defense of the enemy. -/
lemma plan_withDefense (player : Player) (enemy : Enemy) (d : Defense) (available : Int)
    (requests : List Card) :
    plan player (enemy.withDefense d) available requests
      = plan player enemy available requests := by
  induction requests generalizing available with
  | nil => rfl
  | cons request rest ih =>
      have hfate : fateOf player (enemy.withDefense d) available request
          = fateOf player enemy available request := rfl
      rw [plan_cons, plan_cons, ih, hfate]

namespace Battle

variable {b : Battle} {d : Defense}

/-- A battle with another defense of the enemy. -/
def withDefense (b : Battle) (d : Defense) : Battle := { b with enemy := b.enemy.withDefense d }

/-- Nor do the fates of requests depend on it. -/
lemma fates_withDefense (b : Battle) (d : Defense) (requests : List Card) :
    (b.withDefense d).fates requests = b.fates requests :=
  plan_withDefense b.readyPlayer b.enemy d b.pool requests

/-- Nor do the effects of the player's turn. -/
lemma playerTurnEffects_withDefense (b : Battle) (d : Defense) (requests : List Card) :
    (b.withDefense d).playerTurnEffects requests = b.playerTurnEffects requests := by
  rw [playerTurnEffects, fates_withDefense]
  rfl

lemma playerTurn_withDefense (hopen : b.isOver = false) (h : b.enemy.defense.Alike d)
    (requests : List Card) :
    (b.withDefense d).playerTurn requests = (b.playerTurn requests).map (·.withDefense d) := by
  have hopen' : (b.withDefense d).isOver = false := hopen
  have hrun : (Actors.mk (b.withDefense d).enemy (b.withDefense d).readyPlayer).run
        (b.playerTurnEffects requests)
      = ((Actors.mk b.enemy b.readyPlayer).run (b.playerTurnEffects requests)).map
          (·.withDefense d) :=
    Actors.run_withDefense ⟨b.enemy, b.readyPlayer⟩ h _
  rw [playerTurn, playerTurn, if_neg (by simp [hopen']), if_neg (by simp [hopen]),
    playerTurnEffects_withDefense, hrun]
  cases (Actors.mk b.enemy b.readyPlayer).run (b.playerTurnEffects requests) <;> rfl

lemma enemyTurn_withDefense (hopen : b.isOver = false) (h : b.enemy.defense.Alike d) :
    (b.withDefense d).enemyTurn = b.enemyTurn.map (·.withDefense d) := by
  have hopen' : (b.withDefense d).isOver = false := hopen
  have hqueue : (b.withDefense d).actors.run (b.withDefense d).enemy.oneShot
      = (b.actors.run b.enemy.oneShot).map (·.withDefense d) :=
    Actors.run_withDefense b.actors h _
  rw [enemyTurn, enemyTurn, if_neg (by simp [hopen']), if_neg (by simp [hopen]), hqueue]
  cases hqueued : b.actors.run b.enemy.oneShot with
  | error fault => rfl
  | ok queued =>
      have hkept : queued.enemy.defense = b.enemy.defense :=
        (Actors.keeps_run hqueued).enemy.defense
      have hphase : enemyPhase (queued.withDefense d)
          = (enemyPhase queued).map (·.withDefense d) := by
        rw [enemyPhase_eq_run, enemyPhase_eq_run]
        exact Actors.run_withDefense queued (hkept ▸ h) _
      simp only [Except.map, bind, Except.bind, hphase]
      cases enemyPhase queued <;> rfl

/-- A turn under an alike defense leaves the same in every other respect, or fails alike. -/
theorem take_withDefense (h : b.enemy.defense.Alike d) (turn : Turn) :
    (b.withDefense d).take turn = (b.take turn).map (·.withDefense d) := by
  cases hover : b.isOver with
  | true =>
      have hover' : (b.withDefense d).isOver = true := hover
      rw [take_of_isOver hover, take_of_isOver hover']
      rfl
  | false =>
      cases turn with
      | player requests => exact playerTurn_withDefense hover h requests
      | enemy => exact enemyTurn_withDefense hover h

/-- A sequence of turns under an alike defense leaves the same in every other respect, or fails
alike. -/
theorem takeAll_withDefense_of_alike (h : b.enemy.defense.Alike d) (turns : List Turn) :
    (b.withDefense d).takeAll turns = (b.takeAll turns).map (·.withDefense d) := by
  induction turns generalizing b with
  | nil => rfl
  | cons turn rest ih =>
      rw [takeAll_cons, takeAll_cons, take_withDefense h]
      cases hmid : b.take turn with
      | error fault => rfl
      | ok mid =>
          have hkept : mid.enemy.defense = b.enemy.defense := (keeps_take hmid).actors.enemy.defense
          exact ih (hkept ▸ h)

end Battle

/-! ### What is told under another defense -/

/-- Whether nobody reads the notes on the slots of a defense. -/
def Draft.BlindToSlots (watched : Draft → Bool) : Prop :=
  ∀ d : Draft, d.source = .damage → watched d = false

variable {watched : Draft → Bool}

/-- Where nobody reads the note on the slots, of a damage event that gets through only its
description has to be written. -/
lemma Defense.forall_mem_notes_iff {d : Defense} {damage : Damage} {actual : Int}
    (hblind : Draft.BlindToSlots watched) (h : d.resolve damage = .ok actual) :
    (∀ draft ∈ d.notes damage, draft.Tells watched)
      ↔ damage.description.canBeWritten = true := by
  obtain ⟨r, hr, _⟩ := map_eq_ok_iff.mp h
  rw [notes, hr, List.forall_mem_singleton, Draft.Tells, hblind _ rfl, Bool.or_false]
  -- the note is worded at once just where its description cannot be written
  cases hdescription : damage.description.canBeWritten with
  | true => simp
  | false => simp [Text.Wording.canBeWritten_append, hdescription]

namespace Enemy

variable {enemy : Enemy} {d : Defense}

lemma noted_damageNotes_withDefense (hblind : Draft.BlindToSlots watched)
    (h : enemy.defense.Alike d) (damage : Damage) :
    Draft.noted watched ((enemy.withDefense d).damageNotes damage)
      = Draft.noted watched (enemy.damageNotes damage) := by
  rw [damageNotes, damageNotes, withDefense, h]
  cases hactual : enemy.defense.resolve damage with
  | error fault => rfl
  | ok actual =>
      refine Draft.noted_congr ?_
      rw [List.forall_mem_append, List.forall_mem_append,
        Defense.forall_mem_notes_iff hblind hactual,
        Defense.forall_mem_notes_iff hblind ((h damage).trans hactual)]

lemma noted_applyNotes_withDefense (hblind : Draft.BlindToSlots watched)
    (h : enemy.defense.Alike d) (payload : Payload) :
    Draft.noted watched ((enemy.withDefense d).applyNotes payload)
      = Draft.noted watched (enemy.applyNotes payload) := by
  cases payload with
  | damage damage => exact noted_damageNotes_withDefense hblind h damage
  | percentDamage fraction =>
      have hsame : (enemy.withDefense d).fractionDamage fraction = enemy.fractionDamage fraction :=
        rfl
      rw [applyNotes, applyNotes, hsame]
      cases enemy.fractionDamage fraction with
      | error fault => rfl
      | ok damage => exact noted_damageNotes_withDefense hblind h damage
  | life amount => rfl
  | skipTurn => rfl
  | power amount => rfl
  | grant enchantment => rfl

lemma noted_receiveNotes_withDefense (hblind : Draft.BlindToSlots watched)
    (h : enemy.defense.Alike d) (hand : List Element) (trigger : Trigger) :
    Draft.noted watched ((enemy.withDefense d).receiveNotes hand trigger)
      = Draft.noted watched (enemy.receiveNotes hand trigger) := by
  cases trigger with
  | always payload => exact noted_applyNotes_withDefense hblind h payload
  | «when» condition payload =>
      rw [receiveNotes, receiveNotes]
      split_ifs
      · exact noted_applyNotes_withDefense hblind h payload
      · rfl
  | discard cardId => rfl

end Enemy

namespace Actors

variable {d : Defense}

lemma noted_stepNotes_withDefense {actors : Actors} (hblind : Draft.BlindToSlots watched)
    (h : actors.enemy.defense.Alike d) (e : Effect) :
    Draft.noted watched ((actors.withDefense d).stepNotes e)
      = Draft.noted watched (actors.stepNotes e) := by
  have hresolve : Draft.noted watched ((actors.withDefense d).resolveNotes e)
      = Draft.noted watched (actors.resolveNotes e) := by
    rw [resolveNotes, resolveNotes]
    cases e.target with
    | player => rfl
    | enemy => exact Enemy.noted_receiveNotes_withDefense hblind h _ e.trigger
  rw [stepNotes, stepNotes, ← List.singleton_append, Draft.noted_append, hresolve,
    ← Draft.noted_append]
  rfl

/-- A run under an alike defense changes the two actors as before, and can be told as before. -/
theorem runTold_withDefense (actors : Actors) (hblind : Draft.BlindToSlots watched)
    (h : actors.enemy.defense.Alike d) (es : List Effect) :
    (actors.withDefense d).runTold watched es
      = (actors.runTold watched es).map (·.withDefense d) := by
  induction es generalizing actors with
  | nil => rfl
  | cons e rest ih =>
      rw [runTold_cons, runTold_cons, noted_stepNotes_withDefense hblind h, resolve_withDefense h]
      cases Draft.noted watched (actors.stepNotes e) with
      | error failure => rfl
      | ok _ =>
          cases hmid : actors.resolve e with
          | error fault => rfl
          | ok mid =>
              have hkept : mid.enemy.defense = actors.enemy.defense :=
                (keeps_resolve hmid).enemy.defense
              exact ih mid (hkept ▸ h)

end Actors

namespace Battle

variable {b : Battle} {d : Defense}

lemma concluded_withDefense (b : Battle) (d : Defense) :
    (b.withDefense d).concluded watched = (b.concluded watched).map (·.withDefense d) := by
  have houtcome : outcomeNotes (.ok (b.withDefense d)) = outcomeNotes (.ok b) := rfl
  rw [concluded, concluded, houtcome]
  cases Draft.noted watched (outcomeNotes (.ok b)) <;> rfl

lemma takeTold_player_withDefense (hopen : b.isOver = false) (hblind : Draft.BlindToSlots watched)
    (h : b.enemy.defense.Alike d) (requests : List Card) :
    (b.withDefense d).takeTold watched (.player requests)
      = (b.takeTold watched (.player requests)).map (·.withDefense d) := by
  have hopen' : (b.withDefense d).isOver = false := hopen
  have hnotes : ((b.withDefense d).fates requests).flatMap (·.notes (b.withDefense d).enemy)
      = (b.fates requests).flatMap (·.notes b.enemy) := by
    rw [fates_withDefense]
    rfl
  have hrun : (Actors.mk (b.withDefense d).enemy (b.withDefense d).readyPlayer).runTold watched
        (b.playerTurnEffects requests)
      = ((Actors.mk b.enemy b.readyPlayer).runTold watched (b.playerTurnEffects requests)).map
          (·.withDefense d) :=
    Actors.runTold_withDefense ⟨b.enemy, b.readyPlayer⟩ hblind h _
  rw [takeTold_player hopen', takeTold_player hopen, hnotes, playerTurnEffects_withDefense, hrun]
  cases Draft.noted watched ((b.fates requests).flatMap (·.notes b.enemy)) with
  | error failure => rfl
  | ok _ =>
      cases (Actors.mk b.enemy b.readyPlayer).runTold watched (b.playerTurnEffects requests) with
      | error failure => rfl
      | ok ended => exact concluded_withDefense (b.settled ended) d

lemma takeTold_enemy_withDefense (hopen : b.isOver = false) (hblind : Draft.BlindToSlots watched)
    (h : b.enemy.defense.Alike d) :
    (b.withDefense d).takeTold watched .enemy
      = (b.takeTold watched .enemy).map (·.withDefense d) := by
  have hopen' : (b.withDefense d).isOver = false := hopen
  have hqueue : (b.withDefense d).actors.runTold watched (b.withDefense d).enemy.oneShot
      = (b.actors.runTold watched b.enemy.oneShot).map (·.withDefense d) :=
    Actors.runTold_withDefense b.actors hblind h _
  rw [takeTold_enemy hopen', takeTold_enemy hopen, hqueue]
  cases hqueued : b.actors.runTold watched b.enemy.oneShot with
  | error failure => rfl
  | ok queued =>
      have hkept : queued.enemy.defense = b.enemy.defense :=
        (Actors.keeps_run (Actors.run_of_runTold hqueued)).enemy.defense
      have hphase : (queued.withDefense d).runTold watched
            (phaseEffects (queued.withDefense d).enemy)
          = (queued.runTold watched (phaseEffects queued.enemy)).map (·.withDefense d) :=
        Actors.runTold_withDefense queued hblind (hkept ▸ h) _
      simp only [Except.map, ok_bind, hphase]
      cases queued.runTold watched (phaseEffects queued.enemy) with
      | error failure => rfl
      | ok ended => exact concluded_withDefense (b.closed ended) d

/-- A turn under an alike defense leaves the same in every other respect, and can be told alike. -/
theorem takeTold_withDefense (hblind : Draft.BlindToSlots watched)
    (h : b.enemy.defense.Alike d) (turn : Turn) :
    (b.withDefense d).takeTold watched turn
      = (b.takeTold watched turn).map (·.withDefense d) := by
  cases hover : b.isOver with
  | true =>
      have hover' : (b.withDefense d).isOver = true := hover
      rw [takeTold_of_isOver hover, takeTold_of_isOver hover']
      rfl
  | false =>
      cases turn with
      | player requests => exact takeTold_player_withDefense hover hblind h requests
      | enemy => exact takeTold_enemy_withDefense hover hblind h

/-- A sequence of turns under an alike defense leaves the same in every other respect, and can be
told alike. -/
theorem takeAllTold_withDefense_of_alike (hblind : Draft.BlindToSlots watched)
    (h : b.enemy.defense.Alike d) (turns : List Turn) :
    (b.withDefense d).takeAllTold watched turns
      = (b.takeAllTold watched turns).map (·.withDefense d) := by
  induction turns generalizing b with
  | nil => rfl
  | cons turn rest ih =>
      rw [takeAllTold_cons, takeAllTold_cons, takeTold_withDefense hblind h]
      cases hmid : b.takeTold watched turn with
      | error failure => rfl
      | ok mid =>
          have hkept : mid.enemy.defense = b.enemy.defense :=
            (keeps_take (take_of_takeTold hmid)).actors.enemy.defense
          exact ih (hkept ▸ h)

/-- Two battles that differ only in slots of the enemy's defense that raise damage alone go the same
way: under every sequence of turns they stay equal but for the defense, or fail alike. Where nobody
reads the notes on the slots, that holds of the turns with all that is told of them. -/
theorem takeAll_withDefense (h : b.enemy.defense.DifferAlone d) (turns : List Turn) :
    (b.withDefense d).takeAll turns = (b.takeAll turns).map (·.withDefense d)
      ∧ ∀ watched, Draft.BlindToSlots watched →
          (b.withDefense d).takeAllTold watched turns
            = (b.takeAllTold watched turns).map (·.withDefense d) :=
  ⟨takeAll_withDefense_of_alike h.alike turns,
    fun _ hblind => takeAllTold_withDefense_of_alike hblind h.alike turns⟩

/-- The defense of the typhoon without its weakness to land damage. -/
def mildTyphoon : Defense := { wind := .percent .zero }

/-- A player with much land damage, more of it while a card is held. -/
def landPlayer : Player :=
  { hitPoints := 20, cards := [Catalog.bulldozers "amp", Catalog.fireBreaks "breaks"] }

/-- The typhoon is weak to land damage and the landslide to any; neither weakness ever shows. The
fire breaks and the bulldozers take 6 and 3 hit points from the typhoon, and no more. -/
theorem takeAll_withDefense_catalog :
    Catalog.typhoon.defense.DifferAlone mildTyphoon ∧ Catalog.landslide.defense.DifferAlone {}
      ∧ (∀ player powerPerTurn turns,
          ((start Catalog.typhoon player powerPerTurn).withDefense mildTyphoon).takeAll turns
            = ((start Catalog.typhoon player powerPerTurn).takeAll turns).map
                (·.withDefense mildTyphoon))
      ∧ (∀ player powerPerTurn turns,
          ((start Catalog.landslide player powerPerTurn).withDefense {}).takeAll turns
            = ((start Catalog.landslide player powerPerTurn).takeAll turns).map (·.withDefense {}))
      ∧ (∃ b, (start Catalog.typhoon landPlayer 3).takeAll [.player landPlayer.cards, .enemy]
            = .ok b
          ∧ ((start Catalog.typhoon landPlayer 3).withDefense mildTyphoon).takeAll
              [.player landPlayer.cards, .enemy] = .ok (b.withDefense mildTyphoon)
          ∧ b.enemy.hitPoints = 3 ∧ b.player.hitPoints = 16)
      ∧ ((start Catalog.typhoon landPlayer 3).withDefense mildTyphoon).takeAllTold
            (·.source ≠ .damage) [.player landPlayer.cards, .enemy]
          = ((start Catalog.typhoon landPlayer 3).takeAllTold (·.source ≠ .damage)
              [.player landPlayer.cards, .enemy]).map (·.withDefense mildTyphoon) := by
  have htyphoon : Catalog.typhoon.defense.DifferAlone mildTyphoon := by
    refine .element rfl rfl fun element => ?_
    cases element with
    | land => exact Or.inr (by decide)
    | _ => exact Or.inl rfl
  have hlandslide : Catalog.landslide.defense.DifferAlone {} := by
    refine .any (by decide) trivial fun element => ?_
    cases element <;> exact ⟨rfl, trivial⟩
  have hrun : (start Catalog.typhoon landPlayer 3).takeAll [.player landPlayer.cards, .enemy]
      = .ok _ := rfl
  obtain ⟨hmild, htold⟩ := @takeAll_withDefense (start Catalog.typhoon landPlayer 3) mildTyphoon
    htyphoon [.player landPlayer.cards, .enemy]
  rw [hrun] at hmild
  have hblind : Draft.BlindToSlots (·.source ≠ .damage) := fun draft hsource => by simp [hsource]
  exact ⟨htyphoon, hlandslide, fun _ _ _ => (takeAll_withDefense htyphoon _).1,
    fun _ _ _ => (takeAll_withDefense hlandslide _).1, ⟨_, hrun, hmild, rfl, rfl⟩,
    htold _ hblind⟩

end Battle

end CardBattle

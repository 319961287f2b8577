/-
Notes on effects as they are resolved.

* `Actors.stepNotes` : the notes on one effect;
* `Actors.runNotes` : the notes on a list of effects, up to the one that fails if one does.

What an effect is called is worded at once, and what it changes only where it is read. Main
statement: `runNotes_append`.
-/
import CardBattle.Actors
import CardBattle.Journal

namespace CardBattle

open Text (Wording number signed)

/-- Damage and what came of it, slot by slot. -/
def Defense.notes (d : Defense) (damage : Damage) : List Draft :=
  match d.branches damage with
  | .error _ => []
  | .ok r =>
      [{ level := .debug
         source := .damage
         words := "Defense resolve " ++ damage.description ++ ": any=" ++ number r.anyBranch
           ++ " element=" ++ number r.elementBranch ++ " actual=" ++ number r.actual
         atOnce := !damage.description.canBeWritten }]

namespace Player

/-- The note on damage to the player. -/
def damageNotes (player : Player) (damage : Damage) : List Draft :=
  [.kept .info .player
    (s!"Player takes damage: {damage.element.label}/" ++ number (player.taken damage))]

/-- The notes on a payload. -/
def applyNotes (player : Player) : Payload → List Draft
  | .damage damage => player.damageNotes damage
  | .life amount => [.kept .info .player ("Player, " ++ signed amount ++ " HP")]
  | .power amount => [.kept .debug .player ("Player, " ++ signed amount ++ " power")]
  | .percentDamage fraction =>
      match player.fractionDamage fraction with
      | .error _ => []
      | .ok damage => player.damageNotes damage
  | .grant _ => []
  | .skipTurn => []

/-- The notes on a trigger. -/
def receiveNotes (player : Player) : Trigger → List Draft
  | .always payload => player.applyNotes payload
  | .when condition payload =>
      if condition.inHand player.elements then player.applyNotes payload else []
  | .discard cardId => [.kept .info .player s!"Discarding {cardId}"]

end Player

namespace Enemy

/-- The notes on damage to the enemy. -/
def damageNotes (enemy : Enemy) (damage : Damage) : List Draft :=
  match enemy.defense.resolve damage with
  | .error _ => []
  | .ok actual =>
      enemy.defense.notes damage
        ++ [.kept .info .enemy
          ("Enemy takes damage: " ++ damage.description ++ " (" ++ number actual ++ " actual)")]

/-- The notes on a payload. -/
def applyNotes (enemy : Enemy) : Payload → List Draft
  | .damage damage => enemy.damageNotes damage
  | .life amount => [.kept .info .enemy ("Enemy, " ++ signed amount ++ " HP")]
  | .percentDamage fraction =>
      match enemy.fractionDamage fraction with
      | .error _ => []
      | .ok damage => enemy.damageNotes damage
  | .skipTurn => [.kept .info .enemy "Enemy has to skip next turn"]
  | .power _ => []
  | .grant _ => []

/-- The notes on a trigger, where the player's hand holds the given elements. -/
def receiveNotes (enemy : Enemy) (hand : List Element) : Trigger → List Draft
  | .always payload => enemy.applyNotes payload
  | .when condition payload =>
      if condition.ofEnemy && condition.inHand hand then enemy.applyNotes payload else []
  | .discard _ => []

end Enemy

namespace Actors

/-- The notes on what an effect does. -/
def resolveNotes (actors : Actors) (e : Effect) : List Draft :=
  match e.target with
  | .player => actors.player.receiveNotes e.trigger
  | .enemy => actors.enemy.receiveNotes actors.player.elements e.trigger

/-- The notes on one effect of a run. -/
def stepNotes (actors : Actors) (e : Effect) : List Draft :=
  .told .debug .battle ("Resolve " ++ e.description) :: actors.resolveNotes e

/-- The notes on a run, up to the effect that fails if one does. -/
def runNotes (actors : Actors) : List Effect → List Draft
  | [] => []
  | e :: rest =>
      actors.stepNotes e ++
        match actors.resolve e with
        | .error _ => []
        | .ok next => next.runNotes rest

theorem runNotes_append {actors next : Actors} {first : List Effect}
    (h : actors.run first = .ok next) (second : List Effect) :
    actors.runNotes (first ++ second) = actors.runNotes first ++ next.runNotes second := by
  induction first generalizing actors with
  | nil => cases h; rfl
  | cons e rest ih =>
      simp only [run_cons, bind, Except.bind] at h
      cases hstep : actors.resolve e with
      | error f => simp [hstep] at h
      | ok middle =>
          simp only [hstep] at h
          simp [runNotes, hstep, ih h]

end Actors

end CardBattle

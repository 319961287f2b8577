/-
Effects.

* `Payload` : what is done to an actor;
* `Trigger` : when it is done; a discard stands for itself;
* `Effect` : a named trigger aimed at a side;
* `Effect.declare` : an effect, refused where its side cannot receive it.

Main statement: `declare_eq_ok_iff`, an effect is accepted exactly when nothing about it is misused.
-/
import CardBattle.Condition
import CardBattle.Damage
import CardBattle.Enchantment
import CardBattle.Error

namespace CardBattle

open Text (Wording signed)

/-! ### Payloads -/

/-- What an effect does to an actor. -/
inductive Payload where
  | damage (damage : Damage)
  /-- Hit points added, in both directions and without bounds. -/
  | life (amount : Int)
  /-- Power added to the player's reserve. -/
  | power (amount : Int)
  /-- Neutral damage of a fraction of the target's hit points. -/
  | percentDamage (fraction : Double)
  /-- An enchantment; it takes effect at the start of a battle only. -/
  | grant (enchantment : Enchantment)
  /-- The enemy's next turn is skipped. -/
  | skipTurn
  deriving DecidableEq, Repr

namespace Payload

/-- Damage of a fraction, refused outside the unit interval. -/
def percent (fraction : Double) : Except BattleError Payload :=
  if fraction.inUnitInterval then .ok (.percentDamage fraction)
  else .error (.invalidPercent fraction none)

/-- Whether a fraction lies in the unit interval, where there is one. -/
def hasFraction : Payload → Bool
  | .percentDamage fraction => fraction.inUnitInterval
  | _ => true

/-- The payload in words. -/
def description : Payload → Wording
  | .damage d => "Damage [" ++ d.description ++ "]"
  | .life amount => "Life " ++ signed amount
  | .power amount => "Power " ++ signed amount
  | .percentDamage fraction => s!"Damage {(fraction.mul Double.hundred).brief}%"
  | .grant enchantment => "Enchant [" ++ enchantment.description ++ "]"
  | .skipTurn => "Skip Turn"

end Payload

/-! ### Triggers -/

/-- When a payload is applied. -/
inductive Trigger where
  | always (payload : Payload)
  | when (condition : Condition) (payload : Payload)
  /-- A card leaves the hand. Declared with an empty id, it means the card that declares it. -/
  | discard (cardId : String)
  deriving DecidableEq, Repr

namespace Trigger

/-- The payload that a trigger would apply. -/
def payload? : Trigger → Option Payload
  | .always payload => some payload
  | .when _ payload => some payload
  | .discard _ => none

/-- Whether a trigger removes a card from the hand. -/
def isDiscard : Trigger → Bool
  | .discard _ => true
  | _ => false

/-- The trigger in words. -/
def description : Trigger → Wording
  | .always payload => "[ALWAYS] " ++ payload.description
  | .when condition payload => s!"[COND - {condition.description}] " ++ payload.description
  | .discard cardId => s!"Discard card id: {cardId}"

/-- What is wrong with aiming a trigger at a side. -/
def misuse? (trigger : Trigger) (target : Side) : Option Misuse :=
  match trigger, trigger.payload?, target with
  | .discard _, _, .enemy => some .discard
  | _, some (.power _), .enemy => some .power
  | _, some .skipTurn, .player => some .skipTurn
  | _, _, _ => none

end Trigger

/-! ### Effects -/

/-- A named trigger aimed at a side. -/
structure Effect where
  name : String
  target : Side
  trigger : Trigger
  deriving DecidableEq, Repr

namespace Effect

/-- An effect aimed at the player. -/
def onPlayer (name : String) (trigger : Trigger) : Effect := ⟨name, .player, trigger⟩

/-- An effect aimed at the enemy. -/
def onEnemy (name : String) (trigger : Trigger) : Effect := ⟨name, .enemy, trigger⟩

/-- The payload that an effect would apply. -/
def payload? (e : Effect) : Option Payload := e.trigger.payload?

/-- Whether an effect removes a card from the hand. -/
def isDiscard (e : Effect) : Bool := e.trigger.isDiscard

/-- The effect in words. -/
def description (e : Effect) : Wording :=
  s!"{e.name} - target [{e.target.label}] effect [" ++ e.trigger.description ++ "]"

/-- Effects in words, in order. -/
def descriptions (es : List Effect) : Wording := .joined ", " (es.map description)

/-- An effect, refused where its side cannot receive it. -/
def declare (name : String) (target : Side) (trigger : Trigger) : Except BattleError Effect :=
  match trigger.misuse? target with
  | some misuse => .error (.misdirected name misuse)
  | none => .ok ⟨name, target, trigger⟩

/-- An effect that could be declared, its fraction in the unit interval. -/
def WellFormed (e : Effect) : Prop :=
  e.trigger.misuse? e.target = none ∧ ∀ p ∈ e.payload?, p.hasFraction = true

instance (e : Effect) : Decidable e.WellFormed :=
  inferInstanceAs (Decidable (_ ∧ ∀ p ∈ e.payload?, p.hasFraction = true))

theorem declare_eq_ok_iff {name : String} {target : Side} {trigger : Trigger} {e : Effect} :
    declare name target trigger = .ok e ↔
      trigger.misuse? target = none ∧ e = ⟨name, target, trigger⟩ := by
  unfold declare
  cases h : trigger.misuse? target <;> simp [eq_comm]

end Effect

end CardBattle

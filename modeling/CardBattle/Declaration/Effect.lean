/-
Conditions, enchantments, payloads and effects in files.

* `ConditionDeclaration`, `EnchantmentDeclaration`, `PayloadDeclaration` : each of these as it is
  written; `toCondition`, `toEnchantment`, `toPayload`: what it declares;
* `EffectDeclaration` : an effect as it is written, which may leave out its name and its trigger;
* `EffectDeclaration.toEffect` : the effect it declares.

Main statement: `toTrigger_of_discard`, a declared discard carries no card id.
-/
import CardBattle.Declaration.Scalar
import CardBattle.Effect

namespace CardBattle.Declaration

open Json (Fields)

/-! ### Conditions -/

/-- The kinds of conditions. -/
inductive ConditionKind where
  | hasElement
  | hasNoElement
  | playsElement
  deriving DecidableEq, Repr

/-- Every kind of condition, under its word. -/
def conditionKinds : List (String × ConditionKind) :=
  [("has_element", .hasElement), ("has_no_element", .hasNoElement),
    ("plays_element", .playsElement)]

/-- A condition as it is written. -/
structure ConditionDeclaration where
  kind : ConditionKind
  element : Element
  deriving DecidableEq, Repr

namespace ConditionDeclaration

/-- The fields of a condition. -/
def ofFields (fields : Fields) : Checked ConditionDeclaration :=
  ConditionDeclaration.mk
    <$> required fields "kind" (readWord conditionKinds)
    <*> required fields "element" readElement
    <* closed fields ["kind", "element"]

/-- A condition as it is written. -/
def read : Read ConditionDeclaration := readObject ofFields

/-- The condition that is declared. -/
def toCondition (d : ConditionDeclaration) : Condition :=
  match d.kind with
  | .hasElement => .holds d.element
  | .hasNoElement => .lacks d.element
  | .playsElement => .plays d.element

end ConditionDeclaration

/-! ### Enchantments -/

/-- An enchantment as it is written. -/
inductive EnchantmentDeclaration where
  | spellCost (element : Element) (amount : Int)
  | spellDamage (element : Element) (amount : Int)
  | powerPerTurn (amount : Int)
  | shield (amount : Int)
  | lifePerTurn (amount : Int)
  | elementForbidden (element : Element)
  deriving DecidableEq, Repr

/-- A declaration that is an amount. -/
def amountOnly {α : Type} (make : Int → α) (read : Read Int) (fields : Fields) : Checked α :=
  make <$> required fields "amount" read <* closed fields ["kind", "amount"]

namespace EnchantmentDeclaration

/-- The kinds of enchantments, with the fields that each one has. -/
def kinds : List (String × (Fields → Checked EnchantmentDeclaration)) :=
  [("spell_cost", fun fields =>
      spellCost <$> optional fields "element" readElement .neutral
        <*> required fields "amount" readInteger
        <* closed fields ["kind", "element", "amount"]),
    ("spell_damage", fun fields =>
      spellDamage <$> required fields "element" readElement
        <*> required fields "amount" readInteger
        <* closed fields ["kind", "element", "amount"]),
    ("power_per_turn", amountOnly powerPerTurn readInteger),
    ("shield", amountOnly shield readNonNegative),
    ("life_per_turn", amountOnly lifePerTurn readInteger),
    ("element_forbidden", fun fields =>
      elementForbidden <$> required fields "element" readElement
        <* closed fields ["kind", "element"])]

/-- An enchantment as it is written. -/
def read : Read EnchantmentDeclaration := readTagged kinds

/-- The enchantment that is declared. -/
def toEnchantment : EnchantmentDeclaration → Enchantment
  | spellCost element amount => .spellCost element amount
  | spellDamage element amount => .spellDamage element amount
  | powerPerTurn amount => .powerPerTurn amount
  | shield amount => .shield amount
  | lifePerTurn amount => .lifePerTurn amount
  | elementForbidden element => .forbidden element

end EnchantmentDeclaration

/-! ### Payloads -/

/-- A payload as it is written. -/
inductive PayloadDeclaration where
  | damage (amount : Int) (element : Element)
  | life (amount : Int)
  | power (amount : Int)
  | percentDamage (fraction : Double)
  | enchantment (granted : EnchantmentDeclaration)
  | skipTurn
  deriving DecidableEq, Repr

namespace PayloadDeclaration

/-- The kinds of payloads, with the fields that each one has. -/
def kinds : List (String × (Fields → Checked PayloadDeclaration)) :=
  [("damage", fun fields =>
      damage <$> required fields "amount" readInteger
        <*> optional fields "element" readElement .neutral
        <* closed fields ["kind", "amount", "element"]),
    ("life", amountOnly life readInteger),
    ("power", amountOnly power readInteger),
    ("percent_damage", fun fields =>
      percentDamage <$> required fields "fraction" readFraction
        <* closed fields ["kind", "fraction"]),
    ("enchantment", fun fields =>
      enchantment <$> required fields "enchantment" EnchantmentDeclaration.read
        <* closed fields ["kind", "enchantment"]),
    ("skip_turn", fun fields => (fun _ => skipTurn) <$> closed fields ["kind"])]

/-- A payload as it is written. -/
def read : Read PayloadDeclaration := readTagged kinds

/-- The payload that is declared. -/
def toPayload : PayloadDeclaration → Payload
  | damage amount element => .damage ⟨amount, element⟩
  | life amount => .life amount
  | power amount => .power amount
  | percentDamage fraction => .percentDamage fraction
  | enchantment granted => .grant granted.toEnchantment
  | skipTurn => .skipTurn

end PayloadDeclaration

/-! ### Effects -/

/-- The ways in which an effect is triggered. -/
inductive TriggerKind where
  | always
  | condition
  | discard
  deriving DecidableEq, Repr

namespace TriggerKind

/-- The word for a way of triggering. -/
def word : TriggerKind → String
  | .always => "always"
  | .condition => "condition"
  | .discard => "discard"

/-- The name of an effect that is given none. -/
def defaultName : TriggerKind → String
  | .always => "Always"
  | .condition => "Condition"
  | .discard => "Discard"

/-- Every way of triggering, under its word. -/
def table : List (String × TriggerKind) :=
  [TriggerKind.always, .condition, .discard].map fun kind => (kind.word, kind)

end TriggerKind

/-- An effect as it is written. -/
structure EffectDeclaration where
  name : String
  target : Side
  trigger : TriggerKind
  condition? : Option ConditionDeclaration
  payload? : Option PayloadDeclaration
  deriving DecidableEq, Repr

namespace EffectDeclaration

/-- The rule that the parts of an effect break together, the first one if there are several. -/
def broken? (d : EffectDeclaration) : Option String :=
  if d.trigger = .condition && d.condition?.isNone then
    some "conditional effects need a condition"
  else if d.trigger ≠ .condition && d.condition?.isSome then
    some "condition given for a non-conditional trigger"
  else if d.trigger ≠ .discard && d.payload?.isNone then some "effect payload is required"
  else none

/-- The fields of an effect, and then the rules for its parts. -/
def ofFields (fields : Fields) : Checked EffectDeclaration :=
  (EffectDeclaration.mk
    <$> optional fields "name" readText ""
    <*> required fields "target" (readWord [("player", .player), ("enemy", .enemy)])
    <*> optional fields "trigger" (readWord TriggerKind.table) .always
    <*> optional fields "condition" (readOptional ConditionDeclaration.read) none
    <*> optional fields "effect" (readOptional PayloadDeclaration.read) none
    <* closed fields ["name", "target", "trigger", "condition", "effect"]).andThen fun d =>
  match d.broken? with
  | some rule => .fail (.contradiction rule)
  | none => .ok d

/-- An effect as it is written. -/
def read : Read EffectDeclaration := readObject ofFields

/-- The trigger that an effect declares; a discard means the card that declares it. -/
def toTrigger (d : EffectDeclaration) : Trigger :=
  match d.trigger, d.condition?, d.payload? with
  | .condition, some condition, some payload => .when condition.toCondition payload.toPayload
  | .always, _, some payload => .always payload.toPayload
  | _, _, _ => .discard ""

/-- The name of an effect, or the one that its trigger gives it. -/
def effectName (d : EffectDeclaration) : String :=
  if d.name.isEmpty then d.trigger.defaultName else d.name

/-- The effect that is declared, refused where its side cannot receive it. -/
def toEffect (d : EffectDeclaration) : Except BattleError Effect :=
  Effect.declare d.effectName d.target d.toTrigger

theorem toTrigger_of_discard {d : EffectDeclaration} (h : d.trigger = .discard) :
    d.toTrigger = .discard "" := by
  simp [toTrigger, h]

end EffectDeclaration

end CardBattle.Declaration

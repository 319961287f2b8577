/-
Adjustments, defenses and enemies in files.

* `AdjustmentDeclaration`, `DefenseDeclaration`, `EnemyDeclaration` : each as it is written;
* `EnemyDeclaration.toEnemy` : the enemy, its defense first, then its effects in the order of their
  occasions;
* `Refusal` : a declaration that has its form but no meaning.

Main statement: `toAdjustment_of_normal`, a value that is given for a normal slot has no effect.
-/
import CardBattle.Declaration.Deck
import CardBattle.Enemy

namespace CardBattle.Declaration

open Json (Fields)

/-- Why a declaration that has its form is refused. -/
inductive Refusal where
  | declaration (error : BattleError)
  | arithmetic (fault : Double.Fault)
  deriving DecidableEq, Repr

/-! ### Adjustments -/

/-- The kinds of adjustments. -/
inductive AdjustmentKind where
  | normal
  | absolute
  | percent
  deriving DecidableEq, Repr

/-- Every kind of adjustment, under its word. -/
def adjustmentKinds : List (String × AdjustmentKind) :=
  [("normal", .normal), ("absolute", .absolute), ("percent", .percent)]

/-- An adjustment as it is written. -/
structure AdjustmentDeclaration where
  kind : AdjustmentKind := .normal
  value? : Option Double := none
  deriving DecidableEq, Repr

namespace AdjustmentDeclaration

/-- The fields of an adjustment. -/
def ofFields (fields : Fields) : Checked AdjustmentDeclaration :=
  AdjustmentDeclaration.mk
    <$> optional fields "kind" (readWord adjustmentKinds) .normal
    <*> optional fields "value" (fun v => some <$> readNumber v) none
    <* closed fields ["kind", "value"]

/-- An adjustment as it is written. -/
def read : Read AdjustmentDeclaration := readObject ofFields

/-- The adjustment that is declared; an amount is cut to an integer toward zero, and a value that is
left out is zero. -/
def toAdjustment (d : AdjustmentDeclaration) : Except Double.Fault Adjustment :=
  match d.kind, d.value? with
  | .normal, _ => .ok .normal
  | .absolute, none => .ok (.absolute 0)
  | .absolute, some value => value.trunc.map .absolute
  | .percent, none => .ok .cancel
  | .percent, some value => .ok (.percent value)

theorem toAdjustment_of_normal {d : AdjustmentDeclaration} (h : d.kind = .normal) :
    d.toAdjustment = .ok .normal := by
  simp [toAdjustment, h]

end AdjustmentDeclaration

/-! ### Defenses -/

/-- A defense as it is written. -/
structure DefenseDeclaration where
  wind : AdjustmentDeclaration := {}
  land : AdjustmentDeclaration := {}
  water : AdjustmentDeclaration := {}
  any : AdjustmentDeclaration := {}
  deriving DecidableEq, Repr

namespace DefenseDeclaration

/-- The fields of a defense. -/
def ofFields (fields : Fields) : Checked DefenseDeclaration :=
  DefenseDeclaration.mk
    <$> optional fields "wind" AdjustmentDeclaration.read {}
    <*> optional fields "land" AdjustmentDeclaration.read {}
    <*> optional fields "water" AdjustmentDeclaration.read {}
    <*> optional fields "any" AdjustmentDeclaration.read {}
    <* closed fields ["wind", "land", "water", "any"]

/-- A defense as it is written. -/
def read : Read DefenseDeclaration := readObject ofFields

/-- The defense that is declared, slot by slot. -/
def toDefense (d : DefenseDeclaration) : Except Double.Fault Defense := do
  let wind ← d.wind.toAdjustment
  let land ← d.land.toAdjustment
  let water ← d.water.toAdjustment
  let any ← d.any.toAdjustment
  return { wind, land, water, any }

end DefenseDeclaration

/-! ### Enemies -/

/-- An enemy as it is written. -/
structure EnemyDeclaration where
  name : String
  hitPoints : Int
  defense : DefenseDeclaration
  turnDamage : Int
  turnStart : List EffectDeclaration
  turnEnd : List EffectDeclaration
  playerTurnStart : List EffectDeclaration
  onPlayerCard : List EffectDeclaration
  declared : List EffectDeclaration
  deriving DecidableEq, Repr

namespace EnemyDeclaration

/-- The fields of an enemy. -/
def ofFields (fields : Fields) : Checked EnemyDeclaration :=
  EnemyDeclaration.mk
    <$> required fields "name" readName
    <*> required fields "hit_points" readPositive
    <*> optional fields "defense" DefenseDeclaration.read {}
    <*> optional fields "turn_damage" readNonNegative 0
    <*> CardDeclaration.effectList fields "start_turn"
    <*> CardDeclaration.effectList fields "end_turn"
    <*> CardDeclaration.effectList fields "player_start_turn"
    <*> CardDeclaration.effectList fields "player_play_card"
    <*> CardDeclaration.effectList fields "enchantments"
    <* closed fields ["name", "hit_points", "defense", "turn_damage", "start_turn", "end_turn",
        "player_start_turn", "player_play_card", "enchantments"]

/-- An enemy as it is written. -/
def read : Read EnemyDeclaration := readObject ofFields

/-- An enemy with the declared effects of its occasions. -/
def withEffects (d : EnemyDeclaration) (enemy : Enemy) : Except BattleError Enemy := do
  let turnStart ← effectsOf d.turnStart
  let turnEnd ← effectsOf d.turnEnd
  let playerTurnStart ← effectsOf d.playerTurnStart
  let onPlayerCard ← effectsOf d.onPlayerCard
  let declared ← effectsOf d.declared
  return { enemy with
    turnStart := enemy.turnStart ++ turnStart
    turnEnd := enemy.turnEnd ++ turnEnd
    playerTurnStart := enemy.playerTurnStart ++ playerTurnStart
    onPlayerCard := enemy.onPlayerCard ++ onPlayerCard
    declared := enemy.declared ++ declared }

/-- The enemy that is declared. -/
def toEnemy (d : EnemyDeclaration) : Except Refusal Enemy := do
  let defense ← d.defense.toDefense.mapError .arithmetic
  (d.withEffects (.create d.name d.hitPoints defense d.turnDamage)).mapError .declaration

end EnemyDeclaration

end CardBattle.Declaration

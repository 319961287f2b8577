/-
Enchantments: lasting changes that are activated once, at the start of a battle.

* `Enchantment` : what is changed, and by how much;
* `Enchantment.touches` : whether a kind that is tied to an element applies to a card's element.
-/
import CardBattle.Element
import CardBattle.Text.Wording

namespace CardBattle

open Text (Wording number signed)

/-- A lasting change. -/
inductive Enchantment where
  /-- Cards of the element cost more, or less; the neutral element means every card. -/
  | spellCost (element : Element) (amount : Int)
  /-- Cards of the element deal extra damage of that element. -/
  | spellDamage (element : Element) (amount : Int)
  /-- Each turn brings more power. -/
  | powerPerTurn (amount : Int)
  /-- Damage is lowered. -/
  | shield (amount : Int)
  /-- Each turn changes the hit points. -/
  | lifePerTurn (amount : Int)
  /-- Cards of the element cannot be played. -/
  | forbidden (element : Element)
  deriving DecidableEq, Repr

namespace Enchantment

/-- Whether an enchantment applies to cards of an element, for the three kinds tied to one. -/
def touches? : Enchantment → Element → Option Bool
  | .spellCost own _, element => some (own = element || own = .neutral)
  | .spellDamage own _, element => some (own = element)
  | .forbidden own, element => some (own = element)
  | _, _ => none

/-- Whether an enchantment applies to cards of an element. -/
def touches (e : Enchantment) (element : Element) : Bool := (e.touches? element).getD false

/-- The strength of a shield. -/
def shield? : Enchantment → Option Int
  | .shield amount => some amount
  | _ => none

/-- The power that an enchantment brings each turn. -/
def powerPerTurn? : Enchantment → Option Int
  | .powerPerTurn amount => some amount
  | _ => none

/-- The hit points that an enchantment brings each turn. -/
def lifePerTurn? : Enchantment → Option Int
  | .lifePerTurn amount => some amount
  | _ => none

/-- The enchantment in words. -/
def description : Enchantment → Wording
  | .spellCost .neutral amount => "All spells cost " ++ signed amount
  | .spellCost element amount => s!"{element.label} spells cost " ++ signed amount
  | .spellDamage element amount =>
      "Spell damage adjust " ++ number amount ++ s!" [{element.label}]"
  | .powerPerTurn amount => "Power " ++ signed amount ++ " each turn"
  | .shield amount => "Damage adjust -" ++ number amount ++ " on attack"
  | .lifePerTurn amount => "Each turn, adjust life by " ++ number amount
  | .forbidden element => s!"{element.label} spells forbidden"

/-- Enchantments in words, in order. -/
def descriptions (es : List Enchantment) : Wording := .joined ", " (es.map description)

end Enchantment

end CardBattle

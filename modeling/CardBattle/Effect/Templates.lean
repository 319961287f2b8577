/-
Ready-made effects: what enemies do, what cards do when played, enchantments that cards grant, and
effects that answer the playing of a card.
-/
import CardBattle.Effect

namespace CardBattle.Effect

open Text (withSign)

/-! ### Enemy effects -/

/-- The base attack of an enemy. -/
def enemyAttack (amount : Int) : Effect :=
  onPlayer "Enemy Attack" (.always (.damage ⟨amount, .neutral⟩))

/-- Damage to the player while the hand holds a card of the element. -/
def backlash (element : Element) (amount : Int) : Effect :=
  onPlayer s!"Enemy Backlash Attack ({element.label} Element)"
    (.when (.holds element) (.damage ⟨amount, element⟩))

/-- Damage to the player when a card of the element is played. -/
def thorns (element : Element) (amount : Int) : Effect :=
  onPlayer s!"Enemy Thorns Attack ({element.label} Element)"
    (.when (.plays element) (.damage ⟨amount, element⟩))

/-- The enemy heals when a card of the element is played. -/
def enemyFeeds (element : Element) (amount : Int) : Effect :=
  onEnemy s!"Enemy Feeds On {element.label}" (.when (.plays element) (.life amount))

/-- The player heals when a card of the element is played. -/
def playerRelief (element : Element) (amount : Int) : Effect :=
  onPlayer s!"{element.label} Relief" (.when (.plays element) (.life amount))

/-! ### Play effects -/

/-- Damage of an element to the enemy. -/
def elementDamage (element : Element) (amount : Int) : Effect :=
  onEnemy s!"{element.label} Damage" (.always (.damage ⟨amount, element⟩))

/-- Neutral damage to the enemy. -/
def physicalDamage (amount : Int) : Effect :=
  onEnemy "Physical Damage" (.always (.damage ⟨amount, .neutral⟩))

/-- Damage of a fraction of the enemy's hit points. -/
def fractionDamage (fraction : Double) : Effect :=
  onEnemy "Percent Damage" (.always (.percentDamage fraction))

/-- Damage of a fraction of the enemy's hit points, refused outside the unit interval. -/
def percentDamage (fraction : Double) : Except BattleError Effect :=
  (Payload.percent fraction).map fun _ => fractionDamage fraction

/-- The player heals. -/
def heal (amount : Int) : Effect := onPlayer "Heal" (.always (.life amount))

/-- The player's reserve grows. -/
def gainPower (amount : Int) : Effect := onPlayer "Gain Power" (.always (.power amount))

/-- The enemy loses its next turn. -/
def skipTurn : Effect := onEnemy "Skip Turn" (.always .skipTurn)

/-- The card that declares it leaves the hand when played. -/
def discardThis : Effect := onPlayer "Discard" (.discard "")

/-! ### Enchantments granted to the player -/

/-- An enchantment granted to the player. -/
def granting (name : String) (enchantment : Enchantment) : Effect :=
  onPlayer name (.always (.grant enchantment))

/-- Cards of an element change their cost. -/
def spellCost (element : Element) (amount : Int) : Effect :=
  granting s!"{element.label} Spells Cost {withSign amount}" (.spellCost element amount)

/-- All cards change their cost. -/
def allSpellsCost (amount : Int) : Effect :=
  granting s!"All Spells Cost {withSign amount}" (.spellCost .neutral amount)

/-- Each turn brings more power. -/
def powerPerTurn (amount : Int) : Effect :=
  granting s!"Power {withSign amount} Each Turn" (.powerPerTurn amount)

/-- Damage to the player is lowered. -/
def shield (amount : Int) : Effect := granting s!"Shield {amount}" (.shield amount)

/-- Cards of an element deal extra damage. -/
def spellDamage (element : Element) (amount : Int) : Effect :=
  granting s!"{element.label} Spells Damage {withSign amount}" (.spellDamage element amount)

/-- The player heals each turn. -/
def lifePerTurn (amount : Int) : Effect := granting s!"Heal {amount} Per Turn" (.lifePerTurn amount)

/-- Cards of an element cannot be played. -/
def spellsForbidden (element : Element) : Effect :=
  granting s!"{element.label} Spells Forbidden" (.forbidden element)

end CardBattle.Effect

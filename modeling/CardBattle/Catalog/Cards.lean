/-
The cards of the catalog: responses to disasters. A template takes the id of the card.

* `Catalog.cards` : each template under its slug, in the order in which they are listed;
* `Catalog.starterHand` : the hand that is dealt where none is chosen.
-/
import CardBattle.Card
import CardBattle.Effect.Templates

namespace CardBattle.Catalog

/-- A card that still lacks its id. -/
abbrev Template := String → Card

/-! ### Starter cards -/

/-- Wind damage. -/
def gust : Template := fun id =>
  { id, name := "Gust", element := .wind, text := "Play to cause 3 Wind Damage."
    onPlay := [.elementDamage .wind 3] }

/-- Water damage. -/
def stream : Template := fun id =>
  { id, name := "Stream", element := .water, text := "Play to cause 3 Water Damage."
    onPlay := [.elementDamage .water 3] }

/-- Healing. -/
def firstAid : Template := fun id =>
  { id, name := "First Aid", element := .land, cost := 2, text := "Play to heal 8 hit points."
    onPlay := [.heal 8] }

/-! ### Cards that count by being held -/

/-- A card that is held for the enchantment it declares. -/
def held (name : String) (element : Element) (benefit : String) (e : Effect) : Template := fun id =>
  { id, name, element, canPlay := false, gameStart := [e]
    text := "If you have this card in your hand, " ++ benefit }

/-- A shield. -/
def envSuit : Template := held "Environmental Suit" .water "take 2 less damage" (.shield 2)

/-- Extra neutral damage. -/
def powerAmp : Template :=
  held "Power Amplifier" .wind "element-less spells do 2 more damage" (.spellDamage .neutral 2)

/-- Healing each turn. -/
def helis : Template := held "Hospital Helicopters" .wind "heal 3 per turn" (.lifePerTurn 3)

/-- Extra water damage. -/
def hydroPower : Template :=
  held "Hydroelectric Power" .water "water spells do 3 more damage" (.spellDamage .water 3)

/-- Extra land damage. -/
def bulldozers : Template :=
  held "Heavy Bulldozers" .land "land spells do 3 more damage" (.spellDamage .land 3)

/-- Extra wind damage. -/
def windTurbines : Template :=
  held "Wind Turbines" .wind "wind spells do 3 more damage" (.spellDamage .wind 3)

/-- Extra power. -/
def militaryAid : Template :=
  held "Military Aid" .land "gain 1 extra power each turn" (.powerPerTurn 1)

/-- Lower costs. -/
def solarFarm : Template :=
  held "Solar Farm" .land "all spells cost 1 less" (.allSpellsCost (-1))

/-! ### Cards that are discarded after play -/

/-- A card that leaves the hand when it is played. -/
def single (name : String) (element : Element) (cost : Int) (deed : String) (e : Effect) :
    Template := fun id =>
  { id, name, element, cost, text := "Discard this card and " ++ deed
    onPlay := [e, .discardThis] }

/-- The enemy loses a turn. -/
def timeSlip : Template := single "Time Slip" .wind 3 "Skip Enemy Turn" .skipTurn

/-- Much land damage. -/
def fireBreaks : Template :=
  single "Fire Breaks" .land 2 "Deal 6 Land Damage" (.elementDamage .land 6)

/-- Much water damage. -/
def fireHose : Template :=
  single "Fire Hoses" .water 2 "Deal 6 Water Damage" (.elementDamage .water 6)

/-- Much wind damage. -/
def jetBlast : Template :=
  single "Jet Blast" .wind 2 "Deal 6 Wind Damage" (.elementDamage .wind 6)

/-- Neutral damage. -/
def logistics : Template :=
  single "Supply Chains" .neutral 2 "Deal 4 Physical Damage" (.physicalDamage 4)

/-- Half of the enemy's hit points. -/
def insideHelp : Template :=
  single "Inside Help" .wind 3 "Cut Enemy Health in Half" (.fractionDamage .half)

/-- Power for the next turn. -/
def powerSurge : Template :=
  single "Power Surge" .water 1 "gain 3 power for next turn" (.gainPower 3)

/-! ### The catalog -/

/-- The templates under their slugs. -/
def cards : List (String × Template) :=
  [("gust", gust), ("stream", stream), ("first_aid", firstAid), ("env_suit", envSuit),
    ("power_amp", powerAmp), ("helis", helis), ("hydro_power", hydroPower),
    ("bulldozers", bulldozers), ("wind_turbines", windTurbines), ("military_aid", militaryAid),
    ("solar_farm", solarFarm), ("time_slip", timeSlip), ("fire_breaks", fireBreaks),
    ("fire_hose", fireHose), ("jet_blast", jetBlast), ("logistics", logistics),
    ("inside_help", insideHelp), ("power_surge", powerSurge)]

/-- The slugs of the cards. -/
def cardSlugs : List String := cards.map (·.1)

/-- The templates of the hand that is dealt where none is chosen. -/
def starterTemplates : List Template := [gust, stream, firstAid, fireHose]

end CardBattle.Catalog

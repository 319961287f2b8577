/-
The enemies of the catalog: disasters with elemental defenses.

* `Catalog.enemies` : each enemy under its slug, in the order in which they are listed;
* `Catalog.enemy` : the enemy of a slug.

Main statement: `enemy_eq_ok_iff`, a slug is accepted exactly when it is listed.
-/
import CardBattle.Enemy

namespace CardBattle.Catalog

/-- Oil on water: land damage gets worse. -/
def oilSpill : Enemy :=
  .create "Oil Spill" 14 { water := .absolute 1, land := .absolute (-1) } 3

/-- Wind does nothing to it. -/
def typhoon : Enemy :=
  .create "Typhoon" 12 { wind := .percent .zero, land := .absolute (-2) } 4

/-- Wind feeds it. -/
def forestFire : Enemy :=
  (Enemy.create "Forest Fire" 8 { water := .absolute 1, land := .percent .zero } 8).withPlayerCard
    (.enemyFeeds .wind 1)

/-- Any damage gets worse. -/
def landslide : Enemy := .create "Landslide" 20 { any := .absolute (-1) } 2

/-- Water cards cannot be played. -/
def avalanche : Enemy := (Enemy.create "Avalanche" 10 {} 7).withDeclared (.spellsForbidden .water)

/-- Wind cards strike back. -/
def famine : Enemy :=
  (Enemy.create "Famine" 16 { water := .absolute 2 } 5).withPlayerCard (.thorns .wind 1)

/-- Land cards cannot be played. -/
def earthquake : Enemy := (Enemy.create "Earthquake" 10 {} 5).withDeclared (.spellsForbidden .land)

/-- Water cards relieve the player. -/
def volcano : Enemy :=
  (Enemy.create "Volcano Eruption" 5 { any := .absolute (-1) } 8).withPlayerCard
    (.playerRelief .water 5)

/-- An enemy without a defense. -/
def floods : Enemy := .create "Floods" 12 {} 5

/-- Land does nothing to it. -/
def drought : Enemy := .create "Drought" 25 { water := .absolute 1, land := .percent .zero } 2

/-- Wind does nothing to it. -/
def tornado : Enemy := .create "Tornado" 10 { wind := .percent .zero } 6

/-- Wind cards strike back and feed it. -/
def meltdown : Enemy :=
  ((Enemy.create "Nuclear Meltdown" 35 {} 2).withPlayerCard (.thorns .wind 2)).withPlayerCard
    (.enemyFeeds .wind 1)

/-- Water cards strike back. -/
def blackout : Enemy :=
  (Enemy.create "Electricity Blackout" 20 { wind := .absolute 1 } 3).withPlayerCard
    (.thorns .water 1)

/-- The enemies under their slugs. -/
def enemies : List (String × Enemy) :=
  [("oil_spill", oilSpill), ("typhoon", typhoon), ("forest_fire", forestFire),
    ("landslide", landslide), ("avalanche", avalanche), ("famine", famine),
    ("earthquake", earthquake), ("volcano", volcano), ("floods", floods), ("drought", drought),
    ("tornado", tornado), ("meltdown", meltdown), ("blackout", blackout)]

/-- The slugs of the enemies. -/
def enemySlugs : List String := enemies.map (·.1)

/-- The enemy of a slug. -/
def enemy (slug : String) : Except BattleError Enemy :=
  match enemies.lookup slug with
  | some enemy => .ok enemy
  | none => .error (.unknownEnemy slug none)

theorem enemy_eq_ok_iff {slug : String} {e : Enemy} :
    enemy slug = .ok e ↔ enemies.lookup slug = some e := by
  unfold enemy
  cases enemies.lookup slug <;> simp

end CardBattle.Catalog

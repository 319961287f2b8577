/-
Elements and sides.

* `Element` : the affinity of a card or of damage; `neutral` is physical, and as the element of a
  cost enchantment it means every element;
* `Side` : the actor that an effect is aimed at.

Main statements: `Element.ofWord?_word` and `Side.ofWord?_word`, each value is read from its word.
-/

namespace CardBattle

/-- The affinity of a card or of damage. -/
inductive Element where
  | wind
  | land
  | water
  | neutral
  deriving DecidableEq, Repr

namespace Element

/-- Every element, in the order in which they are listed. -/
def all : List Element := [.wind, .land, .water, .neutral]

/-- The word for an element in files. -/
def word : Element → String
  | .wind => "wind"
  | .land => "land"
  | .water => "water"
  | .neutral => "no_element"

/-- The element of a word. -/
def ofWord? (word : String) : Option Element := all.find? (·.word = word)

/-- The name shown for an element. -/
def label : Element → String
  | .wind => "Wind"
  | .land => "Land"
  | .water => "Water"
  | .neutral => "No Elem"

/-- The colour an element is shown in. -/
def colour : Element → String
  | .wind => "cyan"
  | .land => "yellow"
  | .water => "blue"
  | .neutral => "white"

theorem mem_all (e : Element) : e ∈ all := by cases e <;> decide

theorem ofWord?_word (e : Element) : ofWord? e.word = some e := by cases e <;> decide

end Element

/-- The actor that an effect is aimed at. -/
inductive Side where
  | player
  | enemy
  deriving DecidableEq, Repr

namespace Side

/-- The word for a side in files. -/
def word : Side → String
  | .player => "player"
  | .enemy => "enemy"

/-- The side of a word. -/
def ofWord? (word : String) : Option Side := [Side.player, Side.enemy].find? (·.word = word)

/-- The name shown for a side. -/
def label : Side → String
  | .player => "PLAYER"
  | .enemy => "ENEMY"

theorem ofWord?_word (s : Side) : ofWord? s.word = some s := by cases s <;> decide

end Side

end CardBattle

/-
Conditions on effects.

* `Condition` : two kinds ask about the hand, the third about the card that is being played;
* `Condition.inHand` : the answer for a hand, given by the elements it holds;
* `Condition.byPlay` : the answer for a played element.

Each kind answers false to the other kind's question. Main statements:
`inHand_eq_false_of_isPlayEvent`, `byPlay_eq_false_of_not_isPlayEvent`.
-/
import CardBattle.Element

namespace CardBattle

/-- What an effect waits for. -/
inductive Condition where
  /-- The hand holds a card of the element. -/
  | holds (element : Element)
  /-- The hand holds no card of the element. -/
  | lacks (element : Element)
  /-- The card being played is of the element. -/
  | plays (element : Element)
  deriving DecidableEq, Repr

namespace Condition

/-- Whether the condition is true of a hand. -/
def inHand : Condition → List Element → Bool
  | .holds element, hand => hand.any (· = element)
  | .lacks element, hand => hand.all (· ≠ element)
  | .plays _, _ => false

/-- Whether the condition is true of the card being played. -/
def byPlay : Condition → Element → Bool
  | .plays element, played => played = element
  | _, _ => false

/-- Whether the condition is true of an enemy; no enemy fails one. -/
def ofEnemy (_ : Condition) : Bool := true

/-- Whether the condition asks about the card being played. -/
def isPlayEvent : Condition → Bool
  | .plays _ => true
  | _ => false

/-- The condition in words. -/
def description : Condition → String
  | .holds element => s!"HAS_ELEMENT [{element.label}]"
  | .lacks element => s!"HAS_NO_ELEMENT [{element.label}]"
  | .plays element => s!"PLAYS_SPELL_ELEMENT [{element.label}]"

theorem inHand_eq_false_of_isPlayEvent {c : Condition} (h : c.isPlayEvent = true)
    (hand : List Element) : c.inHand hand = false := by
  cases c <;> simp_all [isPlayEvent, inHand]

theorem byPlay_eq_false_of_not_isPlayEvent {c : Condition} (h : c.isPlayEvent = false)
    (played : Element) : c.byPlay played = false := by
  cases c <;> simp_all [isPlayEvent, byPlay]

end Condition

end CardBattle

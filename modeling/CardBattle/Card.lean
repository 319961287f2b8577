/-
Cards.

* `Card` : a card of the player, with the effects it has at the start of a battle, at the start of
  each turn and when it is played;
* `Card.declare` : a card, refused if its cost is negative;
* `Card.firstRepeat?` : the first id in a hand that an earlier card carries.

Main statement: `firstRepeat?_eq_none_iff`, no id repeats exactly when the ids are pairwise
distinct.
-/
import CardBattle.Effect

namespace CardBattle

open Text (Wording number)

/-- A card of the player. -/
structure Card where
  id : String
  name : String
  element : Element
  cost : Int := 1
  text : String := ""
  /-- A card that cannot be played counts by being held. -/
  canPlay : Bool := true
  gameStart : List Effect := []
  turnStart : List Effect := []
  onPlay : List Effect := []
  deriving DecidableEq, Repr

namespace Card

/-- A card, refused if its cost is negative. -/
def declare (card : Card) : Except BattleError Card :=
  if card.cost < 0 then .error (.negativeCost card.name card.cost card.id) else .ok card

/-- The card as one that only counts by being held. -/
def heldOnly (card : Card) : Card := { card with canPlay := false }

/-- The card at another cost. -/
def withCost (card : Card) (cost : Int) : Except BattleError Card := declare { card with cost }

/-- The card with one more effect at the start of a battle. -/
def withGameStart (card : Card) (e : Effect) : Card :=
  { card with gameStart := card.gameStart ++ [e] }

/-- The card with one more effect at the start of each turn. -/
def withTurnStart (card : Card) (e : Effect) : Card :=
  { card with turnStart := card.turnStart ++ [e] }

/-- The card with one more effect when played. -/
def withPlay (card : Card) (e : Effect) : Card := { card with onPlay := card.onPlay ++ [e] }

/-- Name, element and cost. -/
def displayName (card : Card) : Wording :=
  s!"{card.name} [{card.element.label}, " ++ number card.cost ++ "]"

/-- All effects of a card, in the order of their occasions. -/
def effects (card : Card) : List Effect := card.gameStart ++ card.turnStart ++ card.onPlay

theorem declare_eq_ok_iff {card c : Card} : declare card = .ok c ↔ 0 ≤ card.cost ∧ c = card := by
  unfold declare
  split
  · next h => simp [Int.not_le.mpr h]
  · next h => simp [Int.not_lt.mp h, eq_comm]

/-! ### Repeated ids -/

/-- The first id that repeats an earlier one, given the ids met `before`. -/
def firstRepeatAfter? : List String → List String → Option String
  | _, [] => none
  | before, id :: rest =>
      if id ∈ before then some id else firstRepeatAfter? (id :: before) rest

/-- The first id that repeats an earlier one. -/
def firstRepeat? (ids : List String) : Option String := firstRepeatAfter? [] ids

theorem firstRepeatAfter?_eq_none_iff {before ids : List String} :
    firstRepeatAfter? before ids = none ↔ ids.Nodup ∧ ∀ id ∈ ids, id ∉ before := by
  induction ids generalizing before with
  | nil => simp [firstRepeatAfter?]
  | cons id rest ih =>
      by_cases h : id ∈ before
      · simp [firstRepeatAfter?, h]
      · simp only [firstRepeatAfter?, h, ↓reduceIte, ih, List.nodup_cons, List.mem_cons,
          forall_eq_or_imp, not_false_eq_true, true_and]
        constructor
        · rintro ⟨hnodup, hall⟩
          exact ⟨⟨fun hmem => hall id hmem (Or.inl rfl), hnodup⟩,
            fun x hx hx' => hall x hx (Or.inr hx')⟩
        · rintro ⟨⟨hid, hnodup⟩, hall⟩
          refine ⟨hnodup, fun x hx hx' => ?_⟩
          rcases hx' with rfl | hx'
          · exact hid hx
          · exact hall x hx hx'

theorem firstRepeat?_eq_none_iff {ids : List String} : firstRepeat? ids = none ↔ ids.Nodup := by
  simp [firstRepeat?, firstRepeatAfter?_eq_none_iff]

end Card

end CardBattle

/-
Fresh card ids.

* `Supply` : how many ids have been handed out;
* `Supply.take` : the next id.

-/
import CardBattle.Card

namespace CardBattle

/-- How many ids have been handed out. -/
structure Supply where
  taken : Nat := 0
  deriving DecidableEq, Repr

namespace Supply

/-- The id of a number. -/
def id (n : Nat) : String := s!"card-{n}"

/-- The next id. -/
def take (s : Supply) : String × Supply := (id (s.taken + 1), ⟨s.taken + 1⟩)

/-- Cards from templates, each with the next id, in order. -/
def deal : List (String → Card) → Supply → List Card × Supply
  | [], s => ([], s)
  | template :: rest, s =>
      let (id, s) := s.take
      let (cards, s) := deal rest s
      (template id :: cards, s)

end Supply

end CardBattle

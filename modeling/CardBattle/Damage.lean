/-
Damage and what stands between it and its target.

* `Damage` : an amount of an element;
* `Adjustment` : how one slot of a defense changes an amount;
* `Defense` : a slot for each element with a body, and one for any damage. The amount that gets
  through is the smaller of the two results, both computed from the whole amount;
* `absorb` : shields subtracted in sequence, never below zero;
* `percentOf` : the whole part of a fraction of hit points.

Main statements: `resolve_eq` (an equation for the resolved amount), `absorb_append`.
-/
import CardBattle.Double.Layout
import CardBattle.Element
import CardBattle.Text.Wording

namespace CardBattle

open Text (Wording number signed)

/-! ### Damage -/

/-- An amount of damage of an element. -/
structure Damage where
  amount : Int
  element : Element := .neutral
  deriving DecidableEq, Repr

/-- Element and amount. -/
def Damage.description (d : Damage) : Wording := s!"{d.element.label}/" ++ number d.amount

/-! ### Adjustments -/

/-- How a slot changes an amount of damage. -/
inductive Adjustment where
  /-- The amount passes unchanged. -/
  | normal
  /-- The amount is lowered by `delta`, or raised where `delta` is negative. -/
  | absolute (delta : Int)
  /-- The amount is multiplied and cut to an integer toward zero. -/
  | percent (multiplier : Double)
  /-- Nothing of the amount is left, whatever its size. -/
  | cancel
  deriving DecidableEq, Repr

namespace Adjustment

/-- The amount that a slot lets through. -/
def adjust : Adjustment → Int → Except Double.Fault Int
  | .normal, raw => .ok raw
  | .absolute delta, raw => .ok (raw - delta)
  | .percent multiplier, raw => do ((← Double.ofInt raw).mul multiplier).trunc
  | .cancel, _ => .ok 0

/-- The written form of an adjustment: what it does to an amount. -/
def description : Adjustment → Wording
  | .normal => "Normal"
  | .absolute delta => signed (-delta)
  | .percent multiplier => "x" ++ multiplier.brief
  | .cancel => "x0"

end Adjustment

/-! ### Defenses -/

/-- The adjustments of an enemy. -/
structure Defense where
  wind : Adjustment := .normal
  land : Adjustment := .normal
  water : Adjustment := .normal
  any : Adjustment := .normal
  deriving DecidableEq, Repr

namespace Defense

/-- The slot of an element; neutral damage meets none. -/
def slotFor (d : Defense) : Element → Adjustment
  | .wind => d.wind
  | .land => d.land
  | .water => d.water
  | .neutral => .normal

/-- What a damage event comes to: the results of the two slots and the smaller one. -/
structure Resolution where
  anyBranch : Int
  elementBranch : Int
  deriving DecidableEq, Repr

/-- The amount actually taken. -/
def Resolution.actual (r : Resolution) : Int := min r.anyBranch r.elementBranch

/-- Both slots applied to the whole amount, the slot for any damage first. -/
def branches (d : Defense) (damage : Damage) : Except Double.Fault Resolution := do
  let anyBranch ← d.any.adjust damage.amount
  let elementBranch ← (d.slotFor damage.element).adjust damage.amount
  return ⟨anyBranch, elementBranch⟩

/-- The amount of a damage event that gets through. -/
def resolve (d : Defense) (damage : Damage) : Except Double.Fault Int :=
  (d.branches damage).map Resolution.actual

/-- The four slots in words. -/
def description (d : Defense) : Wording :=
  "Wind " ++ d.wind.description ++ ", Land " ++ d.land.description
    ++ ", Water " ++ d.water.description ++ ", Any " ++ d.any.description

theorem resolve_eq {d : Defense} {damage : Damage} {a e : Int}
    (hany : d.any.adjust damage.amount = .ok a)
    (helement : (d.slotFor damage.element).adjust damage.amount = .ok e) :
    d.resolve damage = .ok (min a e) := by
  simp [resolve, branches, hany, helement, bind, Except.bind, pure, Except.pure, Except.map,
    Resolution.actual]

end Defense

/-! ### Shields and fractions -/

/-- An amount after shields in sequence, each result raised to zero. -/
def absorb (amount : Int) (shields : List Int) : Int :=
  shields.foldl (fun left shield => max 0 (left - shield)) amount

@[simp] theorem absorb_nil (amount : Int) : absorb amount [] = amount := rfl

@[simp] theorem absorb_cons (amount shield : Int) (shields : List Int) :
    absorb amount (shield :: shields) = absorb (max 0 (amount - shield)) shields := rfl

theorem absorb_append (amount : Int) (first second : List Int) :
    absorb amount (first ++ second) = absorb (absorb amount first) second := by
  simp [absorb]

/-- The greatest integer not above a fraction of hit points. -/
def percentOf (hitPoints : Int) (fraction : Double) : Except Double.Fault Int := do
  ((← Double.ofInt hitPoints).mul fraction).floor

end CardBattle

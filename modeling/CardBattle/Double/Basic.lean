/-
Binary64 numbers counted in units of the smallest positive one.

* `Double` : a sign and a natural number of units `2^-1074`, or an infinity, or not a number;
* `roundRatio` : a quotient of naturals at the nearest count of units with 53 significant bits,
  a half going to the even neighbour;
* `Double.ofInt`, `Double.mul` : conversion and product, each its exact result rounded once;
* `Double.trunc`, `Double.floor` : the integers toward zero and downward, refused off the finite
  numbers;
* `Double.le` : the order, in which not a number is comparable to nothing.

Main statements: `roundHalfEven_of_dvd` (a whole quotient is its own rounding) and
`roundRatio_zero`.
-/

namespace CardBattle

/-! ### Rounding -/

/-- The quotient rounded to the nearest natural number, a half to the even one. -/
def roundHalfEven (num den : Nat) : Nat :=
  let quotient := num / den
  let twice := 2 * (num % den)
  if twice < den then quotient
  else if den < twice then quotient + 1
  else quotient + quotient % 2

/-- The binary digits a significand has room for. -/
def significandBits : Nat := 53

/-- The quotient rounded to the nearest natural number whose binary digits after the first
`significandBits` are zero. -/
def roundRatio (num den : Nat) : Nat :=
  let dropped := (num / den).log2 + 1 - significandBits
  roundHalfEven num (den * Nat.pow 2 dropped) * Nat.pow 2 dropped

theorem roundHalfEven_of_dvd {num den : Nat} (hpos : 0 < den) (h : den ∣ num) :
    roundHalfEven num den = num / den := by
  simp [roundHalfEven, Nat.mod_eq_zero_of_dvd h, hpos]

theorem roundHalfEven_zero (den : Nat) (hpos : 0 < den) : roundHalfEven 0 den = 0 := by
  simp [roundHalfEven, hpos]

theorem roundRatio_zero (den : Nat) (hpos : 0 < den) : roundRatio 0 den = 0 := by
  simp [roundRatio, roundHalfEven_zero _ (Nat.mul_pos hpos (Nat.two_pow_pos _))]

/-! ### Numbers -/

/-- A binary64 number. A finite one is its sign and its magnitude in units of `2^-1074`, so
`1.0` is `2^1074` units and the two zeros differ in sign alone. -/
inductive Double where
  | nan
  | infinite (negative : Bool)
  | finite (negative : Bool) (units : Nat)
  deriving DecidableEq, Repr

namespace Double

/-- What can go wrong between integers and doubles. -/
inductive Fault where
  | integerTooLarge
  | infiniteToInteger
  | nanToInteger
  deriving DecidableEq, Repr

/-- The wording of a fault. -/
def Fault.message : Fault → String
  | .integerTooLarge => "int too large to convert to float"
  | .infiniteToInteger => "cannot convert float infinity to integer"
  | .nanToInteger => "cannot convert float NaN to integer"

/-- The exponent of the unit is `-unitBits`. -/
def unitBits : Nat := 1074

/-- The units of the number one. -/
def one : Nat := Nat.pow 2 unitBits

/-- Magnitudes from here on overflow. -/
def limit : Nat := Nat.pow 2 (1024 + unitBits)

/-- A rounded magnitude as a number, infinite where it reaches the limit. -/
def ofUnits (negative : Bool) (units : Nat) : Double :=
  if units < limit then .finite negative units else .infinite negative

/-- The number nearest to a signed quotient of naturals. -/
def ofRatio (negative : Bool) (num den : Nat) : Double :=
  ofUnits negative (roundRatio (num * one) den)

/-- Zero with a plus sign. -/
def zero : Double := .finite false 0

/-- One half. -/
def half : Double := .finite false (Nat.pow 2 (unitBits - 1))

/-- One hundred, which turns a fraction into a percentage. -/
def hundred : Double := .finite false (100 * one)

/-- The double nearest to an integer; refused if the nearest is infinite. -/
def ofInt (n : Int) : Except Fault Double :=
  if 1024 < n.natAbs.log2 then .error .integerTooLarge
  else
    match ofRatio (n < 0) n.natAbs 1 with
    | .infinite _ => .error .integerTooLarge
    | x => .ok x

/-- The product: exact, then rounded once. -/
def mul : Double → Double → Double
  | .nan, _ => .nan
  | _, .nan => .nan
  | .infinite s, .infinite t => .infinite (s != t)
  | .infinite s, .finite t n => if n = 0 then .nan else .infinite (s != t)
  | .finite s m, .infinite t => if m = 0 then .nan else .infinite (s != t)
  | .finite s m, .finite t n => ofUnits (s != t) (roundRatio (m * n) one)

/-- An integer with a sign in front of a natural. -/
def signed (negative : Bool) (n : Nat) : Int :=
  if negative then -(n : Int) else n

/-- The integer part, toward zero. -/
def trunc : Double → Except Fault Int
  | .nan => .error .nanToInteger
  | .infinite _ => .error .infiniteToInteger
  | .finite negative units => .ok (signed negative (units / one))

/-- The greatest integer not above the number. -/
def floor : Double → Except Fault Int
  | .nan => .error .nanToInteger
  | .infinite _ => .error .infiniteToInteger
  | .finite negative units => .ok (signed negative units / (one : Int))

/-- The order of numbers; nothing is comparable to `nan`. -/
def le : Double → Double → Bool
  | .nan, _ => false
  | _, .nan => false
  | .infinite true, _ => true
  | _, .infinite false => true
  | .infinite false, _ => false
  | _, .infinite true => false
  | .finite s m, .finite t n => signed s m ≤ signed t n

/-- Whether a number is neither infinite nor `nan`. -/
def isFinite : Double → Bool
  | .finite _ _ => true
  | _ => false

/-- The integer a number is, if it is one. -/
def toInt? : Double → Option Int
  | .finite negative units =>
      if units % one = 0 then some (signed negative (units / one)) else none
  | _ => none

/-- Whether a number lies between zero and one, both included. -/
def inUnitInterval (x : Double) : Bool :=
  le zero x && le x (.finite false one)

/-! ### Small laws -/

theorem trunc_finite (negative : Bool) (units : Nat) :
    trunc (.finite negative units) = .ok (signed negative (units / one)) := rfl

theorem signed_nonneg (n : Nat) : 0 ≤ signed false n := by simp [signed]

theorem pow_two_pos (n : Nat) : 0 < Nat.pow 2 n := Nat.two_pow_pos n

theorem one_pos : 0 < one := by
  unfold one
  exact pow_two_pos _

theorem mul_zero_units (s t : Bool) (m : Nat) :
    mul (.finite s m) (.finite t 0) = .finite (s != t) 0 := by
  have h : 0 < limit := by
    unfold limit
    exact pow_two_pos _
  simp [mul, ofUnits, roundRatio_zero _ one_pos, h]

end Double

end CardBattle

/-
Decimal forms of binary64 numbers.

* `Double.ofDecimal` : the number nearest to a decimal coefficient and a power of ten;
* `Decimal` : significant digits and the exponent of the first;
* `Decimal.fewest` : the fewest digits that read back as the number, the nearest of those;
* `Decimal.rounded` : a given number of significant digits, a half going to the even neighbour.
-/
import CardBattle.Double.Basic

namespace CardBattle

namespace Double

/-- Powers of ten outside `±decimalReach` leave no doubt: the number overflows or vanishes. -/
def decimalReach : Nat := 400

/-- The number nearest to `coefficient · 10^exponent`. -/
def ofDecimal (negative : Bool) (coefficient : Nat) (exponent : Int) : Double :=
  if coefficient = 0 then .finite negative 0
  else if (decimalReach : Int) < exponent then .infinite negative
  else if 0 ≤ exponent then ofRatio negative (coefficient * Nat.pow 10 exponent.toNat) 1
  else if (coefficient.log2 / 3 + 1 : Nat) + exponent < -(decimalReach : Int) then
    .finite negative 0
  else ofRatio negative coefficient (Nat.pow 10 (-exponent).toNat)

end Double

/-- Significant digits: the number `d₀.d₁d₂… · 10^exponent`, without a zero at its end. -/
structure Decimal where
  digits : List Char
  exponent : Int
  deriving DecidableEq, Repr

namespace Decimal

/-- The decimal zero. -/
def zero : Decimal := ⟨['0'], 0⟩

/-- The digits of `coefficient · 10^exponent`. -/
def ofScaled (coefficient : Nat) (exponent : Int) : Decimal :=
  if coefficient = 0 then zero
  else
    let digits := Nat.toDigits 10 coefficient
    ⟨(digits.reverse.dropWhile (· = '0')).reverse, exponent + digits.length - 1⟩

/-- The exponent of the first significant digit of a positive magnitude. -/
def leading (units : Nat) : Int :=
  ((Nat.toDigits 10 (units * Nat.pow 10 Double.decimalReach / Double.one)).length : Int)
    - Double.decimalReach - 1

/-- A magnitude times `10^places`, as a quotient. -/
def scaledRatio (units : Nat) (places : Int) : Nat × Nat :=
  if 0 ≤ places then (units * Nat.pow 10 places.toNat, Double.one)
  else (units, Double.one * Nat.pow 10 (-places).toNat)

/-- Whether a decimal form reads back as the given magnitude. -/
def readsBack (units coefficient : Nat) (exponent : Int) : Bool :=
  Double.ofDecimal false coefficient exponent = .finite false units

/-- Whether the lower of two neighbours `num / den` and the next is the nearer one, a tie going to
the even one. -/
def lowerNearer (num den : Nat) : Bool :=
  roundHalfEven num den = num / den

/-- The nearest number of `count` digits that reads back, among the two around the magnitude. -/
def nearestOf? (units count : Nat) : Option Decimal :=
  let places := (count : Int) - 1 - leading units
  let (num, den) := scaledRatio units places
  let lower := num / den
  let upper := lower + 1
  let lowerFits := readsBack units lower (-places)
  let upperFits := readsBack units upper (-places)
  if lowerFits && (!upperFits || lowerNearer num den) then
    some (ofScaled lower (-places))
  else if upperFits then some (ofScaled upper (-places))
  else none

/-- A magnitude at `count` significant digits, a half going to the even neighbour. -/
def rounded (count units : Nat) : Decimal :=
  if units = 0 then zero
  else
    let places := (count : Int) - 1 - leading units
    let (num, den) := scaledRatio units places
    ofScaled (roundHalfEven num den) (-places)

/-- Seventeen digits tell any two magnitudes apart. -/
def mostDigits : Nat := 17

/-- The fewest digits that read back as the magnitude. -/
def fewest (units : Nat) : Decimal :=
  if units = 0 then zero
  else
    ((List.range mostDigits).findSome? fun k => nearestOf? units (k + 1)).getD
      (rounded mostDigits units)

end Decimal

end CardBattle

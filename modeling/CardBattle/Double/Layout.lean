/-
How numbers are written.

* `Layout` : which exponents are written positionally, and what ends a whole number;
* `Double.text` : the exact form, with the fewest digits that read back;
* `Double.brief` : six significant digits.
-/
import CardBattle.Double.Decimal

namespace CardBattle

/-- The written form of significant digits. Exponents from `least` to below `above` are written
positionally; `wholeEnding` follows a positional number without a fraction. -/
structure Layout where
  least : Int
  above : Int
  wholeEnding : String
  deriving DecidableEq, Repr

namespace Layout

/-- The exact form keeps a whole number recognisable by `.0`, and is positional below `10^16`. -/
def exact : Layout := ⟨-4, 16, ".0"⟩

/-- The brief form drops it, and is positional below `10^6`. -/
def brief : Layout := ⟨-4, 6, ""⟩

/-- An exponent with its sign and at least two digits. -/
def exponentText (exponent : Int) : String :=
  let size := toString exponent.natAbs
  (if exponent < 0 then "-" else "+") ++ (if exponent.natAbs < 10 then "0" ++ size else size)

/-- The digits after a point, and nothing where there are none. -/
def fraction (digits : List Char) (ending : String) : String :=
  if digits.isEmpty then ending else "." ++ String.ofList digits

/-- The written form of a decimal. -/
def write (layout : Layout) (d : Decimal) : String :=
  if layout.least ≤ d.exponent ∧ d.exponent < layout.above then
    if d.exponent < 0 then
      "0." ++ String.ofList (List.replicate (-d.exponent - 1).toNat '0' ++ d.digits)
    else
      let whole := d.exponent.toNat + 1
      let padded := d.digits ++ List.replicate (whole - d.digits.length) '0'
      String.ofList (padded.take whole) ++ fraction (padded.drop whole) layout.wholeEnding
  else
    String.ofList (d.digits.take 1) ++ fraction (d.digits.drop 1) "" ++ "e"
      ++ exponentText d.exponent

end Layout

namespace Double

/-- A number in a layout, its digits chosen by `choose` from its magnitude. -/
def render (layout : Layout) (choose : Nat → Decimal) : Double → String
  | .nan => "nan"
  | .infinite negative => if negative then "-inf" else "inf"
  | .finite negative units =>
      (if negative then "-" else "") ++ layout.write (choose units)

/-- The exact form of a number. -/
def text : Double → String := render .exact Decimal.fewest

/-- Six significant digits. -/
def brief : Double → String := render .brief (Decimal.rounded 6)

example : text (ofDecimal false 1 (-1)) = "0.1" := by decide +kernel

example : text (ofDecimal true 1 16) = "-1e+16" := by decide +kernel

example : brief (ofDecimal false 12345678 (-1)) = "1.23457e+06" := by decide +kernel

end Double

end CardBattle

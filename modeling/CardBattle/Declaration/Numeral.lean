/-
Numerals: texts that stand for numbers in files.

* `strictInteger?` : an integer as it stands in a file outside quotes;
* `tidied?` : a numeral without what may be left out, such as blanks around it and zeros in front;
* `readIntegerText` : the integer that a tidied text is;
* `numberText?` : a number without the blanks around it, or else without its underscores.

Main statements: `ungrouped?_eq_none_of_not_mem` and `withoutTail_of_not_mem`, a text without
underscores and a text without a point are left as they are.
-/
import CardBattle.Declaration.Issue
import CardBattle.Json.Token
import CardBattle.Text.Numeral

namespace CardBattle.Declaration

open Text (trimNumeral)

/-! ### Underscores -/

/-- Whether two underscores stand side by side. -/
def hasWideGap (cs : List Char) : Bool := (cs.zip cs.tail).any (· == ('_', '_'))

/-- A text without its underscores; nothing if it has none, or has one at an end or two side by
side. -/
def ungrouped? (cs : List Char) : Option (List Char) :=
  if '_' ∉ cs || cs.head? = some '_' || cs.getLast? = some '_' || hasWideGap cs then none
  else some (cs.filter (· ≠ '_'))

theorem ungrouped?_eq_none_of_not_mem {cs : List Char} (h : '_' ∉ cs) : ungrouped? cs = none := by
  simp [ungrouped?, h]

/-! ### Integers -/

/-- A numeral without its minus sign, and whether it had one. -/
def unsigned : List Char → Bool × List Char
  | '-' :: body => (true, body)
  | body => (false, body)

/-- An integer as it stands in a file outside quotes: a minus sign if it is negative, and digits. -/
def strictInteger? (cs : List Char) : Option Int :=
  let (negative, digits) := unsigned cs
  if Json.isWhole digits && digits.all Char.isDigit && !Json.isOverlong digits then
    some (Double.signed negative (Json.ofDecimalDigits digits))
  else none

/-- Whether a text begins with an integer of too many digits. -/
def beginsOverlong (cs : List Char) : Bool :=
  let digits := (unsigned cs).2.takeWhile Char.isDigit
  Json.isWhole digits && Json.isOverlong digits

/-- What follows the zeros and underscores in front of a numeral, from behind the first zero on.
`last` was read just before: it stays in front of a point and at the end. -/
def afterZeros? (last : Char) : List Char → Option (List Char)
  | [] => some [last]
  | c :: rest =>
      if c = '0' || c = '_' then afterZeros? c rest
      else if c = '.' then some (last :: c :: rest)
      else if c = '-' || c.isDigit then some (c :: rest)
      else none

/-- A numeral without the zeros in front of it; nothing unless it begins with a digit. -/
def withoutZeros? : List Char → Option (List Char)
  | '0' :: rest => afterZeros? '0' rest
  | c :: rest => if c.isDigit then some (c :: rest) else none
  | [] => none

/-- A numeral without a point that only zeros follow, one at least. -/
def withoutTail (cs : List Char) : List Char :=
  let zeros := (cs.dropWhile (· ≠ '.')).drop 1
  if !zeros.isEmpty && zeros.all (· = '0') then cs.takeWhile (· ≠ '.') else cs

theorem withoutTail_of_not_mem {cs : List Char} (h : '.' ∉ cs) : withoutTail cs = cs := by
  have hnone : cs.dropWhile (· ≠ '.') = [] := by
    induction cs with
    | nil => rfl
    | cons c rest ih =>
        have hc : c ≠ '.' := fun heq => h (heq ▸ List.mem_cons_self)
        rw [List.dropWhile_cons_of_pos (by simpa using hc)]
        exact ih fun hmem => h (List.mem_cons_of_mem c hmem)
  simp only [withoutTail, hnone, List.drop_nil]
  rfl

/-- A numeral without sign: zeros in front, zeros behind a point and underscores are left out. -/
def tidiedBody? (cs : List Char) : Option (List Char) :=
  (withoutZeros? cs).map fun body => (ungrouped? (withoutTail body)).getD (withoutTail body)

/-- A numeral without what may be left out: blanks around it, a plus sign, zeros and underscores. -/
def tidied? (cs : List Char) : Option (List Char) :=
  match trimNumeral cs with
  | '-' :: body => (tidiedBody? body).map ('-' :: ·)
  | '+' :: body => tidiedBody? body
  | body => tidiedBody? body

/-- The integer of a text once it is tidied. A text that begins with too many digits is refused for
its size; one that has them only once it is tidied is not read. -/
def readIntegerText (cs : List Char) : Checked Int :=
  if beginsOverlong cs then .fail .oversizedInteger
  else
    match (tidied? cs).bind strictInteger? with
    | some n => .ok n
    | none => .fail .unreadInteger

/-! ### Numbers -/

/-- The words for numbers that are not finite. -/
def numberWord? (negative : Bool) (cs : List Char) : Option Double :=
  match String.ofList (cs.map Char.toLower) with
  | "inf" => some (.infinite negative)
  | "infinity" => some (.infinite negative)
  | "nan" => some .nan
  | _ => none

/-- The number of a numeral without sign: digits before or after a point, and an exponent. -/
def numeralOf? (negative : Bool) (cs : List Char) : Option Double :=
  let whole := cs.takeWhile Char.isDigit
  let afterWhole := cs.dropWhile Char.isDigit
  let afterPoint := if afterWhole.head? = some '.' then afterWhole.tail else []
  let fraction := afterPoint.takeWhile Char.isDigit
  let tail := if afterWhole.head? = some '.' then afterPoint.dropWhile Char.isDigit else afterWhole
  let coefficient := Json.ofDecimalDigits (whole ++ fraction)
  let shift : Int := fraction.length
  if whole.isEmpty && fraction.isEmpty then none
  else
    match tail with
    | [] => some (.ofDecimal negative coefficient (-shift))
    | mark :: exponent =>
        if mark = 'e' || mark = 'E' then
          (Json.exponentOf? exponent).map fun size => .ofDecimal negative coefficient (size - shift)
        else none

/-- The number of a text: a sign, then a word or a numeral. -/
def signedNumber? (cs : List Char) : Option Double :=
  let (negative, body) :=
    match cs with
    | '-' :: rest => (true, rest)
    | '+' :: rest => (false, rest)
    | rest => (false, rest)
  (numberWord? negative body).or (numeralOf? negative body)

/-- The number of a text: without the blanks around it, or else without its underscores. -/
def numberText? (cs : List Char) : Option Double :=
  (signedNumber? (trimNumeral cs)).or ((ungrouped? cs).bind signedNumber?)

end CardBattle.Declaration

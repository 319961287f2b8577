/-
Whole numbers as texts.

* `withSign` : a number with its sign, plus included;
* `readInteger` : blanks around, a sign, decimal digits of any script with single underscores
  between them;
* `isShort` : whether a number has few enough digits to be written;
* `NumeralFault` : why a text is not read, or a number not written.

Main statements: `withSign_of_nonneg`, `withSign_of_neg`.
-/
import CardBattle.Text.Blank
import CardBattle.Text.Digit
import CardBattle.Text.Quoted

namespace CardBattle.Text

/-! ### Writing -/

/-- A number with its sign, plus included. -/
def withSign (n : Int) : String :=
  if 0 ≤ n then "+" ++ toString n else toString n

theorem withSign_of_nonneg {n : Int} (h : 0 ≤ n) : withSign n = "+" ++ toString n := by
  simp [withSign, h]

theorem withSign_of_neg {n : Int} (h : n < 0) : withSign n = toString n := by
  simp [withSign, Int.not_le.mpr h]

/-- Numbers of more digits are neither read nor written. -/
def mostNumeralDigits : Nat := 4300

/-- Whether a number has few enough digits to be written. -/
def isShort (n : Int) : Bool := n.natAbs < Nat.pow 10 mostNumeralDigits

/-! ### Faults -/

/-- Why a text is not read as a number, or a number is not written. -/
inductive NumeralFault where
  | notANumeral (text : List Char)
  | tooManyDigits (count : Nat)
  /-- A number has too many digits to be written. -/
  | unwritable
  deriving DecidableEq, Repr

/-- The quoted text in a message is cut here. -/
def mostQuotedLength : Nat := 200

/-- What is told of too many digits, with what is known about them. -/
def digitLimit (known : String) : String :=
  s!"Exceeds the limit ({mostNumeralDigits} digits) for integer string conversion{known}; "
    ++ "use sys.set_int_max_str_digits() to increase the limit"

/-- The wording of a fault. -/
def NumeralFault.message : NumeralFault → String
  | .notANumeral text =>
      "invalid literal for int() with base 10: "
        ++ String.ofList ((quoted (String.ofList text)).toList.take mostQuotedLength)
  | .tooManyDigits count => digitLimit s!": value has {count} digits"
  | .unwritable => digitLimit ""

/-! ### Reading -/

/-- A blank around a numeral: any blank but the information separators. -/
def isNumeralMargin (c : Char) : Bool := isBlank c && !(0x1c ≤ c.toNat && c.toNat ≤ 0x1f)

/-- A numeral without the blanks around it. -/
def trimNumeral (cs : List Char) : List Char :=
  ((cs.dropWhile isNumeralMargin).reverse.dropWhile isNumeralMargin).reverse

/-- The digits that open a text, read past single underscores between them, and the rest; nothing
if an underscore does not stand between two digits. `gap` says that an underscore was just read. -/
def leadingDigits? : Bool → List Char → Option (List Nat × List Char)
  | gap, [] => if gap then none else some ([], [])
  | gap, c :: rest =>
      match digitValue? c with
      | some d => (leadingDigits? false rest).map fun (ds, tail) => (d :: ds, tail)
      | none =>
          if c = '_' then (if gap then none else leadingDigits? true rest)
          else if gap then none else some ([], c :: rest)

/-- The number that decimal digits stand for. -/
def ofDigits (digits : List Nat) : Nat := digits.foldl (fun n d => 10 * n + d) 0

/-- A numeral without sign; `whole` is the text that a message quotes. -/
def readNatural (whole cs : List Char) : Except NumeralFault Nat :=
  match cs with
  | '_' :: _ => .error (.notANumeral whole)
  | _ =>
      match leadingDigits? false cs with
      | none => .error (.notANumeral whole)
      | some (digits, rest) =>
          if mostNumeralDigits < digits.length then .error (.tooManyDigits digits.length)
          else if digits.isEmpty || !rest.isEmpty then .error (.notANumeral whole)
          else .ok (ofDigits digits)

/-- A numeral with an optional sign and blanks around it. -/
def readInteger (cs : List Char) : Except NumeralFault Int :=
  match trimNumeral cs with
  | '-' :: rest => (readNatural cs rest).map fun n => -(n : Int)
  | '+' :: rest => (readNatural cs rest).map fun n => (n : Int)
  | rest => (readNatural cs rest).map fun n => (n : Int)

theorem ofDigits_nil : ofDigits [] = 0 := rfl

end CardBattle.Text

/-
Plain values in files, and what may stand in for them.

* `readInteger` : integers, whole numbers of 64 bits, truth values and numerals;
* `readNumber` : numbers, truth values and numerals;
* `readTruth` : truth values, zero and one, and words for yes and no;
* `readText`, `readWord` : texts, and words of a list;
* `readList` : lists, every item checked.

Bounds are checked after the kind of a value.
-/
import CardBattle.Declaration.Numeral
import CardBattle.Double.Abridged
import CardBattle.Element
import CardBattle.Text.Case

namespace CardBattle.Declaration

open Json (Value)

/-- A check of a value. -/
abbrev Read (α : Type) := Value → Checked α

/-! ### Integers -/

/-- The first integer that is too large for a signed word of 64 bits. -/
def wordBound : Int := 9223372036854775808

/-- The integer that a number is. Both bounds of a word are too large already. -/
def readIntegerNumber (x : Double) : Checked Int :=
  if !x.isFinite then .fail .notFinite
  else
    match x.toInt? with
    | none => .fail .fractionalInteger
    | some n => if -wordBound < n ∧ n < wordBound then .ok n else .fail .oversizedInteger

/-- An integer. -/
def readInteger : Read Int
  | .integer n => .ok n
  | .number x => readIntegerNumber x
  | .truth b => .ok (if b then 1 else 0)
  | .text s => readIntegerText s.toList
  | _ => .fail .notAnInteger

/-- An integer above zero. -/
def readPositive : Read Int := fun v =>
  (readInteger v).andThen fun n => if 0 < n then .ok n else .fail (.notAbove 0)

/-- An integer not below zero. -/
def readNonNegative : Read Int := fun v =>
  (readInteger v).andThen fun n => if 0 ≤ n then .ok n else .fail (.below 0)

/-! ### Numbers -/

/-- A number. -/
def readNumber : Read Double
  | .integer n => .ok (.ofAbridged n)
  | .number x => .ok x
  | .truth b => .ok (.ofAbridged (if b then 1 else 0))
  | .text s =>
      match numberText? s.toList with
      | some x => .ok x
      | none => .fail .unreadNumber
  | _ => .fail .notANumber

/-- A number between zero and one; the upper bound is looked at first. -/
def readFraction : Read Double := fun v =>
  (readNumber v).andThen fun x =>
    if !x.le (.finite false Double.one) then .fail (.above 1)
    else if !Double.zero.le x then .fail (.below 0)
    else .ok x

/-! ### Truth values, texts and lists -/

/-- The truth value that zero or one stands for; `others` says what is wrong with the rest. -/
def truthOfInteger (others : Cause) (n : Int) : Checked Bool :=
  if n = 0 then .ok false else if n = 1 then .ok true else .fail others

/-- The words that mean yes. -/
def yesWords : List String := ["1", "on", "t", "true", "y", "yes"]

/-- The words that mean no. -/
def noWords : List String := ["0", "off", "f", "false", "n", "no"]

/-- A truth value. Integers that do not fit a word are nothing like one. -/
def readTruth : Read Bool
  | .truth b => .ok b
  | .integer n =>
      truthOfInteger (if -wordBound ≤ n ∧ n < wordBound then .unreadTruth else .notATruth) n
  | .number x =>
      match readIntegerNumber x with
      | .ok n => truthOfInteger .unreadTruth n
      | .refused _ => .fail .notATruth
  | .text s =>
      let word := String.ofList (Text.lower s.toList)
      if word ∈ yesWords then .ok true
      else if word ∈ noWords then .ok false
      else .fail .unreadTruth
  | _ => .fail .notATruth

/-- A text. -/
def readText : Read String
  | .text s => .ok s
  | _ => .fail .notAText

/-- Names have at most this many characters. -/
def longestName : Nat := 50

/-- A name: a text that is neither empty nor too long. -/
def readName : Read String := fun v =>
  (readText v).andThen fun s =>
    if s.isEmpty then .fail .emptyText
    else if longestName < s.length then .fail (.longText longestName)
    else .ok s

/-- A word of a table, with what it means. -/
def readWord {α : Type} (table : List (String × α)) : Read α := fun v =>
  match v with
  | .text s =>
      match table.lookup s with
      | some meaning => .ok meaning
      | none => .fail (.notOneOf (table.map (·.1)))
  | _ => .fail (.notOneOf (table.map (·.1)))

/-- An element. -/
def readElement : Read Element := readWord (Element.all.map fun e => (e.word, e))

/-- `null`, or a value. -/
def readOptional {α : Type} (read : Read α) : Read (Option α)
  | .null => .ok none
  | v => some <$> read v

/-- The items of a list from an index on. -/
def readItems {α : Type} (read : Read α) : Nat → List Value → Checked (List α)
  | _, [] => .ok []
  | index, v :: rest =>
      List.cons <$> (read v).under (.item index) <*> readItems read (index + 1) rest

/-- A list. -/
def readList {α : Type} (read : Read α) : Read (List α)
  | .array items => readItems read 0 items
  | _ => .fail .notAList

/-- A list that holds something. -/
def readFullList {α : Type} (read : Read α) : Read (List α) := fun v =>
  (readList read v).andThen fun items => if items.isEmpty then .fail .emptyList else .ok items

/-! ### Objects -/

/-- The field of a name, which must be there. -/
def required {α : Type} (fields : Json.Fields) (name : String) (read : Read α) : Checked α :=
  (match fields.get? name with
    | some v => read v
    | none => .fail .missing).under (.field name)

/-- The field of a name, or a default. -/
def optional {α : Type} (fields : Json.Fields) (name : String) (read : Read α) (default : α) :
    Checked α :=
  (match fields.get? name with
    | some v => read v
    | none => .ok default).under (.field name)

/-- The issues of fields that have no place in an object, in the order of the text. -/
def closed (fields : Json.Fields) (known : List String) : Checked Unit :=
  match fields.names.filter (· ∉ known) with
  | [] => .ok ()
  | others => .refused (others.map fun name => ⟨[.field name], .unexpected⟩)

/-- An object. -/
def readObject {α : Type} (read : Json.Fields → Checked α) : Read α
  | .object fields => read fields
  | _ => .fail .notAnObject

/-- An object whose kind tells what else it holds. -/
def readTagged {α : Type} (table : List (String × (Json.Fields → Checked α))) : Read α
  | .object fields =>
      match Json.Fields.get? fields "kind" with
      | none => .fail .noKind
      | some kind =>
          let unknown : Cause := .unknownKind kind.display (table.map (·.1))
          match kind with
          | .text s =>
              match table.lookup s with
              | some read => (read fields).under (.field s)
              | none => .fail unknown
          | _ => .fail unknown
  | _ => .fail .notATaggedObject

end CardBattle.Declaration

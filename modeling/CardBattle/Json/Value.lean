/-
JSON values.

* `Json.Value` : integers of any size and binary64 numbers are told apart; an object keeps its
  fields in the order of the text, repeated names included;
* `Json.Fields.get?` : the last field of a name;
* `Json.Value.display` : a value in a message.
-/
import CardBattle.Double.Layout
import CardBattle.Text.Quoted

namespace CardBattle.Json

/-- A JSON value. -/
inductive Value where
  | null
  | truth (b : Bool)
  | integer (n : Int)
  | number (x : Double)
  | text (s : String)
  | array (items : List Value)
  | object (fields : List (String × Value))

/-- The fields of an object, in the order of the text. -/
abbrev Fields := List (String × Value)

namespace Fields

/-- The last field of a name. -/
def get? (fields : Fields) (name : String) : Option Value :=
  (fields.reverse.find? (·.1 = name)).map (·.2)

/-- The names of the fields, each where it first stands. -/
def names (fields : Fields) : List String := (fields.map (·.1)).eraseDups

end Fields

namespace Value

mutual

/-- A value inside a message: texts are quoted, and repeated names of an object count once. -/
def nested : Value → String
  | .null => "None"
  | .truth b => if b then "True" else "False"
  | .integer n => toString n
  | .number x => x.text
  | .text s => CardBattle.Text.quoted s
  | .array items => "[" ++ ", ".intercalate (nestedItems items) ++ "]"
  | .object fields =>
      let shown := nestedFields fields
      let names := (shown.map (·.1)).eraseDups
      "\x7b" ++ ", ".intercalate (names.map fun name =>
        CardBattle.Text.quoted name ++ ": "
          ++ ((shown.reverse.find? (·.1 = name)).map (·.2)).getD "") ++ "\x7d"

/-- Values inside a message, in order. -/
def nestedItems : List Value → List String
  | [] => []
  | item :: rest => nested item :: nestedItems rest

/-- Fields inside a message, in order. -/
def nestedFields : List (String × Value) → List (String × String)
  | [] => []
  | (name, value) :: rest => (name, nested value) :: nestedFields rest

end

/-- A value in a message; a text stands for itself. -/
def display : Value → String
  | .text s => s
  | v => v.nested

end Value

end CardBattle.Json

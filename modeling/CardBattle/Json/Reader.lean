/-
JSON texts read as values.

* `Json.read?` : the value of a text, or nothing if the text is no JSON;
* `Json.Machine` : the open arrays and objects, and what may come next.

Arrays and objects that hold something may stand inside one another `deepest` times.
-/
import CardBattle.Json.Token

namespace CardBattle.Json

/-- An open array or object; items and fields are held in reverse. -/
inductive Frame where
  | array (items : List Value)
  | object (fields : List (String × Value)) (name : String)

/-- What may come next. -/
inductive Expected where
  | value
  | valueOrClose
  | nameOrClose (fields : List (String × Value))
  | name (fields : List (String × Value))
  | colon (fields : List (String × Value)) (name : String)
  | commaOrClose
  | nothing (value : Value)

/-- The open arrays and objects, the innermost first, and what may come next. -/
structure Machine where
  frames : List Frame
  expected : Expected

/-- How many arrays and objects that hold something may stand inside one another. -/
def deepest : Nat := 200

namespace Machine

/-- The machine after a whole value. -/
def complete (frames : List Frame) (value : Value) : Machine :=
  match frames with
  | [] => ⟨[], .nothing value⟩
  | .array items :: rest => ⟨.array (value :: items) :: rest, .commaOrClose⟩
  | .object fields name :: rest => ⟨.object ((name, value) :: fields) name :: rest, .commaOrClose⟩

/-- The machine after a token that begins a value. -/
def beginValue? (frames : List Frame) : Token → Option Machine
  | .scalar value => some (complete frames value)
  | .openArray => some ⟨.array [] :: frames, .valueOrClose⟩
  | .openObject => some ⟨frames, .nameOrClose []⟩
  | _ => none

/-- The machine after a token. -/
def step? (m : Machine) (token : Token) : Option Machine :=
  match m.expected, token, m.frames with
  | .valueOrClose, .closeArray, .array items :: rest =>
      some (complete rest (.array items.reverse))
  | .valueOrClose, token, frames =>
      if deepest < frames.length then none else beginValue? frames token
  | .value, token, frames => beginValue? frames token
  | .nameOrClose fields, .closeObject, frames => some (complete frames (.object fields.reverse))
  | .nameOrClose fields, .scalar (.text name), frames =>
      if deepest ≤ frames.length then none else some ⟨frames, .colon fields name⟩
  | .name fields, .scalar (.text name), frames => some ⟨frames, .colon fields name⟩
  | .colon fields name, .colon, frames => some ⟨.object fields name :: frames, .value⟩
  | .commaOrClose, .comma, .array items :: rest => some ⟨.array items :: rest, .value⟩
  | .commaOrClose, .closeArray, .array items :: rest =>
      some (complete rest (.array items.reverse))
  | .commaOrClose, .comma, .object fields _ :: rest => some ⟨rest, .name fields⟩
  | .commaOrClose, .closeObject, .object fields _ :: rest =>
      some (complete rest (.object fields.reverse))
  | _, _, _ => none

/-- The value that a machine has read, if it has read just one. -/
def result? (m : Machine) : Option Value :=
  match m.expected with
  | .nothing value => some value
  | _ => none

end Machine

/-- The value of a text. -/
def read? (text : String) : Option Value := do
  let tokens ← tokens? text.toList
  (← tokens.foldlM Machine.step? ⟨[], .value⟩).result?

example : (read? "[1, [true, null]]").map Value.nested = some "[1, [True, None]]" := by
  decide +kernel

example : (read? "[1,]").isNone = true := by decide +kernel

end CardBattle.Json

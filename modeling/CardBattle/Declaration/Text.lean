/-
Declarations read from texts.

* `ofText` : the value of a JSON text, checked; a text that is no JSON has that one issue.
-/
import CardBattle.Declaration.Enemy
import CardBattle.Json.Reader

namespace CardBattle.Declaration

/-- The checked value of a text. -/
def ofText {α : Type} (read : Read α) (text : String) : Except (List Issue) α :=
  match Json.read? text with
  | some value => (read value).toExcept
  | none => .error [⟨[], .notJson⟩]

theorem ofText_of_not_json {α : Type} (read : Read α) {text : String}
    (h : Json.read? text = none) : ofText read text = .error [⟨[], .notJson⟩] := by
  simp [ofText, h]

end CardBattle.Declaration

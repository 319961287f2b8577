/-
What is wrong with a file.

* `Issue` : a cause, and the path to the value it concerns;
* `Cause.code` and `Cause.message` : the name and the wording of a cause;
* `Checked` : a value, or all the issues found on the way to it. `Checked` values are combined with
  the applicative operators, which gather the issues of both sides in order.

Main statements: `seq_eq_ok_iff` and `under_eq_ok_iff`, when a combined check finds no issue.
-/
import CardBattle.Json.Value

namespace CardBattle.Declaration

/-! ### Causes -/

/-- A step on the way to a value: into a field, or to an item. -/
inductive Step where
  | field (name : String)
  | item (index : Nat)
  deriving DecidableEq, Repr

/-- Why a value is refused. -/
inductive Cause where
  | missing
  | unexpected
  /-- An object is needed. -/
  | notAnObject
  /-- An object is needed, whose kind would tell what else is needed. -/
  | notATaggedObject
  | noKind
  | unknownKind (kind : String) (known : List String)
  | notOneOf (words : List String)
  | notAList
  | emptyList
  | notAText
  | emptyText
  | longText (most : Nat)
  | notAnInteger
  | unreadInteger
  | oversizedInteger
  | fractionalInteger
  | notFinite
  | notANumber
  | unreadNumber
  | notATruth
  | unreadTruth
  | notAbove (bound : Int)
  | below (bound : Int)
  | above (bound : Int)
  /-- The parts fit, but not together. -/
  | contradiction (rule : String)
  /-- The text is no JSON. -/
  | notJson
  deriving DecidableEq, Repr

namespace Cause

/-- The name of a cause. -/
def code : Cause → String
  | .missing => "missing"
  | .unexpected => "extra_forbidden"
  | .notAnObject => "model_type"
  | .notATaggedObject => "dict_type"
  | .noKind => "union_tag_not_found"
  | .unknownKind .. => "union_tag_invalid"
  | .notOneOf _ => "literal_error"
  | .notAList => "list_type"
  | .emptyList => "too_short"
  | .notAText => "string_type"
  | .emptyText => "string_too_short"
  | .longText _ => "string_too_long"
  | .notAnInteger => "int_type"
  | .unreadInteger => "int_parsing"
  | .oversizedInteger => "int_parsing_size"
  | .fractionalInteger => "int_from_float"
  | .notFinite => "finite_number"
  | .notANumber => "float_type"
  | .unreadNumber => "float_parsing"
  | .notATruth => "bool_type"
  | .unreadTruth => "bool_parsing"
  | .notAbove _ => "greater_than"
  | .below _ => "greater_than_equal"
  | .above _ => "less_than_equal"
  | .contradiction _ => "value_error"
  | .notJson => "json_invalid"

/-- Quoted words, the last two joined by "or". -/
def alternatives : List String → String
  | [] => ""
  | [word] => s!"'{word}'"
  | [first, second] => s!"'{first}' or '{second}'"
  | word :: rest => s!"'{word}', " ++ alternatives rest

/-- The wording of a cause; a text that is no JSON is not described further. -/
def message? : Cause → Option String
  | .missing => some "Field required"
  | .unexpected => some "Extra inputs are not permitted"
  | .notAnObject => some "Input should be an object"
  | .notATaggedObject => some "Input should be an object"
  | .noKind => some "Unable to extract tag using discriminator 'kind'"
  | .unknownKind kind known =>
      some (s!"Input tag '{kind}' found using 'kind' does not match any of the expected tags: "
        ++ ", ".intercalate (known.map fun word => s!"'{word}'"))
  | .notOneOf words => some ("Input should be " ++ alternatives words)
  | .notAList => some "Input should be a valid array"
  | .emptyList => some "List should have at least 1 item after validation, not 0"
  | .notAText => some "Input should be a valid string"
  | .emptyText => some "String should have at least 1 character"
  | .longText most => some s!"String should have at most {most} characters"
  | .notAnInteger => some "Input should be a valid integer"
  | .unreadInteger => some "Input should be a valid integer, unable to parse string as an integer"
  | .oversizedInteger =>
      some "Unable to parse input string as an integer, exceeded maximum size"
  | .fractionalInteger =>
      some "Input should be a valid integer, got a number with a fractional part"
  | .notFinite => some "Input should be a finite number"
  | .notANumber => some "Input should be a valid number"
  | .unreadNumber => some "Input should be a valid number, unable to parse string as a number"
  | .notATruth => some "Input should be a valid boolean"
  | .unreadTruth => some "Input should be a valid boolean, unable to interpret input"
  | .notAbove bound => some s!"Input should be greater than {bound}"
  | .below bound => some s!"Input should be greater than or equal to {bound}"
  | .above bound => some s!"Input should be less than or equal to {bound}"
  | .contradiction rule => some s!"Value error, {rule}"
  | .notJson => none

end Cause

/-! ### Issues -/

/-- A cause, and the path to the value it concerns. -/
structure Issue where
  path : List Step
  cause : Cause
  deriving DecidableEq, Repr

/-- The issue one step further out. -/
def Issue.under (step : Step) (issue : Issue) : Issue := { issue with path := step :: issue.path }

/-- A value, or the issues found on the way to it. -/
inductive Checked (α : Type) where
  | ok (value : α)
  | refused (issues : List Issue)

namespace Checked

variable {α β : Type}

/-- The issues of a check. -/
def issues : Checked α → List Issue
  | .ok _ => []
  | .refused issues => issues

/-- A check that fails for one cause. -/
def fail (cause : Cause) : Checked α := .refused [⟨[], cause⟩]

/-- A checked function at a checked argument, with the issues of both. -/
def seq : Checked (α → β) → Checked α → Checked β
  | .ok f, .ok a => .ok (f a)
  | .ok _, .refused issues => .refused issues
  | .refused issues, .ok _ => .refused issues
  | .refused first, .refused second => .refused (first ++ second)

/-- A function of a checked value. -/
def map (f : α → β) : Checked α → Checked β
  | .ok a => .ok (f a)
  | .refused issues => .refused issues

instance : Applicative Checked where
  pure := .ok
  map := map
  seq f a := seq f (a ())

/-- A second check on the value of the first. -/
def andThen (c : Checked α) (next : α → Checked β) : Checked β :=
  match c with
  | .ok a => next a
  | .refused issues => .refused issues

/-- The check of a value that stands one step further in. -/
def under (step : Step) : Checked α → Checked α
  | .ok a => .ok a
  | .refused issues => .refused (issues.map (·.under step))

/-- The value of a check that found no issue. -/
def toExcept : Checked α → Except (List Issue) α
  | .ok a => .ok a
  | .refused issues => .error issues

theorem seq_eq_ok_iff {f : Checked (α → β)} {a : Checked α} {b : β} :
    seq f a = .ok b ↔ ∃ g x, f = .ok g ∧ a = .ok x ∧ b = g x := by
  cases f <;> cases a <;> simp [seq, eq_comm]

theorem under_eq_ok_iff {step : Step} {c : Checked α} {a : α} :
    c.under step = .ok a ↔ c = .ok a := by
  cases c <;> simp [under]

end Checked

end CardBattle.Declaration

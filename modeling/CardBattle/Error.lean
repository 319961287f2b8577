/-
Errors of declarations.

Nothing that happens in a battle is such an error: they arise when effects, cards, hands and
catalogs are built.

* `BattleError` : what was declared wrongly, with the offending values;
* `Misuse` : a payload aimed at a side that cannot receive it;
* `BattleError.text` : the message, and the details where there are any;
* `ErrorKind.lineage` : the kinds that an error belongs to, the narrowest first.
-/
import CardBattle.Double.Layout
import CardBattle.Element
import CardBattle.Text.Quoted

namespace CardBattle

open Text (quoted)

/-! ### Details -/

/-- A value that a message shows. -/
inductive Detail where
  | integer (n : Int)
  | number (x : Double)
  | truth (b : Bool)
  | text (s : String)
  | nothing
  deriving DecidableEq, Repr

/-- The written form of a detail. -/
def Detail.render : Detail → String
  | .integer n => toString n
  | .number x => x.text
  | .truth b => if b then "True" else "False"
  | .text s => quoted s
  | .nothing => "None"

/-- Named details, in order. -/
abbrev Details := List (String × Detail)

namespace Details

/-- A detail under a name: a new name comes last, a known one keeps its place. -/
def put : Details → String → Detail → Details
  | [], name, value => [(name, value)]
  | (known, old) :: rest, name, value =>
      if known = name then (known, value) :: rest else (known, old) :: put rest name value

/-- Details from pairs, a later value of a name replacing an earlier one. -/
def ofPairs (pairs : List (String × Detail)) : Details :=
  pairs.foldl (fun details (name, value) => details.put name value) []

/-- A text that is given and not empty, under a name. -/
def given (name : String) (value : Option String) : Details :=
  match value with
  | some s => if s.isEmpty then [] else [(name, .text s)]
  | none => []

/-- Details between braces. -/
def render (details : Details) : String :=
  "\x7b" ++ ", ".intercalate (details.map fun (name, value) =>
    quoted name ++ ": " ++ value.render) ++ "\x7d"

end Details

/-! ### Misuses -/

/-- A payload, or a discard, aimed at a side that cannot receive it. -/
inductive Misuse where
  | discard
  | power
  | skipTurn
  deriving DecidableEq, Repr

namespace Misuse

/-- The rule that is broken. -/
def rule : Misuse → String
  | .discard => "discard can only target the player"
  | .power => "power adjustments can only target the player"
  | .skipTurn => "skip turn can only target the enemy"

/-- The name of what cannot be received. -/
def received : Misuse → String
  | .discard => "Discard"
  | .power => "PowerAdjust"
  | .skipTurn => "SkipTurn"

/-- The side that cannot receive it. -/
def side : Misuse → Side
  | .discard => .enemy
  | .power => .enemy
  | .skipTurn => .player

end Misuse

/-! ### Errors -/

/-- The kinds of errors. -/
inductive ErrorKind where
  | general
  | effectDefinition
  | invalidPercent
  | effectTarget
  | cardDefinition
  | duplicateCard
  | catalog
  | unknownEnemy
  deriving DecidableEq, Repr

namespace ErrorKind

/-- The next wider kind. -/
def wider? : ErrorKind → Option ErrorKind
  | .general => none
  | .effectDefinition => some .general
  | .invalidPercent => some .effectDefinition
  | .effectTarget => some .effectDefinition
  | .cardDefinition => some .general
  | .duplicateCard => some .cardDefinition
  | .catalog => some .general
  | .unknownEnemy => some .catalog

/-- A kind and all wider ones, the narrowest first. -/
def lineage (kind : ErrorKind) : List ErrorKind :=
  match kind.wider? with
  | none => [kind]
  | some wide =>
      match wide.wider? with
      | none => [kind, wide]
      | some widest => [kind, wide, widest]

theorem getLast?_lineage (kind : ErrorKind) : kind.lineage.getLast? = some .general := by
  cases kind <;> rfl

end ErrorKind

/-- What was declared wrongly. A message that is given replaces the kind's own. -/
inductive BattleError where
  | general (message : String) (details : Details)
  | effectDefinition (message effect : Option String)
  | invalidPercent (fraction : Double) (message : Option String)
  | effectTarget (message effect target : Option String)
  | cardDefinition (message cardId : Option String)
  | duplicateCard (cardId : String) (message : Option String)
  | catalog (message source : Option String)
  | unknownEnemy (name : String) (message : Option String)
  deriving DecidableEq, Repr

namespace BattleError

/-- The kind of an error. -/
def kind : BattleError → ErrorKind
  | .general .. => .general
  | .effectDefinition .. => .effectDefinition
  | .invalidPercent .. => .invalidPercent
  | .effectTarget .. => .effectTarget
  | .cardDefinition .. => .cardDefinition
  | .duplicateCard .. => .duplicateCard
  | .catalog .. => .catalog
  | .unknownEnemy .. => .unknownEnemy

/-- The message of an error. -/
def message : BattleError → String
  | .general message _ => message
  | .effectDefinition message _ => message.getD "Invalid effect definition"
  | .invalidPercent fraction message =>
      message.getD s!"Percent damage fraction must lie in [0, 1], got {fraction.text}"
  | .effectTarget message _ _ => message.getD "Effect payload is incompatible with its target"
  | .cardDefinition message _ => message.getD "Invalid card definition"
  | .duplicateCard cardId message => message.getD s!"Duplicate card id in hand: {cardId}"
  | .catalog message _ => message.getD "Catalog error"
  | .unknownEnemy name message => message.getD s!"Unknown enemy: {name}"

/-- The offending values of an error. -/
def details : BattleError → Details
  | .general _ details => details
  | .effectDefinition _ effect => Details.given "effect" effect
  | .invalidPercent fraction _ =>
      Details.given "effect" (some "PercentDamage") ++ [("fraction", .number fraction)]
  | .effectTarget _ effect target => Details.given "effect" effect ++ Details.given "target" target
  | .cardDefinition _ cardId => Details.given "card_id" cardId
  | .duplicateCard cardId _ => Details.given "card_id" (some cardId)
  | .catalog _ source => Details.given "source" source
  | .unknownEnemy name _ => [("name", .text name)]

/-- The whole text of an error. -/
def text (e : BattleError) : String :=
  if e.details.isEmpty then e.message else s!"{e.message} | Details: {e.details.render}"

/-- The error of an effect whose payload cannot be received where it is aimed. -/
def misdirected (name : String) (misuse : Misuse) : BattleError :=
  .effectTarget (some s!"{name}: {misuse.rule}") (some misuse.received) (some misuse.side.label)

/-- The error of a card whose cost is negative. -/
def negativeCost (name : String) (cost : Int) (cardId : String) : BattleError :=
  .cardDefinition (some s!"{name}: power cost must be >= 0, got {cost}") (some cardId)

end BattleError

end CardBattle

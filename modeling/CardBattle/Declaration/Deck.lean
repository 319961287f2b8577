/-
Cards and decks in files.

* `CardDeclaration` and `DeckDeclaration` : a card and a deck as they are written;
* `CardDeclaration.toCard` : the card, with a fresh id where none is given;
* `DeckDeclaration.toPlayer` : the player that holds the deck. The effects of the cards are looked
  at first, card by card, and repeated ids after them.
-/
import CardBattle.Card.Supply
import CardBattle.Declaration.Effect
import CardBattle.Player

namespace CardBattle.Declaration

open Json (Fields)

/-- Values from declarations, the first one that fails ending it. -/
def effectsOf (ds : List EffectDeclaration) : Except BattleError (List Effect) :=
  ds.mapM EffectDeclaration.toEffect

/-! ### Cards -/

/-- A card as it is written. -/
structure CardDeclaration where
  name : String
  element : Element
  cost : Int
  text : String
  canPlay : Bool
  id? : Option String
  gameStart : List EffectDeclaration
  turnStart : List EffectDeclaration
  onPlay : List EffectDeclaration
  deriving DecidableEq, Repr

namespace CardDeclaration

/-- A list of effects under a name, empty where it is left out. -/
def effectList (fields : Fields) (name : String) : Checked (List EffectDeclaration) :=
  optional fields name (readList EffectDeclaration.read) []

/-- The fields of a card. -/
def ofFields (fields : Fields) : Checked CardDeclaration :=
  CardDeclaration.mk
    <$> required fields "name" readName
    <*> required fields "element" readElement
    <*> optional fields "power_cost" readNonNegative 1
    <*> optional fields "description" readText ""
    <*> optional fields "can_play" readTruth true
    <*> optional fields "id" (readOptional readText) none
    <*> effectList fields "game_start"
    <*> effectList fields "start_turn"
    <*> effectList fields "play"
    <* closed fields ["name", "element", "power_cost", "description", "can_play", "id",
        "game_start", "start_turn", "play"]

/-- A card as it is written. -/
def read : Read CardDeclaration := readObject ofFields

/-- The id that is given, if it is not empty. -/
def explicitId? (d : CardDeclaration) : Option String := d.id?.filter (!·.isEmpty)

/-- The id of a card: the given one, or a fresh one. -/
def takeId (d : CardDeclaration) (supply : Supply) : String × Supply :=
  match d.explicitId? with
  | some id => (id, supply)
  | none => supply.take

/-- The card that is declared, under an id. -/
def toCard (d : CardDeclaration) (id : String) : Except BattleError Card := do
  let gameStart ← effectsOf d.gameStart
  let turnStart ← effectsOf d.turnStart
  let onPlay ← effectsOf d.onPlay
  Card.declare
    { id, name := d.name, element := d.element, cost := d.cost, text := d.text
      canPlay := d.canPlay, gameStart, turnStart, onPlay }

/-- The cards that are declared, in order. -/
def toCards : List CardDeclaration → Supply → Except BattleError (List Card × Supply)
  | [], supply => .ok ([], supply)
  | d :: rest, supply => do
      let (id, supply) := d.takeId supply
      let card ← d.toCard id
      let (cards, supply) ← toCards rest supply
      return (card :: cards, supply)

end CardDeclaration

/-! ### Decks -/

/-- A deck as it is written. -/
structure DeckDeclaration where
  hitPoints? : Option Int
  cards : List CardDeclaration
  deriving DecidableEq, Repr

namespace DeckDeclaration

/-- The fields of a deck. -/
def ofFields (fields : Fields) : Checked DeckDeclaration :=
  DeckDeclaration.mk
    <$> optional fields "hit_points" (readOptional readPositive) none
    <*> required fields "cards" (readFullList CardDeclaration.read)
    <* closed fields ["hit_points", "cards"]

/-- A deck as it is written. -/
def read : Read DeckDeclaration := readObject ofFields

/-- The player that holds the deck, with the given hit points where the deck has none. -/
def toPlayer (d : DeckDeclaration) (defaultHitPoints : Int) (supply : Supply) :
    Except BattleError (Player × Supply) := do
  let (cards, supply) ← CardDeclaration.toCards d.cards supply
  let player ← Player.declare { hitPoints := d.hitPoints?.getD defaultHitPoints, cards }
  return (player, supply)

end DeckDeclaration

end CardBattle.Declaration

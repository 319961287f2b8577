/-
Decks and enemies loaded from files.

* `Form` : what a file declares;
* `Failure` : everything that can end a game early;
* `loadDeck`, `loadPlayer`, `loadEnemy` : a declaration from a file, the player that holds it, and
  an enemy. A declaration that is refused names the file; a path that no file can have, bytes that
  are no text, and values that are no integers, are reported as they are.
-/
import CardBattle.Declaration.Text
import CardBattle.Files
import CardBattle.Text.Utf8

namespace CardBattle

open Declaration

/-- What a file declares. -/
inductive Form where
  | condition
  | effect
  | card
  | deck
  | enemy
  | adjustment
  | defense
  deriving DecidableEq, Repr

/-- The word for a form. -/
def Form.word : Form → String
  | .condition => "condition"
  | .effect => "effect"
  | .card => "card"
  | .deck => "deck"
  | .enemy => "enemy"
  | .adjustment => "adjustment"
  | .defense => "defense"

/-- Everything that can end a game early. -/
inductive Failure where
  | battle (error : BattleError)
  | refused (form : Form) (issues : List Issue)
  | file (failure : FileFailure)
  | encoding (fault : Text.Utf8.Fault)
  | arithmetic (fault : Double.Fault)
  | numeral (fault : Text.NumeralFault)
  deriving DecidableEq, Repr

namespace Failure

/-- A step of a path in words. -/
def stepText : Step → String
  | .field name => name
  | .item index => toString index

/-- An issue in one line. -/
def issueText (issue : Issue) : String :=
  ".".intercalate (issue.path.map stepText) ++ ": " ++ (issue.cause.message?.getD "Invalid JSON")

/-- A failure in words. -/
def message : Failure → String
  | .battle error => error.text
  | .refused form issues =>
      "\n".intercalate (s!"{issues.length} validation errors for {form.word}"
        :: issues.map issueText)
  | .file failure => failure.message
  | .encoding fault => fault.message
  | .arithmetic fault => fault.message
  | .numeral fault => fault.message

/-- Whether the game's own rules foresee a failure: a declaration that is refused. -/
def isForeseen : Failure → Bool
  | .battle _ => true
  | .refused .. => true
  | _ => false

end Failure

/-- The text of a file. -/
def readText (files : FileTree) (path : String) : Except Failure String :=
  match files.read path with
  | .error .zeroByte => .error (.file ⟨.zeroByte, path⟩)
  | .error fault =>
      .error (.battle (.catalog
        (some s!"Cannot read {path}: {fault.message (FileTree.normal path)}") (some path)))
  | .ok bytes =>
      match Text.Utf8.decode bytes with
      | .ok cs => .ok (String.ofList cs)
      | .error fault => .error (.encoding fault)

/-- A declaration from a file. -/
def loadForm {α : Type} (form : Form) (read : Read α) (files : FileTree) (path : String) :
    Except Failure α := do
  (ofText read (← readText files path)).mapError (.refused form)

/-- A deck from a file. -/
def loadDeck (files : FileTree) (path : String) : Except Failure DeckDeclaration :=
  loadForm .deck DeckDeclaration.read files path

/-- The error of a file that declares something wrongly. -/
def invalidFile (form : Form) (path : String) (error : BattleError) : Failure :=
  .battle (.catalog (some s!"Invalid {form.word} {path}: {error.text}") (some path))

/-- The player that holds the deck of a file. -/
def loadPlayer (files : FileTree) (path : String) (defaultHitPoints : Int) (supply : Supply) :
    Except Failure (Player × Supply) := do
  let deck ← loadDeck files path
  (deck.toPlayer defaultHitPoints supply).mapError (invalidFile .deck path)

/-- The enemy of a file. -/
def loadEnemy (files : FileTree) (path : String) : Except Failure Enemy := do
  let declared ← loadForm .enemy EnemyDeclaration.read files path
  declared.toEnemy.mapError fun
    | .declaration error => invalidFile .enemy path error
    | .arithmetic fault => .arithmetic fault

end CardBattle

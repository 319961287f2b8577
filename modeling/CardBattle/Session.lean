/-
A session at the terminal: an enemy is chosen unless it is known, then the two sides take turns.

* `Ending` : how a session ends;
* `Stage` : what a session waits for;
* `Setup.enter` : everything up to the first question;
* `Setup.reply` : everything from an answer up to the next question;
* `Setup.session` : a whole session under a list of answers, after which the input has ended;
* `Setup.stages` : the stages that a session passes through.

A number that is too long to be drawn ends a session, as does a turn that fails. Main
statements: `isEnded_reply_endOfInput`, a session that finds no more input ends, and
`getLast?_stages`.
-/
import CardBattle.CardNumbers
import CardBattle.Screen.Markup
import CardBattle.Screen.Standing
import CardBattle.Screen.Summary
import CardBattle.Session.Act
import CardBattle.Session.Answer
import CardBattle.Session.Setup

namespace CardBattle

open Screen

/-! ### Stages -/

/-- How a session ends. -/
inductive Ending where
  /-- The battle is decided, or the player quits it. -/
  | played (b : Battle)
  /-- The player leaves before there is a battle, or interrupts it. -/
  | left
  | failed (failure : Failure)
  deriving DecidableEq, Repr

/-- What a session waits for. -/
inductive Stage where
  /-- The number of an enemy. -/
  | menu
  /-- The numbers of cards. -/
  | turn (b : Battle)
  /-- Nothing any more. -/
  | ended (ending : Ending)
  deriving DecidableEq, Repr

/-- The line that the end of input stands for. -/
def quitWord : String := "x"

/-- The word that is shown when the player quits. -/
def quitting : Drawing := .text (Markup.render "[yellow]Quitting[/yellow]")

namespace Session

/-! ### The menu -/

/-- What comes of an answer to the menu. -/
inductive MenuReply where
  | chosen (slug : String)
  | again
  | left
  | fault (fault : Text.NumeralFault)
  deriving DecidableEq, Repr

/-- The question of the menu. -/
def menuPrompt (slugs : List String) : String := s!"Select enemy [1-{slugs.length}]: "

/-- The menu, and its question. -/
def showMenu (enemies : List (String × Enemy)) : Act Unit := do
  Scene.draw [← enemyTable (enemies.map (·.2))]
  Scene.ask (menuPrompt (enemies.map (·.1)))

/-- What comes of a line in the menu. -/
def readMenu (slugs : List String) (line : String) : MenuReply :=
  if isQuit line then .left
  else
    match readPlace slugs.length (Text.trim line.toList) with
    | .error fault => .fault fault
    | .ok none => .again
    | .ok (some place) =>
        match slugs[place]? with
        | some slug => .chosen slug
        | none => .again

/-- An answer to the menu. -/
def answerMenu (slugs : List String) (answer : Answer) : Scene MenuReply :=
  match answer.line? quitWord with
  | none => pure .left
  | some line =>
      match readMenu slugs line with
      | .left => do
          Scene.draw [quitting]
          pure .left
      | .again => do
          Scene.draw [.text (Markup.render "[red]Invalid selection, please try again[/red]")]
          Scene.ask (menuPrompt slugs)
          pure .again
      | reply => pure reply

/-- The menu under answers until one of them settles it, and the answers that are left. -/
def settleMenu (slugs : List String) : List Answer → Scene (MenuReply × List Answer)
  | [] => do return (← answerMenu slugs .endOfInput, [])
  | answer :: rest => do
      match ← answerMenu slugs answer with
      | .again => settleMenu slugs rest
      | reply => return (reply, rest)

/-! ### The cards of a turn -/

/-- What comes of an answer to the question for cards. -/
inductive CardsReply where
  | chosen (cards : List Card)
  | quit
  | left
  | fault (fault : Text.NumeralFault)
  deriving DecidableEq, Repr

/-- The question for cards. -/
def cardsPrompt : String := "Enter card #s to play with ',' between (or x to quit): "

/-- How a battle stands. -/
def showStanding (b : Battle) : Act Unit := do
  Scene.tell [.heading (turnHeading b)]
  Scene.draw [← sides b]
  Scene.draw [← handTable b.player.cards]

/-- A token that is no place in the hand. -/
def rejection (token : String) : Drawing := .text (Markup.quote "red" "Invalid card: " token)

/-- An answer to the question for cards of a hand. -/
def answerCards (hand : List Card) (answer : Answer) : Scene CardsReply :=
  match answer.line? quitWord with
  | none => pure .left
  | some line =>
      match readSelection line hand.length with
      | .error fault => pure (.fault fault)
      | .ok none => do
          Scene.draw [quitting]
          pure .quit
      | .ok (some selection) => do
          Scene.draw (selection.rejected.map rejection)
          pure (.chosen (selection.cards hand))

/-! ### Turns -/

/-- The note on a player that quits. -/
def quitNote (b : Battle) : Note := .info .application s!"Player quit on turn {b.turn}"

/-- What changed in a turn. -/
def showTurn (before now : Battle) (label : String) : Act Unit := do
  Scene.draw (← turnSummary before now label)

/-- The end of a decided battle, or the question for the next turn. -/
def afterTurn (b : Battle) : Act Stage :=
  if b.isOver then do
    Scene.draw [gameOver b]
    return .ended (.played b)
  else do
    showStanding b
    Scene.ask cardsPrompt
    return .turn b

/-- The enemy's turn, where some drafts of notes are watched. -/
def enemyHalf (watched : Draft → Bool) (b : Battle) : Act Stage := do
  Act.note watched b.enemyTurnNotes
  let next ← b.enemyTurn
  showTurn b next s!"{next.enemy.name}'s turn"
  afterTurn next

/-- The player's turn with the chosen cards, then, unless that decides the battle, the enemy's. -/
def playTurn (watched : Draft → Bool) (b : Battle) (cards : List Card) : Act Stage := do
  Act.note watched (b.playerTurnNotes cards)
  let played ← b.playerTurn cards
  showTurn b played "Your turn"
  if played.isOver then afterTurn played else enemyHalf watched played

/-- An answer in the course of a battle. -/
def replyTurn (watched : Draft → Bool) (b : Battle) (answer : Answer) : Act Stage := do
  match ← answerCards b.player.cards answer with
  | .left => return .ended .left
  | .fault fault => throw (.numeral fault)
  | .quit => do
      Scene.note [quitNote b]
      return .ended (.played b)
  | .chosen cards => playTurn watched b cards

/-- The stage that an act comes to; one that fails ends the session. -/
def conclude (act : Act Stage) : Scene Stage := do
  match ← act.run with
  | .ok stage => pure stage
  | .error failure => pure (.ended (.failed failure))

end Session

open Session

/-! ### Whole sessions -/

namespace Setup

/-- The start of the battle. -/
def openBattle (s : Setup) (foe : Foe) : Act Stage := do
  let b ← s.battle foe
  Act.note s.watches (s.openingNotes foe b)
  afterTurn b

/-- Everything up to the first question. -/
def enter (s : Setup) : Scene Stage := do
  Scene.tell [.clear, .drawn titlePanel]
  match s.foe? with
  | some foe => conclude (s.openBattle foe)
  | none => conclude do
      showMenu Catalog.enemies
      return .menu

/-- Everything from an answer up to the next question. -/
def reply (s : Setup) (answer : Answer) : Stage → Scene Stage
  | .ended ending => pure (.ended ending)
  | .turn b => conclude (replyTurn s.watches b answer)
  | .menu => do
      match ← answerMenu Catalog.enemySlugs answer with
      | .again => pure .menu
      | .left => pure (.ended .left)
      | .fault fault => pure (.ended (.failed (.numeral fault)))
      | .chosen slug => conclude (s.openBattle (.listed slug))

/-- The end of a stage where the input has ended. -/
def lastReply (s : Setup) (stage : Stage) : Scene Ending := do
  match ← s.reply .endOfInput stage with
  | .ended ending => pure ending
  | _ => pure .left

/-- The rest of a session under a list of answers, after which the input has ended. -/
def proceed (s : Setup) : List Answer → Stage → Scene Ending
  | _, .ended ending => pure ending
  | [], stage => s.lastReply stage
  | answer :: rest, stage => do s.proceed rest (← s.reply answer stage)

/-- A whole session. -/
def session (s : Setup) (answers : List Answer) : Scene Ending := do
  s.proceed answers (← s.enter)

/-- The stages that the rest of a session passes through, up to its end. -/
def stages (s : Setup) : List Answer → Stage → List Stage
  | _, .ended ending => [.ended ending]
  | [], stage => [stage, (s.reply .endOfInput stage).result]
  | answer :: rest, stage => stage :: s.stages rest (s.reply answer stage).result

end Setup

/-! ### The end of input -/

/-- Whether a stage waits for nothing. -/
def Stage.isEnded : Stage → Bool
  | .ended _ => true
  | _ => false

theorem isQuit_quitWord : isQuit quitWord = true := by decide +kernel

theorem isEnded_reply_endOfInput (s : Setup) (stage : Stage) :
    (s.reply .endOfInput stage).result.isEnded = true := by
  have hquit := isQuit_quitWord
  cases stage with
  | ended ending => rfl
  | turn b =>
      simp only [Setup.reply, replyTurn, answerCards, Answer.line?, readSelection, hquit]
      rfl
  | menu => simp [Setup.reply, answerMenu, Answer.line?, readMenu, hquit, Stage.isEnded]

theorem reply_endOfInput_eq (s : Setup) (stage : Stage) :
    (s.reply .endOfInput stage).result = .ended (s.lastReply stage).result := by
  have hend := isEnded_reply_endOfInput s stage
  unfold Setup.lastReply
  rw [Scene.result_bind]
  cases hstage : (s.reply .endOfInput stage).result with
  | ended ending => rfl
  | menu => rw [hstage] at hend; cases hend
  | turn b => rw [hstage] at hend; cases hend

/-- The last stage of a session holds its ending. -/
theorem getLast?_stages (s : Setup) (answers : List Answer) (stage : Stage) :
    (s.stages answers stage).getLast? = some (.ended (s.proceed answers stage).result) := by
  induction answers generalizing stage with
  | nil =>
      cases stage with
      | ended ending => rfl
      | menu => simp [Setup.stages, Setup.proceed, reply_endOfInput_eq]
      | turn b => simp [Setup.stages, Setup.proceed, reply_endOfInput_eq]
  | cons answer rest ih =>
      cases stage with
      | ended ending => rfl
      | menu =>
          rw [Setup.stages, Setup.proceed, Scene.result_bind, List.getLast?_cons, ih]
          · rfl
          all_goals simp
      | turn b =>
          rw [Setup.stages, Setup.proceed, Scene.result_bind, List.getLast?_cons, ih]
          · rfl
          all_goals simp

end CardBattle

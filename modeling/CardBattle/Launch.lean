/-
The program from its command line to its exit.

* `Launch` : a session that is set up, and its recorder;
* `launch` : what a command line asks for under an environment, or why the program stops;
* `Launch.opening`, `Ending.aftermath` : what happens before and after the session;
* `Launch.run` : a whole run under a list of answers;
* `Launch.interrupted` : a run that is interrupted while something is drawn.

Main statement: `launch_usable`, a session is set up under usable settings only.
-/
import CardBattle.Arguments
import CardBattle.Journal.Recorder
import CardBattle.Session

namespace CardBattle

open Screen

/-! ### Setting up -/

/-- A session that is set up, and its recorder. -/
structure Launch where
  setup : Setup
  recorder : Recorder
  verbose : Bool
  /-- The files once the journal is opened, before anything is written to it. -/
  files : FileTree
  deriving Repr

/-- Why there is no session. -/
inductive Refusal where
  | commandLine (stop : Stop)
  | settings (problems : List String)
  | journal (fault : RecorderFault)
  deriving DecidableEq, Repr

namespace Refusal

/-- The exit status of a refusal. -/
def status : Refusal → Nat
  | .commandLine stop => stop.status
  | .settings _ => 2
  | .journal _ => 1

/-- The lines that explain a refusal. -/
def lines : Refusal → List String
  | .commandLine _ => []
  | .settings problems => problems.map ("Config error: " ++ ·)
  | .journal fault => [fault.message]

end Refusal

/-- The settings of an environment, with the level of the command line if one is given. -/
def Arguments.settings (a : Arguments) (env : Environment) : Settings :=
  let settings := Settings.ofEnvironment env
  match given (a.logLevel?.bind Given.text?) with
  | some level => { settings with logLevel := level }
  | none => settings

/-- What arguments ask for, among files. -/
def Arguments.setup (a : Arguments) (settings : Settings) (files : FileTree) : Setup :=
  { settings
    enemySlug? := a.enemy?.bind Given.text?
    enemyFile? := a.enemyFile?.bind Given.text?
    deckFile? := a.deck?.bind Given.text?
    files }

/-- What arguments ask for under settings, or what is wrong with the settings. The file of the
journal is there, with the first note if that is written, before the session starts. -/
def Arguments.launch (a : Arguments) (settings : Settings) (files : FileTree) :
    Except Refusal Launch :=
  match settings.problems with
  | [] =>
      match (Recorder.prepare settings a.verbose).run files with
      | (.ok recorder, files) =>
          let opened := recorder.write files [Recorder.openingNote settings a.verbose]
          let setup := { a.setup settings opened with terminal? := recorder.terminal? }
          .ok { setup, recorder, verbose := a.verbose, files }
      | (.error fault, _) => .error (.journal fault)
  | problems => .error (.settings problems)

/-- What a command line asks for under an environment, or why the program stops. -/
def launch (commandLine : List String) (env : Environment) (files : FileTree) :
    Except Refusal Launch :=
  match Arguments.read commandLine with
  | .error stop => .error (.commandLine stop)
  | .ok a => a.launch (a.settings env) files

/-! ### Running -/

/-- How the program ends. -/
inductive Exit where
  | returned
  | status (n : Nat)
  deriving DecidableEq, Repr

/-- The exit status, if the program does not simply return. -/
def Exit.status? : Exit → Option Nat
  | .returned => none
  | .status n => some n

/-- What happens once a session has ended. -/
def Ending.aftermath : Ending → Scene Exit
  | .played _ => pure .returned
  | .left => pure (.status 0)
  | .failed failure => do
      let text := failure.message
      if failure.isForeseen then
        Scene.note [.error .application s!"Cannot start game: {text}"]
        Scene.draw [.text (Markup.quote "red" "Error: " text)]
      else
        Scene.note [.error .application "Unhandled exception"]
        Scene.draw
          [.text (Markup.render s!"\n[red]Unexpected error: {Markup.escape text}[/red]")]
      pure (.status 1)

namespace Launch

/-- A scene with its notes written and shown. -/
def recorded {α : Type} (l : Launch) (scene : Scene α) : Scene α :=
  { scene with events := l.recorder.recordAll scene.events }

/-- What happens before the session. -/
def opening (l : Launch) : Scene Unit :=
  l.recorded (Scene.note [Recorder.openingNote l.setup.settings l.verbose])

/-- A whole run under a list of answers. -/
def run (l : Launch) (answers : List Answer) : Scene Exit := do
  l.opening
  let ending ← l.recorded (l.setup.session answers)
  l.recorded ending.aftermath

/-! ### Interrupts -/

/-- The farewell to a player who interrupts the session. -/
def farewell : Scene Exit := do
  Scene.note [.info .application "KeyboardInterrupt - exiting"]
  Scene.draw [.plain "\nGame interrupted, bye!"]
  pure (.status 0)

/-- The number of drawings among events. -/
def drawings (events : List Event) : Nat :=
  events.countP fun
    | .drawn _ => true
    | _ => false

/-- The events before a drawing, which is counted from one; nothing if there are fewer drawings. -/
def beforeDrawing : Nat → List Event → Option (List Event)
  | _, [] => none
  | 0, _ => none
  | 1, .drawn _ :: _ => some []
  | n + 2, .drawn d :: rest => (beforeDrawing (n + 1) rest).map (.drawn d :: ·)
  | n + 1, event :: rest => (beforeDrawing (n + 1) rest).map (event :: ·)

/-- A run that is interrupted in place of a drawing, which is counted from one. The session is then
left with a farewell; nothing answers an interrupt before the session or after it. -/
def interrupted (l : Launch) (answers : List Answer) (place : Nat) : Option (Scene Exit) :=
  let course := l.recorded (l.setup.session answers)
  let start := drawings l.opening.events
  let stop := start + drawings course.events
  if start < place ∧ place ≤ stop then
    (beforeDrawing (place - start) course.events).map fun events => do
      l.opening
      Scene.tell events
      l.recorded farewell
  else if place = 0 ∨ drawings (l.run answers).events < place then some (l.run answers)
  else none

end Launch

theorem launch_usable {commandLine : List String} {env : Environment} {files : FileTree}
    {l : Launch} (h : launch commandLine env files = .ok l) : l.setup.settings.problems = [] := by
  unfold launch at h
  split at h
  · cases h
  · unfold Arguments.launch at h
    split at h
    · next hproblems =>
        split at h
        · cases h; exact hproblems
        · cases h
    · cases h

end CardBattle

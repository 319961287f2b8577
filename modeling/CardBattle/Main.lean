/-
The program: arguments, environment and files are read, then lines are read and events performed
until the session ends. All decisions are taken by `launch`, `Setup.enter` and `Setup.reply`.
-/
import CardBattle.Launch
import CardBattle.Screen.Lines

namespace CardBattle

/-- The names of the environment that override settings. -/
def settingNames : List String :=
  ["CARD_SIM_STARTING_HP", "CARD_SIM_POWER_PER_TURN", "CARD_SIM_LOG_LEVEL", "CARD_SIM_LOG_FILE",
    "CARD_SIM_DEBUG"]

/-- The environment. -/
def readEnvironment : IO Environment := do
  let read ← settingNames.mapM fun name => do
    return (← IO.getEnv name).map fun text => (name, text)
  return read.filterMap id

/-- The directories that a path leads through, and the file where it leads. -/
def entriesOn (path : String) (bytes : ByteArray) : FileTree :=
  let steps := FileTree.steps path
  let start (length : Nat) : String := FileTree.pathOf (FileTree.rootOf path) (steps.take length)
  (List.range steps.length).map (fun length => (FileTree.collapsed (start length), Entry.directory))
    ++ [(FileTree.collapsed path, .file bytes.toList)]

/-- The files under paths; a path without a readable file is left out. -/
def readFiles (paths : List String) : IO FileTree := do
  let read ← paths.mapM fun (path : String) => do
    try
      return entriesOn path (← IO.FS.readBinFile path)
    catch _ => return []
  return read.flatten

/-- The paths that a command line names. -/
def namedPaths (commandLine : List String) : List String :=
  match Arguments.read commandLine with
  | .ok a => (a.enemyFile?.toList ++ a.deck?.toList).filterMap Given.text?
  | .error _ => []

/-- A note is written at the end of a file, whose directory is made if need be. -/
def writeNote (file : String) (note : Note) : IO Unit := do
  let steps := FileTree.steps file
  let directory := FileTree.rootOf file ++ "/".intercalate steps.dropLast
  unless directory.isEmpty do IO.FS.createDirAll directory
  let handle ← IO.FS.Handle.mk file .append
  handle.putStr note.line

/-- An event takes place. -/
def perform (file : String) : Event → IO Unit
  | .clear => IO.print "\x1b[2J\x1b[H"
  | .heading title => IO.println (Screen.barred title.text)
  | .drawn drawing => drawing.lines.forM IO.println
  | .asked prompt => do
      IO.print prompt
      (← IO.getStdout).flush
  | .noted note => writeNote file note

/-- A scene takes place, with its notes written and shown. -/
def performScene {α : Type} (l : Launch) (scene : Scene α) : IO α := do
  (l.recorded scene).events.forM (perform l.recorder.file)
  return scene.result

/-- A line without the line break that ends it. -/
def typedLine (line : String) : String :=
  String.ofList (line.toList.takeWhile fun c => c ≠ '\n' && c ≠ '\r')

/-- The next answer. -/
def readAnswer : IO Answer := do
  let line ← (← IO.getStdin).getLine
  return if line.isEmpty then .endOfInput else .line (typedLine line)

/-- The rest of a session. -/
partial def playOn (l : Launch) : Stage → IO Ending
  | .ended ending => return ending
  | stage => do playOn l (← performScene l (l.setup.reply (← readAnswer) stage))

/-- A launched session. -/
def playAll (l : Launch) : IO UInt32 := do
  l.opening.events.forM (perform l.recorder.file)
  let ending ← playOn l (← performScene l l.setup.enter)
  match ← performScene l ending.aftermath with
  | .returned => return 0
  | .status n => return n.toUInt32

end CardBattle

open CardBattle in
/-- The program. -/
def main (commandLine : List String) : IO UInt32 := do
  match launch commandLine (← readEnvironment) (← readFiles (namedPaths commandLine)) with
  | .ok l => playAll l
  | .error refusal => do
      refusal.lines.forM IO.eprintln
      return refusal.status.toUInt32

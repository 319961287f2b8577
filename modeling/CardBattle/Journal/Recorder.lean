/-
Where the journal is written.

* `Note.line` : a note as it stands in the file of the journal;
* `Recorder` : the file and the threshold of the journal, and the threshold of the terminal where
  notes are shown there too;
* `Recorder.prepare` : the recorder that settings ask for, once its file is there;
* `Recorder.record` : an event with its notes written and shown;
* `Recorder.write` : files with notes written to the journal;
* `Records` : what recorders in a row leave in their files.

Main statement: `note_of_none`, without a recorder notes are lost.
-/
import CardBattle.Files
import CardBattle.Journal.Threshold
import CardBattle.Session.Scene
import CardBattle.Settings
import CardBattle.Text.Utf8

namespace CardBattle

/-! ### Lines -/

/-- The time of day in front of a line. Nobody asks when a note was made, so it is left at zero. -/
def lineTime : List Char := "00:00:00".toList

/-- Levels are filled up with blanks to this length. -/
def levelWidth : Nat := 8

/-- A line that tells a level, a source and a text. The place behind the source is left at zero,
like the time. -/
def lineOf (level source text : List Char) : List Char :=
  lineTime ++ ' ' :: (level ++ (List.replicate (levelWidth - level.length) ' '
    ++ ' ' :: (source ++ ':' :: '0' :: ' ' :: '|' :: ' ' :: text)))

/-- A note as it stands in the file of the journal. -/
def Note.line (note : Note) : String :=
  String.ofList (lineOf note.level.name.toList note.source.name.toList note.text.toList ++ ['\n'])

/-! ### Recorders -/

/-- Where the journal is written, and what of it. -/
structure Recorder where
  file : String
  threshold : Threshold
  terminal? : Option Threshold := none
  deriving DecidableEq, Repr

/-- Why there is no recorder. -/
inductive RecorderFault where
  | file (failure : FileFailure)
  | level (name : String)
  deriving DecidableEq, Repr

/-- The wording of a fault. -/
def RecorderFault.message : RecorderFault → String
  | .file failure => failure.message
  | .level name => s!"Unknown level: {Text.quoted name}"

namespace Recorder

/-- The threshold of the terminal under settings. -/
def terminalThreshold (settings : Settings) : Threshold :=
  .atLeast (if settings.debugMode then .debug else .info)

/-- The file of the journal is opened, with a directory for it. -/
def openJournal (path : String) : FileAction String := do
  let file := FileTree.collapsed path
  makeDirectories (FileTree.rootOf path) (FileTree.steps path).reverse.tail
  openFile file
  return file

/-- The recorder that settings ask for. The file is there before the level is looked at. -/
def prepare (settings : Settings) (verbose : Bool) :
    ExceptT RecorderFault (StateM FileTree) Recorder := do
  let file ← (openJournal settings.logFile).adapt RecorderFault.file
  match Threshold.ofName? settings.upperLevel with
  | none => throw (.level settings.upperLevel)
  | some threshold =>
      let terminal? := if verbose then some (terminalThreshold settings) else none
      return { file, threshold, terminal? }

/-- The first note of a recorder. -/
def openingNote (settings : Settings) (verbose : Bool) : Note :=
  let shown := if verbose then "True" else "False"
  .debug .journal s!"Logging to {settings.logFile} at {settings.logLevel} (terminal: {shown})"

/-- Whether a note is written to the file. -/
def writes (r : Recorder) (note : Note) : Bool := r.threshold.keeps note.level

/-- Whether a note is shown on the terminal. -/
def shows (r : Recorder) (note : Note) : Bool := r.terminal?.any (·.keeps note.level)

/-- Files with the notes that are written at the end of the journal. -/
def write (r : Recorder) (files : FileTree) (notes : List Note) : FileTree :=
  files.append r.file ((notes.filter r.writes).flatMap fun note => note.line.toUTF8.toList)

/-- An event with its notes written and shown: a note is left if it is written, and is drawn if it
is shown. -/
def record (r : Recorder) : Event → List Event
  | .noted note =>
      (if r.writes note then [.noted note] else [])
        ++ (if r.shows note then [.drawn (.note note.level (Screen.shown note.text))] else [])
  | event => [event]

/-- Events with their notes written and shown. -/
def recordAll (r : Recorder) (events : List Event) : List Event := events.flatMap r.record

theorem record_drawn (r : Recorder) (d : Screen.Drawing) : r.record (.drawn d) = [.drawn d] := rfl

end Recorder

/-! ### Recorders in a row -/

/-- What recorders have left so far: the files, the recorder in use, and all events. -/
structure Records where
  files : FileTree := []
  recorder? : Option Recorder := none
  events : List Event := []
  deriving Repr

namespace Records

/-- Notes are made; without a recorder they are lost. -/
def note (records : Records) (notes : List Note) : Records :=
  match records.recorder? with
  | none => records
  | some r =>
      { records with
        files := r.write records.files notes
        events := records.events ++ r.recordAll (notes.map .noted) }

/-- The recorder that settings ask for takes the place of the one in use, and makes its first
note. Where there is a fault there is no recorder from then on. -/
def replace (records : Records) (settings : Settings) (verbose : Bool) :
    Except RecorderFault Recorder × Records :=
  let (recorder, files) := (Recorder.prepare settings verbose).run records.files
  (recorder, { records with files, recorder? := recorder.toOption }.note
    [Recorder.openingNote settings verbose])

theorem note_of_none {records : Records} (h : records.recorder? = none) (notes : List Note) :
    records.note notes = records := by
  simp [note, h]

end Records

end CardBattle

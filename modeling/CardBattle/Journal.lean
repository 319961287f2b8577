/-
The journal.

* `Level` : how grave a note is;
* `Source` : the part of the game that makes a note;
* `Note` : a level, a source and a text;
* `Draft` : a note whose numbers are yet to be written;
* `Draft.notes` : the notes of drafts, up to one that cannot be written if that matters.

Main statements: `notes_of_canBeWritten`, and `ending_notes`, when drafts end before the last one.
-/
import CardBattle.Element
import CardBattle.Text.Wording

namespace CardBattle

open Text (NumeralFault Wording)

/-- How grave a note is. -/
inductive Level where
  | debug
  | info
  | warning
  | error
  | critical
  deriving DecidableEq, Repr

namespace Level

/-- The name of a level. -/
def name : Level → String
  | .debug => "DEBUG"
  | .info => "INFO"
  | .warning => "WARNING"
  | .error => "ERROR"
  | .critical => "CRITICAL"

/-- Levels from the mildest to the gravest. -/
def all : List Level := [.debug, .info, .warning, .error, .critical]

/-- The level of a name. -/
def ofName? (name : String) : Option Level := all.find? (·.name = name)

/-- The rank of a level; nothing of rank zero is a level. -/
def rank : Level → Nat
  | .debug => 10
  | .info => 20
  | .warning => 30
  | .error => 40
  | .critical => 50

end Level

/-- The part of the game that makes a note. -/
inductive Source where
  | damage
  | player
  | enemy
  | play
  | battle
  | catalog
  | application
  | journal
  /-- A further part of the rules, by its name. -/
  | rule (name : String)
  deriving DecidableEq, Repr

namespace Source

/-- The group that the parts of the rules belong to. -/
def rulesGroup : String := "card_sim"

/-- The last part of the name of a source, and whether it belongs to the rules. -/
def parts : Source → Bool × String
  | .damage => (true, "damage")
  | .player => (true, "player")
  | .enemy => (true, "enemy")
  | .play => (true, "card_resolver")
  | .battle => (true, "engine")
  | .catalog => (true, "catalog")
  | .application => (false, "main")
  | .journal => (false, "logging_config")
  | .rule name => (true, name)

/-- Whether a source belongs to the rules of the game. -/
def ofRules (s : Source) : Bool := s.parts.1

/-- The last part of the name of a source. -/
def shortName (s : Source) : String := s.parts.2

/-- The full name of a source. -/
def name (s : Source) : String :=
  if s.ofRules then rulesGroup ++ "." ++ s.shortName else s.shortName

end Source

/-! ### Notes -/

/-- A note in the journal. -/
structure Note where
  level : Level
  source : Source
  text : String
  deriving DecidableEq, Repr

namespace Note

/-- A note on something that matters to a developer. -/
def debug (source : Source) (text : String) : Note := ⟨.debug, source, text⟩

/-- A note on something that happened. -/
def info (source : Source) (text : String) : Note := ⟨.info, source, text⟩

/-- A note on something unexpected. -/
def warning (source : Source) (text : String) : Note := ⟨.warning, source, text⟩

/-- A note on something that failed. -/
def error (source : Source) (text : String) : Note := ⟨.error, source, text⟩

end Note

/-! ### Drafts -/

/-- A note whose numbers are yet to be written. -/
structure Draft where
  level : Level
  source : Source
  words : Wording
  /-- Whether the note is worded when it is made, even if nobody reads it. -/
  atOnce : Bool
  deriving DecidableEq, Repr

namespace Draft

/-- A draft that is worded when it is made. -/
def told (level : Level) (source : Source) (words : Wording) : Draft :=
  ⟨level, source, words, true⟩

/-- A draft that is worded where it is read. -/
def kept (level : Level) (source : Source) (words : Wording) : Draft :=
  ⟨level, source, words, false⟩

/-- The note of a draft. -/
def written (d : Draft) : Except NumeralFault Note := do
  return ⟨d.level, d.source, ← d.words.written⟩

/-- The notes of drafts, where some drafts are watched. A draft that cannot be written ends them
if it is worded at once or watched, and leaves no trace otherwise. -/
def notes (watched : Draft → Bool) : List Draft → List Note × Except NumeralFault Unit
  | [] => ([], .ok ())
  | d :: rest =>
      match d.written with
      | .ok note =>
          let (later, ending) := notes watched rest
          (note :: later, ending)
      | .error fault =>
          if d.atOnce || watched d then ([], .error fault) else notes watched rest

/-- Drafts that can be written all become notes, whoever watches. -/
theorem notes_of_canBeWritten (watched : Draft → Bool) {ds : List Draft}
    (h : ∀ d ∈ ds, d.words.canBeWritten = true) :
    notes watched ds = (ds.map fun d => ⟨d.level, d.source, d.words.render⟩, .ok ()) := by
  induction ds with
  | nil => rfl
  | cons d rest ih =>
      have hd : d.written = .ok ⟨d.level, d.source, d.words.render⟩ := by
        simp [written, Wording.written, h d List.mem_cons_self, bind, Except.bind, pure,
          Except.pure]
      simp [notes, hd, ih fun e he => h e (List.mem_cons_of_mem d he)]

/-- Whether drafts come to an end before the last one depends on which drafts there are, and not on
their order. -/
theorem ending_notes (watched : Draft → Bool) (ds : List Draft) :
    (notes watched ds).2
      = if ds.any fun d => !d.words.canBeWritten && (d.atOnce || watched d) then
          .error .unwritable
        else .ok () := by
  induction ds with
  | nil => rfl
  | cons d ds ih =>
      rw [notes, written, Text.Wording.written]
      cases hwritten : d.words.canBeWritten with
      | true => simpa [hwritten, bind, Except.bind, pure, Except.pure] using ih
      | false =>
          cases hread : (d.atOnce || watched d) with
          | true => simp [hwritten, hread, bind, Except.bind]
          | false => simpa [hwritten, hread, bind, Except.bind] using ih

end Draft

end CardBattle

/-
Words of a command line.

* `Setting`, `Flag` : what can be asked for, with and without a value;
* `Given` : what a setting is set to;
* `Word` : what one word of a command line is;
* `readWords` : the words of a command line.

A long name may be cut short where one name only begins so, and its value may follow an equals sign.
Main statement: `readWords_divided`, behind a divider everything is a value.
-/
import CardBattle.Text.Digit

namespace CardBattle

/-- What is set to a value on a command line. -/
inductive Setting where
  | enemy
  | enemyFile
  | deck
  | logLevel
  deriving DecidableEq, Repr

/-- The word behind which everything is a value. -/
def divider : String := "--"

/-- What a setting is set to: a text, or nothing where the divider stands in its place. -/
inductive Given where
  | text (text : String)
  | nothing
  deriving DecidableEq, Repr

namespace Given

/-- What a text behind an equals sign gives. -/
def ofAttached (text : String) : Given := if text = divider then .nothing else .text text

/-- The text that is given. -/
def text? : Given → Option String
  | .text value => some value
  | .nothing => none

end Given

/-- What a name on a command line stands for. -/
inductive Flag where
  | help
  | verbose
  | sets (setting : Setting)
  deriving DecidableEq, Repr

/-- One word of a command line. -/
inductive Word where
  | help
  | verbose
  | sets (setting : Setting) (attached? : Option Given)
  /-- A name with a value that it does not take. -/
  | misused
  | value (text : String)
  /-- A name that stands for nothing, or the divider. -/
  | stray
  deriving DecidableEq, Repr

namespace Flag

/-- The long names with what they stand for. -/
def names : List (String × Flag) :=
  [("--help", .help), ("--enemy", .sets .enemy), ("--enemy-file", .sets .enemyFile),
    ("--deck", .sets .deck), ("--log-level", .sets .logLevel), ("--verbose", .verbose)]

/-- What a whole long name stands for. -/
def ofName? (name : List Char) : Option Flag := names.lookup (String.ofList name)

/-- What all the long names stand for that begin in a way. -/
def ofBeginning (beginning : List Char) : List Flag :=
  (names.filter fun (name, _) => beginning.isPrefixOf name.toList).map (·.2)

/-- The word for a name, with the value attached to it if there is one. -/
def word : Flag → Option String → Word
  | .sets setting, attached? => .sets setting (attached?.map Given.ofAttached)
  | .help, none => .help
  | .verbose, none => .verbose
  | _, some _ => .misused

end Flag

/-! ### One word -/

/-- A text before its first equals sign, and what follows the sign if there is one. -/
def atEquals (cs : List Char) : List Char × Option (List Char) :=
  match cs.span (· ≠ '=') with
  | (before, _ :: after) => (before, some after)
  | (before, []) => (before, none)

/-- Whether a text is a negative number, with or without a point; a line break may end it. -/
def isNegativeNumber (cs : List Char) : Bool :=
  let isDecimal (c : Char) : Bool := (Text.digitValue? c).isSome
  let ends (rest : List Char) : Bool := rest = [] || rest = ['\n']
  match cs with
  | '-' :: number =>
      match number.span isDecimal with
      | (_, '.' :: rest) =>
          let (part, rest) := rest.span isDecimal
          !part.isEmpty && ends rest
      | (whole, rest) => !whole.isEmpty && ends rest
  | _ => false

/-- The short name with more behind it: its letter again and again, and nothing else. -/
def clustered (more : List Char) : Word :=
  if !more.isEmpty && more.all (· = 'h') then .help else .misused

/-- A word that begins like a name but is none. -/
def otherWord (cs : List Char) : Word :=
  if isNegativeNumber cs || ' ' ∈ cs then .value (String.ofList cs) else .stray

/-- A word that opens like a long name; nothing if more than one name begins so. -/
def readLong (cs : List Char) : Option Word :=
  let (name, attached?) := atEquals cs
  let word (flag : Flag) : Word := flag.word (attached?.map String.ofList)
  match Flag.ofName? name with
  | some flag => some (word flag)
  | none =>
      match Flag.ofBeginning name with
      | [] => some (otherWord cs)
      | [flag] => some (word flag)
      | _ => none

/-- A word of a command line; nothing if more than one name begins so. An equals sign may stand
behind the short name. -/
def readWord (text : String) : Option Word :=
  match text.toList with
  | '-' :: '-' :: rest => readLong ('-' :: '-' :: rest)
  | ['-', 'h'] => some .help
  | '-' :: 'h' :: '=' :: more => some (clustered more)
  | '-' :: 'h' :: more => some (clustered more)
  | '-' :: c :: rest => some (otherWord ('-' :: c :: rest))
  | _ => some (.value text)

/-! ### All words -/

/-- The words of a command line; nothing if one of them is ambiguous. -/
def readWords : List String → Option (List Word)
  | [] => some []
  | text :: rest =>
      if text = divider then some (.stray :: rest.map .value)
      else do
        let word ← readWord text
        return word :: (← readWords rest)

theorem readWords_divided (rest : List String) :
    readWords (divider :: rest) = some (.stray :: rest.map .value) := by
  simp [readWords]

end CardBattle

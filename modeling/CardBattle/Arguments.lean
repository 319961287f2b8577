/-
Arguments of the program.

* `Arguments` : what a command line asks for;
* `Arguments.read` : a command line, or why the program stops there.

Main statement: `Arguments.put_enemy_of_enemyFile`, a listed enemy and a file of one exclude
each other.
-/
import CardBattle.Arguments.Word
import CardBattle.Catalog.Enemies

namespace CardBattle

/-- What a command line asks for. -/
structure Arguments where
  enemy? : Option Given := none
  enemyFile? : Option Given := none
  deck? : Option Given := none
  logLevel? : Option Given := none
  verbose : Bool := false
  deriving DecidableEq, Repr

/-- Why the program stops at its command line. -/
inductive Stop where
  | helped
  | refused
  deriving DecidableEq, Repr

namespace Stop

/-- The exit status of a stop. -/
def status : Stop → Nat
  | .helped => 0
  | .refused => 2

end Stop

namespace Arguments

/-- Whether an enemy that is given is listed. -/
def isListed (value : Given) : Bool := value.text?.all (· ∈ Catalog.enemySlugs)

/-- Arguments with one more setting. Of two values for one setting the later counts, an enemy must
be listed, and a listed enemy and a file of one exclude each other. -/
def put (a : Arguments) (setting : Setting) (value : Given) : Except Stop Arguments :=
  match setting with
  | .enemy =>
      if a.enemyFile?.isSome || !isListed value then .error .refused
      else .ok { a with enemy? := some value }
  | .enemyFile =>
      if a.enemy?.isSome then .error .refused else .ok { a with enemyFile? := some value }
  | .deck => .ok { a with deck? := some value }
  | .logLevel => .ok { a with logLevel? := some value }

/-- The arguments that words add; `surplus` says that a word before them was not understood, which
counts when all words are read. -/
def readFrom (a : Arguments) (surplus : Bool) : List Word → Except Stop Arguments
  | [] => if surplus then .error .refused else .ok a
  | .help :: _ => .error .helped
  | .misused :: _ => .error .refused
  | .verbose :: rest => readFrom { a with verbose := true } surplus rest
  | .sets setting (some value) :: rest => do readFrom (← a.put setting value) surplus rest
  | .sets setting none :: .value text :: rest => do
      readFrom (← a.put setting (.text text)) surplus rest
  | .sets _ none :: _ => .error .refused
  | .value _ :: rest => readFrom a true rest
  | .stray :: rest => readFrom a true rest

/-- The arguments of a command line. -/
def read (texts : List String) : Except Stop Arguments :=
  match readWords texts with
  | none => .error .refused
  | some words => readFrom {} false words

theorem put_enemy_of_enemyFile {a : Arguments} (h : a.enemyFile?.isSome = true) (value : Given) :
    a.put .enemy value = .error .refused := by
  simp [put, h]

theorem put_enemyFile_of_enemy {a : Arguments} (h : a.enemy?.isSome = true) (value : Given) :
    a.put .enemyFile value = .error .refused := by
  simp [put, h]

end Arguments

end CardBattle

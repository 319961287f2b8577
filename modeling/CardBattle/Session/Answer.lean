/-
What comes of asking at the terminal.

* `Answer` : a typed line, the end of all input, or an interrupt;
* `Answer.line?` : the line that an answer stands for, `none` if the game is to be left;
* `Answer.next` : the next of scripted answers; behind the last one the input has ended.
-/
import CardBattle.Element

namespace CardBattle

/-- What comes of asking at the terminal. -/
inductive Answer where
  | line (text : String)
  | endOfInput
  | interrupt
  deriving DecidableEq, Repr

namespace Answer

/-- The line that an answer stands for, where the end of input stands for `default`; an interrupt
stands for none, and the game is left. -/
def line? (default : String) : Answer → Option String
  | .line text => some text
  | .endOfInput => some default
  | .interrupt => none

/-- What is written below the prompt: an interrupt ends the line. -/
def echo : Answer → String
  | .interrupt => "\n"
  | _ => ""

/-- The next of scripted answers, and those after it. -/
def next : List Answer → Answer × List Answer
  | [] => (.endOfInput, [])
  | answer :: rest => (answer, rest)

theorem line?_eq_none_iff (default : String) (a : Answer) :
    a.line? default = none ↔ a = .interrupt := by
  cases a <;> simp [line?]

end Answer

end CardBattle

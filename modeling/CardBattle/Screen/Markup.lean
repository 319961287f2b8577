/-
Markup: styles written into a text as tags in square brackets.

* `Markup.escape` : a text whose tags are to be shown as they are;
* `Markup.render` : the styled text that markup stands for.

A backslash before a tag shows the tag, and two show one backslash before it. A tag that is never
closed reaches to the end. Emoji are written by name, between two colons with no tag in between.
-/
import CardBattle.Screen.Emoji
import CardBattle.Screen.Styled

namespace CardBattle.Screen.Markup

/-! ### Tags -/

/-- Whether a character may open the body of a tag. -/
def opensTag (c : Char) : Bool := ('a' ≤ c && c ≤ 'z') || c = '#' || c = '/' || c = '@'

/-- The body of a tag that opens a text, and what follows the tag. -/
def tag? : List Char → Option (List Char × List Char)
  | '[' :: c :: rest =>
      if opensTag c then
        match rest.span fun d => d ≠ '[' && d ≠ ']' with
        | (body, ']' :: after) => some (c :: body, after)
        | _ => none
      else none
  | _ => none

/-- What markup is made of. -/
inductive Piece where
  /-- A character that belongs to no tag. -/
  | plain (c : Char)
  /-- A tag after so many backslashes. -/
  | tag (slashes : Nat) (body : List Char)
  deriving DecidableEq, Repr

/-- The pieces of a text of at most so many characters; `slashes` backslashes came just before. -/
def piecesUpTo : Nat → Nat → List Char → List Piece
  | 0, slashes, _ => List.replicate slashes (.plain '\\')
  | fuel + 1, slashes, cs =>
      match tag? cs with
      | some (body, rest) => .tag slashes body :: piecesUpTo fuel 0 rest
      | none =>
          match cs with
          | [] => List.replicate slashes (.plain '\\')
          | '\\' :: rest => piecesUpTo fuel (slashes + 1) rest
          | c :: rest =>
              List.replicate slashes (.plain '\\') ++ .plain c :: piecesUpTo fuel 0 rest

/-- The pieces of a text. -/
def pieces (cs : List Char) : List Piece := piecesUpTo (cs.length + 1) 0 cs

/-! ### Escaping -/

/-- A tag between its brackets. -/
def bracketed (body : List Char) : List Char := '[' :: body ++ [']']

/-- Backslashes in a row. -/
def slashRun (n : Nat) : List Char := List.replicate n '\\'

/-- A piece that is shown as it is: its backslashes are doubled, and one more is put before a
tag. -/
def Piece.escaped : Piece → List Char
  | .plain c => [c]
  | .tag slashes body => slashRun (2 * slashes + 1) ++ bracketed body

/-- Whether a text ends in exactly one backslash. -/
def endsInOneSlash (cs : List Char) : Bool :=
  match cs.reverse with
  | '\\' :: '\\' :: _ => false
  | '\\' :: _ => true
  | _ => false

/-- A text whose tags are to be shown as they are; a backslash that ends it alone is doubled, since
a tag may follow. -/
def escape (text : String) : String :=
  let cs := (pieces text.toList).flatMap Piece.escaped
  String.ofList (if endsInOneSlash cs then cs ++ ['\\'] else cs)

/-! ### Parts -/

/-- What is shown in one go, or a tag that takes effect. -/
inductive Part where
  | shown (cs : List Char)
  | tag (body : List Char)
  deriving DecidableEq, Repr

/-- A text without the backslash right before a bracket that opens no tag. -/
def unslashed : List Char → List Char
  | '\\' :: '[' :: rest => '[' :: unslashed rest
  | c :: rest => c :: unslashed rest
  | [] => []

/-- The part that a text makes up; an empty one makes up none. -/
def shownPart (cs : List Char) : List Part := if cs.isEmpty then [] else [.shown cs]

/-- The parts that a tag after backslashes makes up: half of the backslashes, then the tag, which
takes effect unless one more backslash is before it. -/
def tagParts (slashes : Nat) (body : List Char) : List Part :=
  shownPart (slashRun (slashes / 2))
    ++ [if slashes % 2 = 1 then .shown (bracketed body) else .tag body]

/-- The parts of pieces; `run` came just before them, in reverse. -/
def partsOf (run : List Char) : List Piece → List Part
  | [] => shownPart (unslashed run.reverse)
  | .plain c :: rest => partsOf (c :: run) rest
  | .tag slashes body :: rest =>
      shownPart (unslashed run.reverse) ++ tagParts slashes body ++ partsOf [] rest

/-! ### Rendering -/

/-- A text that is being rendered: what is shown so far, the open tags, latest first, and the spans
of the closed ones, latest first. -/
structure Rendering where
  shown : StyledText := {}
  opened : List (Nat × Style) := []
  closed : List Span := []
  deriving Repr

namespace Rendering

/-- One more part is shown, emoji in place of their names. -/
def put (r : Rendering) (cs : List Char) : Rendering :=
  { r with shown := r.shown.append (String.ofList (Emoji.replace cs)) }

/-- A tag is closed: the latest of its name, or the latest where no name is given. A tag that is not
open is not closed. -/
def close (r : Rendering) (name : Style) : Rendering :=
  match r.opened.find? fun (_, style) => name.isEmpty || style == name with
  | none => r
  | some (start, style) =>
      { r with
        opened := r.opened.erase (start, style)
        closed := ⟨start, r.shown.text.length, style⟩ :: r.closed }

/-- A tag takes effect. -/
def applyTag (r : Rendering) : List Char → Rendering
  | '/' :: name => r.close (String.ofList name)
  | name => { r with opened := (r.shown.text.length, String.ofList name) :: r.opened }

/-- A part takes effect. -/
def step (r : Rendering) : Part → Rendering
  | .shown cs => r.put cs
  | .tag body => r.applyTag body

/-- What is shown when all pieces have taken effect: the open tags are closed, the latest first, and
the spans are put in the order of their starts. -/
def finish (r : Rendering) : StyledText :=
  let spans := r.opened.foldl
    (fun spans (start, style) => ⟨start, r.shown.text.length, style⟩ :: spans) r.closed
  { r.shown with spans := spans.mergeSort fun a b => a.start ≤ b.start }

end Rendering

/-- The styled text that markup stands for. -/
def render (markup : String) : StyledText :=
  ((partsOf [] (pieces markup.toList)).foldl Rendering.step {}).finish

/-- A text in a style, behind words of the game in the same style; the text may hold anything. -/
def quote (style : Style) (words text : String) : StyledText :=
  render s!"[{style}]{words}{escape text}[/{style}]"

end CardBattle.Screen.Markup

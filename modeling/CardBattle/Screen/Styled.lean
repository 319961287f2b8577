/-
Styled text.

* `StyledText` : a text, the style of the whole, and the styles of parts of it;
* `StyledText.append` : a text with one more part;
* `StyledText.ofParts` : a text of wordings, unless a number in them cannot be written.

Control characters that would ring, move or clear are not shown. Main statement: `append_empty`,
an empty part leaves no trace.
-/
import CardBattle.Text.Wording

namespace CardBattle.Screen

open Text (NumeralFault Wording)

/-- A style by its words, such as bold red. -/
abbrev Style := String

/-- A style on the characters from one place up to another. -/
structure Span where
  start : Nat
  stop : Nat
  style : Style
  deriving DecidableEq, Repr

/-- A part of a text that is yet to be written. -/
structure Part where
  words : Wording
  style : Style := ""
  deriving DecidableEq, Repr

/-- A line that is yet to be written. -/
def line (words : Wording) (style : Style := "") : Part := ⟨words ++ "\n", style⟩

/-- A text with styles; an empty style is none. -/
structure StyledText where
  text : String := ""
  style : Style := ""
  spans : List Span := []
  deriving DecidableEq, Repr

/-- Whether a character is never shown: bell, backspace, vertical tab, form feed, carriage
return. -/
def isSilent (c : Char) : Bool := c.toNat ∈ [7, 8, 11, 12, 13]

/-- A text without the characters that are never shown. -/
def shown (text : String) : String := String.ofList (text.toList.filter (!isSilent ·))

namespace StyledText

/-- A text in one style, or in none. -/
def ofString (text : String) (style : Style := "") : StyledText := { text := shown text, style }

/-- A text with one more part, in a style of its own or in none. -/
def append (t : StyledText) (part : String) (style : Style := "") : StyledText :=
  if part.isEmpty then t
  else
    let start := t.text.length
    let text := t.text ++ shown part
    { t with
      text
      spans := if style.isEmpty then t.spans else t.spans ++ [⟨start, text.length, style⟩] }

/-- A text of parts, each in a style of its own or in none. -/
def ofParts (parts : List Part) : Except NumeralFault StyledText :=
  parts.foldlM (fun t part => do return t.append (← part.words.written) part.style) {}

/-- A wording in one style, or in none. -/
def ofWording (words : Wording) (style : Style := "") : Except NumeralFault StyledText := do
  return .ofString (← words.written) style

/-- Whether a text has neither a style nor styled parts. -/
def isPlain (t : StyledText) : Bool := t.style.isEmpty && t.spans.isEmpty

theorem append_empty (t : StyledText) (style : Style) : t.append "" style = t := rfl

theorem isPlain_ofString (text : String) : (ofString text).isPlain = true := rfl

end StyledText

end CardBattle.Screen

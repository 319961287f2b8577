/-
Quoted texts.

* `quoted` : a text between single quotes, or between double quotes where it holds a single quote
  and no double one; the backslash, the quote in use and every unprintable character are escaped.
* `quotedAll` : quoted texts as a bracketed group.
-/
import CardBattle.Text.Printable

namespace CardBattle.Text

/-- The lower-case hexadecimal digits of a number, padded with zeros to a width. -/
def hexadecimal (width n : Nat) : List Char :=
  let digits := Nat.toDigits 16 n
  List.replicate (width - digits.length) '0' ++ digits

/-- The quote a text is put between. -/
def quoteFor (cs : List Char) : Char :=
  if cs.contains '\'' && !cs.contains '"' then '"' else '\''

/-- A character inside the given quotes. -/
def escaped (quote c : Char) : List Char :=
  if c = quote || c = '\\' then ['\\', c]
  else if c = '\n' then ['\\', 'n']
  else if c = '\r' then ['\\', 'r']
  else if c = '\t' then ['\\', 't']
  else if isPrintable c then [c]
  else if c.toNat < 0x100 then ['\\', 'x'] ++ hexadecimal 2 c.toNat
  else if c.toNat < 0x10000 then ['\\', 'u'] ++ hexadecimal 4 c.toNat
  else ['\\', 'U'] ++ hexadecimal 8 c.toNat

/-- A text between quotes. -/
def quoted (text : String) : String :=
  let quote := quoteFor text.toList
  String.ofList (quote :: text.toList.flatMap (escaped quote) ++ [quote])

/-- Quoted texts between round brackets, in order. -/
def quotedAll (texts : List String) : String :=
  "(" ++ ", ".intercalate (texts.map quoted) ++ ")"

example : quoted "it's" = "\"it's\"" := by decide +kernel

example : quoted "a\n\\" = "'a\\n\\\\'" := by decide +kernel

end CardBattle.Text

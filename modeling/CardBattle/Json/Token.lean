/-
The tokens of a JSON text.

* `Json.Token` : punctuation, and values that are neither arrays nor objects;
* `Json.tokens?` : the tokens of a text, or nothing if some part of it is no token.

A text is read character by character; `Lexing` says what has been begun. Main statement:
`tokens?_nil`.
-/
import CardBattle.Json.Value

namespace CardBattle.Json

/-- A token. -/
inductive Token where
  | openArray
  | closeArray
  | openObject
  | closeObject
  | comma
  | colon
  | scalar (value : Value)

/-! ### Words: numbers and names -/

/-- Whether a character may stand in a number or in a name such as `null`. -/
def isWordChar (c : Char) : Bool := c.isAlphanum || c = '+' || c = '-' || c = '.'

/-- A number with more digits before its point is refused. -/
def mostWholeDigits : Nat := 4300

/-- Whether the digits before the point of a number are too many. -/
def isOverlong (whole : List Char) : Bool := mostWholeDigits < whole.length

/-- The number that decimal digits stand for. -/
def ofDecimalDigits (digits : List Char) : Nat :=
  digits.foldl (fun n c => 10 * n + (c.toNat - '0'.toNat)) 0

/-- Whether digits stand for a whole number: at least one, and no zero before others. -/
def isWhole : List Char → Bool
  | [] => false
  | '0' :: rest => rest.isEmpty
  | _ => true

/-- The exponent of a number, after its mark; nothing if there is none. -/
def exponentOf? (cs : List Char) : Option Int :=
  let (negative, digits) :=
    match cs with
    | '-' :: rest => (true, rest)
    | '+' :: rest => (false, rest)
    | rest => (false, rest)
  if digits.isEmpty || !digits.all Char.isDigit then none
  else
    let size : Int := ofDecimalDigits digits
    some (if negative then -size else size)

/-- A number without its sign, from the characters after the sign. -/
def numberOf? (negative : Bool) (cs : List Char) : Option Value :=
  let whole := cs.takeWhile Char.isDigit
  let afterWhole := cs.dropWhile Char.isDigit
  if !isWhole whole || isOverlong whole then none
  else
    match afterWhole with
    | [] =>
        let n : Int := ofDecimalDigits whole
        some (.integer (if negative then -n else n))
    | c :: rest =>
        let fraction := if c = '.' then rest.takeWhile Char.isDigit else []
        let tail := if c = '.' then rest.dropWhile Char.isDigit else c :: rest
        let coefficient := ofDecimalDigits (whole ++ fraction)
        let shift : Int := fraction.length
        if c = '.' && fraction.isEmpty then none
        else
          match tail with
          | [] => some (.number (.ofDecimal negative coefficient (-shift)))
          | e :: exponent =>
              if e = 'e' || e = 'E' then
                (exponentOf? exponent).map fun size =>
                  .number (.ofDecimal negative coefficient (size - shift))
              else none

/-- The value of a word. -/
def ofWord? (cs : List Char) : Option Value :=
  match String.ofList cs with
  | "null" => some .null
  | "true" => some (.truth true)
  | "false" => some (.truth false)
  | "NaN" => some (.number .nan)
  | "Infinity" => some (.number (.infinite false))
  | "-Infinity" => some (.number (.infinite true))
  | _ =>
      match cs with
      | '-' :: rest => numberOf? true rest
      | rest => numberOf? false rest

/-! ### Texts -/

/-- The value of a hexadecimal digit. -/
def hexDigit? (c : Char) : Option Nat :=
  if '0' ≤ c && c ≤ '9' then some (c.toNat - '0'.toNat)
  else if 'a' ≤ c && c ≤ 'f' then some (c.toNat - 'a'.toNat + 10)
  else if 'A' ≤ c && c ≤ 'F' then some (c.toNat - 'A'.toNat + 10)
  else none

/-- The character that a short escape stands for. -/
def shortEscape? : Char → Option Char
  | '"' => some '"'
  | '\\' => some '\\'
  | '/' => some '/'
  | 'b' => some (Char.ofNat 8)
  | 'f' => some (Char.ofNat 12)
  | 'n' => some '\n'
  | 'r' => some '\r'
  | 't' => some '\t'
  | _ => none

/-- Whether a code is the first half of a surrogate pair. -/
def isLeading (code : Nat) : Bool := 0xD800 ≤ code && code ≤ 0xDBFF

/-- Whether a code is the second half of a surrogate pair. -/
def isTrailing (code : Nat) : Bool := 0xDC00 ≤ code && code ≤ 0xDFFF

/-- The characters of codes; surrogates count in pairs only. -/
def ofCodes? : List Nat → Option (List Char)
  | [] => some []
  | code :: rest =>
      if isTrailing code then none
      else if isLeading code then
        match rest with
        | [] => none
        | second :: rest =>
            if isTrailing second then
              (ofCodes? rest).map
                (Char.ofNat (0x10000 + (code - 0xD800) * 0x400 + (second - 0xDC00)) :: ·)
            else none
      else (ofCodes? rest).map (Char.ofNat code :: ·)

/-! ### Reading -/

/-- What has been begun: nothing, a word, a text, or an escape in a text. Characters and codes are
held in reverse. -/
inductive Lexing where
  | idle
  | word (read : List Char)
  | text (codes : List Nat)
  | escape (codes : List Nat)
  | unicode (codes : List Nat) (digits value : Nat)

/-- The punctuation that a character is. -/
def punctuation? : Char → Option Token
  | '[' => some .openArray
  | ']' => some .closeArray
  | '\x7b' => some .openObject
  | '\x7d' => some .closeObject
  | ',' => some .comma
  | ':' => some .colon
  | _ => none

/-- Whether a character may stand between tokens. -/
def isSpace (c : Char) : Bool := c = ' ' || c = '\t' || c = '\n' || c = '\r'

/-- What a character outside texts and words begins: the tokens it is, and what it opens. -/
def begin? (c : Char) : Option (List Token × Lexing) :=
  match punctuation? c with
  | some token => some ([token], .idle)
  | none =>
      if isSpace c then some ([], .idle)
      else if c = '"' then some ([], .text [])
      else if isWordChar c then some ([], .word [c])
      else none

/-- The tokens that a character completes, and what is open after it. -/
def advance? : Lexing → Char → Option (List Token × Lexing)
  | .idle, c => begin? c
  | .word read, c =>
      if isWordChar c then some ([], .word (c :: read))
      else do
        let value ← ofWord? read.reverse
        let (tokens, next) ← begin? c
        return (.scalar value :: tokens, next)
  | .text codes, c =>
      if c = '"' then do
        let cs ← ofCodes? codes.reverse
        return ([.scalar (.text (String.ofList cs))], .idle)
      else if c = '\\' then some ([], .escape codes)
      else if c.toNat < 0x20 then none
      else some ([], .text (c.toNat :: codes))
  | .escape codes, c =>
      if c = 'u' then some ([], .unicode codes 0 0)
      else (shortEscape? c).map fun e => ([], .text (e.toNat :: codes))
  | .unicode codes digits value, c => do
      let d ← hexDigit? c
      let value := 16 * value + d
      return ([], if digits = 3 then .text (value :: codes) else .unicode codes (digits + 1) value)

/-- The tokens of what follows an open state. -/
def tokensFrom? : Lexing → List Char → Option (List Token)
  | .idle, [] => some []
  | .word read, [] => (ofWord? read.reverse).map fun value => [.scalar value]
  | _, [] => none
  | state, c :: rest => do
      let (tokens, next) ← advance? state c
      return tokens ++ (← tokensFrom? next rest)

/-- The tokens of a text. -/
def tokens? (cs : List Char) : Option (List Token) := tokensFrom? .idle cs

theorem tokens?_nil : tokens? [] = some [] := rfl

end CardBattle.Json

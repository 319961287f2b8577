/-
Bytes read as UTF-8.

* `Utf8.decode` : the characters of a byte sequence, or the first stretch of bytes that is none;
* `Utf8.Fault` : that stretch, and what is wrong with it.
-/
import CardBattle.Text.Quoted

namespace CardBattle.Text.Utf8

/-- What is wrong with a stretch of bytes. -/
inductive Flaw where
  | invalidStart
  | invalidContinuation
  | unexpectedEnd
  deriving DecidableEq, Repr

/-- A stretch of bytes that is no character: from `start` to before `stop`, opened by `first`. -/
structure Fault where
  start : Nat
  stop : Nat
  first : UInt8
  flaw : Flaw
  deriving DecidableEq, Repr

/-- The wording of a flaw. -/
def Flaw.message : Flaw → String
  | .invalidStart => "invalid start byte"
  | .invalidContinuation => "invalid continuation byte"
  | .unexpectedEnd => "unexpected end of data"

/-- The wording of a fault. -/
def Fault.message (fault : Fault) : String :=
  "'utf-8' codec can't decode "
    ++ (if fault.stop = fault.start + 1 then
          "byte 0x" ++ String.ofList (hexadecimal 2 fault.first.toNat)
            ++ s!" in position {fault.start}"
        else s!"bytes in position {fault.start}-{fault.stop - 1}")
    ++ ": " ++ fault.flaw.message

/-- A character of several bytes that has been opened: where and by which byte, its bits so far,
how many bytes are missing, and the range of the next one. -/
structure Opened where
  start : Nat
  first : UInt8
  bits : Nat
  missing : Nat
  low : Nat
  high : Nat

/-- The character that a byte from `0x80` on opens. -/
def open? (position : Nat) (byte : UInt8) : Option Opened :=
  let b := byte.toNat
  if 0xC2 ≤ b && b ≤ 0xDF then some ⟨position, byte, b - 0xC0, 1, 0x80, 0xBF⟩
  else if 0xE0 ≤ b && b ≤ 0xEF then
    some ⟨position, byte, b - 0xE0, 2, if b = 0xE0 then 0xA0 else 0x80,
      if b = 0xED then 0x9F else 0xBF⟩
  else if 0xF0 ≤ b && b ≤ 0xF4 then
    some ⟨position, byte, b - 0xF0, 3, if b = 0xF0 then 0x90 else 0x80,
      if b = 0xF4 then 0x8F else 0xBF⟩
  else none

/-- The characters from a position on, where a character may be open. -/
def decodeFrom (position : Nat) : Option Opened → List UInt8 → Except Fault (List Char)
  | none, [] => .ok []
  | some o, [] => .error ⟨o.start, position, o.first, .unexpectedEnd⟩
  | none, byte :: rest =>
      if byte.toNat < 0x80 then
        (decodeFrom (position + 1) none rest).map (Char.ofNat byte.toNat :: ·)
      else
        match open? position byte with
        | none => .error ⟨position, position + 1, byte, .invalidStart⟩
        | some o => decodeFrom (position + 1) (some o) rest
  | some o, byte :: rest =>
      if o.low ≤ byte.toNat && byte.toNat ≤ o.high then
        let bits := o.bits * 64 + (byte.toNat - 0x80)
        if o.missing = 1 then
          (decodeFrom (position + 1) none rest).map (Char.ofNat bits :: ·)
        else
          decodeFrom (position + 1)
            (some { o with bits := bits, missing := o.missing - 1, low := 0x80, high := 0xBF }) rest
      else .error ⟨o.start, position, o.first, .invalidContinuation⟩

/-- The characters of a byte sequence. -/
def decode (bytes : List UInt8) : Except Fault (List Char) := decodeFrom 0 none bytes

end CardBattle.Text.Utf8

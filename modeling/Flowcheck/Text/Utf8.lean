import Flowcheck.Text.Newline

/-!
# Reading bytes as text

UTF-8 in its strict form: no overlong sequence, no surrogate, nothing above U+10FFFF. A lead byte
fixes how many bytes follow and, for the first of them, a range that may be narrower than
`0x80`–`0xbf`; those ranges are what keeps out the three excluded families. The decoder runs over
the bytes once and stops at the first fault, which it reports with the bytes it concerns.
-/

namespace Flowcheck.Text

/-! ## Faults -/

/-- The ways in which bytes fail to be UTF-8. -/
inductive Utf8Fault where
  | invalidStart
  | invalidContinuation
  | unexpectedEnd
  deriving DecidableEq, Repr

/-- The first fault, with the offset and the values of the bytes that it concerns. -/
structure Utf8Error where
  fault : Utf8Fault
  position : Nat
  bytes : List UInt8
  deriving DecidableEq, Repr

namespace Utf8Error

/-- The reason as a phrase. -/
def reason (e : Utf8Error) : String :=
  match e.fault with
  | .invalidStart => "invalid start byte"
  | .invalidContinuation => "invalid continuation byte"
  | .unexpectedEnd => "unexpected end of data"

/-- One byte is shown by its value, several by the range of their offsets. -/
def message (e : Utf8Error) : String :=
  let place := match e.bytes with
    | [b] =>
      let value := String.ofList ((Nat.toDigits 16 b.toNat))
      let value := if b.toNat < 16 then "0" ++ value else value
      s!"byte 0x{value} in position {e.position}"
    | bytes => s!"bytes in position {e.position}-{e.position + bytes.length - 1}"
  s!"'utf-8' codec can't decode {place}: {e.reason}"

end Utf8Error

/-! ## Lead bytes -/

/-- What a lead byte of a longer sequence announces: the high bits of the code point, the range of
the byte that follows, and how many more continuation bytes come after that one. -/
structure Utf8Lead where
  bits : Nat
  low : Nat
  high : Nat
  further : Nat
  deriving DecidableEq, Repr

/-- Bytes that cannot start a sequence have no lead. -/
def utf8Lead? (b : UInt8) : Option Utf8Lead :=
  let n := b.toNat
  if n < 0xc2 then none
  else if n < 0xe0 then some ⟨n - 0xc0, 0x80, 0xbf, 0⟩
  else if n < 0xf0 then
    some ⟨n - 0xe0, if n = 0xe0 then 0xa0 else 0x80, if n = 0xed then 0x9f else 0xbf, 1⟩
  else if n < 0xf5 then
    some ⟨n - 0xf0, if n = 0xf0 then 0x90 else 0x80, if n = 0xf4 then 0x8f else 0xbf, 2⟩
  else none

/-! ## Decoding -/

/-- A sequence that has begun: its bytes so far, latest first, the code point's bits so far, the
range of the next byte, and how many bytes come after that one. -/
structure Utf8Partial where
  seen : List UInt8
  bits : Nat
  low : Nat
  high : Nat
  further : Nat

/-- Decodes from the offset `position` on, inside the sequence `pending` if there is one. -/
def decodeUtf8From (position : Nat) : Option Utf8Partial → List UInt8 →
    Except Utf8Error (List Char)
  | none, [] => .ok []
  | some p, [] => .error ⟨.unexpectedEnd, position - p.seen.length, p.seen.reverse⟩
  | none, b :: rest =>
    if b.toNat < 0x80 then
      (Char.ofNat b.toNat :: ·) <$> decodeUtf8From (position + 1) none rest
    else
      match utf8Lead? b with
      | none => .error ⟨.invalidStart, position, [b]⟩
      | some lead =>
        decodeUtf8From (position + 1) (some ⟨[b], lead.bits, lead.low, lead.high, lead.further⟩) rest
  | some p, b :: rest =>
    if p.low ≤ b.toNat ∧ b.toNat ≤ p.high then
      let bits := p.bits * 64 + (b.toNat - 0x80)
      match p.further with
      | 0 => (Char.ofNat bits :: ·) <$> decodeUtf8From (position + 1) none rest
      | further + 1 =>
        decodeUtf8From (position + 1) (some ⟨b :: p.seen, bits, 0x80, 0xbf, further⟩) rest
    else
      .error ⟨.invalidContinuation, position - p.seen.length, p.seen.reverse⟩

/-- The characters that the bytes encode. -/
def decodeUtf8 (bytes : List UInt8) : Except Utf8Error (List Char) :=
  decodeUtf8From 0 none bytes

/-- The bytes of a text file as text: decoded, with every line end turned into LF. -/
def readText (bytes : List UInt8) : Except Utf8Error String :=
  (String.ofList ∘ unifyNewlines) <$> decodeUtf8 bytes

/-- The bytes of a text. -/
def encodeUtf8 (text : String) : List UInt8 :=
  text.toUTF8.toList

end Flowcheck.Text

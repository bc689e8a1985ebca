import Flowcheck.Json.Basic
import Flowcheck.Text.Numeral

/-!
# Reading JSON

A strict reader with precise faults. Three extensions of the grammar are accepted: the numbers
`NaN`, `Infinity` and `-Infinity`. Numbers with a fraction or an exponent are floating point, all
others integers. When a key comes twice its first place and its last value count.

Each scanner takes the text that remains and returns what it read with what remains after it. A
fault carries the number of characters that remained where it occurred, which fixes its position in
the whole text. An integer with too many digits is no fault of the document: no number is made of
it, and reading ends there, whatever comes after.

A code point above U+FFFF is escaped as a pair of code units. Half a pair on its own is no
character, so no text here holds one. What is read in its place is left open, as the argument `lone`
of the scanners; `Lossless` are the texts for which it makes no difference.
-/

namespace Flowcheck.Json

/-! ## Faults -/

/-- The ways in which a text fails to be a JSON document. -/
inductive ReadFault where
  | byteOrderMark
  | expectingValue
  | expectingKey
  | expectingColon
  | expectingComma
  | extraData
  | unterminatedString
  | controlCharacter
  | invalidEscape
  | invalidUnicodeEscape
  deriving DecidableEq, Repr

/-- What the reader says about the fault. -/
def ReadFault.phrase : ReadFault → String
  | .byteOrderMark => "Unexpected UTF-8 BOM (decode using utf-8-sig)"
  | .expectingValue => "Expecting value"
  | .expectingKey => "Expecting property name enclosed in double quotes"
  | .expectingColon => "Expecting ':' delimiter"
  | .expectingComma => "Expecting ',' delimiter"
  | .extraData => "Extra data"
  | .unterminatedString => "Unterminated string starting at"
  | .controlCharacter => "Invalid control character at"
  | .invalidEscape => "Invalid \\escape"
  | .invalidUnicodeEscape => "Invalid \\uXXXX escape"

/-- A fault with its place: offset, line and column, the last two counted from one. -/
structure ReadError where
  fault : ReadFault
  offset : Nat
  line : Nat
  column : Nat
  deriving DecidableEq, Repr

/-- The whole text of the error. -/
def ReadError.message (e : ReadError) : String :=
  s!"{e.fault.phrase}: line {e.line} column {e.column} (char {e.offset})"

/-- Places a fault at an offset of a text. -/
def ReadError.locate (fault : ReadFault) (text : List Char) (offset : Nat) : ReadError :=
  let before := text.take offset
  { fault
    offset
    line := before.count '\n' + 1
    column := (before.reverse.takeWhile (· ≠ '\n')).length + 1 }

/-- Why no value is read off a text: the text is malformed, or an integer in it is too long. -/
inductive ReadFailure where
  | malformed (e : ReadError)
  | tooManyDigits (digits : Nat)
  deriving DecidableEq, Repr

/-- The whole text of the failure. -/
def ReadFailure.message : ReadFailure → String
  | .malformed e => e.message
  | .tooManyDigits digits => Text.tooManyDigits digits

/-- Why scanning ends: a fault, with how much of the text remained where it occurred, or an integer
of so many digits. -/
inductive ScanFault where
  | malformed (fault : ReadFault) (remaining : Nat)
  | tooManyDigits (digits : Nat)
  deriving DecidableEq, Repr

/-- Fails with the given text still unread. -/
def failAt {α : Type} (fault : ReadFault) (rest : List Char) : Except ScanFault α :=
  .error (.malformed fault rest.length)

/-! ## Blanks and constants -/

/-- The four characters that may stand between tokens. -/
def isSpacing (c : Char) : Bool := c = ' ' || c = '\t' || c = '\n' || c = '\r'

/-- The text without the spacing in front. -/
def skipSpacing (cs : List Char) : List Char := cs.dropWhile isSpacing

/-- The words that stand for a value. -/
def constants : List (List Char × Json) :=
  [("null".toList, .null), ("true".toList, .bool true), ("false".toList, .bool false),
   ("NaN".toList, .float .nan), ("Infinity".toList, .float (.infinite false)),
   ("-Infinity".toList, .float (.infinite true))]

/-- Reads one of the constants. -/
def constant? (cs : List Char) : Option (Json × List Char) :=
  constants.findSome? fun (word, value) ↦
    if word.isPrefixOf cs then some (value, cs.drop word.length) else none

/-! ## Numbers -/

/-- The number that a run of decimal digits denotes. -/
def digitsValue (digits : List Char) : Nat :=
  digits.foldl (fun n c ↦ n * 10 + (c.toNat - 0x30)) 0

/-- The fraction: a point with at least one digit after it. -/
def scanFraction (cs : List Char) : List Char × List Char :=
  match cs with
  | '.' :: rest =>
    let digits := rest.takeWhile Char.isDigit
    -- A point without a digit is no part of the number.
    if digits.isEmpty then ([], cs) else (digits, rest.dropWhile Char.isDigit)
  | _ => ([], cs)

/-- The sign of a number, and what stands behind it. -/
def scanSign : List Char → Bool × List Char
  | '-' :: rest => (true, rest)
  | cs => (false, cs)

/-- The sign of an exponent, which may also be a plus. -/
def scanExponentSign : List Char → Bool × List Char
  | '+' :: rest => (false, rest)
  | cs => scanSign cs

/-- The exponent: the letter, an optional sign and at least one digit. -/
def scanExponent (cs : List Char) : Option Int × List Char :=
  match cs with
  | c :: rest =>
    if c = 'e' ∨ c = 'E' then
      let (negative, digits) := scanExponentSign rest
      let run := digits.takeWhile Char.isDigit
      if run.isEmpty then (none, cs)
      else
        let size : Int := digitsValue run
        (some (if negative then -size else size), digits.dropWhile Char.isDigit)
    else (none, cs)
  | [] => (none, [])

/-- The digits in front of the fraction. A zero that leads stands alone. -/
def wholeDigits : List Char → List Char
  | '0' :: _ => ['0']
  | cs => cs.takeWhile Char.isDigit

/-- The integer of a run of digits, unless there are too many of them to be converted. -/
def integer (negative : Bool) (digits : List Char) : Except ScanFault Json :=
  if Text.maxNumeralDigits < digits.length then .error (.tooManyDigits digits.length)
  else
    let size : Int := digitsValue digits
    .ok (.int (if negative then -size else size))

/-- Reads a number, as much of the text as still belongs to it. Only an integer can have too many
digits. -/
def number? (cs : List Char) : Option (Except ScanFault (Json × List Char)) :=
  let (negative, unsigned) := scanSign cs
  let whole := wholeDigits unsigned
  if whole.isEmpty then none
  else
    let (fraction, rest) := scanFraction (unsigned.drop whole.length)
    let (exponent, rest) := scanExponent rest
    if fraction.isEmpty && exponent.isNone then
      some ((·, rest) <$> integer negative whole)
    else
      some (.ok (.float (.ofDecimal negative (digitsValue (whole ++ fraction))
        (exponent.getD 0 - fraction.length)), rest))

/-! ## Strings -/

/-- The character that a one-letter escape stands for. -/
def simpleEscape? : Char → Option Char
  | '"' => some '"'
  | '\\' => some '\\'
  | '/' => some '/'
  | 'b' => some '\x08'
  | 'f' => some '\x0c'
  | 'n' => some '\n'
  | 'r' => some '\r'
  | 't' => some '\t'
  | _ => none

/-- The number that four hexadecimal digits denote. -/
def hexQuad? (a b c d : Char) : Option Nat := do
  return (((← Text.hexValue? a) * 16 + (← Text.hexValue? b)) * 16 + (← Text.hexValue? c)) * 16 +
    (← Text.hexValue? d)

/-- The first half of a pair that stands for a code point above U+FFFF. -/
def isHighSurrogate (n : Nat) : Bool := 0xd800 ≤ n && n ≤ 0xdbff

/-- The second half of such a pair. -/
def isLowSurrogate (n : Nat) : Bool := 0xdc00 ≤ n && n ≤ 0xdfff

variable (lone : Nat → Char)

/-- The character of a code unit. Half a pair on its own has none, so what `lone` gives is taken. -/
def unitChar (n : Nat) : Char :=
  if 0xd800 ≤ n && n ≤ 0xdfff then lone n else Char.ofNat n

/-- Reads the rest of a string, whose opening quote stood where `opened` characters remained. -/
def scanString (opened : Nat) : List Char → Except ScanFault (List Char × List Char)
  | [] => .error (.malformed .unterminatedString opened)
  | '"' :: rest => .ok ([], rest)
  | ['\\'] => .error (.malformed .unterminatedString opened)
  | '\\' :: 'u' :: a :: b :: c :: d :: rest =>
    match hexQuad? a b c d, rest with
    | none, _ => .error (.malformed .invalidUnicodeEscape (rest.length + 5))
    -- The digits must not be the last characters of the text.
    | some _, [] => .error (.malformed .invalidUnicodeEscape 5)
    | some high, '\\' :: 'u' :: a' :: b' :: c' :: d' :: rest' =>
      if isHighSurrogate high && !rest'.isEmpty then
        match hexQuad? a' b' c' d' with
        | none => .error (.malformed .invalidUnicodeEscape (rest'.length + 5))
        | some low =>
          if isLowSurrogate low then do
            let (text, after) ← scanString opened rest'
            return (Char.ofNat (0x10000 + (high - 0xd800) * 0x400 + (low - 0xdc00)) :: text, after)
          else do
            -- No second half follows; the second escape is read again for itself.
            let (text, after) ← scanString opened ('\\' :: 'u' :: a' :: b' :: c' :: d' :: rest')
            return (unitChar lone high :: text, after)
      else do
        let (text, after) ← scanString opened ('\\' :: 'u' :: a' :: b' :: c' :: d' :: rest')
        return (unitChar lone high :: text, after)
    | some unit, rest => do
      let (text, after) ← scanString opened rest
      return (unitChar lone unit :: text, after)
  | '\\' :: 'u' :: rest => .error (.malformed .invalidUnicodeEscape (rest.length + 1))
  | '\\' :: c :: rest =>
    match simpleEscape? c with
    | none => .error (.malformed .invalidEscape (rest.length + 2))
    | some e => do
      let (text, after) ← scanString opened rest
      return (e :: text, after)
  | c :: rest =>
    if c.toNat ≤ 0x1f then failAt .controlCharacter (c :: rest)
    else do
      let (text, after) ← scanString opened rest
      return (c :: text, after)
termination_by cs => cs.length

/-! ## Values -/

mutual

/-- Reads one value. `fuel` bounds the number of nested and consecutive reads. -/
def scanValue : Nat → List Char → Except ScanFault (Json × List Char)
  | 0, cs => failAt .expectingValue cs
  | fuel + 1, cs =>
    match cs with
    | '"' :: rest => do
      let (text, after) ← scanString lone cs.length rest
      return (.str (String.ofList text), after)
    | '[' :: rest =>
      match skipSpacing rest with
      | ']' :: after => .ok (.list [], after)
      | items => do
        let (values, after) ← scanItems fuel items
        return (.list values, after)
    | '{' :: rest =>
      match skipSpacing rest with
      | '}' :: after => .ok (.obj [], after)
      | members => do
        let (pairs, after) ← scanMembers fuel [] members
        return (.obj pairs, after)
    | cs =>
      match constant? cs with
      | some read => .ok read
      | none =>
        match number? cs with
        | some read => read
        | none => failAt .expectingValue cs

/-- Reads the items of a list that has at least one, up to its closing bracket. -/
def scanItems : Nat → List Char → Except ScanFault (List Json × List Char)
  | 0, cs => failAt .expectingValue cs
  | fuel + 1, cs => do
    let (value, after) ← scanValue fuel cs
    match skipSpacing after with
    | ']' :: rest => return ([value], rest)
    | ',' :: rest =>
      let (values, rest) ← scanItems fuel (skipSpacing rest)
      return (value :: values, rest)
    | rest => failAt .expectingComma rest

/-- Reads the members of an object that has at least one, up to its closing brace. -/
def scanMembers :
    Nat → List (String × Json) → List Char → Except ScanFault (List (String × Json) × List Char)
  | 0, _, cs => failAt .expectingValue cs
  | fuel + 1, members, cs =>
    match cs with
    | '"' :: rest => do
      let (key, after) ← scanString lone cs.length rest
      match skipSpacing after with
      | ':' :: rest =>
        let (value, after) ← scanValue fuel (skipSpacing rest)
        let members := setMember (String.ofList key) value members
        match skipSpacing after with
        | '}' :: rest => return (members, rest)
        | ',' :: rest => scanMembers fuel members (skipSpacing rest)
        | rest => failAt .expectingComma rest
      | rest => failAt .expectingColon rest
    | cs => failAt .expectingKey cs

end

/-- Reads a whole document. Each read takes a character or leads at once to one that does, so twice
the length of the text is fuel enough. -/
def scanDocument (cs : List Char) : Except ScanFault (Json × List Char) := do
  match cs with
  | '\ufeff' :: _ => failAt .byteOrderMark cs
  | _ =>
    let (value, after) ← scanValue lone (2 * cs.length + 2) (skipSpacing cs)
    match skipSpacing after with
    | [] => return (value, [])
    | rest => failAt .extraData rest

/-- The value that a text holds, with `lone` for halves of pairs that stand on their own. -/
def parseWith (text : String) : Except ReadFailure Json :=
  let cs := text.toList
  match scanDocument lone cs with
  | .ok (value, _) => .ok value
  | .error (.malformed fault remaining) =>
    .error (.malformed (.locate fault cs (cs.length - remaining)))
  | .error (.tooManyDigits digits) => .error (.tooManyDigits digits)

/-- The value that a text holds. U+FFFD is read for half a pair on its own. -/
def parse (text : String) : Except ReadFailure Json := parseWith (fun _ ↦ '\ufffd') text

/-- Whether nothing is lost in reading a text: no matter what is read for halves of pairs that stand
on their own, what it holds is the same. -/
def Lossless (text : String) : Prop := ∀ lone : Nat → Char, parseWith lone text = parse text

end Flowcheck.Json

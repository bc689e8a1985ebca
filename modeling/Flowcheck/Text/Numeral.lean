import Flowcheck.Text.Blank

/-!
# Numerals

An integer written by hand: an optional sign, then decimal digits with single underscores between
them, blanks around the whole. Any decimal digit of Unicode serves, also mixed with others. The
digits of a script are ten consecutive code points, so the table holds each script's zero only.
-/

namespace Flowcheck.Text

/-! ## Digits -/

/-- The code points of the decimal digits zero, in ascending order. -/
def zeroDigits : List Nat :=
  [0x30, 0x660, 0x6f0, 0x7c0, 0x966, 0x9e6, 0xa66, 0xae6, 0xb66, 0xbe6, 0xc66, 0xce6, 0xd66,
   0xde6, 0xe50, 0xed0, 0xf20, 0x1040, 0x1090, 0x17e0, 0x1810, 0x1946, 0x19d0, 0x1a80, 0x1a90,
   0x1b50, 0x1bb0, 0x1c40, 0x1c50, 0xa620, 0xa8d0, 0xa900, 0xa9d0, 0xa9f0, 0xaa50, 0xabf0,
   0xff10, 0x104a0, 0x10d30, 0x11066, 0x110f0, 0x11136, 0x111d0, 0x112f0, 0x11450, 0x114d0,
   0x11650, 0x116c0, 0x11730, 0x118e0, 0x11950, 0x11c50, 0x11d50, 0x11da0, 0x16a60, 0x16ac0,
   0x16b50, 0x1d7ce, 0x1d7d8, 0x1d7e2, 0x1d7ec, 0x1d7f6, 0x1e140, 0x1e2f0, 0x1e950, 0x1fbf0]

/-- The value of a decimal digit of any script. -/
def digitValue? (c : Char) : Option Nat :=
  (zeroDigits.find? fun base ↦ base ≤ c.toNat && c.toNat < base + 10).map (c.toNat - ·)

theorem digitValue?_lt {c : Char} {d : Nat} (h : digitValue? c = some d) : d < 10 := by
  obtain ⟨base, found, rfl⟩ := Option.map_eq_some_iff.1 h
  have := List.find?_some found
  simp only [Bool.and_eq_true, decide_eq_true_eq] at this
  omega

/-! ## Reading -/

/-- A numeral longer than this is refused, whatever its value. -/
def maxNumeralDigits : Nat := 4300

/-- What is said of a numeral with so many digits. -/
def tooManyDigits (digits : Nat) : String :=
  s!"Exceeds the limit ({maxNumeralDigits} digits) for integer string conversion: " ++
    s!"value has {digits} digits; use sys.set_int_max_str_digits() to increase the limit"

/-- The blanks that may surround a numeral: all but the four ASCII separators. -/
def isNumeralPadding (c : Char) : Bool :=
  isBlank c && !(0x1c ≤ c.toNat && c.toNat ≤ 0x1f)

/-- Appends the digits of `cs` to `value`; `afterDigit` says whether an underscore or the end may
come next. The result also counts the digits. -/
def readDigits? (value count : Nat) (afterDigit : Bool) : List Char → Option (Nat × Nat)
  | [] => if afterDigit then some (value, count) else none
  | c :: rest =>
    if c = '_' then
      if afterDigit then readDigits? value count false rest else none
    else
      match digitValue? c with
      | some d => readDigits? (value * 10 + d) (count + 1) true rest
      | none => none

/-- The number that an unsigned numeral denotes. -/
def readNatural? (cs : List Char) : Option Nat := do
  let (value, count) ← readDigits? 0 0 false cs
  if count ≤ maxNumeralDigits then some value else none

/-- The number that a numeral with an optional sign and surrounding blanks denotes. -/
def readInteger? (s : String) : Option Int :=
  let cs := s.toList.dropWhile isNumeralPadding
  let cs := (cs.reverse.dropWhile isNumeralPadding).reverse
  match cs with
  | '-' :: digits => (readNatural? digits).map fun n ↦ -(n : Int)
  | '+' :: digits => (readNatural? digits).map Int.ofNat
  | digits => (readNatural? digits).map Int.ofNat

end Flowcheck.Text

/-!
# Binary floating point values

The 64-bit format of binary floating point, as exact numbers: a finite value is a sign, a natural
mantissa and a power of two. Nothing here computes in floating point. Reading a decimal rounds an
exact quotient to the nearest value of the format, ties to the even mantissa, so that the result
can be reasoned about in `Nat`.
-/

namespace Flowcheck.Decimal

/-- A value of the format. A finite one stands for `mantissa · 2 ^ exponent`; the sign of a zero
is kept. -/
inductive Binary64 where
  | nan
  | infinite (negative : Bool)
  | finite (negative : Bool) (mantissa : Nat) (exponent : Int)
  deriving DecidableEq, Repr

namespace Binary64

/-! ## Powers -/

/-- The power of two with an exponent. -/
def twoTo (n : Nat) : Nat := Nat.pow 2 n

/-- The power of ten with an exponent. -/
def tenTo (n : Nat) : Nat := Nat.pow 10 n

/-! ## The format -/

/-- Mantissas stay below this bound, and reach half of it unless the exponent is least. -/
def mantissaBound : Nat := twoTo 53

/-- The exponent of the smallest positive value. -/
def minExponent : Int := -1074

/-- The exponent of the largest finite values. -/
def maxExponent : Int := 971

/-! ## Rounding -/

/-- The natural number nearest to `num / den`; a half goes to the even neighbour. -/
def roundHalfEven (num den : Nat) : Nat :=
  let quotient := num / den
  let twice := 2 * (num % den)
  if twice < den ∨ (twice = den ∧ quotient % 2 = 0) then quotient else quotient + 1

theorem roundHalfEven_of_dvd {num den : Nat} (pos : 0 < den) (h : den ∣ num) :
    roundHalfEven num den = num / den := by
  simp [roundHalfEven, Nat.mod_eq_zero_of_dvd h, pos]

/-- The power of two by which a positive `num / den` is scaled before it is rounded. -/
def scaleExponent (num den : Nat) : Int :=
  let guess : Int := (num.log2 : Int) - den.log2 - 52
  let reached :=
    if 0 ≤ guess + 52 then den * twoTo (guess + 52).toNat ≤ num
    else den ≤ num * twoTo (-(guess + 52)).toNat
  max (if reached then guess else guess - 1) minExponent

/-- The value nearest to the positive quotient `num / den`. -/
def ofQuotient (negative : Bool) (num den : Nat) : Binary64 :=
  let q := scaleExponent num den
  let m := if 0 ≤ q then roundHalfEven num (den * twoTo q.toNat)
    else roundHalfEven (num * twoTo (-q).toNat) den
  -- Rounding up can reach the bound, which is the least mantissa of the next exponent doubled.
  let (m, q) := if m = mantissaBound then (m / 2, q + 1) else (m, q)
  if maxExponent < q then infinite negative else finite negative m q

/-- The value nearest to `± digits · 10 ^ exponent`. Far outside the range of the format the answer
is known from the number of digits, and no power of ten is built. -/
def ofDecimal (negative : Bool) (digits : Nat) (exponent : Int) : Binary64 :=
  let size := (Nat.toDigits 10 digits).length + exponent
  if digits = 0 ∨ size < -400 then finite negative 0 minExponent
  else if 400 < size then infinite negative
  else if 0 ≤ exponent then ofQuotient negative (digits * tenTo exponent.toNat) 1
  else ofQuotient negative digits (tenTo (-exponent).toNat)

end Binary64

end Flowcheck.Decimal

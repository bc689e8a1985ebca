import Flowcheck.Decimal.Binary64

/-!
# The shortest decimal of a binary value

Of all decimals that round to a given binary value the one with the fewest digits is its text, and
among several with that number of digits the one nearest to the value. Every candidate with `n`
digits that lies in the value's rounding interval has one of the value's two neighbours on the grid
of `n`-digit decimals in the interval too, so only those two are tried.
-/

namespace Flowcheck.Decimal

/-- A positive decimal: `digits · 10 ^ exponent`. -/
structure Scientific where
  digits : Nat
  exponent : Int
  deriving DecidableEq, Repr

namespace Binary64

/-! ## The rounding interval -/

/-- A positive value with the ends of its rounding interval, as fractions over one denominator. The
ends belong to the interval when the mantissa is even. -/
structure Interval where
  low : Nat
  value : Nat
  high : Nat
  denominator : Nat
  closed : Bool

/-- The interval of the value `mantissa · 2 ^ exponent`. Below a power of two the neighbour is
nearer, except at the least exponent. -/
def interval (mantissa : Nat) (exponent : Int) : Interval :=
  let below := if mantissa = mantissaBound / 2 ∧ minExponent < exponent then 1 else 2
  let up := twoTo (exponent - 2).toNat
  let down := twoTo (2 - exponent).toNat
  ⟨(4 * mantissa - below) * up, 4 * mantissa * up, (4 * mantissa + 2) * up, down,
    mantissa % 2 = 0⟩

/-- Whether `num / den` lies in the interval. -/
def Interval.contains (i : Interval) (num den : Nat) : Bool :=
  let n := num * i.denominator
  if i.closed then i.low * den ≤ n && n ≤ i.high * den else i.low * den < n && n < i.high * den

/-! ## Candidates -/

/-- The decimal on the grid of multiples of `10 ^ exponent` that is in the interval and nearest to
the value, if there is one; of two equally near the one with the even last digit. -/
def Interval.onGrid? (i : Interval) (exponent : Int) : Option Scientific :=
  let up := tenTo exponent.toNat
  let down := tenTo (-exponent).toNat
  let num := i.value * down
  let den := i.denominator * up
  let floor := num / den
  let twice := 2 * (num % den)
  let lower := i.contains (floor * up) down
  let upper := i.contains ((floor + 1) * up) down
  let preferLower : Bool := twice < den || (twice == den && floor % 2 == 0)
  if lower && (preferLower || !upper) then some ⟨floor, exponent⟩
  else if upper then some ⟨floor + 1, exponent⟩
  else none

/-- The least `k` with `value < 10 ^ k`: a guess from the binary logarithm, corrected. -/
def Interval.magnitude (i : Interval) (binaryLog : Int) : Int :=
  -- The fraction is log₁₀ 2 to eight places, so the least `k` is one of the four values below.
  let guess := binaryLog * 30103 / 100000
  let exceeds (k : Int) : Bool :=
    i.value * tenTo (-k).toNat < i.denominator * tenTo k.toNat
  (([guess - 1, guess, guess + 1].find? exceeds).getD (guess + 2))

/-- The shortest decimal that rounds to the positive value `mantissa · 2 ^ exponent`. Seventeen
digits always suffice. -/
def shortest (mantissa : Nat) (exponent : Int) : Scientific :=
  let i := interval mantissa exponent
  let k := i.magnitude (mantissa.log2 + exponent)
  ((List.range 17).findSome? fun (n : Nat) ↦ i.onGrid? (k - (n : Int) - 1)).getD ⟨mantissa, exponent⟩

/-! ## Text -/

/-- Between `10⁻⁴` and `10¹⁶` the text is positional with at least one digit after the point;
elsewhere it has an exponent of at least two digits with its sign. -/
def positionalText (digits : List Char) (point : Int) : String :=
  let size : Int := digits.length
  String.ofList <|
    if point ≤ 0 then '0' :: '.' :: (List.replicate (-point).toNat '0' ++ digits)
    else if size ≤ point then digits ++ List.replicate (point - size).toNat '0' ++ ['.', '0']
    else digits.take point.toNat ++ '.' :: digits.drop point.toNat

/-- The text with an exponent. -/
def exponentText (digits : List Char) (point : Int) : String :=
  let exponent := point - 1
  let size := toString exponent.natAbs
  let size := if exponent.natAbs < 10 then "0" ++ size else size
  let tail := match digits with
    | [] => []
    | [d] => [d]
    | d :: more => d :: '.' :: more
  String.ofList tail ++ (if exponent < 0 then "e-" else "e+") ++ size

/-- The digits of a decimal without the zeros at their end, and the place of the point in front of
which they stand. -/
def Scientific.significant (d : Scientific) : List Char × Int :=
  let digits := Nat.toDigits 10 d.digits
  ((digits.reverse.dropWhile (· = '0')).reverse, d.exponent + digits.length)

/-- The text of a finite value. -/
def finiteText (negative : Bool) (mantissa : Nat) (exponent : Int) : String :=
  let sign := if negative then "-" else ""
  if mantissa = 0 then sign ++ "0.0"
  else
    let (digits, point) := Scientific.significant (shortest mantissa exponent)
    sign ++ (if -4 < point ∧ point ≤ 16 then positionalText digits point
      else exponentText digits point)

end Binary64

end Flowcheck.Decimal

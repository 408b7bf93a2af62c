/-!
# Numbers in double precision

A `Double` is a sign, a mantissa below 2^53 and a binary exponent, an infinity, or no number.
`ofDecimal` reads a decimal to the nearest double, the even one of two that are equally near, and
`shortest` finds the fewest decimal digits that are read back to the same double.
-/

namespace Advisor

/-- A number in double precision; a finite one is ± mantissa · 2^exponent. -/
inductive Double where
  | finite (negative : Bool) (mantissa : Nat) (exponent : Int)
  | infinite (negative : Bool)
  | nan
  deriving DecidableEq, Inhabited

namespace Double

/-- The least exponent of a double. -/
def minExponent : Int := -1074

/-- The greatest exponent of a double. -/
def maxExponent : Int := 971

/-- A power of two; a negative exponent counts as none. -/
def twoTo (k : Int) : Nat := Nat.pow 2 k.toNat

/-- A power of ten; a negative exponent counts as none. -/
def tenTo (k : Int) : Nat := Nat.pow 10 k.toNat

/-- `n * 2^k / (d * 2^-k)`: numerator and denominator after a shift by a signed amount. -/
def shift (n d : Nat) (k : Int) : Nat × Nat :=
  if 0 ≤ k then (n * twoTo k, d) else (n, d * twoTo (-k))

/-- The nearest integer to a quotient, the even one of two. -/
def roundHalfEven (n d : Nat) : Nat :=
  let q := n / d
  let r := n % d
  if 2 * r < d then q else if d < 2 * r then q + 1 else if q % 2 = 0 then q else q + 1

/-- The double nearest to a positive quotient. -/
def ofQuotient (negative : Bool) (n d : Nat) : Double :=
  -- the quotient lies strictly between 2^(guess + 51) and 2^(guess + 54)
  let guess : Int := (Nat.log2 n : Int) - Nat.log2 d - 52
  let (a, b) := shift n d (-guess)
  let exact := if a / b < twoTo 52 then guess - 1 else if a / b < twoTo 53 then guess else guess + 1
  let e := max exact minExponent
  let (a, b) := shift n d (-e)
  let m := roundHalfEven a b
  let (m, e) := if m = twoTo 53 then (twoTo 52, e + 1) else (m, e)
  if maxExponent < e then .infinite negative else .finite negative m e

/-- The double nearest to ± digits · 10^exponent. Exponents far outside the range of doubles are
answered without computing the power. -/
def ofDecimal (negative : Bool) (digits : Nat) (exponent : Int) : Double :=
  if digits = 0 then .finite negative 0 0
  else
    let magnitude : Int := (Nat.log2 digits : Int) * 3 / 10 + exponent
    if 400 < magnitude then .infinite negative
    else if magnitude < -400 then .finite negative 0 0
    else if 0 ≤ exponent then ofQuotient negative (digits * tenTo exponent) 1
    else ofQuotient negative digits (tenTo (-exponent))

/-! ## Comparisons -/

/-- Whether a number is negative; minus zero is not. -/
def isNegative : Double → Bool
  | finite negative m _ => negative && m != 0
  | infinite negative => negative
  | nan => false

/-- Whether a number is a zero. -/
def isZero : Double → Bool
  | finite _ m _ => m == 0
  | _ => false

/-- Whether a number is below a natural number. -/
def ltNat (x : Double) (n : Nat) : Bool :=
  match x with
  | finite true m _ => m != 0 || 0 < n
  | finite false m e => let (a, b) := shift m 1 e; a < n * b
  | infinite negative => negative
  | nan => false

/-- The integer part, toward zero. -/
def truncate? : Double → Option Int
  | finite negative m e =>
    let (a, b) := shift m 1 e
    let n : Int := (a / b : Nat)
    some (if negative then -n else n)
  | _ => none

/-- Whether two numbers are equal. Both zeros are, and nothing equals no number. -/
def same : Double → Double → Bool
  | finite s m e, finite t n f =>
    let (a, b) := shift m 1 e
    let (c, d) := shift n 1 f
    a * d == c * b && (s == t || a == 0)
  | infinite s, infinite t => s == t
  | _, _ => false

/-- Whether a number is a given integer. -/
def isInt (x : Double) (i : Int) : Bool :=
  match x with
  | finite negative m e =>
    let (a, b) := shift m 1 e
    a == i.natAbs * b && (a == 0 || negative == decide (i < 0))
  | _ => false

/-! ## Shortest decimals -/

/-- The number of decimal digits of a number. -/
def digitCount (n : Nat) : Nat := (Nat.toDigits 10 n).length

/-- How many digits the integer part of a positive quotient has; below 1, zero or minus the number of
zeros behind the point. -/
def scale (n d : Nat) : Int :=
  -- the first guess is right or one too small
  let guess : Int := (digitCount n : Int) - digitCount d
  let reaches : Bool := if 0 ≤ guess then d * tenTo guess ≤ n else d ≤ n * tenTo (-guess)
  if reaches then guess + 1 else guess

/-- Digits and a decimal exponent: the value is digits · 10^exponent. -/
structure Digits where
  digits : Nat
  exponent : Int
  deriving DecidableEq, Inhabited

/-- The fewest digits that name the double mantissa · 2^exponent, of these the nearest. A decimal
names it if it lies within half the distance to its neighbours; the ends count if the mantissa is
even. -/
def shortest (mantissa : Nat) (exponent : Int) : Digits := Id.run do
  -- in units of 2^(exponent - 2), the double is 4 · mantissa
  let (value, unit) := shift (4 * mantissa) 1 (exponent - 2)
  let scaled (k : Nat) : Nat := (shift k 1 (exponent - 2)).1
  let below := if mantissa = twoTo 52 && minExponent < exponent then 1 else 2
  let low := scaled (4 * mantissa - below)
  let high := scaled (4 * mantissa + 2)
  let closed := mantissa % 2 = 0
  let size := scale value unit
  for count in [1:18] do
    -- the two neighbours of the value among the decimals with `count` digits
    let power : Int := size - count
    let (n, d) := if 0 ≤ power then (value, unit * tenTo power) else (value * tenTo (-power), unit)
    let floor := n / d
    let names (k : Nat) : Bool :=
      let (a, b) := if 0 ≤ power then (k * tenTo power * unit, 1)
        else (k * unit, tenTo (-power))
      if closed then low * b ≤ a && a ≤ high * b else low * b < a && a < high * b
    let under := names floor
    let above := names (floor + 1)
    if under && above then
      let r := n % d
      let up := if 2 * r = d then floor % 2 = 1 else d < 2 * r
      return ⟨if up then floor + 1 else floor, power⟩
    if under then return ⟨floor, power⟩
    if above then return ⟨floor + 1, power⟩
  return ⟨mantissa, 0⟩

/-- Writes digits with a point or, for very large and very small numbers, with an exponent of at least
two places. -/
def layout (d : Digits) : String :=
  let ds := (Nat.toDigits 10 d.digits).reverse.dropWhile (· == '0') |>.reverse
  let ds := if ds.isEmpty then ['0'] else ds
  let dropped := (Nat.toDigits 10 d.digits).length - ds.length
  -- the point stands behind `point` digits
  let point : Int := ds.length + dropped + d.exponent
  if -4 < point && point ≤ 16 then
    if point ≤ 0 then String.ofList ('0' :: '.' :: List.replicate (-point).toNat '0' ++ ds)
    else
      let whole := ds.take point.toNat
      let whole := whole ++ List.replicate (point.toNat - whole.length) '0'
      let rest := ds.drop point.toNat
      String.ofList (whole ++ '.' :: (if rest.isEmpty then ['0'] else rest))
  else
    let e := point - 1
    let exp := Nat.toDigits 10 e.natAbs
    let exp := if exp.length < 2 then '0' :: exp else exp
    let head := match ds with
      | c :: [] => [c]
      | c :: rest => c :: '.' :: rest
      | [] => []
    String.ofList (head ++ 'e' :: (if e < 0 then '-' else '+') :: exp)

/-- The text of a number. -/
def text : Double → String
  | finite negative m e =>
    let body := if m = 0 then "0.0" else layout (shortest m e)
    if negative then "-" ++ body else body
  | infinite negative => if negative then "-inf" else "inf"
  | nan => "nan"

end Double

end Advisor

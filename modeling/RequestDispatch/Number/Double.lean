/-!
# Binary floating point of 64 bits

A finite double is a sign, a whole mantissa and a power of two, so every operation here is exact
arithmetic on `Nat` followed by one rounding, `Double.ofRatio`, to the nearest double (a half
goes to the even mantissa). `Double.shortest` finds the fewest decimal digits that read back as
the same double.
-/

set_option autoImplicit false

namespace RequestDispatch.Number

/-- A double: `mantissa · 2 ^ exponent` with its sign, an infinity, or no number.
Finite values built by `Double.ofRatio` have `mantissa < 2 ^ 53` and `-1074 ≤ exponent`. -/
inductive Double where
  | finite (negative : Bool) (mantissa : Nat) (exponent : Int)
  | infinite (negative : Bool)
  | nan
  deriving DecidableEq, Repr, Inhabited

namespace Double

/-- The number of binary digits of the mantissa. -/
def precision : Nat := 53

/-- The exponent of the smallest positive double. -/
def minExponent : Int := -1074

/-- The exponent of the largest doubles. -/
def maxExponent : Int := 971

def zero (negative : Bool) : Double := .finite negative 0 minExponent

/-- The quotient rounded to the nearest whole number, a half to the even one. -/
def roundDiv (num den : Nat) : Nat :=
  let q := num / den
  let r := num % den
  if 2 * r < den then q else if den < 2 * r then q + 1 else q + q % 2

/-- `2 ^ e` as a fraction. -/
def scale (e : Int) : Nat × Nat :=
  if 0 ≤ e then (1 <<< e.toNat, 1) else (1, 1 <<< (-e).toNat)

/-- The double nearest to a positive fraction. -/
def ofRatio (negative : Bool) (num den : Nat) : Double :=
  if num == 0 || den == 0 then zero negative
  else
    -- `2 ^ (guess - 1) < num / den < 2 ^ (guess + 1)`
    let guess : Int := (num.log2 : Int) - den.log2
    let round (e : Int) : Nat :=
      let (up, down) := scale e
      roundDiv (num * down) (den * up)
    let finish (e : Int) : Double :=
      let m := round e
      let (m, e) := if m == 1 <<< precision then (1 <<< (precision - 1), e + 1) else (m, e)
      if maxExponent < e then .infinite negative else .finite negative m e
    -- the exponent at which the mantissa has 53 digits, if it is not too small
    let (up, down) := scale (guess - 52)
    let e := if num * down < (den * up) <<< 52 then guess - 53 else guess - 52
    finish (max e minExponent)

/-- The double nearest to a whole number. -/
def ofNat (n : Nat) : Double := ofRatio false n 1

def ofInt (n : Int) : Double := ofRatio (n < 0) n.natAbs 1

/-- The double nearest to `digits · 10 ^ exponent`. -/
def ofDecimal (negative : Bool) (digits : Nat) (exponent : Int) : Double :=
  if 0 ≤ exponent then ofRatio negative (digits * Nat.pow 10 exponent.toNat) 1
  else ofRatio negative digits (Nat.pow 10 (-exponent).toNat)

/-- The exact value of a finite double without its sign, as a fraction. -/
def ratio (mantissa : Nat) (exponent : Int) : Nat × Nat :=
  let (up, down) := scale exponent
  (mantissa * up, down)

def isNegative : Double → Bool
  | .finite n _ _ => n
  | .infinite n => n
  | .nan => false

def isZero : Double → Bool
  | .finite _ m _ => m == 0
  | _ => false

def neg : Double → Double
  | .finite n m e => .finite (!n) m e
  | .infinite n => .infinite (!n)
  | .nan => .nan

/-- The rounded product. -/
def mul : Double → Double → Double
  | .finite n m e, .finite n' m' e' =>
    let (a, b) := ratio m e
    let (c, d) := ratio m' e'
    ofRatio (n != n') (a * c) (b * d)
  | .finite n m _, .infinite n' | .infinite n, .finite n' m _ =>
    if m == 0 then .nan else .infinite (n != n')
  | .infinite n, .infinite n' => .infinite (n != n')
  | _, _ => .nan

/-- The rounded quotient. -/
def div : Double → Double → Double
  | .finite n m e, .finite n' m' e' =>
    if m' == 0 then (if m == 0 then .nan else .infinite (n != n'))
    else
      let (a, b) := ratio m e
      let (c, d) := ratio m' e'
      ofRatio (n != n') (a * d) (b * c)
  | .finite n _ _, .infinite n' => zero (n != n')
  | .infinite n, .finite n' _ _ => .infinite (n != n')
  | _, _ => .nan

/-! ## Shortest digits -/

/-- The number of decimal digits of a whole number, none for zero. -/
def digitCount (n : Nat) : Nat :=
  if n == 0 then 0 else (Nat.toDigits 10 n).length

/-- The greatest `k` with `10 ^ k ≤ num / den`, for a positive fraction. -/
def decimalExponent (num den : Nat) : Int :=
  if den ≤ num then (digitCount (num / den) : Int) - 1
  else -(digitCount ((den + num - 1) / num - 1) : Int)

/-- `10 ^ e` as a fraction. -/
def decimalScale (e : Int) : Nat × Nat :=
  if 0 ≤ e then (Nat.pow 10 e.toNat, 1) else (1, Nat.pow 10 (-e).toNat)

/-- The reals that round to a double: a fraction `low .. high` over one denominator. -/
structure Interval where
  low : Nat
  value : Nat
  high : Nat
  den : Nat
  closed : Bool

/-- The interval of a positive finite double. Below a power of two the neighbour is only half
as far, so the interval ends earlier there. -/
def interval (m : Nat) (e : Int) : Interval :=
  let (up, down) := scale (e - 2)
  let below := if m == 1 <<< (precision - 1) && minExponent < e then 1 else 2
  { low := (4 * m - below) * up, value := 4 * m * up, high := (4 * m + 2) * up, den := down,
    closed := m % 2 == 0 }

def Interval.contains (i : Interval) (num den : Nat) : Bool :=
  let n := num * i.den
  if i.closed then i.low * den ≤ n && n ≤ i.high * den else i.low * den < n && n < i.high * den

/-- The nearest multiple of `10 ^ p` to a double that rounds to it, as its factor. -/
def Interval.onGrid? (i : Interval) (p : Int) : Option Nat :=
  let (up, down) := decimalScale p
  let num := i.value * down
  let den := i.den * up
  let below := num / den
  let above := below + 1
  let hit (n : Nat) := i.contains (n * up) down
  let nearerBelow := 2 * (num % den) < den || (2 * (num % den) == den && below % 2 == 0)
  match hit below, hit above with
  | true, true => some (if nearerBelow then below else above)
  | true, false => some below
  | false, true => some above
  | false, false => none

/-- The first grid, from `n` digits on, that holds a number of the interval. -/
def Interval.search (i : Interval) (top : Int) : (fuel n : Nat) → Nat × Int
  | 0, n => (i.value / i.den, n)
  | fuel + 1, n =>
    let p := top - (n : Int) + 1
    match i.onGrid? p with
    | some digits => (digits, p)
    | none => i.search top fuel (n + 1)

/-- Removes trailing zeros of a factor of a power of ten. -/
def dropZeros : (fuel : Nat) → Nat → Int → Nat × Int
  | 0, n, p => (n, p)
  | fuel + 1, n, p => if n != 0 && n % 10 == 0 then dropZeros fuel (n / 10) (p + 1) else (n, p)

/-- The fewest digits that read back as the double `m · 2 ^ e` for `m ≠ 0`, as a whole number
and a power of ten. -/
def shortest (m : Nat) (e : Int) : Nat × Int :=
  let i := interval m e
  let (digits, p) := i.search (decimalExponent i.value i.den) 18 1
  dropZeros 400 digits p

end Double

/-! ## Written forms -/

/-- Which decimal exponents are written positionally. -/
structure DoubleFormat where
  positionalFrom : Int
  positionalTo : Int

/-- Structured text writes exponents -5 to 15 positionally. -/
def DoubleFormat.structured : DoubleFormat := ⟨-5, 15⟩

/-- Plain text writes every finite number positionally. -/
def DoubleFormat.plain : DoubleFormat := ⟨-400, 400⟩

/-- The digits `ds · 10 ^ p` with a decimal point and at least one digit on each side of it. -/
def positional (ds : List Char) (p : Int) : List Char :=
  if 0 ≤ p then ds ++ List.replicate p.toNat '0' ++ ['.', '0']
  else
    let k := (-p).toNat
    if k < ds.length then ds.take (ds.length - k) ++ ['.'] ++ ds.drop (ds.length - k)
    else ['0', '.'] ++ List.replicate (k - ds.length) '0' ++ ds

/-- The digits with a point after the first and the exponent with its sign. -/
def scientific (ds : List Char) (e : Int) : List Char :=
  ds.take 1 ++ (if ds.length == 1 then [] else '.' :: ds.drop 1) ++ ['e'] ++
    (if e < 0 then ['-'] else ['+']) ++ (toString e.natAbs).toList

/-- The text of a double, or none for an infinity and for no number. -/
def Double.write? (fmt : DoubleFormat) : Double → Option String
  | .finite negative m e =>
    let body :=
      if m == 0 then ['0', '.', '0']
      else
        let (digits, p) := Double.shortest m e
        let ds := (toString digits).toList
        let exponent := p + ds.length - 1
        if fmt.positionalFrom ≤ exponent && exponent ≤ fmt.positionalTo then positional ds p
        else scientific ds exponent
    some (String.ofList (if negative then '-' :: body else body))
  | _ => none

end RequestDispatch.Number

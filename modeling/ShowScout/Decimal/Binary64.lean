/-!
# Binary floating point numbers

Finite numbers of 64 bits as exact values, rounding to the nearest of them, and the shortest decimal
digits that identify one. All of it is integer arithmetic.
-/

namespace ShowScout

/--
A finite number `± mantissa * 2 ^ exponent`. The mantissa has at most 53 bits; it has fewer only at
the least exponent, so every number has one representation.
-/
structure Binary64 where
  negative : Bool
  mantissa : Nat
  exponent : Int
deriving DecidableEq, Repr, Inhabited

namespace Binary64

def mantissaBits : Nat := 53
def leastExponent : Int := -1074
def greatestExponent : Int := 971

def zero (negative : Bool) : Binary64 :=
  { negative, mantissa := 0, exponent := leastExponent }

def isZero (x : Binary64) : Bool := x.mantissa == 0

/-! ## Rounding -/

/-- The quotient rounded to the nearest integer, half-way cases to the even one. -/
def roundQuotient (num den : Nat) : Nat :=
  let (q, r) := (num / den, num % den)
  if 2 * r < den then q
  else if den < 2 * r then q + 1
  else if q % 2 = 0 then q
  else q + 1

/-- A fraction multiplied by a power of two, as numerator and denominator. -/
def scaleByPower (num den : Nat) (power : Int) : Nat × Nat :=
  if 0 ≤ power then (num * Nat.pow 2 power.toNat, den)
  else (num, den * Nat.pow 2 (-power).toNat)

/-- The number nearest to a fraction, or none if it is too large. The denominator is positive. -/
def ofRatio (negative : Bool) (num den : Nat) : Option Binary64 :=
  if num = 0 then some (zero negative)
  else
    let guess : Int := (num.log2 : Int) - den.log2 - mantissaBits
    let exponentFor (e : Int) : Int := max e leastExponent
    let (n, d) := scaleByPower num den (-exponentFor guess)
    let exponent :=
      if n / d < Nat.pow 2 mantissaBits then exponentFor guess else exponentFor guess + 1
    let (n, d) := scaleByPower num den (-exponent)
    let rounded := roundQuotient n d
    let (mantissa, exponent) :=
      if rounded = Nat.pow 2 mantissaBits then (Nat.pow 2 (mantissaBits - 1), exponent + 1)
      else (rounded, exponent)
    if greatestExponent < exponent then none else some { negative, mantissa, exponent }

/-- The absolute value as a fraction. -/
def ratio (x : Binary64) : Nat × Nat :=
  scaleByPower x.mantissa 1 x.exponent

def ofNat (n : Nat) : Option Binary64 := ofRatio false n 1

def mul (x y : Binary64) : Option Binary64 :=
  let ((a, b), (c, d)) := (x.ratio, y.ratio)
  ofRatio (x.negative != y.negative) (a * c) (b * d)

/-- The quotient by a number that is not zero. -/
def div (x y : Binary64) : Option Binary64 :=
  let ((a, b), (c, d)) := (x.ratio, y.ratio)
  ofRatio (x.negative != y.negative) (a * d) (b * c)

/-! ## Shortest decimal digits -/

/-- The numbers that round to a given one, as an interval of fractions over one denominator. -/
structure Neighbourhood where
  low : Nat
  value : Nat
  high : Nat
  den : Nat
  /-- Whether the ends themselves round to the number. -/
  closed : Bool

/--
Half-way to either neighbour; the ends belong to the interval if the mantissa is even. Below a power
of two the neighbour is only half as far away.
-/
def neighbourhood (x : Binary64) : Neighbourhood :=
  let isPower := x.mantissa == Nat.pow 2 (mantissaBits - 1) && leastExponent < x.exponent
  let (value, den) := scaleByPower (4 * x.mantissa) 4 x.exponent
  let (unit, _) := scaleByPower 1 4 x.exponent
  { low := value - (if isPower then unit else 2 * unit)
    value
    high := value + 2 * unit
    den
    closed := x.mantissa % 2 == 0 }

/-- Multiplies a fraction by a power of ten. -/
def scaleByTen (num den : Nat) (power : Int) : Nat × Nat :=
  if 0 ≤ power then (num * Nat.pow 10 power.toNat, den)
  else (num, den * Nat.pow 10 (-power).toNat)

/-- How often a fraction has to be multiplied by ten to reach one; at most `fuel` times. -/
def tensToOne (den : Nat) : (fuel : Nat) → (num : Nat) → Nat
  | 0, _ => 0
  | fuel + 1, num => if den ≤ num then 0 else tensToOne den fuel (num * 10) + 1

/-- The power of ten of the leading digit of a positive fraction. -/
def leadingPower (num den : Nat) : Int :=
  if den ≤ num then ((Nat.toDigits 10 (num / den)).length : Int) - 1
  else -(tensToOne den (den.log2 + 1) num : Int)

/--
The multiple of `10 ^ power` that is nearest to the number, as a count of that power, if one of the
two next to the number rounds to it.
-/
def onGrid? (n : Neighbourhood) (power : Int) : Option Nat :=
  let (value, den) := scaleByTen n.value n.den (-power)
  let (low, _) := scaleByTen n.low n.den (-power)
  let (high, _) := scaleByTen n.high n.den (-power)
  let below := value / den
  let above := below + 1
  let belowFits := if n.closed then low ≤ below * den else low < below * den
  let aboveFits := if n.closed then above * den ≤ high else above * den < high
  let nearer := roundQuotient value den
  if belowFits && aboveFits then some nearer
  else if belowFits then some below
  else if aboveFits then some above
  else none

/-- A decimal number `digits * 10 ^ power`. -/
structure Digits where
  digits : Nat
  power : Int
deriving DecidableEq, Repr

/--
Tries grids of `count`, `count + 1`, … digits, the first of which is the coarsest. A number just
below a power of ten may have that power as its nearest multiple.
-/
def shortestFrom (n : Neighbourhood) (lead : Int) : (tries : Nat) → (count : Nat) → Digits
  | 0, _ => ⟨0, 0⟩
  | tries + 1, count =>
    let power := lead - count + 1
    match onGrid? n power with
    | some digits => if digits = Nat.pow 10 count then ⟨1, power + count⟩ else ⟨digits, power⟩
    | none => shortestFrom n lead tries (count + 1)

/-- The fewest decimal digits that identify the absolute value; 17 are always enough. -/
def shortest (x : Binary64) : Digits :=
  if x.isZero then ⟨0, 0⟩
  else
    let n := x.neighbourhood
    shortestFrom n (leadingPower n.value n.den) 17 1

end Binary64

end ShowScout

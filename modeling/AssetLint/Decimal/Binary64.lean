/-!
Double-precision numbers as exact values: a finite one is `mantissa * 2 ^ exponent` with the
exponent as small as the mantissa of at most 53 bits allows, so equal values have equal fields
apart from the sign of zero.
-/
namespace AssetLint

inductive Binary64 where
  | nan
  | infinite (negative : Bool)
  | finite (negative : Bool) (mantissa : Nat) (exponent : Int)
  deriving DecidableEq, Repr

namespace Binary64

def smallestExponent : Int := -1074
def largestExponent : Int := 971

def isZero : Binary64 → Bool
  | finite _ mantissa _ => mantissa = 0
  | _ => false

/-- Equality of values, under which a number that is none equals itself and zeros of both
signs are equal. -/
def same : Binary64 → Binary64 → Bool
  | finite s m q, finite t n r => (m = 0 && n = 0) || (s = t && m = n && q = r)
  | a, b => a = b

/-- The nearest integer to `num / den`, a half going to the even neighbour. -/
def nearestEven (num den : Nat) : Nat :=
  let floor := num / den
  let twice := 2 * (num % den)
  if twice < den then floor
  else if den < twice then floor + 1
  else floor + floor % 2

/-- The fraction `num / (den * 2 ^ shift)` over naturals. -/
def scaled (num den : Nat) (shift : Int) : Nat × Nat :=
  match shift with
  | .ofNat n => (num, den * Nat.pow 2 n)
  | .negSucc n => (num * Nat.pow 2 (n + 1), den)

/-- The double nearest to `num / den`; none when it lies beyond the finite ones. -/
def ofFraction? (negative : Bool) (num den : Nat) : Option Binary64 :=
  if num = 0 then some (finite negative 0 smallestExponent)
  else
    let guess := (num.log2 : Int) - den.log2 - 53
    let wide := scaled num den guess
    let fitting := if Nat.pow 2 53 ≤ wide.1 / wide.2 then guess + 1 else guess
    let exponent := max fitting smallestExponent
    let fraction := scaled num den exponent
    let mantissa := nearestEven fraction.1 fraction.2
    let (mantissa, exponent) :=
      if mantissa = Nat.pow 2 53 then (Nat.pow 2 52, exponent + 1) else (mantissa, exponent)
    if largestExponent < exponent then none else some (finite negative mantissa exponent)

/-- The double nearest to `digits * 10 ^ power`; none when it lies beyond the finite ones. -/
def ofDecimal? (negative : Bool) (digits : Nat) (power : Int) : Option Binary64 :=
  let magnitude := (Nat.toDigits 10 digits).length + power
  if digits = 0 ∨ magnitude < -330 then some (finite negative 0 smallestExponent)
  else if 310 < magnitude then none
  else
    match power with
    | .ofNat n => ofFraction? negative (digits * Nat.pow 10 n) 1
    | .negSucc n => ofFraction? negative digits (Nat.pow 10 (n + 1))

end Binary64
end AssetLint

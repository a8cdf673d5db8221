import AssetLint.Decimal.Binary64

/-!
The fewest decimal digits that read back as a given double, and the layouts in which they are
written. Of the decimal grids, the coarsest that has a point among the reals rounding to the
double is taken, and on it the point nearest to the double.
-/
namespace AssetLint.Decimal

/-- A positive decimal `digits * 10 ^ power`. -/
structure Digits where
  digits : Nat
  power : Int
  deriving DecidableEq, Repr

/-- Reals that round to a double, as fractions over one denominator; the ends belong to it
iff `closed`. -/
structure RoundingInterval where
  low : Nat
  value : Nat
  high : Nat
  den : Nat
  closed : Bool

/-- The neighbour below a power of two is only half as far away as the one above. -/
def RoundingInterval.of (mantissa : Nat) (exponent : Int) : RoundingInterval :=
  let below :=
    if mantissa = Nat.pow 2 52 ∧ exponent ≠ Binary64.smallestExponent then 1 else 2
  let (unit, den) : Nat × Nat :=
    match exponent - 2 with
    | .ofNat n => (Nat.pow 2 n, 1)
    | .negSucc n => (1, Nat.pow 2 (n + 1))
  { low := (4 * mantissa - below) * unit
    value := 4 * mantissa * unit
    high := (4 * mantissa + 2) * unit
    den := den
    closed := mantissa % 2 = 0 }

/-- The point of the grid of multiples of `10 ^ power` in the interval that is nearest to the
value. -/
def RoundingInterval.pointOn? (interval : RoundingInterval) (power : Int) : Option Digits :=
  let (grow, den) : Nat × Nat :=
    match power with
    | .ofNat n => (1, interval.den * Nat.pow 10 n)
    | .negSucc n => (Nat.pow 10 (n + 1), interval.den)
  let inside (n : Nat) : Bool :=
    if interval.closed then interval.low * grow ≤ n * den && n * den ≤ interval.high * grow
    else interval.low * grow < n * den && n * den < interval.high * grow
  let floor := interval.value * grow / den
  let nearest := Binary64.nearestEven (interval.value * grow) den
  let other := if nearest = floor then floor + 1 else floor
  if nearest ≠ 0 ∧ inside nearest then some ⟨nearest, power⟩
  else if other ≠ 0 ∧ inside other then some ⟨other, power⟩
  else none

/-- Digits of a positive finite double. -/
def shortest (mantissa : Nat) (exponent : Int) : Digits :=
  let interval := RoundingInterval.of mantissa exponent
  let grids := (List.range 653).map fun (n : Nat) => 309 - (n : Int)
  (grids.findSome? interval.pointOn?).getD ⟨mantissa, exponent⟩

/-- Where positional notation is used: while the decimal point stands at most `rightmost`
places right of the first digit and at most `leftmost` zeros follow it. Without bounds every
number is positional. -/
structure Layout where
  rightmost : Option Nat
  leftmost : Option Nat

def zeros (n : Nat) : String :=
  String.ofList (List.replicate n '0')

/-- A whole number keeps `.0` in positional notation; an exponent has no plus sign. -/
def Layout.write (layout : Layout) (decimal : Digits) : String :=
  let text := toString decimal.digits
  let point := text.length + decimal.power
  let fits (limit : Option Nat) (n : Int) : Bool :=
    match limit with
    | some bound => n ≤ bound
    | none => true
  if 0 ≤ decimal.power ∧ fits layout.rightmost point then
    text ++ zeros decimal.power.toNat ++ ".0"
  else if 0 < point ∧ fits layout.rightmost point then
    String.ofList (text.toList.take point.toNat) ++ "." ++
      String.ofList (text.toList.drop point.toNat)
  else if point ≤ 0 ∧ fits layout.leftmost (-point) then
    "0." ++ zeros (-point).toNat ++ text
  else
    let fraction := if text.length = 1 then "" else "." ++ String.ofList (text.toList.drop 1)
    String.ofList (text.toList.take 1) ++ fraction ++ "e" ++ toString (point - 1)

def Layout.writeFinite (layout : Layout) (negative : Bool) (mantissa : Nat) (exponent : Int) :
    String :=
  (if negative then "-" else "") ++
    if mantissa = 0 then "0.0" else layout.write (shortest mantissa exponent)

end AssetLint.Decimal

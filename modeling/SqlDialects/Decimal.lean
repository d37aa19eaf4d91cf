/-!
The shortest decimal inside an interval of positive rationals, in exact natural arithmetic. One to
seventeen digits are tried in turn; on the first grid of powers of ten that meets the interval,
the neighbour nearer to the wanted value is taken, and the upper one when both are equally near.
-/

namespace SqlDialects

/-- The number `digits * 10 ^ exponent`. -/
structure Decimal where
  digits : Nat
  exponent : Int
deriving DecidableEq, Repr

namespace Decimal

/-- Three rationals over one denominator: a value and the bounds between which it may move. -/
structure Range where
  lower : Nat
  value : Nat
  upper : Nat
  denominator : Nat
  closed : Bool

def digitCount (number : Nat) : Nat :=
  (Nat.toDigits 10 number).length

/-- The number `scale` with `10 ^ (scale - 1) ≤ value < 10 ^ scale`. -/
def Range.scale (range : Range) : Int :=
  if range.denominator ≤ range.value then digitCount (range.value / range.denominator)
  else 1 - digitCount ((range.denominator - 1) / range.value)

/-- The range in units of `10 ^ exponent`: the unit and the three rationals share a denominator. -/
def Range.inUnits (range : Range) (exponent : Int) : Nat × Range :=
  let grown := Nat.pow 10 (-exponent).toNat
  (range.denominator * Nat.pow 10 exponent.toNat,
    { range with
      lower := range.lower * grown, value := range.value * grown, upper := range.upper * grown })

def Range.holds (range : Range) (number : Nat) : Bool :=
  if range.closed then range.lower ≤ number && number ≤ range.upper
  else range.lower < number && number < range.upper

/-- The nearest multiple of `10 ^ exponent` inside the range, if one of the two neighbours is. -/
def Range.onGrid? (range : Range) (exponent : Int) : Option Decimal :=
  let (unit, scaled) := range.inUnits exponent
  let below := scaled.value / unit
  let above := below + 1
  match scaled.holds (below * unit), scaled.holds (above * unit) with
  | false, false => none
  | true, false => some ⟨below, exponent⟩
  | false, true => some ⟨above, exponent⟩
  | true, true =>
      if scaled.value - below * unit < above * unit - scaled.value then some ⟨below, exponent⟩
      else some ⟨above, exponent⟩

def Range.shortest (range : Range) : Decimal :=
  let found := (List.range 17).findSome? fun shorter =>
    range.onGrid? (range.scale - (shorter + 1 : Nat))
  found.getD ⟨range.value / range.denominator, 0⟩

/-- Digits without an exponent, and no zero at the end of the fraction. -/
def positional (decimal : Decimal) : String :=
  let digits := Nat.toDigits 10 decimal.digits
  if 0 ≤ decimal.exponent then
    String.ofList (digits ++ List.replicate decimal.exponent.toNat '0')
  else
    let places := (-decimal.exponent).toNat
    let padded := List.replicate (places + 1 - digits.length) '0' ++ digits
    let whole := padded.take (padded.length - places)
    let fraction := (padded.drop (padded.length - places)).reverse.dropWhile (· = '0')
    if fraction.isEmpty then String.ofList whole
    else String.ofList (whole ++ '.' :: fraction.reverse)

end Decimal

end SqlDialects

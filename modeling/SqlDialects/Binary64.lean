import SqlDialects.Decimal

/-!
Binary floating-point numbers of 64 bits, held as their bits: classes, numeric equality, the
shortest decimal text that reads back, and the widening of 32-bit numbers.
-/

namespace SqlDialects

/-- One sign bit, eleven exponent bits and fifty-two fraction bits. -/
structure Binary64 where
  bits : UInt64
deriving DecidableEq, Repr

namespace Binary64

def twoTo (exponent : Nat) : Nat :=
  Nat.pow 2 exponent

def isNegative (number : Binary64) : Bool :=
  twoTo 63 ≤ number.bits.toNat

def exponentField (number : Binary64) : Nat :=
  number.bits.toNat / twoTo 52 % twoTo 11

def fractionField (number : Binary64) : Nat :=
  number.bits.toNat % twoTo 52

def isFinite (number : Binary64) : Bool :=
  number.exponentField ≠ 2047

def isNaN (number : Binary64) : Bool :=
  number.exponentField = 2047 && number.fractionField ≠ 0

def isZero (number : Binary64) : Bool :=
  number.exponentField = 0 && number.fractionField = 0

/-- Numeric equality: the two zeros are equal, and a number that is no number equals nothing. -/
def same (left right : Binary64) : Bool :=
  !left.isNaN && !right.isNaN && ((left.isZero && right.isZero) || left.bits = right.bits)

def significand (number : Binary64) : Nat :=
  if number.exponentField = 0 then number.fractionField else twoTo 52 + number.fractionField

def power (number : Binary64) : Nat :=
  max number.exponentField 1

/-- The reals that round to a positive finite number, in quarters of its last place. The gap below
a power of two is half as wide; an even significand takes the ends. -/
def roundingRange (number : Binary64) : Decimal.Range :=
  let significand := number.significand
  let narrow := number.fractionField = 0 && 1 < number.exponentField
  let grown := twoTo (number.power - 1077)
  { lower := (4 * significand - if narrow then 1 else 2) * grown
    value := 4 * significand * grown
    upper := (4 * significand + 2) * grown
    denominator := twoTo (1077 - number.power)
    closed := significand % 2 = 0 }

/-- The shortest decimal that reads back, without exponent; integral values have no point. -/
def text (number : Binary64) : String :=
  if number.isNaN then "NaN"
  else
    let magnitude :=
      if !number.isFinite then "inf"
      else if number.isZero then "0"
      else number.roundingRange.shortest.positional
    if number.isNegative then "-" ++ magnitude else magnitude

/-- The number with the same value as a 32-bit one. -/
def ofBinary32 (bits : UInt32) : Binary64 :=
  let sign := bits.toNat / twoTo 31 * twoTo 63
  let exponent := bits.toNat / twoTo 23 % twoTo 8
  let fraction := bits.toNat % twoTo 23
  let magnitude :=
    if exponent = 255 then
      2047 * twoTo 52 + (if fraction = 0 then 0 else twoTo 51 + fraction % twoTo 22 * twoTo 29)
    else if exponent ≠ 0 then (exponent + 896) * twoTo 52 + fraction * twoTo 29
    else if fraction = 0 then 0
    else
      let top := fraction.log2
      (top + 874) * twoTo 52 + (fraction - twoTo top) * twoTo (52 - top)
  ⟨(sign + magnitude).toUInt64⟩

end Binary64

end SqlDialects

/-! A double-precision number is its bit pattern, and its arithmetic is exact until one rounding.
Rounding goes to the nearest representable number, and a tie to the even significand.
-/

namespace ColumnStore

/-- A double-precision number by its 64 bits: sign, eleven bits of exponent, 52 of fraction. -/
structure Binary64 where
  bits : UInt64
deriving DecidableEq, Repr

namespace Binary64

def signPlace : Nat := 0x8000000000000000

/-- The place value of the lowest exponent bit, which counts the fractions. -/
def exponentPlace : Nat := 0x10000000000000

/-- Whether the sign bit is set, which holds of minus zero too. -/
def isNegative (x : Binary64) : Bool :=
  signPlace ≤ x.bits.toNat

def exponentField (x : Binary64) : Nat :=
  x.bits.toNat / exponentPlace % 2048

def fraction (x : Binary64) : Nat :=
  x.bits.toNat % exponentPlace

def isNaN (x : Binary64) : Bool :=
  x.exponentField == 2047 && x.fraction != 0

def isInfinite (x : Binary64) : Bool :=
  x.exponentField == 2047 && x.fraction == 0

/-- The significand of a finite number, whose magnitude is `significand * 2 ^ scale`. -/
def significand (x : Binary64) : Nat :=
  if x.exponentField = 0 then x.fraction else exponentPlace + x.fraction

/-- The binary scale of a finite number; subnormal numbers share that of the smallest normal. -/
def scale (x : Binary64) : Int :=
  (max 1 x.exponentField : Nat) - 1075

/-- Whether the number below is only half as far away as the number above, as it is at a power of
two.
-/
def isNarrowBelow (x : Binary64) : Bool :=
  x.fraction == 0 && 1 < x.exponentField

def withSign (negative : Bool) (magnitude : Nat) : Binary64 :=
  ⟨UInt64.ofNat (if negative then signPlace + magnitude else magnitude)⟩

def infinity (negative : Bool) : Binary64 :=
  withSign negative (2047 * exponentPlace)

def notANumber : Binary64 :=
  ⟨0x7FF8000000000000⟩

/-- The quotient rounded to the nearest natural number, a tie to the even one. -/
def roundQuotient (numerator denominator : Nat) : Nat :=
  let q := numerator / denominator
  let r := numerator % denominator
  if 2 * r < denominator then q
  else if 2 * r = denominator then q + q % 2
  else q + 1

/-- The binary scale at which a positive ratio has a significand of 53 bits, or the smallest scale
there is.
-/
def scaleOfRatio (numerator denominator : Nat) : Int :=
  let guess : Int := (numerator.log2 : Int) - denominator.log2 - 53
  let fits : Bool :=
    numerator * Nat.pow 2 (-guess).toNat / (denominator * Nat.pow 2 guess.toNat)
      < 2 * exponentPlace
  max (-1074) (if fits then guess else guess + 1)

/-- The number nearest to a ratio of naturals; magnitudes past the largest number give an
infinity.
-/
def ofRatio (negative : Bool) (numerator denominator : Nat) : Binary64 :=
  if numerator = 0 then withSign negative 0
  else
    let q := scaleOfRatio numerator denominator
    let m := roundQuotient (numerator * Nat.pow 2 (-q).toNat) (denominator * Nat.pow 2 q.toNat)
    -- A significand of fewer than 53 bits is subnormal and has exponent field 0.
    let magnitude := if m < exponentPlace then m else (q + 1074).toNat * exponentPlace + m
    if magnitude < 2047 * exponentPlace then withSign negative magnitude else infinity negative

/-- The number nearest to `digits * 10 ^ exponent`. Exponents far beyond the range are settled by
their size, so that no large power is formed.
-/
def ofDecimal (negative : Bool) (digits : Nat) (exponent : Int) : Binary64 :=
  let width : Int := (Nat.toDigits 10 digits).length
  if digits = 0 || exponent + width < -400 then withSign negative 0
  else if 400 < exponent + width then infinity negative
  else ofRatio negative (digits * Nat.pow 10 exponent.toNat) (Nat.pow 10 (-exponent).toNat)

def ofNat (n : Nat) : Binary64 :=
  ofRatio false n 1

def ratio (x : Binary64) : Nat × Nat :=
  (x.significand * Nat.pow 2 x.scale.toNat, Nat.pow 2 (-x.scale).toNat)

def mul (x y : Binary64) : Binary64 :=
  ofRatio (x.isNegative != y.isNegative) (x.ratio.1 * y.ratio.1) (x.ratio.2 * y.ratio.2)

def div (x y : Binary64) : Binary64 :=
  ofRatio (x.isNegative != y.isNegative) (x.ratio.1 * y.ratio.2) (x.ratio.2 * y.ratio.1)

def neg (x : Binary64) : Binary64 :=
  ⟨x.bits ^^^ 0x8000000000000000⟩

end Binary64

end ColumnStore

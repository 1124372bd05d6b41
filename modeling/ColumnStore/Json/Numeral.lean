import ColumnStore.Json.Basic

/-! A numeral becomes a JSON number. Its significand keeps the leading digits that fit 64 bits;
digits beyond them count only into the exponent, and the double results from multiplying or
dividing by powers of ten with a rounding at each step.
-/

namespace ColumnStore.Json

/-- A numeral in its parts: sign, digits before and after the point, and exponent. -/
structure Numeral where
  negative : Bool
  whole : List Char
  /-- The digits after the point, if there is one. -/
  fraction : Option (List Char)
  exponent : Option Int
deriving DecidableEq, Repr

/-- Extends a significand by the digits that keep it within 64 bits, and gives the digits left.
-/
def extend (significand : Nat) : List Char → Nat × List Char
  | [] => (significand, [])
  | c :: rest =>
    let longer := significand * 10 + digitValue c
    if longer < UInt64.size then extend longer rest else (significand, c :: rest)

def powerOfTen (n : Nat) : Binary64 :=
  Binary64.ofNat (Nat.pow 10 n)

/-- A double divided by a power of ten, in steps of at most 308 places. -/
def scaleDown (x : Binary64) (places : Nat) : Binary64 :=
  if places ≤ 308 then x.div (powerOfTen places)
  else if x.significand = 0 then x
  else scaleDown (x.div (powerOfTen 308)) (places - 308)
termination_by places

/-- The double `significand * 10 ^ exponent`, unless it is too large. -/
def scaled? (significand : Nat) (exponent : Int) : Option Binary64 :=
  let x := Binary64.ofNat significand
  if exponent < 0 then some (scaleDown x (-exponent).toNat)
  else if exponent ≤ 308 then
    let y := x.mul (powerOfTen exponent.toNat)
    if y.isInfinite then none else some y
  else if significand = 0 then some x
  else none

namespace Numeral

/-- The significand of the digits and the power of ten that goes with it. -/
def parts (n : Numeral) : Nat × Int :=
  let (whole, beyond) := extend 0 n.whole
  let digits := n.fraction.getD []
  let (significand, dropped) := extend whole digits
  (significand, (beyond.length : Int) - (digits.length - dropped.length : Nat) + n.exponent.getD 0)

def isWhole (n : Numeral) : Bool :=
  n.fraction.isNone && n.exponent.isNone

/-- The number of a numeral, unless it is too large. Minus zero and whole numbers beyond 64 bits
are doubles.
-/
def toJson? (n : Numeral) : Option Json :=
  let (significand, exponent) := n.parts
  let double : Option Json :=
    (scaled? significand exponent).map fun x => .float (if n.negative then x.neg else x)
  if n.isWhole ∧ exponent = 0 then
    if n.negative then
      if 0 < significand ∧ Int64.minValue.toInt ≤ -significand then
        some (.integer (-significand))
      else double
    else some (.integer significand)
  else double

end Numeral

end ColumnStore.Json

import ColumnStore.Number.Binary64

/-! A finite number is written with the fewest decimal digits that read back to it.
Of several such decimals the nearest is taken; what happens at a tie is a parameter, as output
formats differ in it.
-/

namespace ColumnStore

/-- The magnitude `digits * 10 ^ exponent`. -/
structure Decimal where
  digits : Nat
  exponent : Int
deriving DecidableEq, Repr

/-- Which of two equally near decimals is written. -/
inductive Tie where
  | toEven
  | up
deriving DecidableEq, Repr

namespace Shortest

/-- Whether `a * 10 ^ i` is at most, or below when `strict`, `b * 2 ^ j`. -/
def decimalBelow (strict : Bool) (a : Nat) (i : Int) (b : Nat) (j : Int) : Bool :=
  let left := a * Nat.pow 10 i.toNat * Nat.pow 2 (-j).toNat
  let right := b * Nat.pow 2 j.toNat * Nat.pow 10 (-i).toNat
  if strict then left < right else left ≤ right

/-- Whether `b * 2 ^ j` is at most, or below when `strict`, `a * 10 ^ i`. -/
def decimalAbove (strict : Bool) (a : Nat) (i : Int) (b : Nat) (j : Int) : Bool :=
  let left := b * Nat.pow 2 j.toNat * Nat.pow 10 (-i).toNat
  let right := a * Nat.pow 10 i.toNat * Nat.pow 2 (-j).toNat
  if strict then left < right else left ≤ right

/-- Whether a decimal lies in the interval that rounds to the number. The interval reaches
halfway to both neighbours, and its ends belong to it when the significand is even.
-/
def readsBack (x : Binary64) (d : Decimal) : Bool :=
  let strict := x.significand % 2 == 1
  let low := 4 * x.significand - (if x.isNarrowBelow then 1 else 2)
  let high := 4 * x.significand + 2
  decimalAbove strict d.digits d.exponent low (x.scale - 2)
    && decimalBelow strict d.digits d.exponent high (x.scale - 2)

/-- The least `k` with the number below `10 ^ k`: an estimate from the binary logarithm, mended
by one upward step at most twice.
-/
def magnitude (x : Binary64) : Int :=
  let log : Int := x.significand.log2 + x.scale
  let guess := (log * 30103).fdiv 100000
  let above (k : Int) : Bool := decimalAbove true 1 k x.significand x.scale
  if above guess then guess else if above (guess + 1) then guess + 1 else guess + 2

/-- The better of the two neighbours of the number on the grid of `10 ^ grid` that read back, if
one does.
-/
def onGrid? (tie : Tie) (x : Binary64) (grid : Int) : Option Decimal :=
  let (numerator, denominator) := x.ratio
  let top := numerator * Nat.pow 10 (-grid).toNat
  let bottom := denominator * Nat.pow 10 grid.toNat
  let below := top / bottom
  let twice := 2 * (top % bottom)
  let low : Decimal := ⟨below, grid⟩
  let high : Decimal := ⟨below + 1, grid⟩
  match readsBack x low, readsBack x high with
  | true, false => some low
  | false, true => some high
  | false, false => none
  | true, true =>
    if twice < bottom then some low
    else if bottom < twice then some high
    else match tie with
      | .up => some high
      | .toEven => some (if below % 2 = 0 then low else high)

def stripZeros : Nat → Decimal → Decimal
  | 0, d => d
  | fuel + 1, d =>
    if d.digits ≠ 0 ∧ d.digits % 10 = 0 then stripZeros fuel ⟨d.digits / 10, d.exponent + 1⟩
    else d

/-- The shortest decimal that reads back to a finite number. Seventeen digits always do; the
exact value stands behind them.
-/
def decimal (tie : Tie) (x : Binary64) : Decimal :=
  if x.significand = 0 then ⟨0, 0⟩
  else
    let k := magnitude x
    let found := (List.range 17).findSome? fun n => onGrid? tie x (k - (n + 1 : Nat))
    match found with
    | some d => stripZeros 17 d
    | none =>
      ⟨x.ratio.1 * Nat.pow 5 (-x.scale).toNat, -((-x.scale).toNat : Int)⟩

end Shortest

namespace Decimal

/-- The digits with a point where the exponent puts it, and never an exponent: whole numbers have
no point.
-/
def positional (d : Decimal) : String :=
  let digits := Nat.toDigits 10 d.digits
  if 0 ≤ d.exponent then
    if d.digits = 0 then "0"
    else String.ofList (digits ++ List.replicate d.exponent.toNat '0')
  else
    let places := (-d.exponent).toNat
    let padded := List.replicate (places + 1 - digits.length) '0' ++ digits
    let whole := padded.length - places
    String.ofList (padded.take whole ++ '.' :: padded.drop whole)

end Decimal

namespace Binary64

/-- The shortest positional text of a finite number, with a minus for negative ones and for minus
zero; of two equally near decimals the upper is written.
-/
def positional (x : Binary64) : String :=
  (if x.isNegative then "-" else "") ++ (Shortest.decimal .up x).positional

end Binary64

end ColumnStore

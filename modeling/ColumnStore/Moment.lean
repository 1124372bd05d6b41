/-! A moment is a date and a time of day without a zone, to the nanosecond.
Its text has whole seconds or milliseconds; a leap second is written as second 60.
-/

namespace ColumnStore

/-- A decimal numeral with zeros on the left, unless it has the width already. -/
def padded (width n : Nat) : String :=
  let digits := Nat.toDigits 10 n
  String.ofList (List.replicate (width - digits.length) '0' ++ digits)

/-- A civil date and time. A leap second has second 59 and a billion nanoseconds or more. -/
structure Moment where
  year : Int
  month : Nat
  day : Nat
  hour : Nat
  minute : Nat
  second : Nat
  nanosecond : Nat
deriving DecidableEq, Repr

namespace Moment

/-- A year has at least four digits, and outside 0 to 9999 a sign. -/
def yearText (year : Int) : String :=
  if year < 0 then "-" ++ padded 4 year.natAbs
  else if 9999 < year then "+" ++ padded 4 year.natAbs
  else padded 4 year.natAbs

/-- The date and the time to the second. -/
def seconds (m : Moment) : String :=
  let second := m.second + m.nanosecond / 1000000000
  yearText m.year ++ "-" ++ padded 2 m.month ++ "-" ++ padded 2 m.day ++ " "
    ++ padded 2 m.hour ++ ":" ++ padded 2 m.minute ++ ":" ++ padded 2 second

/-- The date and the time to the millisecond, cut and not rounded. -/
def milliseconds (m : Moment) : String :=
  m.seconds ++ "." ++ padded 3 (m.nanosecond % 1000000000 / 1000000)

end Moment

end ColumnStore

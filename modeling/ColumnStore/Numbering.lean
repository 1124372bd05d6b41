import ColumnStore.Record

/-! The store has no sequences, so ids are stamped before an insert is compiled.
A batch counts on from the number of rows; a single row takes the next id of a sequence or a
random second of the current day.
-/

namespace ColumnStore.Numbering

/-- Numbers the records from one past a count. A record that has the column keeps its value, but
in first place.
-/
def stamp (column : String) (base : UInt64) (records : List Record) : List Record :=
  records.zipIdx.map fun (record, i) =>
    record.prepend column (.uint (base + UInt64.ofNat i + 1))

/-- What becomes of records that are to be numbered: they go on from what a counter gives, and they
stay as they are when it fails.
-/
def assign {ε : Type} (column : String) (counted : Except ε UInt64) (records : List Record)
    : Except ε Unit × List Record :=
  match counted with
  | .error e => (.error e, records)
  | .ok base => (.ok (), stamp column base records)

def secondsPerDay : Int := 86400

/-- The first second of the day of an instant, in seconds since 1970. -/
def midnight (now : Int) : Int :=
  Int.fdiv now secondsPerDay * secondsPerDay

def leadingZeros (n : Nat) : Nat :=
  if n = 0 then 64 else 63 - n.log2

/-- The greatest low half that a product may have when a number below `range` is drawn from
its high half.
-/
def acceptedUpTo (range : Nat) : Nat :=
  range * Nat.pow 2 (leadingZeros range) - 1

/-- The number below `range` that a random word gives, unless the word is to be skipped. -/
def drawBelow? (range : Nat) (word : UInt64) : Option Nat :=
  let product := word.toNat * range
  if product % UInt64.size ≤ acceptedUpTo range then some (product / UInt64.size) else none

/-- The number that the first word in use gives. Words that run out count as zeros, and a zero
gives the number zero.
-/
def draw (range : Nat) (words : List UInt64) : Nat :=
  (words.findSome? (drawBelow? range)).getD 0

/-- A random second of the day so far; seconds before 1970 count as zero. -/
def dayRangeId (now : Int) (words : List UInt64) : UInt64 :=
  let start := midnight now
  let second := start + draw (now - start + 1).toNat words
  UInt64.ofNat second.toNat

/-- A sequence of ids, which starts over after the greatest one. -/
structure Sequence where
  next : UInt64 := 0
deriving DecidableEq, Repr

def Sequence.take (s : Sequence) : UInt64 × Sequence :=
  (s.next, { next := s.next + 1 })

end ColumnStore.Numbering

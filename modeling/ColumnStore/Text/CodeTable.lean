import ColumnStore.Number.Digits

/-! Tables that give some code points a property, and perhaps code points that belong to them.
A table is written as a text of words in ascending order, and an entry is found by halving.
-/

namespace ColumnStore.Text

/-- Whether a character is one of the first, which need no table. -/
def isPlain (c : Char) : Bool :=
  c.toNat < 0x80

/-- The code points from `first` to `last` at a distance, and what the table says of them. -/
structure CodeEntry where
  first : Nat
  last : Nat
  step : Nat := 1
  codes : List Nat := []
deriving DecidableEq, Repr

namespace CodeEntry

def number (cs : List Char) : Nat :=
  digitsValue 16 cs

/-- The entry of a word: a code point, or a first and a last one with a dash between them and
perhaps a distance after a slash; what is said of them comes after an equals sign, with commas.
-/
def ofWord (cs : List Char) : CodeEntry :=
  let span := cs.takeWhile (· ≠ '=')
  let codes := match cs.dropWhile (· ≠ '=') with
    | _ :: c :: rest => ((c :: rest).splitOn ',').map number
    | _ => []
  match span.splitOn '-' with
  | [first, last] => match last.splitOn '/' with
    | [last, step] => ⟨number first, number last, number step, codes⟩
    | _ => ⟨number first, number last, 1, codes⟩
  | _ => ⟨number span, number span, 1, codes⟩

def covers (e : CodeEntry) (n : Nat) : Bool :=
  e.first ≤ n && n ≤ e.last && (n - e.first) % e.step == 0

end CodeEntry

/-- Entries in ascending order that do not overlap. -/
abbrev CodeTable := Array CodeEntry

namespace CodeTable

def ofText (text : String) : CodeTable :=
  let words := (text.toList.map fun c => if c = '\n' then ' ' else c).splitOn ' '
  ((words.filter fun w => !w.isEmpty).map CodeEntry.ofWord).toArray

/-- The entry of a code point among those with an index from `low` to below `high`. -/
def findIn (t : CodeTable) (n : Nat) : Nat → Nat → Nat → Option CodeEntry
  | 0, _, _ => none
  | fuel + 1, low, high =>
    if low < high then
      let middle := (low + high) / 2
      match t[middle]? with
      | none => none
      | some e =>
        if n < e.first then findIn t n fuel low middle
        else if e.last < n then findIn t n fuel (middle + 1) high
        else if e.covers n then some e
        else none
    else none

def find? (t : CodeTable) (n : Nat) : Option CodeEntry :=
  findIn t n (t.size + 1) 0 t.size

def has (t : CodeTable) (c : Char) : Bool :=
  (t.find? c.toNat).isSome

end CodeTable

end ColumnStore.Text

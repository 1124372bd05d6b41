import ColumnStore.Text.Trimming

/-! A label of a domain that starts with `xn--` spells wide characters in letters and digits.
The digits say where in the text, and how far up in the code points, each wide character goes.
-/

namespace ColumnStore.Url.Punycode

def digit? (c : Char) : Option Nat :=
  if 'a' ≤ c ∧ c ≤ 'z' then some (c.toNat - 'a'.toNat)
  else if c.isDigit then some (c.toNat - '0'.toNat + 26)
  else none

/-- The digits below which a number ends at a place. -/
def threshold (bias place : Nat) : Nat :=
  max 1 (min 26 (place - bias))

/-- The bias of a distance, with a full turn of the base for each time it is cut down. -/
def biasOf (distance : Nat) : Nat :=
  if distance ≤ 455 then 36 * distance / (distance + 38) else 36 + biasOf (distance / 35)
termination_by distance

/-- The bias after a distance in a text of a length; the first distance counts for less. -/
def nextBias (isFirst : Bool) (distance length : Nat) : Nat :=
  let damped := if isFirst then distance / 700 else distance / 2
  biasOf (damped + damped / length)

/-- A text whose wide characters are being filled in, and a number that is being read. -/
structure Progress where
  text : List Char
  code : Nat := 128
  bias : Nat := 72
  /-- The place where the last character went in, as a number to count on from. -/
  start : Nat := 0
  index : Nat := 0
  weight : Nat := 1
  place : Nat := 36

namespace Progress

/-- The text with the character that a finished number stands for. -/
def insert? (p : Progress) (index : Nat) : Option Progress :=
  let length := p.text.length + 1
  let code := p.code + index / length
  let position := index % length
  if code.isValidChar then
    some {
      text := p.text.insertIdx position (Char.ofNat code)
      code
      bias := nextBias (p.start = 0) (index - p.start) length
      start := position + 1
      index := position + 1 }
  else none

/-- Reads one digit, the lowest place first. -/
def read? (p : Progress) (c : Char) : Option Progress := do
  let digit ← digit? c
  let limit := threshold p.bias p.place
  let index := p.index + digit * p.weight
  if digit < limit then p.insert? index
  else return { p with index, weight := p.weight * (36 - limit), place := p.place + 36 }

end Progress

/-- The plain characters before the last dash, and the digits after it. -/
def parts? (cs : List Char) : Option (List Char × List Char) :=
  match Text.cutLast? '-' cs with
  | none => some ([], cs)
  | some ([], _) => none
  | some (plain, digits) => some (plain, digits)

def decode? (cs : List Char) : Option (List Char) := do
  let (plain, digits) ← parts? cs
  let p ← digits.foldlM Progress.read? ({ text := plain } : Progress)
  if p.place = 36 then return p.text else none

def digitOf (n : Nat) : Char :=
  if n < 26 then Char.ofNat ('a'.toNat + n) else Char.ofNat ('0'.toNat + (n - 26))

/-- The digits of a number, the lowest place first; the last one is below its threshold. -/
def digits (bias place n : Nat) : List Char :=
  let limit := threshold bias place
  if n < limit then [digitOf n]
  else
    digitOf (limit + (n - limit) % (36 - limit))
      :: digits bias (place + 36) ((n - limit) / (36 - limit))
termination_by n
decreasing_by
  have h : 1 ≤ threshold bias place := Nat.le_max_left ..
  have := Nat.div_le_self (n - threshold bias place) (36 - threshold bias place)
  omega

/-- The digits written so far for a text, and how far the next wide character is. -/
structure Spelling where
  digits : List Char := []
  distance : Nat := 0
  bias : Nat := 72
  /-- How many characters are spelled, the plain ones among them. -/
  spelled : Nat
  isFirst : Bool := true

namespace Spelling

/-- Passes over one character of the text, and spells it if it is the one whose turn it is. -/
def see (code : Nat) (s : Spelling) (c : Char) : Spelling :=
  if c.toNat < code then { s with distance := s.distance + 1 }
  else if c.toNat = code then
    { digits := s.digits ++ Punycode.digits s.bias 36 s.distance
      distance := 0
      bias := nextBias s.isFirst s.distance (s.spelled + 1)
      spelled := s.spelled + 1
      isFirst := false }
  else s

/-- Spells the wide characters of a text by their code points in ascending order. -/
def spell (text : List Char) : Nat → List Nat → Spelling → Spelling
  | _, [], s => s
  | next, code :: codes, s =>
    let s := text.foldl (see code)
      { s with distance := s.distance + (code - next) * (s.spelled + 1) }
    spell text (code + 1) codes { s with distance := s.distance + 1 }

end Spelling

def isWide (c : Char) : Bool :=
  0x80 ≤ c.toNat

def encode (text : List Char) : List Char :=
  let plain := text.filter fun c => !isWide c
  let codes := ((text.filter isWide).map Char.toNat).mergeSort.eraseDups
  plain ++ (if plain.isEmpty then [] else ['-'])
    ++ (Spelling.spell text 128 codes { spelled := plain.length }).digits

end ColumnStore.Url.Punycode

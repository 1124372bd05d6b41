import ColumnStore.Text.Canonical.Pairs
import ColumnStore.Text.Marks

/-! A text has one canonical form. Each character is taken apart, marks are put in the order of
their places, and what can be written as one character is.
-/

namespace ColumnStore.Text

/-- The first of the Korean syllables, which are reckoned from their letters. -/
def syllableBase : Nat := 0xAC00

/-- The letters of a Korean syllable: one that opens it, a vowel, and perhaps one that closes it. -/
def syllableLetters? (n : Nat) : Option (List Nat) :=
  let index := n - syllableBase
  if syllableBase ≤ n ∧ index < 11172 then
    let opened := [0x1100 + index / 588, 0x1161 + index % 588 / 28]
    some (if index % 28 = 0 then opened else opened ++ [0x11A7 + index % 28])
  else none

def syllable? (a b : Nat) : Option Nat :=
  if 0x1100 ≤ a ∧ a < 0x1113 ∧ 0x1161 ≤ b ∧ b < 0x1176 then
    some (syllableBase + ((a - 0x1100) * 21 + (b - 0x1161)) * 28)
  else if syllableBase ≤ a ∧ a < syllableBase + 11172 ∧ (a - syllableBase) % 28 = 0
      ∧ 0x11A7 < b ∧ b < 0x11C3 then
    some (a + (b - 0x11A7))
  else none

/-- The characters that a code point stands for, taken apart at most `depth` times. -/
def apart : Nat → Nat → List Nat
  | 0, n => [n]
  | depth + 1, n =>
    match syllableLetters? n with
    | some letters => letters
    | none => match replaced.find? n with
      | some e => e.codes
      | none => match composed.find? n with
        | some e => e.codes.flatMap (apart depth)
        | none => [n]

/-- A text with each character taken apart as far as it goes. -/
def takeApart (cs : List Char) : List Char :=
  cs.flatMap fun c => if isPlain c then [c] else (apart 4 c.toNat).map Char.ofNat

/-- The marks after each letter in the order of their places; marks in one place keep theirs. -/
def orderMarks (cs : List Char) : List Char :=
  (cs.splitBy fun _ next => placeOf next ≠ 0).flatMap fun group =>
    group.mergeSort fun a b => placeOf a ≤ placeOf b

/-- The character that is written for two, if there is one; a plain one is never taken in. -/
def together? (a b : Char) : Option Char :=
  if isPlain b then none
  else match syllable? a.toNat b.toNat with
    | some n => some (Char.ofNat n)
    | none => (Array.find? (fun e => e.codes == [a.toNat, b.toNat]) composed).map fun e =>
      Char.ofNat e.first

/-- A letter with the marks after it that it has not taken in. -/
structure Cluster where
  letter : Char
  marks : List Char := []

namespace Cluster

def toList (k : Cluster) : List Char :=
  k.letter :: k.marks

/-- The cluster with one more character, if its letter takes it in or it stays as a mark. A mark
sees the letter unless another mark is in its place.
-/
def add? (k : Cluster) (c : Char) : Option Cluster :=
  let isSeen := match k.marks.getLast? with
    | none => true
    | some last => placeOf last < placeOf c
  match if isSeen then together? k.letter c else none with
  | some whole => some { k with letter := whole }
  | none => if placeOf c = 0 then none else some { k with marks := k.marks ++ [c] }

end Cluster

/-- A text whose letters take in the marks after them, where a letter is at hand. -/
def putTogether : Option Cluster → List Char → List Char
  | none, [] => []
  | some k, [] => k.toList
  | none, c :: rest =>
    if placeOf c = 0 then putTogether (some ⟨c, []⟩) rest else c :: putTogether none rest
  | some k, c :: rest =>
    match k.add? c with
    | some k => putTogether (some k) rest
    | none => k.toList ++ putTogether (some ⟨c, []⟩) rest

def canonical (cs : List Char) : List Char :=
  putTogether none (orderMarks (takeApart cs))

end ColumnStore.Text

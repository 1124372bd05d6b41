/-! A text is trimmed of the blanks at its ends, which are the characters of the Unicode property
White_Space, and cut where a sign parts it. What it is cut at is in neither part.
-/

namespace ColumnStore.Text

/-- The code points with the property White_Space, as closed ranges in ascending order: the five
controls from tab to carriage return, space, next line, and the spaces and separators beyond.
-/
def blankRanges : List (Nat × Nat) :=
  [(0x09, 0x0D), (0x20, 0x20), (0x85, 0x85), (0xA0, 0xA0), (0x1680, 0x1680), (0x2000, 0x200A),
    (0x2028, 0x2029), (0x202F, 0x202F), (0x205F, 0x205F), (0x3000, 0x3000)]

def isBlank (c : Char) : Bool :=
  blankRanges.any fun range => range.1 ≤ c.toNat && c.toNat ≤ range.2

def trimEnd (cs : List Char) : List Char :=
  (cs.reverse.dropWhile isBlank).reverse

def trim (cs : List Char) : List Char :=
  trimEnd (cs.dropWhile isBlank)

/-- The text of a string without the blanks at its two ends. -/
def trimmed (s : String) : String :=
  String.ofList (trim s.toList)

/-- The bytes that count as blank in a line of a byte stream: tab, newline, form feed, carriage
return and space.
-/
def isBlankByte (b : UInt8) : Bool :=
  b == 9 || b == 10 || b == 12 || b == 13 || b == 32

/-- The bytes without the blank ones at their two ends. -/
def trimBytes (bytes : List UInt8) : List UInt8 :=
  ((bytes.dropWhile isBlankByte).reverse.dropWhile isBlankByte).reverse

/-- What is read after a character, with the character before it. -/
def readAfter (c : Char) (further : Option (List Char × List Char)) : Option (List Char × List Char) :=
  further.map fun (text, rest) => (c :: text, rest)

/-- The parts of a text before and after the first character that meets a test. -/
def cutFirst? (test : Char → Bool) (cs : List Char) : Option (List Char × List Char) :=
  match cs.dropWhile fun c => !test c with
  | [] => none
  | _ :: rest => some (cs.takeWhile fun c => !test c, rest)

/-- The parts of a text before and after its last sign of a kind. -/
def cutLast? (sign : Char) : List Char → Option (List Char × List Char)
  | [] => none
  | c :: rest =>
    match cutLast? sign rest with
    | some (before, after) => some (c :: before, after)
    | none => if c = sign then some ([], rest) else none

end ColumnStore.Text

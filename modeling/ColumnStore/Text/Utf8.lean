/-! Bytes are read as UTF-8 one character at a time.
A strict reading refuses bytes that are no character; a lenient one puts a replacement character
for each longest start of a character that the following bytes do not complete.
-/

namespace ColumnStore.Text.Utf8

def isContinuation (b : UInt8) : Bool :=
  0x80 ≤ b && b ≤ 0xBF

/-- The bytes that may stand second after a first byte: overlong forms, surrogates and code
points past the last one are left out.
-/
def isSecond (first second : UInt8) : Bool :=
  if first = 0xE0 then 0xA0 ≤ second && second ≤ 0xBF
  else if first = 0xED then 0x80 ≤ second && second ≤ 0x9F
  else if first = 0xF0 then 0x90 ≤ second && second ≤ 0xBF
  else if first = 0xF4 then 0x80 ≤ second && second ≤ 0x8F
  else isContinuation second

/-- How many bytes a character with this first byte has, if a character can start with it. -/
def width? (first : UInt8) : Option Nat :=
  if first < 0x80 then some 1
  else if 0xC2 ≤ first && first ≤ 0xDF then some 2
  else if 0xE0 ≤ first && first ≤ 0xEF then some 3
  else if 0xF0 ≤ first && first ≤ 0xF4 then some 4
  else none

def payload (b : UInt8) : Nat :=
  b.toNat % 64

/-- What stands at the start of the bytes: a character, or none if the bytes taken are no whole
character; and the bytes left.
-/
def next (first : UInt8) (rest : List UInt8) : Option Char × List UInt8 :=
  match width? first, rest with
  | some 1, rest => (some (Char.ofNat first.toNat), rest)
  | some 2, b :: rest =>
    if isSecond first b then (some (Char.ofNat (first.toNat % 32 * 64 + payload b)), rest)
    else (none, b :: rest)
  | some 3, b :: rest =>
    if isSecond first b then
      match rest with
      | c :: rest =>
        if isContinuation c then
          (some (Char.ofNat ((first.toNat % 16 * 64 + payload b) * 64 + payload c)), rest)
        else (none, c :: rest)
      | [] => (none, [])
    else (none, b :: rest)
  | some 4, b :: rest =>
    if isSecond first b then
      match rest with
      | c :: rest =>
        if isContinuation c then
          match rest with
          | d :: rest =>
            if isContinuation d then
              (some (Char.ofNat
                (((first.toNat % 8 * 64 + payload b) * 64 + payload c) * 64 + payload d)), rest)
            else (none, d :: rest)
          | [] => (none, [])
        else (none, c :: rest)
      | [] => (none, [])
    else (none, b :: rest)
  | _, rest => (none, rest)

theorem length_next_le (first : UInt8) (rest : List UInt8)
    : (next first rest).2.length ≤ rest.length := by
  unfold next
  repeat' split
  all_goals simp only [List.length_cons, List.length_nil]; omega

/-- The characters of the bytes, none for bytes that are no character. -/
def scan : List UInt8 → List (Option Char)
  | [] => []
  | first :: rest =>
    have := length_next_le first rest
    (next first rest).1 :: scan (next first rest).2
termination_by bytes => bytes.length

def decode? (bytes : List UInt8) : Option (List Char) :=
  (scan bytes).mapM id

/-- The text of the bytes, with a replacement character for what is none. -/
def decodeLenient (bytes : List UInt8) : List Char :=
  (scan bytes).map (·.getD '\uFFFD')

/-- The text of the bytes without the mark at its start. -/
def decodeUnmarked (bytes : List UInt8) : List Char :=
  match bytes with
  | 0xEF :: 0xBB :: 0xBF :: rest => decodeLenient rest
  | bytes => decodeLenient bytes

def encode (cs : List Char) : List UInt8 :=
  cs.flatMap String.utf8EncodeChar

end ColumnStore.Text.Utf8

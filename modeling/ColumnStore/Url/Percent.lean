/-! Percent signs stand for bytes that a part of a URL does not hold as they are.
Each part has a set of its own; in the values of a form a blank becomes a plus.
-/

namespace ColumnStore.Url

def upperHexDigit (n : Nat) : Char :=
  (Nat.digitChar n).toUpper

def percentByte (b : UInt8) : List Char :=
  ['%', upperHexDigit (b.toNat / 16), upperHexDigit (b.toNat % 16)]

def percentChar (c : Char) : List Char :=
  (String.utf8EncodeChar c).flatMap percentByte

/-- Whether a character has a percent form in every part: controls and all beyond ASCII. -/
def isControlOrWide (c : Char) : Bool :=
  c.toNat < 0x20 ∨ 0x7E < c.toNat

def percentEncode (set : List Char) (cs : List Char) : List Char :=
  cs.flatMap fun c => if isControlOrWide c ∨ set.contains c then percentChar c else [c]

def fragmentSet : List Char := [' ', '"', '<', '>', '\x60']

def pathSet : List Char := fragmentSet ++ ['#', '?', '{', '}']

def userInfoSet : List Char := pathSet ++ ['/', ':', ';', '=', '@', '[', '\\', ']', '^', '|']

def querySet : List Char := [' ', '"', '#', '<', '>', '\'']

def hexByteValue? (b : UInt8) : Option UInt8 :=
  if 48 ≤ b ∧ b ≤ 57 then some (b - 48)
  else if 65 ≤ b ∧ b ≤ 70 then some (b - 55)
  else if 97 ≤ b ∧ b ≤ 102 then some (b - 87)
  else none

/-- The bytes with every percent form decoded; a percent sign without two digits stays. -/
def percentDecode : List UInt8 → List UInt8
  | [] => []
  | b :: high :: low :: rest =>
    if b = 37 then
      match hexByteValue? high, hexByteValue? low with
      | some h, some l => (h * 16 + l) :: percentDecode rest
      | _, _ => b :: percentDecode (high :: low :: rest)
    else b :: percentDecode (high :: low :: rest)
  | b :: rest => b :: percentDecode rest

/-- The form of a byte in the values of a form. -/
def formByte (b : UInt8) : List Char :=
  let c := Char.ofNat b.toNat
  if b = 32 then ['+']
  else if c.isAlphanum ∨ c = '*' ∨ c = '-' ∨ c = '.' ∨ c = '_' then [c]
  else percentByte b

def formText (s : String) : String :=
  String.ofList ((s.toList.flatMap String.utf8EncodeChar).flatMap formByte)

def formPairs (pairs : List (String × String)) : String :=
  "&".intercalate (pairs.map fun (name, v) => formText name ++ "=" ++ formText v)

end ColumnStore.Url

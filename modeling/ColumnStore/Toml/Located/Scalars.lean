import ColumnStore.Toml.Located.Strings

/-! Numbers, dates and times. What starts as one of them and breaks off is in trouble for good
where only that kind goes on in this way.
-/

namespace ColumnStore.Toml.Located

open Scan

def skip (test : Char → Bool) : Scan Unit := do
  let _ ← char test

def moreDigits (isDigit : Char → Bool) : Scan Unit := do
  let _ ← many (either (skip isDigit) do
    sign '_'
    wanting "digit" (commit (skip isDigit)))

def digits (isDigit : Char → Bool) : Scan Unit := do
  skip isDigit
  moreDigits isDigit

def isSign (c : Char) : Bool :=
  c = '+' || c = '-'

/-- Reads a decimal integer: no digit comes after a zero at its start. -/
def decimal : Scan Unit := named "integer" do
  let _ ← optional (char isSign)
  either (do skip (fun c => c.isDigit && c ≠ '0'); moreDigits Char.isDigit) (skip Char.isDigit)

def bounded (n : Int) : Except String Int :=
  if Int64.maxValue.toInt < n then .error "number too large to fit in target type"
  else if n < Int64.minValue.toInt then .error "number too small to fit in target type"
  else .ok n

def ungrouped (cs : List Char) : List Char :=
  cs.filter (· ≠ '_')

/-- Reads an integer in a base that is named before its digits. -/
def basedInteger (label marker : String) (base : Nat) : Scan Int :=
  let scan : Scan (List Char) := named label do
    word marker
    taken (digits (isDigitOf base))
  commit (sift (fun cs => bounded (digitsValue base (ungrouped cs))) scan)

def integer : Scan Int := fun p =>
  match p.rest.take 2 with
  | ['0', 'x'] => basedInteger "hexadecimal integer" "0x" 16 p
  | ['0', 'o'] => basedInteger "octal integer" "0o" 8 p
  | ['0', 'b'] => basedInteger "binary integer" "0b" 2 p
  | _ => do
    let (text, q) ← taken decimal p
    let (negative, ds) := splitSign (ungrouped text)
    match bounded (signed negative (digitsValue 10 ds)) with
    | .ok n => .ok (n, q)
    | .error cause => .error { offset := p.offset, isFinal := true, cause }

def exponent : Scan Unit := do
  skip fun c => c = 'e' || c = 'E'
  let _ ← optional (char isSign)
  commit (digits Char.isDigit)

def fraction : Scan Unit := do
  sign '.'
  wanting "digit" (commit (digits Char.isDigit))

def floatValue (cs : List Char) : Binary64 :=
  let (negative, body) := splitSign cs
  match plainFloat? body with
  | some (digits, exponent) => Binary64.ofDecimal negative digits exponent
  | none => Binary64.ofDecimal negative 0 0

/-- Reads a float in digits. One that is too large for a double is trouble unless it is negative.
-/
def floatDigits : Scan Binary64 := fun p => do
  let scan : Scan Unit := do
    decimal
    either exponent do fraction; let _ ← optional exponent
  let (text, q) ← taken scan p
  let x := floatValue text
  if x.isInfinite ∧ !x.isNegative then .error { offset := p.offset, isFinal := true }
  else .ok (x, q)

/-- Reads the word of an infinity, or of what is not a number. -/
def floatWord : Scan Binary64 := do
  let mark ← optional (char isSign)
  either (do word "inf"; return .infinity (mark = some '-'))
    (do word "nan"; return .notANumber)

/-- Reads a float. -/
def float : Scan Binary64 :=
  named "floating-point number" (either floatDigits floatWord)

/-- Reads a number of a fixed width in a range. -/
def ranged (width low high : Nat) : Scan Nat :=
  let scan : Scan Nat := fun p =>
    let ds := (p.rest.take width).takeWhile Char.isDigit
    if ds.length < width then .error { offset := p.offset }
    else .ok (digitsValue 10 ds, ⟨p.rest.drop width, p.offset + width⟩)
  sift (fun n => if low ≤ n ∧ n ≤ high then .ok n else .error "value is out of range") scan

def date : Scan Unit := do
  let year ← ranged 4 0 9999
  sign '-'
  let month ← commit (ranged 2 1 12)
  commit (sign '-')
  let fits (day : Nat) : Except String Nat :=
    if day ≤ daysInMonth year month then .ok day else .error "value is out of range"
  let _ ← commit (sift fits (ranged 2 1 31))

def time : Scan Unit := do
  let _ ← ranged 2 0 23
  sign ':'
  commit do
    let _ ← ranged 2 0 59
    sign ':'
    let _ ← ranged 2 0 60
    let _ ← optional do sign '.'; run1 Char.isDigit

def zone : Scan Unit := named "time offset" <|
  either (skip fun c => c = 'Z' || c = 'z') do
    skip isSign
    commit do
      let _ ← ranged 2 0 23
      sign ':'
      let _ ← ranged 2 0 59

def dateTime : Scan Unit :=
  let full : Scan Unit := do
    date
    let _ ← optional do
      skip fun c => c = 'T' || c = 't' || c = ' '
      time
      let _ ← optional zone
  either (named "date-time" full) (named "time" time)

/-- What a value in quotes starts with. -/
def wantingQuote (s : Scan α) : Scan α :=
  wanting "\x60'\x60" (wanting "\x60\"\x60" (named "string" s))

def placed (make : Span → α → Node) (s : Scan α) : Scan Node := do
  let (span, a) ← spanned s
  return make span a

def number : Scan Node :=
  either (placed (fun span _ => .dateTime span) dateTime)
    (either (placed .float float) (placed .integer integer))

def truth (text : String) (b : Bool) : Scan Node :=
  wantingQuote (placed (fun span _ => .bool span b) (commit (word text)))

/-- Reads a value that is neither a string nor a list nor a table, by its first character. -/
def scalar : Scan Node := do
  match ← head? with
  | none => stop
  | some '_' => wanting "leading digit" (placed .integer integer)
  | some '.' => wanting "leading digit" (placed .float float)
  | some 't' => truth "true" true
  | some 'f' => truth "false" false
  | some 'i' | some 'n' => wantingQuote (placed .float floatWord)
  | some c => if c.isDigit || isSign c then number else wantingQuote stop

end ColumnStore.Toml.Located

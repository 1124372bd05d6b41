import ColumnStore.Toml.Located.Basic

/-! A scanner reads a part of a document and says how far it came when it could not.
Trouble is final once the part cannot be anything else; until then another way may be tried.
-/

namespace ColumnStore.Toml

/-- What is left of a document, and how many bytes came before it. -/
structure Place where
  rest : List Char
  offset : Nat

/-- Why a scanner did not come further than to a byte. -/
structure Trouble where
  offset : Nat
  isFinal : Bool := false
  /-- The part that was being read. -/
  label : Option String := none
  /-- What could have come next. -/
  wanted : List String := []
  cause : Option String := none

def Trouble.message (t : Trouble) : String :=
  let lines := (t.label.map ("invalid " ++ ·)).toList
    ++ (if t.wanted.isEmpty then [] else ["expected " ++ ", ".intercalate t.wanted])
    ++ t.cause.toList
  "\n".intercalate lines

/-- The fault of a document that a scanner could not read: it is the character at the place. -/
def Trouble.fault (bytes : List UInt8) (t : Trouble) : Fault :=
  let inside := (bytes.take (t.offset + 1)).reverse.takeWhile Text.Utf8.isContinuation
  let start := if t.offset < bytes.length then t.offset - inside.length else t.offset
  let after := (bytes.drop (start + 1)).takeWhile Text.Utf8.isContinuation
  let stop := if t.offset < bytes.length then start + 1 + after.length else start
  { span := ⟨start, stop⟩, message := t.message }

/-- A reader of a part of a document. -/
abbrev Scan := StateT Place (Except Trouble)

namespace Scan

def stop : Scan α := fun p => .error { offset := p.offset }

/-- Stops at the place for good, for a cause. -/
def stopFor (cause : String) : Scan α := fun p =>
  .error { offset := p.offset, isFinal := true, cause }

def head? : Scan (Option Char) := fun p => .ok (p.rest.head?, p)

def char (test : Char → Bool) : Scan Char := fun p =>
  match p.rest with
  | c :: rest =>
    if test c then .ok (c, ⟨rest, p.offset + c.utf8Size⟩) else .error { offset := p.offset }
  | [] => .error { offset := p.offset }

def sign (c : Char) : Scan Unit := do
  let _ ← char (· = c)

def run (test : Char → Bool) : Scan (List Char) := fun p =>
  let taken := p.rest.takeWhile test
  .ok (taken, ⟨p.rest.dropWhile test, p.offset + (String.ofList taken).utf8ByteSize⟩)

def run1 (test : Char → Bool) : Scan (List Char) := do
  let first ← char test
  return first :: (← run test)

def word (text : String) : Scan Unit := fun p =>
  if text.toList.isPrefixOf p.rest then
    .ok ((), ⟨p.rest.drop text.length, p.offset + text.length⟩)
  else .error { offset := p.offset }

def optional (s : Scan α) : Scan (Option α) := fun p =>
  match s p with
  | .ok (a, p) => .ok (some a, p)
  | .error t => if t.isFinal then .error t else .ok (none, p)

/-- Reads in one of two ways; the second is tried when the first is in trouble that is not final. -/
def either (s t : Scan α) : Scan α := fun p =>
  match s p with
  | .ok r => .ok r
  | .error e => if e.isFinal then .error e else t p

def commit (s : Scan α) : Scan α := fun p =>
  (s p).mapError fun t => { t with isFinal := true }

/-- Gives trouble a name, unless a smaller part has given it one. -/
def named (label : String) (s : Scan α) : Scan α := fun p =>
  (s p).mapError fun t => { t with label := t.label <|> some label }

/-- Adds to trouble what could have come next. -/
def wanting (what : String) (s : Scan α) : Scan α := fun p =>
  (s p).mapError fun t => { t with wanted := t.wanted ++ [what] }

/-- Goes on with what was read, or is in trouble where the reading began. -/
def sift (f : α → Except String β) (s : Scan α) : Scan β := fun p =>
  match s p with
  | .error t => .error t
  | .ok (a, q) => match f a with
    | .ok b => .ok (b, q)
    | .error cause => .error { offset := p.offset, cause }

def ahead (s : Scan α) : Scan Unit := fun p =>
  match s p with
  | .ok _ => .ok ((), p)
  | .error t => .error { t with offset := p.offset }

/-- Reads a part and gives its characters. -/
def taken (s : Scan α) : Scan (List Char) := fun p =>
  match s p with
  | .ok (_, q) => .ok (p.rest.take (p.rest.length - q.rest.length), q)
  | .error t => .error t

/-- Reads a part and says where it stands. -/
def spanned (s : Scan α) : Scan (Span × α) := fun p =>
  match s p with
  | .ok (a, q) => .ok ((⟨p.offset, q.offset⟩, a), q)
  | .error t => .error t

/-- Reads a part as often as it is there, up to a number of times. -/
def atMost (s : Scan α) : Nat → Scan (List α)
  | 0 => return []
  | n + 1 => do
    match ← optional s with
    | none => return []
    | some a => return a :: (← atMost s n)

/-- Reads a part, which is not empty, as often as it is there. -/
def many (s : Scan α) : Scan (List α) := fun p => atMost s p.rest.length p

def separated1 (c : Char) (s : Scan α) : Scan (List α) := do
  let first ← s
  return first :: (← many do sign c; s)

def separated (c : Char) (s : Scan α) : Scan (List α) := do
  return (← optional (separated1 c s)).getD []

end Scan

end ColumnStore.Toml

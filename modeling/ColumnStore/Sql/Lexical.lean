/-! SQL text is scanned one character at a time for what is code, quoted text or comment.
A question mark in code is a placeholder, and the text between placeholders is a piece.
-/

namespace ColumnStore.Lexical

/-- Where the scanner stands. -/
inductive State where
  /-- In code, after nothing that the next character could extend. -/
  | code
  /-- In code after one dash, which a second dash turns into a comment. -/
  | dash
  /-- Inside the quotes of a delimiter. -/
  | quoted (delimiter : Char)
  /-- Inside quotes after an active backslash. -/
  | escaped (delimiter : Char)
  /-- After a delimiter that ended the quoted text unless a second one follows. -/
  | closing (delimiter : Char)
  /-- In a comment, up to the end of the line. -/
  | comment
deriving DecidableEq, Repr

/-- Single quotes hold literals; double quotes and backquotes hold identifiers. -/
def isDelimiter (c : Char) : Bool :=
  c = '\'' ∨ c = '"' ∨ c = '\x60'

namespace State

def afterCode (c : Char) : State :=
  if isDelimiter c then quoted c
  else if c = '-' then dash
  else code

def step : State → Char → State
  | code, c => afterCode c
  | dash, c => if c = '-' then comment else afterCode c
  | quoted d, c =>
    if c = '\\' then escaped d
    else if c = d then closing d
    else quoted d
  | escaped d, _ => quoted d
  | closing d, c => if c = d then quoted d else afterCode c
  | comment, c => if c = '\n' then code else comment

def run (s : State) (cs : List Char) : State :=
  cs.foldl step s

/-- Whether the scanner stands in code. After a delimiter it does, as long as no second one
follows.
-/
def inCode : State → Bool
  | code | dash | closing _ => true
  | quoted _ | escaped _ | comment => false

theorem run_append (s : State) (a b : List Char)
    : s.run (a ++ b) = (s.run a).run b :=
  List.foldl_append

end State

/-- A text cut at its placeholders: the piece before the first one, and the pieces after each. -/
def pieces : State → List Char → List Char × List (List Char)
  | _, [] => ([], [])
  | s, c :: rest =>
    if c = '?' ∧ s.inCode then
      let (first, more) := pieces .code rest
      ([], first :: more)
    else
      let (first, more) := pieces (s.step c) rest
      (c :: first, more)

/-- The pieces of a text that starts in code. -/
def split (sql : String) : String × List String :=
  let (first, more) := pieces .code sql.toList
  (String.ofList first, more.map String.ofList)

end ColumnStore.Lexical

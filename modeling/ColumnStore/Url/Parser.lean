import ColumnStore.Text.Trimming
import ColumnStore.Url.Basic
import ColumnStore.Url.Host

/-! A URL of a web server is cut at the signs that part it: the authority ends at a slash of
either kind, a question mark or a number sign, and its last at-sign ends the name and password.
Tabs and line ends do not count.
-/

namespace ColumnStore.Url

def isSlash (c : Char) : Bool :=
  c = '/' ∨ c = '\\'

def endsAuthority (c : Char) : Bool :=
  isSlash c ∨ c = '?' ∨ c = '#'

def withoutLineEnds (cs : List Char) : List Char :=
  cs.filter fun c => c ≠ '\t' ∧ c ≠ '\n' ∧ c ≠ '\r'

def parseUserInfo (cs : List Char) : String × String :=
  (String.ofList (percentEncode userInfoSet (cs.takeWhile (· ≠ ':'))),
    String.ofList (percentEncode userInfoSet ((cs.dropWhile (· ≠ ':')).drop 1)))

/-- The host and what follows it: a colon inside brackets belongs to the host. -/
def splitHost (inBrackets : Bool) : List Char → List Char × List Char
  | [] => ([], [])
  | c :: rest =>
    if c = ':' ∧ !inBrackets then ([], c :: rest)
    else
      let (host, after) := splitHost (if c = '[' then true else if c = ']' then false
        else inBrackets) rest
      (c :: host, after)

/-- The port after a host; none is said by no digits, or by those of the scheme's own port. -/
def parsePort (scheme : String) (cs : List Char) : Except UrlFault (Option Nat) :=
  let n := digitsValue 10 cs
  if cs.all Char.isDigit ∧ n < 65536 then
    .ok (if cs.isEmpty ∨ n = defaultPort scheme then none else some n)
  else .error .invalidPort

/-- Whether a part of a path stands for the directory that it is in. -/
def isSingleDot (cs : List Char) : Bool :=
  let s := String.ofList (cs.map Char.toLower)
  s = "." ∨ s = "%2e"

def isDoubleDot (cs : List Char) : Bool :=
  let s := String.ofList (cs.map Char.toLower)
  s = ".." ∨ s = "%2e." ∨ s = ".%2e" ∨ s = "%2e%2e"

/-- Whether a part of a path names a drive: a letter with a colon or a bar. -/
def isDrive : List Char → Bool
  | [letter, sign] => letter.isAlpha && (sign = ':' || sign = '|')
  | _ => false

/-- The parts of the directory above; nothing is above a drive. -/
def above (before : List (List Char)) : List (List Char) :=
  if before.getLast?.any isDrive then before else before.dropLast

/-- The parts of a path with the dots resolved; a path that ends in dots ends in a slash. -/
def resolveDots (before : List (List Char)) : List (List Char) → List (List Char)
  | [] => before
  | part :: rest =>
    let kept :=
      if isDoubleDot part then above before
      else if isSingleDot part then before
      else before ++ [part]
    if rest.isEmpty ∧ (isDoubleDot part ∨ isSingleDot part) then kept ++ [[]]
    else resolveDots kept rest

def pathParts (cs : List Char) : List String :=
  let parts := (cs.map fun c => if c = '\\' then '/' else c).splitOn '/'
  (resolveDots [] (parts.map (percentEncode pathSet))).map String.ofList

/-- What stands before the first sign of a kind, and what stands after it if there is one. -/
def cutAt (sign : Char) (cs : List Char) : List Char × Option (List Char) :=
  match Text.cutFirst? (· = sign) cs with
  | none => (cs, none)
  | some (before, after) => (before, some after)

def ofAuthority (scheme : String) (authority after : List Char) : Except UrlFault Url := do
  let ((name, password), hostPort) ← match Text.cutLast? '@' authority with
    | none => pure (("", ""), authority)
    | some (before, hostPort) =>
      if hostPort.isEmpty then .error .emptyHost else pure (parseUserInfo before, hostPort)
  let (hostText, portText) := splitHost false hostPort
  let host ← parseHost hostText
  let port ← parsePort scheme (portText.drop 1)
  let (beforeFragment, fragment) := cutAt '#' after
  let (path, query) := cutAt '?' beforeFragment
  let path := match path with
    | c :: rest => if isSlash c then rest else c :: rest
    | [] => []
  return {
    scheme, name, password, host, port, path := pathParts path
    query := query.map fun q => String.ofList (percentEncode querySet q)
    fragment := fragment.map fun f => String.ofList (percentEncode fragmentSet f) }

def parse (scheme : String) (rest : String) : Except UrlFault Url :=
  let cs := (withoutLineEnds rest.toList).dropWhile isSlash
  ofAuthority scheme (cs.takeWhile fun c => !endsAuthority c)
    (cs.dropWhile fun c => !endsAuthority c)

end ColumnStore.Url

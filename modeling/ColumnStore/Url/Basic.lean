import ColumnStore.Text.Utf8
import ColumnStore.Url.Percent

/-! A URL in its parts, all of them already in the form in which they are written.
The port is absent when it is the one that the scheme stands for.
-/

namespace ColumnStore

/-- An absolute URL of a web server. -/
structure Url where
  scheme : String
  /-- The name before the host. -/
  name : String := ""
  /-- The password after that name. -/
  password : String := ""
  host : String
  port : Option Nat := none
  path : List String
  query : Option String := none
  fragment : Option String := none
deriving DecidableEq, Repr

namespace Url

def defaultPort (scheme : String) : Nat :=
  if scheme = "https" then 443 else 80

/-- Name and password with the at-sign after them; an empty password leaves no colon, and nothing
at all leaves no at-sign.
-/
def userInfo (u : Url) : String :=
  if u.password.isEmpty then if u.name.isEmpty then "" else u.name ++ "@"
  else u.name ++ ":" ++ u.password ++ "@"

def authority (u : Url) : String :=
  u.host ++ (match u.port with | none => "" | some n => ":" ++ toString n)

def pathText (u : Url) : String :=
  "/" ++ "/".intercalate u.path

/-- What a request names: path and query. -/
def target (u : Url) : String :=
  u.pathText ++ (match u.query with | none => "" | some q => "?" ++ q)

def text (u : Url) : String :=
  u.scheme ++ "://" ++ u.userInfo ++ u.authority ++ u.target
    ++ (match u.fragment with | none => "" | some f => "#" ++ f)

/-- The URL of a sibling of the last part of the path, without query and fragment. -/
def sibling (u : Url) (name : String) : Url :=
  { u with path := u.path.dropLast ++ [name], query := none, fragment := none }

/-- Whether the percent forms of a part of a URL spell a text. -/
def isReadable (part : String) : Bool :=
  (Text.Utf8.decode? (percentDecode (Text.Utf8.encode part.toList))).isSome

/-- Whether the name and password before the host say who asks: the name can be read, and there is
one, or a password that can be read.
-/
def hasIdentity (u : Url) : Bool :=
  isReadable u.name && (!u.name.isEmpty || (!u.password.isEmpty && isReadable u.password))

/-- The URL without the name and password before the host, if they say who asks. -/
def withoutIdentity (u : Url) : Url :=
  if u.hasIdentity then { u with name := "", password := "" } else u

/-- Whether a character may stand in the host of a request: these four may stand in the host of a
URL, but not there.
-/
def isHostChar (c : Char) : Bool :=
  c ∉ ['"', '\x60', '\x7B', '\x7D']

/-- Whether a request can name the URL: its host has no sign that is refused there, and the whole
is short enough.
-/
def canBeRequested (u : Url) : Bool :=
  u.host.toList.all isHostChar && u.text.utf8ByteSize < 65535

def withQuery (u : Url) (pairs : String) : Url :=
  let query := match u.query with
    | none => pairs
    | some q => if q.isEmpty then pairs else q ++ "&" ++ pairs
  { u with query := some query }

end Url

end ColumnStore

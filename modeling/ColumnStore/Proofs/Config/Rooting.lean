import ColumnStore.Client.Endpoint
import ColumnStore.Config.Basic
import ColumnStore.Proofs.Json.Decimal
import ColumnStore.Proofs.Url.Authority
import ColumnStore.Proofs.Url.Paths

/-! The base URL should be the root of the configured server at the configured port. It is if the host of
the settings is read as a host alone, and any other host that is not refused leads elsewhere.
-/

namespace ColumnStore

/-- The port that a URL leads to. -/
def Url.effectivePort (u : Url) : Nat :=
  u.port.getD (Url.defaultPort u.scheme)

theorem Url.withoutLineEnds_append (front back : List Char)
    : withoutLineEnds (front ++ back) = withoutLineEnds front ++ withoutLineEnds back :=
  List.filter_append ..

/-- Only a URL whose name and password are both empty has nothing before its host. -/
theorem Url.userInfo_eq_empty_iff {u : Url}
    : u.userInfo = "" ↔ (u.name, u.password) = ("", "") := by
  unfold userInfo
  rw [Prod.mk.injEq]
  by_cases password : u.password = ""
  · by_cases name : u.name = "" <;> simp [name, password]
  · simp [password]

namespace Config

open Url

variable {c : Config} {u : Url}

/-- The root of the configured server at the configured port, and nothing of another part of a URL. -/
structure IsRoot (c : Config) (u : Url) : Prop where
  secure : u.scheme = "https" ↔ c.useTls
  port : u.effectivePort = c.port.toNat
  path : u.pathText = "/"
  identity : u.userInfo = ""
  query : u.query = none
  fragment : u.fragment = none

/-- The host as it is read: tabs, line ends and leading slashes do not count. -/
def hostText (c : Config) : List Char :=
  (withoutLineEnds c.host.toList).dropWhile isSlash

/-- Whether the host is read as a host alone: nothing in it ends the authority, and nothing but perhaps
the colon between a name and a password stands before an at-sign.
-/
structure NamesServer (c : Config) : Prop where
  whole : ∀ sign ∈ c.hostText, endsAuthority sign = false
  anonymous : ∀ before after, c.hostText = before ++ '@' :: after → before = [] ∨ before = [':']

/-- The port behind its colon. -/
def portText (c : Config) : List Char :=
  ':' :: Nat.toDigits 10 c.port.toNat

theorem isDigit_of_mem_portText {sign : Char} (member : sign ∈ c.portText)
    : sign = ':' ∨ sign.isDigit :=
  (List.mem_cons.1 member).imp_right (Nat.isDigit_of_mem_toDigits (by decide) (by decide))

/-- The port holds no sign that is neither a colon nor a digit. -/
theorem ne_of_mem_portText {sign : Char} (member : sign ∈ c.portText) (other : Char)
    (foreign : other ≠ ':' ∧ other.isDigit = false)
    : sign ≠ other := by
  rintro rfl
  rcases isDigit_of_mem_portText member with colon | digit
  · exact foreign.1 colon
  · exact absurd digit (by simp [foreign.2])

theorem endsAuthority_of_mem_portText {sign : Char} (member : sign ∈ c.portText)
    : endsAuthority sign = false := by
  have differs := ne_of_mem_portText member
  simp [endsAuthority, isSlash, differs '/' (by decide), differs '\\' (by decide),
    differs '?' (by decide), differs '#' (by decide)]

/-- What is read as the base URL: the host, a colon, the port, and the slash of the root. -/
def urlText (c : Config) : List Char :=
  c.hostText ++ c.portText ++ ['/']

/-- Of the text that is formed from the settings, this is what counts: the two slashes in front are passed
over with those of the host.
-/
theorem dropWhile_withoutLineEnds (c : Config)
    : (withoutLineEnds
        ("//" ++ c.host ++ ":" ++ toString c.port.toNat ++ "/").toList).dropWhile isSlash
      = c.urlText := by
  have written
      : ("//" ++ c.host ++ ":" ++ toString c.port.toNat ++ "/").toList
        = ['/', '/'] ++ (c.host.toList ++ (c.portText ++ ['/'])) := by
    simp [portText]
  have port : withoutLineEnds c.portText = c.portText :=
    List.filter_eq_self.2 fun sign member => by
      have differs := ne_of_mem_portText member
      exact decide_eq_true ⟨differs _ (by decide), differs _ (by decide), differs _ (by decide)⟩
  have front : (withoutLineEnds ['/', '/']).dropWhile isSlash = [] := by decide
  have back : withoutLineEnds ['/'] = ['/'] := by decide
  simp only [written, withoutLineEnds_append, port, back]
  rw [List.dropWhile_append, front, List.isEmpty_nil, if_pos rfl, List.dropWhile_append, urlText,
    hostText]
  split
  · rename_i none
    rw [List.isEmpty_iff.1 none]
    rfl
  · rw [List.append_assoc]

/-- The base URL is read from this text. -/
theorem isReadFrom_urlText (based : c.baseUrl = .ok u)
    : u.IsReadFrom c.scheme (c.urlText.takeWhile fun sign => !endsAuthority sign)
        (c.urlText.dropWhile fun sign => !endsAuthority sign) := by
  unfold baseUrl at based
  cases read : Url.parse c.scheme ("//" ++ c.host ++ ":" ++ toString c.port.toNat ++ "/") with
  | error fault => rw [read] at based; cases based
  | ok v =>
    rw [read] at based
    obtain rfl := Except.ok.inj based
    rw [Url.parse, dropWhile_withoutLineEnds] at read
    exact isReadFrom_of_ofAuthority read

theorem scheme_eq_https_iff (based : c.baseUrl = .ok u)
    : u.scheme = "https" ↔ c.useTls := by
  rw [(isReadFrom_urlText based).protocol, scheme]
  split <;> simp_all

/-- A host that ends the authority leaves the port to the path, the query or the fragment. -/
theorem not_isRoot_of_mem (based : c.baseUrl = .ok u) {sign : Char} (member : sign ∈ c.hostText)
    (ends : endsAuthority sign)
    : ¬ c.IsRoot u := by
  intro root
  have left : (c.hostText.dropWhile fun sign => !endsAuthority sign) ≠ [] := fun none => by
    simpa [ends] using List.dropWhile_eq_nil_iff.1 none sign member
  obtain ⟨first, rest, tail⟩ := List.exists_cons_of_ne_nil left
  have stopped : endsAuthority first := by
    simpa [tail] using List.head_dropWhile_not (fun sign => !endsAuthority sign) left
  have cut : (c.urlText.dropWhile fun sign => !endsAuthority sign)
      = first :: (rest ++ c.portText ++ ['/']) := by
    rw [urlText, List.append_assoc, List.dropWhile_append, tail]
    simp
  have slashless (sign : Char) (member : sign ∈ c.portText) : isSlash sign = false := by
    have inner := endsAuthority_of_mem_portText member
    simp only [endsAuthority, decide_eq_false_iff_not, not_or] at inner
    exact Bool.eq_false_iff.2 inner.1
  have read := isReadFrom_urlText based
  rw [cut] at read
  exact read.pathText_ne stopped List.mem_cons_self slashless root.query root.fragment root.path

/-- Who asks is left open exactly if nothing but perhaps a colon stands before an at-sign: then there is
one at most, and it parts the text.
-/
theorem anonymous_iff {text identity server : List Char} (absent : '@' ∉ server)
    (parted : text = server ∧ identity = [] ∨ text = identity ++ '@' :: server)
    : (identity = [] ∨ identity = [':'])
      ↔ ∀ before after, text = before ++ '@' :: after → before = [] ∨ before = [':'] := by
  rcases parted with ⟨rfl, rfl⟩ | whole
  · exact iff_of_true (.inl rfl) fun before after here =>
      absurd (here ▸ List.mem_append_right before List.mem_cons_self) absent
  · refine ⟨fun anonymous before after here => ?_, fun anonymous => anonymous identity server whole⟩
    have outside : '@' ∉ identity := by
      rcases anonymous with rfl | rfl <;> decide
    obtain ⟨rfl, -, -⟩ := (List.append_cons_inj_of_notMem outside absent).1 (whole.symm.trans here)
    exact anonymous

/-- With a host that does not end the authority, the base URL is the root at the configured port. -/
theorem parts_of_whole (based : c.baseUrl = .ok u)
    (whole : ∀ sign ∈ c.hostText, endsAuthority sign = false)
    : u.effectivePort = c.port.toNat ∧ u.path = [""] ∧ u.query = none ∧ u.fragment = none
      ∧ (u.userInfo = "" ↔
        ∀ before after, c.hostText = before ++ '@' :: after → before = [] ∨ before = [':']) := by
  have read := isReadFrom_urlText based
  have inner : ∀ sign ∈ c.hostText ++ c.portText, !endsAuthority sign := by
    intro sign member
    rcases List.mem_append.1 member with host | port
    · simp [whole sign host]
    · simp [endsAuthority_of_mem_portText port]
  obtain ⟨authority, after⟩ := Text.cut_append_cons (a := '/') inner (by decide) []
  rw [urlText, authority, after] at read
  obtain ⟨identity, hostPort, parted, single, named, hosted, ported⟩ := read.server
  obtain ⟨server, rfl, shape⟩ : ∃ server, hostPort = server ++ c.portText
      ∧ (c.hostText = server ∧ identity = [] ∨ c.hostText = identity ++ '@' :: server) := by
    rcases parted with ⟨rfl, rfl⟩ | whole
    · exact ⟨_, rfl, .inl ⟨rfl, rfl⟩⟩
    rcases Text.append_eq_append_cons whole with ⟨server, shape, rfl⟩ | ⟨front, -, rest⟩
    · exact ⟨server, rfl, .inr shape⟩
    · have port : '@' ∈ c.portText := rest ▸ List.mem_append_right front List.mem_cons_self
      exact absurd rfl (ne_of_mem_portText port '@' (by decide))
  have digits : ∀ digit ∈ Nat.toDigits 10 c.port.toNat, digit.isDigit :=
    fun _ => Nat.isDigit_of_mem_toDigits (by decide) (by decide)
  have port := getD_of_parsePort digits Nat.toDigits_ne_nil hosted ported
  refine ⟨?_, read.path, read.query, read.fragment, ?_⟩
  · rw [effectivePort, read.protocol, port, digitsValue_toDigits]
  · have absent : '@' ∉ server := fun member => single (List.mem_append_left _ member)
    rw [userInfo_eq_empty_iff, ← named, parseUserInfo_eq_empty_iff, anonymous_iff absent shape]

theorem isRoot_iff (based : c.baseUrl = .ok u)
    : c.IsRoot u ↔ c.NamesServer := by
  constructor
  · intro root
    have whole (sign : Char) (member : sign ∈ c.hostText) : endsAuthority sign = false := by
      cases ends : endsAuthority sign with
      | false => rfl
      | true => exact absurd root (not_isRoot_of_mem based member ends)
    obtain ⟨-, -, -, -, identity⟩ := parts_of_whole based whole
    exact ⟨whole, identity.1 root.identity⟩
  · intro names
    obtain ⟨port, path, query, fragment, identity⟩ := parts_of_whole based names.whole
    have text : u.pathText = "/" := by
      rw [pathText, path]
      rfl
    exact ⟨scheme_eq_https_iff based, port, text, identity.2 names.anonymous, query, fragment⟩

/-- From the root, the ping asks the same server for its own path, and statements go to the root. -/
theorem text_of_namesServer {e : Endpoint} (based : c.baseUrl = .ok e.base) (names : c.NamesServer)
    : e.pingRequest.url.text = e.base.scheme ++ "://" ++ e.base.authority ++ "/ping"
      ∧ ∀ sql database format request, e.statementRequest sql database format = .ok request →
          request.url.text = e.base.scheme ++ "://" ++ e.base.authority ++ "/?"
            ++ Url.formPairs (e.parameters database format) := by
  obtain ⟨-, path, query, fragment, identity⟩ := parts_of_whole based names.whole
  have nobody := identity.2 names.anonymous
  constructor
  · have kept : (e.base.sibling "ping").userInfo = e.base.userInfo
        ∧ (e.base.sibling "ping").authority = e.base.authority := ⟨rfl, rfl⟩
    rw [Endpoint.pingRequest, Url.text, kept.1, kept.2, nobody]
    simp [sibling, target, pathText, path, String.append_assoc]
  · intro sql database format request formed
    unfold Endpoint.statementRequest at formed
    split at formed
    case isFalse => cases formed
    case isTrue =>
      obtain rfl := Except.ok.inj formed
      generalize Url.formPairs (e.parameters database format) = pairs
      have kept : (e.base.withQuery pairs).userInfo = e.base.userInfo
          ∧ (e.base.withQuery pairs).authority = e.base.authority := ⟨rfl, rfl⟩
      have root : "/" ++ ("?" ++ pairs) = "/?" ++ pairs := String.append_assoc.symm
      rw [Url.text, kept.1, kept.2, nobody]
      simp [withQuery, target, pathText, path, query, fragment, String.append_assoc, root]

/-- A base URL has the configured scheme, and it is the root of a server at the configured port exactly
if the host of the settings is read as a host alone. All requests go to that server then: the ping asks
for its own path, and a statement is sent to the root.
-/
theorem baseUrl_isRoot_iff (based : c.baseUrl = .ok u)
    : (u.scheme = "https" ↔ c.useTls)
      ∧ (c.IsRoot u ↔ c.NamesServer)
      ∧ (c.IsRoot u → ∀ e : Endpoint, e.base = u →
          e.pingRequest.url.text = u.scheme ++ "://" ++ u.authority ++ "/ping"
          ∧ ∀ sql database format request, e.statementRequest sql database format = .ok request →
              request.url.text = u.scheme ++ "://" ++ u.authority ++ "/?"
                ++ Url.formPairs (e.parameters database format)) := by
  refine ⟨scheme_eq_https_iff based, isRoot_iff based, ?_⟩
  rintro root e rfl
  exact text_of_namesServer based ((isRoot_iff based).1 root)

/-- Settings with the port of their own scheme, which is left out of the URL. -/
def secured : Config where
  host := "[::1]"
  port := 443
  useTls := true

def securedEndpoint : Endpoint where
  base := { scheme := "https", host := "[::1]", path := [""] }
  username := "default"
  password := ""
  readOnly := false

theorem namesServer_secured : secured.NamesServer where
  whole := by
    intro sign member
    have each : secured.hostText.all fun sign => !endsAuthority sign := by decide
    simpa using List.all_eq_true.1 each sign member
  anonymous := by
    intro before after here
    have absent : '@' ∉ secured.hostText := by decide
    exact absurd (here ▸ List.mem_append_right before List.mem_cons_self) absent

/-- The URL is the root of the server, and the ping goes to a path right below it. -/
theorem baseUrl_isRoot_iff_secured
    : secured.baseUrl = .ok securedEndpoint.base
      ∧ securedEndpoint.base.scheme = "https"
      ∧ secured.IsRoot securedEndpoint.base
      ∧ securedEndpoint.pingRequest.url.text = "https://[::1]/ping" := by
  have based : secured.baseUrl = .ok securedEndpoint.base := by decide
  obtain ⟨secure, root, asked⟩ := baseUrl_isRoot_iff based
  have isRoot := root.2 namesServer_secured
  obtain ⟨ping, -⟩ := asked isRoot securedEndpoint rfl
  exact ⟨based, secure.2 rfl, isRoot, ping.trans (by decide)⟩

/-- A slash behind the host makes a path of the port, and the requests go to the scheme's own port. -/
theorem not_isRoot_slash
    : ∃ u, ({ host := "[::1]/" } : Config).baseUrl = .ok u
        ∧ u.text = "http://[::1]/:8123/"
        ∧ u.effectivePort = 80
        ∧ ¬ ({ host := "[::1]/" } : Config).IsRoot u := by
  refine ⟨{ scheme := "http", host := "[::1]", path := [":8123", ""] }, ?_, by decide, rfl, ?_⟩
  · decide
  · exact fun root => absurd root.port (by decide)

end Config

end ColumnStore

import ColumnStore.Proofs.Text.Trimming
import ColumnStore.Proofs.Url.Hosts
import ColumnStore.Url.Parser

/-! What has been read as a URL says where each part of it was read. The authority gives who asks, the
host and the port, and the text after it gives the path, query and fragment.
-/

namespace ColumnStore.Url

-----------------------------------------------------------------------------------------
-- Cuts
-----------------------------------------------------------------------------------------

/-- A host and what follows it are all there is, and a colon starts what follows. -/
theorem splitHost_append (inBrackets : Bool) (cs : List Char)
    : (splitHost inBrackets cs).1 ++ (splitHost inBrackets cs).2 = cs
      ∧ ∀ c ∈ (splitHost inBrackets cs).2.head?, c = ':' := by
  fun_induction splitHost inBrackets cs with
  | case1 => simp
  | case2 inBrackets c rest ends => simp [ends.1]
  | case3 inBrackets c rest goes host after split ih =>
    simp only [split] at ih
    exact ⟨congrArg (c :: ·) ih.1, ih.2⟩

/-- Nothing is cut off if the sign is nowhere. -/
theorem cutAt_eq_none {sign : Char} {cs : List Char} (whole : (cutAt sign cs).2 = none)
    : sign ∉ cs ∧ (cutAt sign cs).1 = cs := by
  unfold cutAt at whole ⊢
  split at whole
  · rename_i uncut
    have absent := Text.cutFirst?_eq_none_iff.1 uncut
    exact ⟨fun member => by simpa using absent _ member, rfl⟩
  · cases whole

theorem percentEncode_eq_nil_iff (set : List Char) {cs : List Char}
    : percentEncode set cs = [] ↔ cs = [] := by
  have present (c : Char)
      : (if isControlOrWide c ∨ set.contains c then percentChar c else [c]) ≠ [] := by
    split
    · obtain ⟨b, rest, bytes⟩ := List.exists_cons_of_ne_nil (Text.Utf8.encodeChar_ne_nil c)
      rw [percentChar, bytes]
      exact List.cons_ne_nil _ _
    · exact List.cons_ne_nil _ _
  rw [percentEncode, List.flatMap_eq_nil_iff]
  exact ⟨fun none => List.eq_nil_iff_forall_not_mem.2 fun c member => present c (none c member),
    fun same => by simp [same]⟩

/-- Nobody is named by no text, and by the colon between a name and a password alone. -/
theorem parseUserInfo_eq_empty_iff {cs : List Char}
    : parseUserInfo cs = ("", "") ↔ cs = [] ∨ cs = [':'] := by
  have empty (set part : List Char) : String.ofList (percentEncode set part) = "" ↔ part = [] := by
    rw [← percentEncode_eq_nil_iff set, ← String.ofList_inj, String.ofList_nil]
  rw [parseUserInfo, Prod.mk.injEq, empty, empty]
  cases cs with
  | nil => simp
  | cons c rest =>
    by_cases colon : c = ':' <;> simp [colon]

-----------------------------------------------------------------------------------------
-- Parts
-----------------------------------------------------------------------------------------

/-- A port is told by digits; no port is that of the scheme. -/
theorem of_parsePort {scheme : String} {cs : List Char} {port : Option Nat}
    (read : parsePort scheme cs = .ok port)
    : (∀ c ∈ cs, c.isDigit) ∧ (cs ≠ [] → port.getD (defaultPort scheme) = digitsValue 10 cs) := by
  simp only [parsePort] at read
  split at read
  case isFalse => cases read
  case isTrue fits =>
    obtain rfl := Except.ok.inj read
    refine ⟨List.all_eq_true.1 fits.1, fun present => ?_⟩
    have filled : cs.isEmpty = false := List.isEmpty_eq_false_iff.2 present
    simp only [filled, Bool.false_eq_true, false_or]
    split
    · rename_i same
      rw [same, Option.getD_none]
    · rfl

/-- The digits at the end of an authority are the port that is read: a host has no colon before digits
at its end, and no port has a colon.
-/
theorem getD_of_parsePort {scheme host : String} {port : Option Nat} {server digits : List Char}
    (each : ∀ c ∈ digits, c.isDigit) (present : digits ≠ [])
    (hosted : parseHost (splitHost false (server ++ ':' :: digits)).1 = .ok host)
    (ported : parsePort scheme ((splitHost false (server ++ ':' :: digits)).2.drop 1) = .ok port)
    : port.getD (defaultPort scheme) = digitsValue 10 digits := by
  obtain ⟨whole, leads⟩ := splitHost_append false (server ++ ':' :: digits)
  generalize splitHost false (server ++ ':' :: digits) = cut at *
  obtain ⟨hostText, portText⟩ := cut
  cases portText with
  | nil =>
    obtain ⟨fault, refused⟩ := exists_parseHost_eq_error server each
    rw [List.append_nil] at whole
    rw [whole, refused] at hosted
    cases hosted
  | cons sign portDigits =>
    obtain rfl := leads sign rfl
    obtain ⟨numbers, value⟩ := of_parsePort ported
    have colonless {cs : List Char} (digits : ∀ c ∈ cs, c.isDigit) : ':' ∉ cs :=
      fun member => absurd (digits _ member) (by decide)
    have same : portDigits = digits := by
      rcases Text.append_eq_append_cons whole with ⟨more, -, rest⟩ | ⟨front, -, rest⟩
      · exact absurd (rest ▸ List.mem_append_right more List.mem_cons_self) (colonless each)
      · cases front with
        | nil => exact (List.cons.inj rest).2
        | cons first others =>
          have later := (List.cons.inj rest).2
          exact absurd (later ▸ List.mem_append_right others List.mem_cons_self) (colonless numbers)
    subst same
    exact value present

/-- How the parts of a URL were read from the text of its authority and the text after that. -/
structure IsReadFrom (scheme : String) (authority after : List Char) (u : Url) : Prop where
  protocol : u.scheme = scheme
  /-- The last at-sign parts who asks from the host and its port. -/
  server
    : ∃ identity hostPort,
        (authority = hostPort ∧ identity = [] ∨ authority = identity ++ '@' :: hostPort)
        ∧ '@' ∉ hostPort
        ∧ parseUserInfo identity = (u.name, u.password)
        ∧ parseHost (splitHost false hostPort).1 = .ok u.host
        ∧ parsePort scheme ((splitHost false hostPort).2.drop 1) = .ok u.port
  path
    : u.path = pathParts (match (cutAt '?' (cutAt '#' after).1).1 with
        | c :: rest => if isSlash c then rest else c :: rest
        | [] => [])
  query
    : u.query = (cutAt '?' (cutAt '#' after).1).2.map fun q => String.ofList (percentEncode querySet q)
  fragment
    : u.fragment = (cutAt '#' after).2.map fun f => String.ofList (percentEncode fragmentSet f)

theorem isReadFrom_of_ofAuthority {scheme : String} {authority after : List Char} {u : Url}
    (read : ofAuthority scheme authority after = .ok u)
    : u.IsReadFrom scheme authority after := by
  cases parted : Text.cutLast? '@' authority with
  | none =>
    simp only [ofAuthority, parted, pure_bind] at read
    obtain ⟨host, hosted, read⟩ := bind_eq_ok.1 read
    obtain ⟨port, ported, read⟩ := bind_eq_ok.1 read
    obtain rfl := pure_eq_ok.1 read
    have nobody : parseUserInfo [] = ("", "") := parseUserInfo_eq_empty_iff.2 (.inl rfl)
    have single := Text.cutLast?_eq_none_iff.1 parted
    exact ⟨rfl, ⟨[], authority, .inl ⟨rfl, rfl⟩, single, nobody, hosted, ported⟩, rfl, rfl, rfl⟩
  | some parts =>
    obtain ⟨identity, hostPort⟩ := parts
    obtain ⟨whole, absent⟩ := Text.cutLast?_eq_some_iff.1 parted
    simp only [ofAuthority, parted, pure_bind] at read
    split at read
    · cases read
    obtain ⟨host, hosted, read⟩ := bind_eq_ok.1 read
    obtain ⟨port, ported, read⟩ := bind_eq_ok.1 read
    obtain rfl := pure_eq_ok.1 read
    exact ⟨rfl, ⟨identity, hostPort, .inr whole, absent, rfl, hosted, ported⟩, rfl, rfl, rfl⟩

end ColumnStore.Url

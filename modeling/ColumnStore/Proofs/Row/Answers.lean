import ColumnStore.Client.Batch
import ColumnStore.Connection.Queries
import ColumnStore.Proofs.Json.Decimal
import ColumnStore.Proofs.Row.Reading

/-! The answer to a count is one row with one number in it, and the answer to an insert has no rows. In
either form of a result there may be blanks wherever the form allows them, and the number may be
bare or in quotes: it is read as it was meant.
-/

namespace ColumnStore

namespace Row

open Json

-----------------------------------------------------------------------------------------
-- The texts of a count
-----------------------------------------------------------------------------------------

/-- The texts of a number of rows: its digits, bare or in quotes. -/
inductive CountText (n : Nat) : Json → List Char → Prop
  | bare : CountText n (.integer n) (Nat.toDigits 10 n)
  | quoted : CountText n (.string (toString n)) ('"' :: Nat.toDigits 10 n ++ ['"'])

/-- The texts of a row with a number of rows in its one column. -/
def CountRowText (n : Nat) (row : Json) (cs : List Char) : Prop :=
  ∃ member inner, ElementsText (MemberText (CountText n)) [member] inner
    ∧ row = .object [member] ∧ cs = '{' :: inner ++ ['}']

/-- The texts of an array with that one row. -/
def CountRowsText (n : Nat) (rows : Json) (cs : List Char) : Prop :=
  ∃ row inner, ElementsText (CountRowText n) [row] inner
    ∧ rows = .array [row] ∧ cs = '[' :: inner ++ [']']

/-- The texts of the members of a whole result: the rows are in `data`, and any others are beside. -/
inductive CountMemberText (n : Nat) : Option Json → List Char → Prop
  | data {rows : Json} {cs : List Char} (text : MemberText (CountRowsText n) ("data", rows) cs)
    : CountMemberText n (some rows) cs
  | other {m : String × Json} {cs : List Char} (different : m.1 ≠ "data")
      (text : MemberText (fun v cs => ∃ depth, ValueText depth v cs) m cs)
    : CountMemberText n none cs

/-- A body that answers with a number of rows, in a form of results. -/
def CountBody (n : Nat) : Format → List UInt8 → Prop
  | .lines, body =>
    ∃ row text, CountRowText n row text ∧ filledLines (body.splitOn 10) = [Text.Utf8.encode text]
  | .whole, body =>
    ∃ members inner before after rows, ListText (CountMemberText n) members inner
      ∧ members.filterMap id = [rows] ∧ IsSpaces before ∧ IsSpaces after
      ∧ body = Text.Utf8.encode (before ++ '{' :: inner ++ '}' :: after)

/-- A whole result with a count in quotes, as the store writes it. -/
def countAnswer (n : Nat) : List UInt8 :=
  Text.Utf8.encode ("\x7b\"data\":[\x7b\"aggregate\":\"".toList ++ Nat.toDigits 10 n
    ++ "\"\x7d],\"rows\":1\x7d".toList)

theorem countBody_countAnswer (n : Nat)
    : CountBody n .whole (countAnswer n) := by
  have aggregate : MemberText (CountText n) ("aggregate", .string (toString n)) _ :=
    .named (by decide) .quoted
  have row : CountRowText n (.object [("aggregate", .string (toString n))]) _ :=
    ⟨_, _, .one aggregate, rfl, rfl⟩
  have rows : CountRowsText n (.array [.object [("aggregate", .string (toString n))]]) _ :=
    ⟨_, _, .one row, rfl, rfl⟩
  have data : CountMemberText n (some (.array [.object [("aggregate", .string (toString n))]])) _ :=
    .data (.named (by decide) rows)
  have one : ScalarText (.integer 1) ['1'] := scalarText_toDigits (n := 1) (by decide)
  have size : MemberText (fun v cs => ∃ depth, ValueText depth v cs) ("rows", .integer 1) _ :=
    .named (by decide) ⟨0, one⟩
  have other : CountMemberText n none _ := .other (by decide) size
  refine ⟨_, _, [], [], _, .filled (.cons data (.one other)), rfl, nofun, nofun, ?_⟩
  rw [countAnswer]
  simp

/-- A body without rows. -/
def BlankBody (body : List UInt8) : Prop :=
  ∃ blanks, IsSpaces blanks ∧ body = Text.Utf8.encode blanks

-----------------------------------------------------------------------------------------
-- Their values
-----------------------------------------------------------------------------------------

variable {n : Nat}

theorem CountText.scalar {v : Json} {cs : List Char} (h : CountText n v cs)
    (room : n < UInt64.size)
    : ScalarText v cs := by
  cases h with
  | bare => exact scalarText_toDigits room
  | quoted =>
    rw [Nat.toString_eq_ofList_toDigits]
    exact .string (stringText_plain fun c member =>
      isPlainChar_of_isDigit ((isDigits_toDigits n).digits c member))

theorem CountText.unsigned {v : Json} {cs : List Char} (h : CountText n v cs)
    (room : n < UInt64.size)
    : v.unsigned? = some (UInt64.ofNat n) := by
  cases h with
  | bare => exact unsigned?_integer room
  | quoted => exact unsigned?_string room

theorem CountRowText.value {row : Json} {cs : List Char} (h : CountRowText n row cs)
    (room : n < UInt64.size) (depth : Nat)
    : ValueText (depth + 1) row cs := by
  obtain ⟨member, inner, elements, rfl, rfl⟩ := h
  refine .inr (.inr ⟨[member], inner, .filled (elements.imp fun m text _ h => ?_), rfl, rfl⟩)
  exact h.imp fun _ _ count => (count.scalar room).value depth

/-- A row with a number of rows has this number as its first value. -/
theorem CountRowText.counts {row : Json} {cs : List Char} (h : CountRowText n row cs)
    (room : n < UInt64.size)
    : ∃ fields : Row, row = .object fields
      ∧ Connection.countOf [fields] = .ok (UInt64.ofNat n) := by
  obtain ⟨member, inner, elements, rfl, rfl⟩ := h
  refine ⟨[member], rfl, ?_⟩
  have counted : member.2.unsigned? = some (UInt64.ofNat n) := by
    obtain ⟨_, text⟩ := elements.exists_text (List.mem_singleton_self member)
    obtain ⟨_, count⟩ := text.exists_text
    exact count.unsigned room
  simp [Connection.countOf, firstValue?, counted]

theorem CountRowsText.value {rows : Json} {cs : List Char} (h : CountRowsText n rows cs)
    (room : n < UInt64.size) (depth : Nat)
    : ValueText (depth + 2) rows cs := by
  obtain ⟨row, inner, elements, rfl, rfl⟩ := h
  refine .inr (.inl ⟨[row], inner, .filled (elements.imp fun v text _ h => ?_), rfl, rfl⟩)
  exact h.value room depth

theorem CountRowsText.counts {rows : Json} {cs : List Char} (h : CountRowsText n rows cs)
    (room : n < UInt64.size)
    : ∃ found, ofArray? rows = some found
      ∧ Connection.countOf found = .ok (UInt64.ofNat n) := by
  obtain ⟨row, inner, elements, rfl, rfl⟩ := h
  obtain ⟨cs, text⟩ := elements.exists_text (List.mem_singleton_self row)
  obtain ⟨fields, rfl, counted⟩ := text.counts room
  exact ⟨[fields], rfl, counted⟩

-----------------------------------------------------------------------------------------
-- A result in lines
-----------------------------------------------------------------------------------------

/-- An answer in lines gives the rows with the number. -/
theorem collect_decode_count {body : List UInt8} (h : CountBody n .lines body)
    (room : n < UInt64.size)
    : ∃ rows, collect (decode [.ok body]) = .ok rows
      ∧ Connection.countOf rows = .ok (UInt64.ofNat n) := by
  obtain ⟨row, text, row_text, lines⟩ := h
  have nested := row_text.value room (maxDepth - 1)
  obtain ⟨fields, rfl, counted⟩ := row_text.counts room
  refine ⟨[fields], ?_, counted⟩
  rw [decode_singleton, itemsOf, lines, List.map_singleton, ofLine_object nested]
  rfl

/-- The blanks of a form are blanks of one byte. -/
theorem isBlankByte_of_isSpaces {blanks : List Char} (spaces : IsSpaces blanks)
    : ∀ b ∈ Text.Utf8.encode blanks, Text.isBlankByte b := by
  intro b member
  obtain ⟨c, inside, written⟩ := List.mem_flatMap.1 member
  rcases eq_of_isSpace (spaces c inside) with rfl | rfl | rfl | rfl
  all_goals
    obtain rfl := List.mem_singleton.1 written
    rfl

/-- An answer of blanks gives no rows in lines. -/
theorem collect_decode_blank {body : List UInt8} (h : BlankBody body)
    : collect (decode [.ok body]) = .ok [] := by
  obtain ⟨blanks, spaces, rfl⟩ := h
  have lines : filledLines ((Text.Utf8.encode blanks).splitOn 10) = [] := by
    rw [filledLines, List.filter_eq_nil_iff]
    intro line member
    obtain ⟨piece, inside, rfl⟩ := List.mem_map.1 member
    have blank : Text.trimBytes piece = [] := Text.trimBytes_eq_nil fun b here =>
      isBlankByte_of_isSpaces spaces b (Text.subset_of_mem_splitOn inside here)
    simp [blank]
  rw [decode_singleton, itemsOf, lines]
  rfl

-----------------------------------------------------------------------------------------
-- A whole result
-----------------------------------------------------------------------------------------

/-- A member of an answer to a count is one of a whole text. -/
theorem CountMemberText.bodyMember {item : Option Json} {cs : List Char}
    (h : CountMemberText n item cs) (room : n < UInt64.size)
    : BodyMemberText item cs := by
  cases h with
  | data text => exact .data (text.imp fun _ _ rows => rows.value room (maxDepth - 3))
  | other different text => exact .other different text

/-- A text that does not start with the mark is read as it is written, blanks before it or not. -/
theorem decodeUnmarked_spaces {blanks : List Char} (spaces : IsSpaces blanks) (rest : List Char)
    (unmarked : rest.head? ≠ some '\uFEFF')
    : Text.Utf8.decodeUnmarked (Text.Utf8.encode (blanks ++ rest)) = blanks ++ rest := by
  refine Text.Utf8.decodeUnmarked_encode ?_
  cases blanks with
  | nil => exact unmarked
  | cons c more =>
    intro mark
    obtain rfl : c = '\uFEFF' := Option.some.inj mark
    exact absurd (spaces '\uFEFF' (by simp)) (by decide)

/-- A whole answer of blanks gives no rows. -/
theorem ofBody_blank {body : List UInt8} (h : BlankBody body)
    : ofBody (Text.Utf8.decodeUnmarked body) = .ok [] := by
  obtain ⟨blanks, spaces, rfl⟩ := h
  have text := decodeUnmarked_spaces spaces [] nofun
  rw [List.append_nil] at text
  have blank : Text.trim blanks = [] := by
    refine Text.trim_eq_nil_iff.2 fun c member => ?_
    rcases eq_of_isSpace (spaces c member) with rfl | rfl | rfl | rfl <;> rfl
  rw [text, ofBody, blank]
  rfl

/-- A whole answer gives the rows with the number. -/
theorem ofBody_count {body : List UInt8} (h : CountBody n .whole body) (room : n < UInt64.size)
    : ∃ rows, ofBody (Text.Utf8.decodeUnmarked body) = .ok rows
      ∧ Connection.countOf rows = .ok (UInt64.ofNat n) := by
  obtain ⟨members, inner, before, after, rows, listed, single, leads, trails, rfl⟩ := h
  obtain ⟨found, counts, counted⟩ : ∃ found, ofArray? rows = some found
      ∧ Connection.countOf found = .ok (UInt64.ofNat n) := by
    have kept : some rows ∈ members := by
      obtain ⟨item, member, same⟩ := List.mem_filterMap.1 (single ▸ List.mem_singleton_self rows)
      obtain rfl : item = some rows := same
      exact member
    obtain ⟨_, text⟩ := listed.exists_text kept
    cases text with
    | data text =>
      obtain ⟨_, text⟩ := text.exists_text
      exact text.counts room
  refine ⟨found, ?_, counted⟩
  have text : before ++ '{' :: inner ++ '}' :: after = before ++ ('{' :: inner ++ '}' :: after) := by
    simp
  rw [text, decodeUnmarked_spaces leads _ (by simp), ← text]
  exact ofBody_object (listed.imp fun _ _ _ text => text.bodyMember room) single counts leads trails

end Row

end ColumnStore

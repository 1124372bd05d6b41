import ColumnStore.Proofs.Json.Texts
import ColumnStore.Proofs.Row.Chunking
import ColumnStore.Proofs.Text.Trimming
import ColumnStore.Proofs.Text.Utf8
import ColumnStore.Row.Body

/-! Rows are read from the texts of results: one from the object on each line, or all of them from the
member `data` of a whole text. In a whole text blanks and other members may stand beside them.
-/

namespace ColumnStore.Row

open Json

-----------------------------------------------------------------------------------------
-- Lines
-----------------------------------------------------------------------------------------

/-- The text of an object is read from a line. -/
theorem ofLine_object {fields : Row} {cs : List Char} (h : ValueText maxDepth (.object fields) cs)
    : ofLine (Text.Utf8.encode cs) = .ok fields := by
  obtain ⟨v, read_eq, same⟩ := (reads_value true maxDepth).reads _ cs [] h nofun
  obtain rfl := same rfl
  obtain ⟨c, more, rfl, solid, -⟩ := h.starts
  have parsed : parse? (c :: more) = some (.object fields) := by
    rw [parse?, List.dropWhile_cons_of_neg (ne_true_of_eq_false solid), ← List.append_nil (c :: more),
      read_eq]
    rfl
  simp [ofLine, ofLine?, Text.Utf8.decode?_encode, parsed]

/-- Chunks that all come give the items of their bytes. -/
theorem decode_map_ok (chunks : List (List UInt8))
    : decode (chunks.map .ok) = itemsOf ofLine (chunks.flatten, none) := by
  have whole := received_append chunks []
  rw [List.append_nil] at whole
  rw [decode, decodeChunks, Decoder.items_eq]
  simp [Decoder.outlook, whole, received]

theorem decode_singleton (body : List UInt8)
    : decode [.ok body] = itemsOf ofLine (body, none) := by
  simpa using decode_map_ok [body]

/-- Rows that nothing ends early are all of them, by list induction. -/
theorem collect_map_ok (rows : List Row)
    : collect (rows.map .ok) = .ok rows := by
  induction rows with
  | nil => rfl
  | cons row rest ih => rw [List.map_cons, collect, ih, Except.map]

-----------------------------------------------------------------------------------------
-- A whole text
-----------------------------------------------------------------------------------------

/-- The texts of the members of a whole text: the rows are in `data`, and any others are beside. -/
inductive BodyMemberText : Option Json → List Char → Prop
  | data {rows : Json} {cs : List Char}
      (text : MemberText (ValueText (maxDepth - 1)) ("data", rows) cs)
    : BodyMemberText (some rows) cs
  | other {m : String × Json} {cs : List Char} (different : m.1 ≠ "data")
      (text : MemberText (fun v cs => ∃ depth, ValueText depth v cs) m cs)
    : BodyMemberText none cs

/-- The rows of a whole text are kept. -/
theorem readBodyValue_data {rows : Json} {cs rest : List Char} (h : ValueText (maxDepth - 1) rows cs)
    (stops : Stops rest)
    : readBodyValue "data" (cs ++ rest) = some (some rows, rest) := by
  obtain ⟨v, read_eq, same⟩ := (reads_value true (maxDepth - 1)).reads rows cs rest h stops
  obtain rfl := same rfl
  rw [readBodyValue, if_pos rfl, read_eq]
  rfl

/-- What is beside the rows is passed over, however deep it is nested. -/
theorem readBodyValue_other {name : String} (different : name ≠ "data") {depth : Nat} {v : Json}
    {cs rest : List Char} (h : ValueText depth v cs) (stops : Stops rest)
    : readBodyValue name (cs ++ rest) = some (none, rest) := by
  obtain ⟨w, read_eq, -⟩ := (reads_value false (cs ++ rest).length).reads v cs rest
    (h.of_length_le (by simp)) stops
  rw [readBodyValue, if_neg different, read_eq]
  rfl

theorem reads_bodyMember
    : Reads BodyMemberText (readMember true readBodyValue) fun item found => found.2 = item := by
  refine ⟨fun item cs text => ?_, fun item cs rest text stops => ?_⟩
  · cases text with
    | data text => exact text.starts
    | other _ text => exact text.starts
  · cases text with
    | @data rows cs text =>
      obtain ⟨name, found, read_eq, -, same⟩ : ∃ name found,
          readMember true readBodyValue (cs ++ rest) = some ((name, found), rest)
            ∧ (true = true → name = "data") ∧ found = some rows := readMember_text text
        (fun _ text => text.starts.imp fun _ ⟨more, shape, solid, _⟩ => ⟨more, shape, solid⟩)
        fun name cs named text => by
          obtain rfl := named rfl
          exact ⟨some rows, readBodyValue_data text stops, rfl⟩
      exact ⟨(name, found), read_eq, same⟩
    | @other m cs different text =>
      obtain ⟨name, found, read_eq, -, same⟩ : ∃ name found,
          readMember true readBodyValue (cs ++ rest) = some ((name, found), rest)
            ∧ (true = true → name = m.1) ∧ found = none := readMember_text text
        (fun _ ⟨_, text⟩ =>
          text.starts.imp fun _ ⟨more, shape, solid, _⟩ => ⟨more, shape, solid⟩)
        fun name cs named ⟨_, text⟩ => by
          obtain rfl := named rfl
          exact ⟨none, readBodyValue_other different text stops, rfl⟩
      exact ⟨(name, found), read_eq, same⟩

/-- A whole text with its rows in one member gives them. -/
theorem ofBody_object {members : List (Option Json)} {inner before after : List Char} {rows : Json}
    {found : List Row} (listed : ListText BodyMemberText members inner)
    (single : members.filterMap id = [rows]) (holds : ofArray? rows = some found)
    (leads : IsSpaces before) (trails : IsSpaces after)
    : ofBody (before ++ '{' :: inner ++ '}' :: after) = .ok found := by
  have shape : before ++ '{' :: inner ++ '}' :: after = before ++ '{' :: (inner ++ '}' :: after) := by
    simp
  have filled : ¬ (Text.trim (before ++ '{' :: inner ++ '}' :: after)).isEmpty := by
    rw [List.isEmpty_iff, Text.trim_eq_nil_iff]
    exact fun blank => absurd (blank '{' (by simp)) (by decide)
  obtain ⟨read, read_eq, fits⟩ := reads_bodyMember.readList (.inr rfl) listed after
  have same : read.filterMap (·.2) = [rows] := by
    have seconds : read.map (·.2) = members :=
      List.forall₂_eq_eq_eq ▸ List.forall₂_map_left_iff.2 (List.Forall₂.flip fits)
    rw [← single, ← seconds, List.filterMap_map]
    rfl
  have text : ofBodyText? (before ++ '{' :: inner ++ '}' :: after) = some found := by
    have ends : after.dropWhile isSpace = [] := List.dropWhile_eq_nil_iff.2 trails
    have brace : isSpace '{' = false := rfl
    rw [shape, ofBodyText?, (Text.cut_append_cons leads brace _).2]
    simp [read_eq, whole, ends, ofMembers?, same, holds]
  rw [ofBody, if_neg filled, text]

end ColumnStore.Row

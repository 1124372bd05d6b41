import ColumnStore.Client.Batch
import ColumnStore.Client.Streaming
import ColumnStore.Proofs.Json.Compact
import ColumnStore.Proofs.Row.Reading

/-! The two forms of a result give the same rows. In lines each row stands in its compact text, and the
bytes may come in any chunks; the whole form is the compact text of an object with all rows in it.
-/

namespace ColumnStore.Row

open Json

/-- The bytes of rows in lines. -/
def linesBody (rows : List Row) : List UInt8 :=
  rows.flatMap fun row => Text.Utf8.encode (object row).compact.toList ++ [10]

/-- The text of rows in the whole form. -/
def wholeText (rows : List Row) : List Char :=
  (object [("data", .array (rows.map .object))]).compact.toList

/-- Rows that both forms keep as they are: a row in the whole form is nested in two more values. -/
def AreExact (rows : List Row) : Prop :=
  ∀ row ∈ rows, IsExact (maxDepth - 2) (.object row)

variable {rows : List Row}

/-- The line of a row is the row's own text, blanks trimmed or not. -/
theorem trimBytes_line (row : Row)
    : Text.trimBytes (Text.Utf8.encode (object row).compact.toList)
      = Text.Utf8.encode (object row).compact.toList := by
  have bytes (inner : List Char)
      : Text.Utf8.encode ('{' :: inner ++ ['}']) = (123 :: Text.Utf8.encode inner) ++ [125] := by
    simp only [Text.Utf8.encode, List.flatMap_append, List.flatMap_cons, List.flatMap_nil]
    rfl
  rw [toList_compact_object, bytes]
  exact Text.dropWhile_ends (a := 123) (b := 125) rfl List.getLast?_concat rfl rfl

/-- Rows in lines are decoded one by one, by list induction. -/
theorem itemsOf_linesBody (exact : AreExact rows)
    : itemsOf ofLine (linesBody rows, none) = rows.map .ok := by
  induction rows with
  | nil => rfl
  | cons row rest ih =>
    have one : IsExact (maxDepth - 2) (.object row) := exact row (by simp)
    have complete : 10 ∉ Text.Utf8.encode (object row).compact.toList := by
      intro newline
      obtain ⟨c, inside, written⟩ := List.mem_flatMap.1 newline
      have number := Text.Utf8.toNat_of_mem_encodeChar written (by decide)
      obtain rfl : c = '\n' := Char.toNat_inj.1 number
      exact one.newline_notMem inside
    have filled : (Text.Utf8.encode (object row).compact.toList).isEmpty = false := by
      rw [toList_compact_object]
      rfl
    have read : ofLine (Text.Utf8.encode (object row).compact.toList) = .ok row :=
      ofLine_object (one.mono (by decide)).valueText
    have split : linesBody (row :: rest)
        = Text.Utf8.encode (object row).compact.toList ++ 10 :: linesBody rest := by
      simp [linesBody]
    rw [split, itemsOf_line ofLine complete, trimBytes_line, filled, read,
      ih fun other later => exact other (List.mem_cons_of_mem row later)]
    rfl

/-- An array of objects gives their members as rows, by list induction. -/
theorem ofArray?_objects (rows : List Row)
    : ofArray? (.array (rows.map .object)) = some rows := by
  rw [ofArray?, List.mapM_map]
  induction rows with
  | nil => rfl
  | cons row rest ih => simp [List.mapM_cons, ih]

/-- Rows in the whole form are read from it. -/
theorem ofBody_wholeText (exact : AreExact rows)
    : ofBody (wholeText rows) = .ok rows := by
  have nested : IsExact (maxDepth - 1) (.array (rows.map .object)) := by
    refine .array fun v member => ?_
    obtain ⟨row, known, rfl⟩ := List.mem_map.1 member
    exact exact row known
  have data : BodyMemberText (some (.array (rows.map .object))) _ :=
    .data (.named (by decide) nested.valueText)
  have shape : wholeText rows = [] ++ '{' :: ('"' :: "data".toList ++ '"' :: ':'
      :: (array (rows.map .object)).compact.toList) ++ '}' :: [] := by
    rw [wholeText, toList_compact_object]
    simp [member, toList_quoted, escapeChar]
  rw [shape]
  exact ofBody_object (.filled (.one data)) rfl (ofArray?_objects rows) (List.forall_mem_nil _)
    (List.forall_mem_nil _)

/-- Both forms of a result give back the rows in it, with their order and their values: lines in any
chunks, and the whole text. So do the answers of the two kinds of clients, and an answer without
bytes has no rows in either form.
-/
theorem forms_agree (exact : AreExact rows)
    : (∀ chunks : List (List UInt8), chunks.flatten = linesBody rows →
        decode (chunks.map .ok) = rows.map .ok ∧ collect (decode (chunks.map .ok)) = .ok rows)
      ∧ ofBody (wholeText rows) = .ok rows
      ∧ (∀ r : Http.Response, r.isComplete →
          (r.body = linesBody rows → collect (decode (StreamingClient.chunks r)) = .ok rows)
          ∧ (r.body = Text.Utf8.encode (wholeText rows) → BatchClient.rows r = .ok rows))
      ∧ (∀ chunks : List (List UInt8), chunks.flatten = [] → decode (chunks.map .ok) = [])
      ∧ ofBody [] = .ok [] := by
  have lines (chunks : List (List UInt8)) (bytes : chunks.flatten = linesBody rows)
      : decode (chunks.map .ok) = rows.map .ok := by
    rw [decode_map_ok, bytes, itemsOf_linesBody exact]
  refine ⟨fun chunks bytes => ⟨lines chunks bytes, ?_⟩, ofBody_wholeText exact, ?_, ?_, rfl⟩
  · rw [lines chunks bytes, collect_map_ok]
  · intro r complete
    constructor
    · intro body
      have one : StreamingClient.chunks r = [r.body].map .ok := by
        simp [StreamingClient.chunks, complete]
      rw [one, lines [r.body] (by simpa using body), collect_map_ok]
    · intro body
      have unmarked : (wholeText rows).head? ≠ some '\uFEFF' := by
        rw [wholeText, toList_compact_object]
        simp
      have text : r.text = .ok (wholeText rows) := by
        rw [Http.Response.text, if_pos complete, body, Text.Utf8.decodeUnmarked_encode unmarked]
      rw [BatchClient.rows, text]
      exact ofBody_wholeText exact
  · intro chunks bytes
    rw [decode_map_ok, bytes]
    rfl

/-- Rows with nested values, the least and the greatest integer, and strings that look like JSON or
break a line.
-/
def mixedRows : List Row :=
  [
    [
      ("text", .string "a\n\x7b\"b\": 1\x7d\\"),
      ("least", .integer (-9223372036854775808)),
      ("greatest", .integer 18446744073709551615),
      ("nested", .array [.null, .bool true, .object [("é", .string "\x01😀"), ("", .array [])]])
    ],
    []
  ]

theorem areExact_mixedRows
    : AreExact mixedRows := by
  have inner : IsExact 2 (.object [("é", .string "\x01😀"), ("", .array [])]) := by
    refine .object (by decide) ?_
    simp only [List.forall_mem_cons]
    exact ⟨.string _, .array nofun, nofun⟩
  have filled : IsExact 4 (.object mixedRows[0]) := by
    refine .object (by decide) ?_
    simp only [mixedRows, List.getElem_cons_zero, List.forall_mem_cons]
    refine ⟨.string _, .integer (by decide) (by decide), .integer (by decide) (by decide), ?_, nofun⟩
    refine .array ?_
    simp only [List.forall_mem_cons]
    exact ⟨.null, .bool true, inner, nofun⟩
  exact List.forall_mem_cons.2 ⟨filled.mono (by decide),
    List.forall_mem_singleton.2 (.object (by decide) nofun)⟩

/-- They are read from the lines, cut in two within the first of them, and from the whole form alike. -/
theorem forms_agree_mixedRows
    : AreExact mixedRows
      ∧ collect (decode ([(linesBody mixedRows).take 9, (linesBody mixedRows).drop 9].map .ok))
        = .ok mixedRows
      ∧ ofBody (wholeText mixedRows) = .ok mixedRows := by
  have whole := forms_agree areExact_mixedRows
  exact ⟨areExact_mixedRows, (whole.1 _ (by simp)).2, whole.2.1⟩

end ColumnStore.Row

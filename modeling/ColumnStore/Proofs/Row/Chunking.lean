import ColumnStore.Row.Lines

/-! The rows of a stream depend on its bytes and on where it breaks off, and not on its chunks.
Each step of the decoder keeps what the bytes at hand and the bytes to come will give together.
-/

namespace ColumnStore.Row

-----------------------------------------------------------------------------------------
-- What bytes give
-----------------------------------------------------------------------------------------

/-- Items up to the first failure, which is the last one. -/
def upToFailure : List (Except Error Row) → List (Except Error Row)
  | [] => []
  | .error e :: _ => [.error e]
  | .ok row :: rest => .ok row :: upToFailure rest

/-- The lines that hold more than blanks, without the blanks at their ends. -/
def filledLines (lines : List (List UInt8)) : List (List UInt8) :=
  (lines.map Text.trimBytes).filter fun line => !line.isEmpty

/-- The bytes that come before a stream fails, and the failure if it does. -/
def received : List (Except Error (List UInt8)) → List UInt8 × Option Error
  | [] => ([], none)
  | .ok chunk :: rest => (chunk ++ (received rest).1, (received rest).2)
  | .error e :: _ => ([], some e)

section Items

variable (parse : List UInt8 → Except Error Row)

/-- The items of bytes that end or fail. All pieces between newlines are read when they end, and
when they fail the last piece is not complete and the failure stands in its place.
-/
def itemsOf : List UInt8 × Option Error → List (Except Error Row)
  | (bytes, none) => upToFailure ((filledLines (bytes.splitOn 10)).map parse)
  | (bytes, some e) =>
    upToFailure ((filledLines (bytes.splitOn 10).dropLast).map parse ++ [.error e])

/-- A complete line gives its own item and then what the rest gives. -/
theorem itemsOf_line {line : List UInt8} (complete : 10 ∉ line) (rest : List UInt8)
    (failure : Option Error)
    : itemsOf parse (line ++ 10 :: rest, failure)
      = if (Text.trimBytes line).isEmpty then itemsOf parse (rest, failure)
        else match parse (Text.trimBytes line) with
          | .ok row => .ok row :: itemsOf parse (rest, failure)
          | .error e => [.error e] := by
  have split : (line ++ 10 :: rest).splitOn 10 = line :: rest.splitOn 10 :=
    List.splitOn_append_cons_self_of_not_mem complete rest
  have dropped : (line :: rest.splitOn 10).dropLast = line :: (rest.splitOn 10).dropLast :=
    List.dropLast_cons_of_ne_nil (List.splitOn_ne_nil 10 rest)
  cases failure with
  | none =>
    cases blank : (Text.trimBytes line).isEmpty with
    | true => simp [itemsOf, split, filledLines, blank]
    | false => cases read : parse (Text.trimBytes line) <;>
        simp [itemsOf, split, filledLines, blank, read, upToFailure]
  | some e =>
    cases blank : (Text.trimBytes line).isEmpty with
    | true => simp [itemsOf, split, dropped, filledLines, blank]
    | false => cases read : parse (Text.trimBytes line) <;>
        simp [itemsOf, split, dropped, filledLines, blank, read, upToFailure]

/-- Bytes without a newline are one line when they end. -/
theorem itemsOf_last {bytes : List UInt8} (unfinished : 10 ∉ bytes)
    : itemsOf parse (bytes, none)
      = if (Text.trimBytes bytes).isEmpty then [] else [parse (Text.trimBytes bytes)] := by
  have split : bytes.splitOn 10 = [bytes] := List.splitOn_eq_singleton unfinished
  cases blank : (Text.trimBytes bytes).isEmpty with
  | true => simp [itemsOf, split, filledLines, blank, upToFailure]
  | false => cases read : parse (Text.trimBytes bytes) <;>
      simp [itemsOf, split, filledLines, blank, read, upToFailure]

/-- Bytes without a newline are not read when the stream fails. -/
theorem itemsOf_failed {bytes : List UInt8} (unfinished : 10 ∉ bytes) (e : Error)
    : itemsOf parse (bytes, some e) = [.error e] := by
  have split : bytes.splitOn 10 = [bytes] := List.splitOn_eq_singleton unfinished
  simp [itemsOf, split, filledLines, upToFailure]

end Items

-----------------------------------------------------------------------------------------
-- The decoder
-----------------------------------------------------------------------------------------

/-- A cut line is complete and is what stands before the first newline, by list induction. -/
theorem cutLine?_eq_some {bytes line rest : List UInt8} (h : cutLine? bytes = some (line, rest))
    : bytes = line ++ 10 :: rest ∧ 10 ∉ line := by
  induction bytes generalizing line with
  | nil => simp [cutLine?] at h
  | cons b more ih =>
    simp only [cutLine?] at h
    split at h
    · rename_i newline
      cases h
      simp [newline]
    · rename_i other
      obtain ⟨⟨l, r⟩, found, same⟩ := Option.map_eq_some_iff.1 h
      cases same
      obtain ⟨whole, complete⟩ := ih found
      refine ⟨by rw [whole, List.cons_append], ?_⟩
      simp [complete, Ne.symm other]

/-- Bytes that cannot be cut hold no newline, by list induction. -/
theorem cutLine?_eq_none {bytes : List UInt8} (h : cutLine? bytes = none)
    : 10 ∉ bytes := by
  induction bytes with
  | nil => simp
  | cons b more ih =>
    simp only [cutLine?] at h
    split at h
    · simp at h
    · rename_i other
      simp [ih (Option.map_eq_none_iff.1 h), Ne.symm other]

namespace Decoder

/-- The bytes that a decoder has at hand with those that it will still take, and what breaks them
off.
-/
def outlook (d : Decoder) : List UInt8 × Option Error :=
  if d.ended then (d.buffer, none)
  else (d.buffer ++ (received d.source).1, (received d.source).2)

/-- A line at hand comes first in the outlook. -/
theorem outlook_line {d : Decoder} {line rest : List UInt8}
    (cut : d.buffer = line ++ 10 :: rest)
    : d.outlook
      = (line ++ 10 :: (outlook { d with buffer := rest }).1,
          (outlook { d with buffer := rest }).2) := by
  unfold outlook
  cases d.ended <;> simp [cut]

/-- Nothing is left where no bytes are at hand and no chunk is taken. -/
theorem itemsOf_outlook_done (parse : List UInt8 → Except Error Row)
    (source : List (Except Error (List UInt8)))
    : itemsOf parse (outlook { source, ended := true }) = [] :=
  rfl

variable (parse : List UInt8 → Except Error Row)

/-- The next item is the first that the decoder's outlook gives, and the outlook after it gives the
rest. The induction is on the steps without an item, in which bytes only move or a blank line goes.
-/
theorem itemsOf_outlook (d : Decoder)
    : itemsOf parse d.outlook
      = match d.next? parse with
        | none => []
        | some (item, after) => item :: itemsOf parse after.outlook := by
  fun_induction next? parse d with
  | case1 d line rest found _ blank ih =>
    obtain ⟨whole, complete⟩ := cutLine?_eq_some found
    rw [← ih, outlook_line whole, itemsOf_line parse complete, if_pos blank]
  | case2 d line rest found _ filled row read =>
    obtain ⟨whole, complete⟩ := cutLine?_eq_some found
    rw [outlook_line whole, itemsOf_line parse complete, if_neg filled, read]
  | case3 d line rest found _ filled e read =>
    obtain ⟨whole, complete⟩ := cutLine?_eq_some found
    rw [outlook_line whole, itemsOf_line parse complete, if_neg filled, read]
    simp only [itemsOf_outlook_done]
  | case4 d found ended blank =>
    rw [outlook, if_pos ended, itemsOf_last parse (cutLine?_eq_none found), if_pos blank]
  | case5 d found ended filled =>
    rw [outlook, if_pos ended, itemsOf_last parse (cutLine?_eq_none found), if_neg filled, ended]
    simp only [itemsOf_outlook_done]
  | case6 d _ going coming ih =>
    rw [← ih]
    simp [outlook, going, coming, received]
  | case7 d _ going chunk source coming ih =>
    rw [← ih]
    simp [outlook, going, coming, received]
  | case8 d found going e source coming =>
    have unfinished := cutLine?_eq_none found
    simp only [outlook, going, coming, received, List.append_nil]
    exact itemsOf_failed parse unfinished e

/-- The items of a decoder are those of its outlook, by recursion on the items. -/
theorem items_eq (d : Decoder)
    : d.items parse = itemsOf parse d.outlook := by
  fun_induction items parse d with
  | case1 d finished => rw [itemsOf_outlook, finished]
  | case2 d item after found _ ih => rw [itemsOf_outlook, found, ih]

end Decoder

-----------------------------------------------------------------------------------------
-- Chunks
-----------------------------------------------------------------------------------------

/-- Chunks that all come amount to their bytes, whatever comes after them. -/
theorem received_append (chunks : List (List UInt8)) (rest : List (Except Error (List UInt8)))
    : received (chunks.map .ok ++ rest) = (chunks.flatten ++ (received rest).1, (received rest).2) := by
  induction chunks with
  | nil => rfl
  | cons chunk more ih => simp [received, ih]

/-- The rows of a stream do not depend on its chunks, for every reader of lines. A stream that ends
gives the items of all pieces between newlines, blank ones passed over, up to the first bad one.
A stream that fails gives those of the complete lines before and then the failure, unless a bad
line comes first; what comes after the failure is never read.
-/
theorem decodeChunks_eq (parse : List UInt8 → Except Error Row) (chunks : List (List UInt8))
    : decodeChunks parse (chunks.map .ok)
        = upToFailure ((filledLines (chunks.flatten.splitOn 10)).map parse)
      ∧ ∀ e rest,
          decodeChunks parse (chunks.map .ok ++ .error e :: rest)
          = upToFailure
              ((filledLines (chunks.flatten.splitOn 10).dropLast).map parse ++ [.error e]) := by
  constructor
  · have whole := received_append chunks []
    rw [List.append_nil] at whole
    rw [decodeChunks, Decoder.items_eq]
    simp [Decoder.outlook, whole, received, itemsOf]
  · intro e rest
    rw [decodeChunks, Decoder.items_eq]
    simp [Decoder.outlook, received_append, received, itemsOf]

end ColumnStore.Row

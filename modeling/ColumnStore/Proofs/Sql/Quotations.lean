import ColumnStore.Proofs.Escaping.Unquoting
import ColumnStore.Text.Trimming

/-! The store has one reader for all quotations, in which a backslash escapes and a doubled delimiter is one
of the text. It reads the literals of either escaping alike, and stops right after them.
-/

namespace ColumnStore.Lexical

open Escaping

-----------------------------------------------------------------------------------------
-- The reader
-----------------------------------------------------------------------------------------

/-- What a character stands for behind a backslash: a control character, or itself. -/
def behindBackslash : Char → Char
  | 'n' => '\n'
  | 'r' => '\r'
  | 't' => '\t'
  | '0' => '\x00'
  | c => c

/-- The text up to the delimiter that ends it, and what follows that. A delimiter ends the text unless a
second one follows, and a text without its end is none.
-/
def untilDelimiter? (delimiter : Char) : List Char → Option (List Char × List Char)
  | [] => none
  | c :: rest =>
    if c = '\\' then
      match rest with
      | [] => none
      | escaped :: more => Text.readAfter (behindBackslash escaped) (untilDelimiter? delimiter more)
    else if c = delimiter then
      match rest with
      | [] => some ([], [])
      | next :: more =>
        if next = delimiter then Text.readAfter c (untilDelimiter? delimiter more) else some ([], rest)
    else Text.readAfter c (untilDelimiter? delimiter rest)

/-- The text of a quotation at the start, and what follows its closing delimiter. -/
def readQuoted? (delimiter : Char) : List Char → Option (List Char × List Char)
  | [] => none
  | c :: rest => if c = delimiter then untilDelimiter? delimiter rest else none

/-- The text of a literal at the start of SQL text, and what follows the literal. -/
def readLiteral? (sql : String) : Option (String × String) :=
  (readQuoted? '\'' sql.toList).map fun (text, rest) => (String.ofList text, String.ofList rest)

section

variable {delimiter : Char}

theorem untilDelimiter?_escaped (c : Char) (rest : List Char)
    : untilDelimiter? delimiter ('\\' :: c :: rest)
      = Text.readAfter (behindBackslash c) (untilDelimiter? delimiter rest) := by
  rw [untilDelimiter?, if_pos rfl]

theorem untilDelimiter?_plain {c : Char} (backslash : c ≠ '\\') (other : c ≠ delimiter)
    (rest : List Char)
    : untilDelimiter? delimiter (c :: rest) = Text.readAfter c (untilDelimiter? delimiter rest) := by
  rw [untilDelimiter?.eq_def]
  simp only [if_neg backslash, if_neg other]

theorem untilDelimiter?_doubled (backslash : delimiter ≠ '\\') (rest : List Char)
    : untilDelimiter? delimiter (delimiter :: delimiter :: rest)
      = Text.readAfter delimiter (untilDelimiter? delimiter rest) := by
  simp [untilDelimiter?, backslash]

/-- A delimiter alone ends the text. -/
theorem untilDelimiter?_closed (backslash : delimiter ≠ '\\') {rest : List Char}
    (apart : rest.head? ≠ some delimiter)
    : untilDelimiter? delimiter (delimiter :: rest) = some ([], rest) := by
  cases rest with
  | nil => simp [untilDelimiter?, backslash]
  | cons c more =>
    have other : c ≠ delimiter := by simpa using apart
    simp [untilDelimiter?, backslash, other]

theorem readQuoted?_opened (rest : List Char)
    : readQuoted? delimiter (delimiter :: rest) = untilDelimiter? delimiter rest :=
  if_pos rfl

end

-----------------------------------------------------------------------------------------
-- Literals
-----------------------------------------------------------------------------------------

/-- A letter that an escaping uses stands for the same character in every sequence. -/
theorem behindBackslash_of_sequenceChar? {c letter : Char} (known : sequenceChar? letter = some c)
    : behindBackslash letter = c := by
  unfold sequenceChar? at known
  split at known
  all_goals cases known <;> rfl

/-- What stands for a character in a literal of either escaping is read as the character. -/
theorem untilDelimiter?_charText {e : Escaping} {c : Char} {w : List Char} (text : CharText e c w)
    (rest : List Char)
    : untilDelimiter? '\'' (w ++ rest) = Text.readAfter c (untilDelimiter? '\'' rest) := by
  cases text with
  | plain quote backslash => exact untilDelimiter?_plain backslash quote rest
  | sequence known =>
    rw [← behindBackslash_of_sequenceChar? known]
    exact untilDelimiter?_escaped _ rest
  | double special =>
    rcases special with rfl | rfl
    · exact untilDelimiter?_doubled (by decide) rest
    · exact untilDelimiter?_escaped '\\' rest

/-- What is read back between quotes is read by the store as the same text, up to the closing quote. By
induction on the characters.
-/
theorem untilDelimiter?_spelled {e : Escaping} {text cs : List Char} (h : Spelled e text cs)
    {rest : List Char} (apart : rest.head? ≠ some '\'')
    : untilDelimiter? '\'' (cs ++ '\'' :: rest) = some (text, rest) := by
  induction h with
  | nil => exact untilDelimiter?_closed (by decide) apart
  | cons here others ih =>
    rw [List.append_assoc, untilDelimiter?_charText here, ih]
    rfl

/-- A quoted text is read where it starts, and what follows it is left. -/
theorem readQuoted?_quoteText (e : Escaping) (s : String) {rest : List Char}
    (apart : rest.head? ≠ some '\'')
    : readQuoted? '\'' ((e.quoteText s).toList ++ rest) = some (s.toList, rest) := by
  have split : (e.quoteText s).toList ++ rest = '\'' :: (e.escape s.toList ++ '\'' :: rest) := by
    simp [toList_quoteText]
  rw [split, readQuoted?_opened]
  exact untilDelimiter?_spelled (spelled_escape e s.toList) apart

/-- Either escaping writes a literal that the store reads as the text that was quoted, to its very end:
what follows is not touched, as long as it does not start with a quote.
-/
theorem readLiteral?_quoteText (e : Escaping) (s : String) {rest : String}
    (apart : rest.toList.head? ≠ some '\'')
    : readLiteral? (e.quoteText s ++ rest) = some (s, rest) := by
  rw [readLiteral?, String.toList_append, readQuoted?_quoteText e s apart]
  simp

/-- A quote behind a backslash with the sign of a comment after it does not end the literal of either
escaping.
-/
theorem readLiteral?_quoteText_hostile
    : " or 1".toList.head? ≠ some '\''
      ∧ readLiteral? (Escaping.native.quoteText "\\' -- \n" ++ " or 1") = some ("\\' -- \n", " or 1")
      ∧ readLiteral? (Escaping.doubling.quoteText "\\' -- \n" ++ " or 1")
        = some ("\\' -- \n", " or 1") := by
  have apart : " or 1".toList.head? ≠ some '\'' := by decide
  exact ⟨apart, readLiteral?_quoteText .native _ apart, readLiteral?_quoteText .doubling _ apart⟩

end ColumnStore.Lexical

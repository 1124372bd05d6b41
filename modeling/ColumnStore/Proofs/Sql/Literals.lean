import ColumnStore.Proofs.Escaping.Unquoting
import ColumnStore.Proofs.Number.Numerals
import ColumnStore.Proofs.Sql.Scanning

/-! Every value is written as one literal, whatever it holds and whichever escaping quotes it.
A literal is opened in code and leaves the scanner in code; nothing within it ends it early.
-/

namespace ColumnStore.Lexical

open State

/-- The states in which a literal has just ended. -/
def State.EndsLiteral (s : State) : Prop :=
  s = code ∨ s = closing '\''

/-- A text that the scanner takes as one literal: it does not double an identifier's delimiter
that stands before it, and read from code it ends in code.
-/
structure IsLiteral (cs : List Char) : Prop where
  opens : ∃ c rest, cs = c :: rest ∧ c ≠ '"' ∧ c ≠ '\x60'
  closes : (code.run cs).EndsLiteral

-----------------------------------------------------------------------------------------
-- Words and numerals
-----------------------------------------------------------------------------------------

/-- A character that the scanner passes over in code. -/
def Quiet (c : Char) : Prop :=
  isDelimiter c = false ∧ c ≠ '-'

instance (c : Char) : Decidable (Quiet c) :=
  inferInstanceAs (Decidable (_ ∧ _))

theorem Quiet.step {c : Char} (h : Quiet c)
    : code.step c = code := by
  simp [State.step, afterCode, h.1, h.2]

/-- A text of quiet characters leaves code as it is, by list induction. -/
theorem run_quiet {cs : List Char} (h : ∀ c ∈ cs, Quiet c)
    : code.run cs = code := by
  induction cs with
  | nil => rfl
  | cons c rest ih =>
    rw [run_cons, (h c (by simp)).step]
    exact ih fun d member => h d (by simp [member])

/-- A text of quiet characters that is not empty is a literal. -/
theorem isLiteral_of_quiet {cs : List Char} (present : cs ≠ []) (h : ∀ c ∈ cs, Quiet c)
    : IsLiteral cs := by
  refine ⟨?_, .inl (run_quiet h)⟩
  obtain ⟨c, rest, rfl⟩ := List.exists_cons_of_ne_nil present
  have quiet := (h c (by simp)).1
  refine ⟨c, rest, rfl, ?_, ?_⟩ <;> rintro rfl <;> simp [isDelimiter] at quiet

/-- A minus before quiet characters starts no comment. -/
theorem isLiteral_minus {cs : List Char} (present : cs ≠ []) (h : ∀ c ∈ cs, Quiet c)
    : IsLiteral ('-' :: cs) := by
  obtain ⟨c, rest, rfl⟩ := List.exists_cons_of_ne_nil present
  have quiet := h c (by simp)
  have opened : dash.step c = code := by
    simp [State.step, afterCode, quiet.1, quiet.2]
  refine ⟨⟨'-', c :: rest, rfl, by decide, by decide⟩, .inl ?_⟩
  rw [run_cons, show code.step '-' = dash from rfl, run_cons, opened]
  exact run_quiet fun d member => h d (by simp [member])

/-- A character of a word or a numeral, its minus apart. -/
def IsScalarChar (c : Char) : Prop :=
  c.isAlphanum ∨ c = '.'

instance (c : Char) : Decidable (IsScalarChar c) :=
  inferInstanceAs (Decidable (_ ∨ _))

/-- The words and numerals among the literals: letters, digits and points, with a minus or without. -/
inductive ScalarText : List Char → Prop
  | plain {cs : List Char} (present : cs ≠ []) (each : ∀ c ∈ cs, IsScalarChar c) : ScalarText cs
  | minus {cs : List Char} (present : cs ≠ []) (each : ∀ c ∈ cs, IsScalarChar c)
    : ScalarText ('-' :: cs)

theorem IsScalarChar.quiet {c : Char} (h : IsScalarChar c)
    : Quiet c := by
  constructor
  · simp only [isDelimiter, decide_eq_false_iff_not, not_or]
    refine ⟨?_, ?_, ?_⟩ <;> rintro rfl <;> revert h <;> decide
  · rintro rfl
    revert h
    decide

theorem ScalarText.isLiteral {cs : List Char} (text : ScalarText cs)
    : IsLiteral cs := by
  cases text with
  | plain present each => exact isLiteral_of_quiet present fun c member => (each c member).quiet
  | minus present each => exact isLiteral_minus present fun c member => (each c member).quiet

theorem isScalarChar_of_mem_toDigits {n : Nat} {c : Char} (h : c ∈ Nat.toDigits 10 n)
    : IsScalarChar c := by
  have digit : c.isDigit := Nat.isDigit_of_mem_toDigits (by decide) (by decide) h
  exact .inl (by simp [Char.isAlphanum, digit])

theorem quiet_of_mem_toDigits {n : Nat} {c : Char} (h : c ∈ Nat.toDigits 10 n)
    : Quiet c :=
  (isScalarChar_of_mem_toDigits h).quiet

theorem scalarText_nat (n : Nat)
    : ScalarText (toString n).toList := by
  rw [toList_toString_nat]
  exact .plain Nat.toDigits_ne_nil fun _ => isScalarChar_of_mem_toDigits

/-- An integer is written in digits, with a minus or without. -/
theorem scalarText_int (n : Int)
    : ScalarText (toString n).toList := by
  cases n with
  | ofNat n => exact scalarText_nat n
  | negSucc n =>
    rw [toList_toString_negSucc]
    exact .minus Nat.toDigits_ne_nil fun _ => isScalarChar_of_mem_toDigits

theorem isScalarChar_of_mem_positional {d : Decimal} {c : Char} (h : c ∈ d.positional.toList)
    : IsScalarChar c := by
  have zero : IsScalarChar '0' := by decide
  have point : IsScalarChar '.' := by decide
  have padding {n} (member : c ∈ List.replicate n '0') : IsScalarChar c :=
    (List.mem_replicate.1 member).2 ▸ zero
  have padded {n} (member : c ∈ List.replicate n '0' ++ Nat.toDigits 10 d.digits)
      : IsScalarChar c := by
    rcases List.mem_append.1 member with filled | digit
    · exact padding filled
    · exact isScalarChar_of_mem_toDigits digit
  unfold Decimal.positional at h
  split at h
  · split at h
    · obtain rfl : c = '0' := by simpa using h
      exact zero
    · rw [String.toList_ofList] at h
      rcases List.mem_append.1 h with digit | filled
      · exact isScalarChar_of_mem_toDigits digit
      · exact padding filled
  · rw [String.toList_ofList] at h
    rcases List.mem_append.1 h with whole | fraction
    · exact padded (List.mem_of_mem_take whole)
    · rcases List.mem_cons.1 fraction with same | digit
      · exact same ▸ point
      · exact padded (List.mem_of_mem_drop digit)

theorem positional_ne_nil (d : Decimal)
    : d.positional.toList ≠ [] := by
  unfold Decimal.positional
  split
  · split
    · decide
    · rw [String.toList_ofList]
      exact List.append_ne_nil_of_left_ne_nil Nat.toDigits_ne_nil _
  · rw [String.toList_ofList]
    exact List.append_ne_nil_of_right_ne_nil _ (List.cons_ne_nil _ _)

/-- A float is a numeral or one of three names. -/
theorem scalarText_float (x : Binary64)
    : ScalarText (Value.floatText "nan" "inf" "-inf" x).toList := by
  unfold Value.floatText
  split
  · exact .plain (by decide) (by simp [IsScalarChar])
  split
  · split
    · exact @ScalarText.minus "inf".toList (by decide) (by simp [IsScalarChar])
    · exact .plain (by decide) (by simp [IsScalarChar])
  · unfold Binary64.positional
    rw [String.toList_append]
    split
    · exact .minus (positional_ne_nil _) fun _ => isScalarChar_of_mem_positional
    · exact .plain (positional_ne_nil _) fun _ => isScalarChar_of_mem_positional

-----------------------------------------------------------------------------------------
-- Quoted text
-----------------------------------------------------------------------------------------

/-- Inside the quotes a character stands for itself, unless it is a quote or a backslash; else it is
told by the character behind a backslash, or a quote is doubled.
-/
theorem escapeChar_cases (e : Escaping) (c : Char)
    : (e.escapeChar c = [c] ∧ c ≠ '\'' ∧ c ≠ '\\') ∨ (∃ letter, e.escapeChar c = ['\\', letter])
      ∨ e.escapeChar c = ['\'', '\''] := by
  have text := Escaping.charText_escapeChar e c
  generalize e.escapeChar c = written at text
  cases text with
  | plain quote backslash => exact .inl ⟨rfl, quote, backslash⟩
  | @sequence _ letter => exact .inr (.inl ⟨letter, rfl⟩)
  | double special =>
    rcases special with rfl | rfl
    · exact .inr (.inr rfl)
    · exact .inr (.inl ⟨'\\', rfl⟩)

/-- What stands for one character inside the quotes keeps the scanner inside them: a quote is
doubled or behind a backslash, and a backslash is never left active.
-/
theorem run_escapeChar (e : Escaping) (c : Char)
    : (quoted '\'').run (e.escapeChar c) = quoted '\'' := by
  rcases escapeChar_cases e c with ⟨plain, quote, backslash⟩ | ⟨letter, behind⟩ | doubled
  · simp [plain, State.step, quote, backslash]
  · simp [behind, State.step]
  · simp [doubled, State.step]

/-- The text between the quotes keeps the scanner inside them, by list induction. -/
theorem run_escape (e : Escaping) (cs : List Char)
    : (quoted '\'').run (e.escape cs) = quoted '\'' := by
  induction cs with
  | nil => rfl
  | cons c rest ih =>
    rw [Escaping.escape, List.flatMap_cons, run_append, run_escapeChar]
    exact ih

/-- A text is quoted as a literal by either escaping. -/
theorem isLiteral_quoteText (e : Escaping) (s : String)
    : IsLiteral (e.quoteText s).toList := by
  rw [Escaping.toList_quoteText]
  refine ⟨⟨'\'', _, rfl, by decide, by decide⟩, .inr ?_⟩
  rw [List.cons_append, run_cons, show code.step '\'' = quoted '\'' from rfl, run_append, run_escape]
  rfl

-----------------------------------------------------------------------------------------
-- Lists and values
-----------------------------------------------------------------------------------------

/-- The texts of literals: words and numerals, quoted texts, and lists of literals in brackets. -/
inductive LiteralText (e : Escaping) : List Char → Prop
  | scalar {cs : List Char} (text : ScalarText cs) : LiteralText e cs
  | text (s : String) : LiteralText e (e.quoteText s).toList
  | array {items : List (List Char)} (each : ∀ cs ∈ items, LiteralText e cs)
    : LiteralText e ('[' :: ([',', ' '].intercalate items ++ [']']))

/-- A text of the grammar is a literal, by induction on it. -/
theorem LiteralText.isLiteral {e : Escaping} {cs : List Char} (text : LiteralText e cs)
    : IsLiteral cs := by
  induction text with
  | scalar text => exact text.isLiteral
  | text s => exact isLiteral_quoteText e s
  | @array items _ ih =>
    have inside : (code.run ([',', ' '].intercalate items)).EndsLiteral := by
      refine run_intercalate (.inl rfl) ?_ fun cs member => (ih cs member).closes
      rintro s (rfl | rfl) <;> rfl
    refine ⟨⟨'[', _, rfl, by decide, by decide⟩, .inl ?_⟩
    rw [run_cons, show code.step '[' = code from rfl, run_append]
    rcases inside with plain | closed
    · rw [plain]
      rfl
    · rw [closed]
      rfl

theorem toList_bracketed (items : List String)
    : (Value.bracketed items).toList
      = '[' :: ([',', ' '].intercalate (items.map String.toList) ++ [']']) := by
  simp [Value.bracketed]

mutual

/-- Every value is written as the grammar has it, by induction over nested arrays. -/
theorem literalText_quote (e : Escaping)
    : ∀ v : Value, LiteralText e (e.quote v).toList
  | .null => .scalar (@ScalarText.plain "NULL".toList (by decide) (by simp [IsScalarChar]))
  | .bool true => .scalar (@ScalarText.plain "true".toList (by decide) (by simp [IsScalarChar]))
  | .bool false => .scalar (@ScalarText.plain "false".toList (by decide) (by simp [IsScalarChar]))
  | .int n => .scalar (scalarText_int n.toInt)
  | .uint n => .scalar (scalarText_nat n.toNat)
  | .float x => .scalar (scalarText_float x)
  | .string s => .text s
  | .moment m => .text (Escaping.momentText m)
  | .array items => by
    rw [Escaping.quote, toList_bracketed]
    exact .array (literalText_quoteAll e items)

theorem literalText_quoteAll (e : Escaping)
    : ∀ items : List Value, ∀ cs ∈ (e.quoteAll items).map String.toList, LiteralText e cs
  | [], cs, member => by simp [Escaping.quoteAll] at member
  | v :: rest, cs, member => by
    rw [Escaping.quoteAll, List.map_cons] at member
    rcases List.mem_cons.1 member with same | later
    · exact same ▸ literalText_quote e v
    · exact literalText_quoteAll e rest cs later

end

/-- Every value is written as a literal. -/
theorem isLiteral_quote (e : Escaping) (v : Value)
    : IsLiteral (e.quote v).toList :=
  (literalText_quote e v).isLiteral

/-- The question mark of a template stands for a literal and is read as one. -/
theorem isLiteral_placeholder
    : IsLiteral "?".toList :=
  isLiteral_of_quiet (by simp) (by simp [Quiet, isDelimiter])

end ColumnStore.Lexical

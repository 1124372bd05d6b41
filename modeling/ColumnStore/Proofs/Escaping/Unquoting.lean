import ColumnStore.Escaping

/-! Reading a literal back undoes the quoting of its text. It takes no other literals than those that are
written, with one exception: in a backslash literal a control character may stand for itself.
-/

namespace ColumnStore.Escaping

-----------------------------------------------------------------------------------------
-- What is read as one character
-----------------------------------------------------------------------------------------

/-- What is read back as a character between the quotes. A character that is written as a sequence may
stand for itself as well, unless it is the quote or the backslash.
-/
inductive CharText : Escaping → Char → List Char → Prop
  | plain {e : Escaping} {c : Char} (quote : c ≠ '\'') (backslash : c ≠ '\\') : CharText e c [c]
  | sequence {c letter : Char} (known : sequenceChar? letter = some c)
    : CharText .native c ['\\', letter]
  | double {c : Char} (special : c = '\'' ∨ c = '\\') : CharText .doubling c [c, c]

/-- The control characters that have an escape sequence. -/
def isSequencedControl (c : Char) : Bool :=
  c = '\n' ∨ c = '\r' ∨ c = '\t' ∨ c = '\x00'

/-- The letters of the sequences are told apart, so that a sequence can be read back. -/
theorem sequenceLetter?_eq_some_iff {c letter : Char}
    : sequenceLetter? c = some letter ↔ sequenceChar? letter = some c := by
  constructor
  · intro h
    unfold sequenceLetter? at h
    split at h
    all_goals cases h <;> rfl
  · intro h
    unfold sequenceChar? at h
    split at h
    all_goals cases h <;> rfl

/-- A character has no sequence if it is neither the quote, nor the backslash, nor one of the controls. -/
theorem sequenceLetter?_eq_none_iff {c : Char} (quote : c ≠ '\'') (backslash : c ≠ '\\')
    : sequenceLetter? c = none ↔ isSequencedControl c = false := by
  fun_cases sequenceLetter? c <;> simp_all [isSequencedControl]

/-- What is written for a character is read back as the character. -/
theorem charText_escapeChar (e : Escaping) (c : Char)
    : CharText e c (e.escapeChar c) := by
  cases e with
  | native =>
    cases found : sequenceLetter? c with
    | some letter =>
      rw [escapeChar, found]
      exact .sequence (sequenceLetter?_eq_some_iff.1 found)
    | none =>
      rw [escapeChar, found]
      refine .plain ?_ ?_
      all_goals
        rintro rfl
        cases found
  | doubling =>
    by_cases special : c = '\'' ∨ c = '\\'
    · rw [escapeChar, if_pos special]
      exact .double special
    · rw [escapeChar, if_neg special]
      exact .plain (fun quote => special (.inl quote)) (fun backslash => special (.inr backslash))

/-- Of what is read back as a character, only a control that stands for itself is not what is written. -/
theorem CharText.eq_escapeChar {e : Escaping} {c : Char} {w : List Char} (text : CharText e c w)
    (bare : e = .native → ∀ x ∈ w, isSequencedControl x = false)
    : w = e.escapeChar c := by
  cases text with
  | plain quote backslash =>
    cases e with
    | native =>
      have none := (sequenceLetter?_eq_none_iff quote backslash).2 (bare rfl c (by simp))
      rw [escapeChar, none]
    | doubling => rw [escapeChar, if_neg (by simp [quote, backslash])]
  | sequence known => rw [escapeChar, sequenceLetter?_eq_some_iff.2 known]
  | double special => rw [escapeChar, if_pos special]

/-- No control character stands for itself in what is written. -/
theorem isSequencedControl_of_mem_escapeChar {c x : Char} (member : x ∈ native.escapeChar c)
    : isSequencedControl x = false := by
  rw [escapeChar] at member
  split at member
  · rename_i letter found
    have known := sequenceLetter?_eq_some_iff.1 found
    rcases List.mem_cons.1 member with rfl | last
    · rfl
    · obtain rfl := List.mem_singleton.1 last
      unfold sequenceChar? at known
      split at known
      all_goals first | rfl | cases known
  · rename_i found
    obtain rfl := List.mem_singleton.1 member
    refine (sequenceLetter?_eq_none_iff ?_ ?_).1 found
    all_goals
      rintro rfl
      cases found

/-- The first character of a text between quotes is read, and the others are left. -/
theorem CharText.unescape {e : Escaping} {c : Char} {w : List Char} (text : CharText e c w)
    (rest : List Char)
    : e.unescape (w ++ rest) = (e.unescape rest).map (c :: ·) := by
  cases text with
  | plain quote backslash =>
    cases e with
    | native => simp [Escaping.unescape, unescapeNative, quote, backslash]
    | doubling => simp [Escaping.unescape, unescapeDoubling, quote, backslash]
  | sequence known =>
    simp only [Escaping.unescape, List.cons_append, List.nil_append, unescapeNative, known]
    cases unescapeNative rest <;> rfl
  | double special =>
    rcases special with rfl | rfl <;> simp [Escaping.unescape, unescapeDoubling]

-----------------------------------------------------------------------------------------
-- What is read as a text
-----------------------------------------------------------------------------------------

/-- A text and what is read back as it between the quotes, character by character. -/
inductive Spelled (e : Escaping) : List Char → List Char → Prop
  | nil : Spelled e [] []
  | cons {c : Char} {w text cs : List Char} (here : CharText e c w) (others : Spelled e text cs)
    : Spelled e (c :: text) (w ++ cs)

theorem spelled_escape (e : Escaping) (text : List Char)
    : Spelled e text (e.escape text) := by
  induction text with
  | nil => exact .nil
  | cons c rest ih => exact .cons (charText_escapeChar e c) ih

theorem Spelled.unescape {e : Escaping} {text cs : List Char} (h : Spelled e text cs)
    : e.unescape cs = some text := by
  induction h with
  | nil => cases e <;> rfl
  | cons here others ih =>
    rw [here.unescape, ih]
    rfl

theorem spelled_of_unescapeNative {text cs : List Char} (h : unescapeNative cs = some text)
    : Spelled .native text cs := by
  fun_induction unescapeNative cs generalizing text with
  | case1 =>
    cases h
    exact .nil
  | case2 letter rest ih =>
    obtain ⟨c, known, read⟩ := Option.bind_eq_some_iff.1 h
    obtain ⟨others, later, same⟩ := Option.bind_eq_some_iff.1 read
    cases same
    exact .cons (.sequence known) (ih later)
  | case3 => cases h
  | case4 c rest _ other ih =>
    obtain ⟨others, later, rfl⟩ := Option.map_eq_some_iff.1 h
    rw [not_or] at other
    exact .cons (.plain other.1 other.2) (ih later)

theorem spelled_of_unescapeDoubling {text cs : List Char} (h : unescapeDoubling cs = some text)
    : Spelled .doubling text cs := by
  fun_induction unescapeDoubling cs generalizing text with
  | case1 =>
    cases h
    exact .nil
  | case2 rest ih =>
    obtain ⟨others, later, rfl⟩ := Option.map_eq_some_iff.1 h
    exact .cons (.double (.inl rfl)) (ih later)
  | case3 rest ih =>
    obtain ⟨others, later, rfl⟩ := Option.map_eq_some_iff.1 h
    exact .cons (.double (.inr rfl)) (ih later)
  | case4 => cases h
  | case5 c rest _ _ other ih =>
    obtain ⟨others, later, rfl⟩ := Option.map_eq_some_iff.1 h
    rw [not_or] at other
    exact .cons (.plain other.1 other.2) (ih later)

/-- A text between quotes is read back exactly if it is spelled out, by the cases of either reader. -/
theorem unescape_eq_some_iff {e : Escaping} {text cs : List Char}
    : e.unescape cs = some text ↔ Spelled e text cs := by
  refine ⟨fun h => ?_, Spelled.unescape⟩
  cases e with
  | native => exact spelled_of_unescapeNative h
  | doubling => exact spelled_of_unescapeDoubling h

theorem Spelled.eq_escape {e : Escaping} {text cs : List Char} (h : Spelled e text cs)
    (bare : e = .native → ∀ x ∈ cs, isSequencedControl x = false)
    : cs = e.escape text := by
  induction h with
  | nil => rfl
  | @cons c w text cs here _ ih =>
    have first := here.eq_escapeChar fun native x member =>
      bare native x (List.mem_append_left cs member)
    have others := ih fun native x member => bare native x (List.mem_append_right w member)
    rw [first, others]
    rfl

-----------------------------------------------------------------------------------------
-- Literals
-----------------------------------------------------------------------------------------

theorem toList_quoteText (e : Escaping) (s : String)
    : (e.quoteText s).toList = '\'' :: e.escape s.toList ++ ['\''] :=
  String.toList_ofList

/-- A literal is read back if it has its two quotes, and what is between them is read back. -/
theorem unquote?_eq_some_iff {e : Escaping} {literal s : String}
    : e.unquote? literal = some s
      ↔ ∃ cs, literal.toList = '\'' :: cs ++ ['\''] ∧ Spelled e s.toList cs := by
  constructor
  · intro h
    unfold unquote? at h
    split at h
    · rename_i rest opened
      split at h
      · rename_i closed
        obtain ⟨cs, rfl⟩ := List.getLast?_eq_some_iff.1 closed
        obtain ⟨text, read, rfl⟩ := Option.map_eq_some_iff.1 h
        rw [List.dropLast_concat] at read
        exact ⟨cs, opened, by rw [String.toList_ofList]; exact unescape_eq_some_iff.1 read⟩
      · cases h
    · cases h
  · rintro ⟨cs, written, spelled⟩
    rw [unquote?, written]
    simp [spelled.unescape]

/-- What is quoted is read back, whatever the text and by either escaping. -/
theorem unquote?_quoteText (e : Escaping) (s : String)
    : e.unquote? (e.quoteText s) = some s :=
  unquote?_eq_some_iff.2 ⟨e.escape s.toList, toList_quoteText e s, spelled_escape e s.toList⟩

/-- A literal is what its escaping writes for a text exactly if it is read back as the text and, in
backslash literals, no control character that has a sequence stands for itself.
-/
theorem eq_quoteText_iff {e : Escaping} {literal s : String}
    : literal = e.quoteText s
      ↔ e.unquote? literal = some s
        ∧ (e = .native → ∀ c ∈ literal.toList, isSequencedControl c = false) := by
  constructor
  · rintro rfl
    refine ⟨unquote?_eq_some_iff.2 ⟨_, toList_quoteText e s, spelled_escape e s.toList⟩, ?_⟩
    rintro rfl c member
    rw [toList_quoteText, List.mem_append, List.mem_cons, List.mem_singleton] at member
    rcases member with (rfl | inside) | rfl
    · rfl
    · obtain ⟨d, -, written⟩ := List.mem_flatMap.1 inside
      exact isSequencedControl_of_mem_escapeChar written
    · rfl
  · rintro ⟨read, bare⟩
    obtain ⟨cs, quoted, spelled⟩ := unquote?_eq_some_iff.1 read
    have between (native : e = .native) (c : Char) (member : c ∈ cs) : isSequencedControl c = false :=
      bare native c (by simp [quoted, member])
    rw [← String.toList_inj, toList_quoteText, quoted, spelled.eq_escape between]

/-- A line end between the quotes of a backslash literal is read back, and is not written so. -/
theorem unquote?_lineEnd
    : native.unquote? "'\n'" = some "\n" ∧ "'\n'" ≠ native.quoteText "\n" := by
  refine ⟨rfl, ?_⟩
  decide

end ColumnStore.Escaping

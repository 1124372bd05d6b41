import ColumnStore.Proofs.Json.Decimal
import ColumnStore.Toml.Reader
import ColumnStore.Toml.Writer

/-! Whatever form the writer picks for a text, the reader finds the text in it and stops right after the
closing quotes. In the forms over several lines, up to two quotes of the text may stand before those
that close it.
-/

namespace ColumnStore.Toml

-----------------------------------------------------------------------------------------
-- Characters between double quotes
-----------------------------------------------------------------------------------------

/-- What may stand for a character between double quotes, other than a double quote itself; over several
lines a newline stands for itself as well.
-/
inductive CharText (lines : Bool) : Char → List Char → Prop
  | plain {c : Char} (text : isTextChar c) (quote : c ≠ '"') (backslash : c ≠ '\\')
    : CharText lines c [c]
  | letter {c letter : Char} (decoded : escapeChar? letter = some c)
    : CharText lines c ['\\', letter]
  | number {c w x y z : Char} (decoded : (hexNumber? [w, x, y, z]).bind scalarChar? = some c)
    : CharText lines c ['\\', 'u', w, x, y, z]
  | newline (several : lines)
    : CharText lines '\n' ['\n']

/-- A control character is written with its number, in two digits after two zeros. -/
theorem controlEscape_eq {c : Char} (control : c.toNat < 0x80)
    : ∃ y z, controlEscape c = ['\\', 'u', '0', '0', y, z]
      ∧ (hexNumber? ['0', '0', y, z]).bind scalarChar? = some c := by
  have each : ∀ n < 0x80,
      List.replicate (4 - ((Nat.toDigits 16 n).map Char.toUpper).length) '0'
          ++ (Nat.toDigits 16 n).map Char.toUpper
        = ['0', '0', (Nat.digitChar (n / 16)).toUpper, (Nat.digitChar (n % 16)).toUpper]
      ∧ hexNumber? ['0', '0', (Nat.digitChar (n / 16)).toUpper, (Nat.digitChar (n % 16)).toUpper]
        = some n := by
    decide
  obtain ⟨digits, number⟩ := each c.toNat control
  refine ⟨(Nat.digitChar (c.toNat / 16)).toUpper, (Nat.digitChar (c.toNat % 16)).toUpper, ?_, ?_⟩
  · simp only [controlEscape, List.cons_append, digits]
  · have valid : c.toNat.isValidChar := c.valid
    rw [number, Option.bind_some, scalarChar?, if_pos valid, Char.ofNat_toNat]

theorem isTextChar_of_soft {c : Char} (soft : isHardControl c = false) (newline : c ≠ '\n')
    : isTextChar c := by
  simp only [isHardControl, isTextChar, decide_eq_false_iff_not, decide_eq_true_eq] at soft ⊢
  by_cases tab : c = '\t'
  · exact .inl tab
  · right
    simp only [tab, newline, ne_eq, not_false_eq_true, and_true, not_or] at soft
    omega

/-- What is written for a character does not depend on the characters around it, unless it is a double
quote.
-/
theorem escapeFrom_cons (lines : Bool) (run : Nat) {c : Char} (quote : c ≠ '"') (cs : List Char)
    : escapeFrom lines run (c :: cs) = escapeFrom lines 0 [c] ++ escapeFrom lines 0 cs := by
  simp only [escapeFrom]
  split
  case h_1 => contradiction
  case h_7 => split <;> rfl
  case h_8 => split <;> simp
  all_goals rfl

theorem charText_escapeFrom (lines : Bool) {c : Char} (quote : c ≠ '"')
    : CharText lines c (escapeFrom lines 0 [c]) := by
  simp only [escapeFrom]
  split
  case h_1 => contradiction
  case h_7 =>
    split
    · exact .newline ‹_›
    · exact .letter rfl
  case h_8 backslash _ _ _ _ newline =>
    split
    · rename_i hard
      have control : c.toNat < 0x80 := by
        simp only [isHardControl, decide_eq_true_eq] at hard
        omega
      obtain ⟨y, z, digits, decoded⟩ := controlEscape_eq control
      rw [digits]
      exact .number decoded
    · rename_i soft
      exact .plain (isTextChar_of_soft (by simpa using soft) newline) quote backslash
  -- The others have an escape of one letter.
  all_goals exact .letter rfl

-----------------------------------------------------------------------------------------
-- Texts on one line
-----------------------------------------------------------------------------------------

section

variable {c letter : Char} {w : List Char}

theorem ne_of_escapeChar?_eq_some (decoded : escapeChar? letter = some c)
    : letter ≠ 'u' ∧ letter ≠ 'U' := by
  refine ⟨?_, ?_⟩
  all_goals
    rintro rfl
    cases decoded

theorem CharText.readBasic (text : CharText false c w) (rest : List Char)
    : readBasic (w ++ rest) = Text.readAfter c (readBasic rest) := by
  cases text with
  | plain text quote backslash =>
    rw [List.singleton_append, Toml.readBasic, if_pos ⟨text, backslash⟩]
    all_goals simp_all
  | letter decoded =>
    obtain ⟨short, long⟩ := ne_of_escapeChar?_eq_some decoded
    rw [List.cons_append, List.singleton_append, Toml.readBasic, decoded]
    all_goals simp_all
  | number decoded =>
    simp only [List.cons_append, List.nil_append]
    rw [Toml.readBasic, readAfterHex, decoded]
  | newline several => cases several

/-- A text with escapes on one line is read back, by list induction. -/
theorem readBasic_escapeFrom (run : Nat) (cs rest : List Char)
    : readBasic (escapeFrom false run cs ++ '"' :: rest) = some (cs, rest) := by
  induction cs generalizing run with
  | nil => rfl
  | cons c cs ih =>
    by_cases quote : c = '"'
    · subst quote
      have text : CharText false '"' ['\\', '"'] := .letter rfl
      change Toml.readBasic (['\\', '"'] ++ (escapeFrom false 0 cs ++ '"' :: rest)) = _
      rw [text.readBasic, ih]
      rfl
    · rw [escapeFrom_cons false run quote, List.append_assoc,
        (charText_escapeFrom false quote).readBasic, ih]
      rfl

/-- A text without quotes of the one kind and without line ends stands for itself. -/
theorem readLiteral_append {cs : List Char} (text : ∀ c ∈ cs, isTextChar c ∧ c ≠ '\'')
    (rest : List Char)
    : readLiteral (cs ++ '\'' :: rest) = some (cs, rest) := by
  induction cs with
  | nil => rfl
  | cons c cs ih =>
    obtain ⟨⟨plain, quote⟩, others⟩ := List.forall_mem_cons.1 text
    rw [List.cons_append, readLiteral, if_pos plain, ih others]
    · rfl
    · exact quote

-----------------------------------------------------------------------------------------
-- Texts over several lines
-----------------------------------------------------------------------------------------

/-- Up to two quotes before the closing ones belong to the text, where the closing ones do not run on. -/
theorem closingQuotes_replicate {quote : Char} {k : Nat} (few : k ≤ 2) {rest : List Char}
    (apart : rest.head? ≠ some quote)
    : closingQuotes quote (List.replicate k quote ++ rest) = (List.replicate k quote, rest) := by
  obtain rfl | rfl | rfl : k = 0 ∨ k = 1 ∨ k = 2 := by omega
  · match rest with
    | [] => rfl
    | [a] => simp_all [closingQuotes]
    | a :: b :: _ => simp_all [closingQuotes]
  · match rest with
    | [] => simp [closingQuotes]
    | a :: _ => simp_all [closingQuotes]
  · simp [closingQuotes, List.replicate]

/-- Three quotes in a row are the same ones wherever they are counted from. -/
theorem closing_comm (quote : Char) (k : Nat) (rest : List Char)
    : List.replicate k quote ++ quote :: quote :: quote :: rest
      = quote :: quote :: quote :: (List.replicate k quote ++ rest) := by
  change List.replicate k quote ++ (List.replicate 3 quote ++ rest)
    = List.replicate 3 quote ++ (List.replicate k quote ++ rest)
  rw [← List.append_assoc, ← List.append_assoc, List.replicate_append_replicate,
    List.replicate_append_replicate, Nat.add_comm]

/-- What stands for a character starts with no double quote and no line end, but for a newline. -/
theorem CharText.eq_cons {lines : Bool} (text : CharText lines c w)
    : ∃ first tail, w = first :: tail ∧ first ≠ '"' ∧ first ≠ '\r' ∧ (first = '\n' → c = '\n') := by
  cases text with
  | plain text quote _ =>
    refine ⟨c, [], rfl, quote, ?_, id⟩
    rintro rfl
    cases text
  | newline _ => exact ⟨'\n', [], rfl, by decide, by decide, id⟩
  | letter _ | number _ => exact ⟨'\\', _, rfl, by decide, by decide, fun h => absurd h (by decide)⟩

theorem CharText.head?_ne {lines : Bool} (text : CharText lines c w) (rest : List Char)
    : (w ++ rest).head? ≠ some '"' := by
  obtain ⟨first, tail, rfl, quote, -⟩ := text.eq_cons
  simpa using quote

theorem CharText.readBasicLines (text : CharText true c w) (rest : List Char)
    : readBasicLines false (w ++ rest) = Text.readAfter c (readBasicLines false rest) := by
  cases text with
  | plain text quote backslash =>
    have newline : c ≠ '\n' := by rintro rfl; cases text
    have return' : c ≠ '\r' := by rintro rfl; cases text
    rw [List.singleton_append, Toml.readBasicLines, if_neg (by simp), if_pos ⟨text, backslash⟩]
    all_goals simp_all
  | letter decoded =>
    obtain ⟨short, long⟩ := ne_of_escapeChar?_eq_some decoded
    rw [List.cons_append, List.singleton_append, Toml.readBasicLines, decoded]
    all_goals simp_all
  | number decoded =>
    simp only [List.cons_append, List.nil_append]
    rw [Toml.readBasicLines, readAfterHex, decoded]
  | newline several => simp [Toml.readBasicLines]

/-- Where a reader takes a quote for text unless two more follow, it takes up to two for text that
something else follows.
-/
theorem read_replicate {read : List Char → Option (List Char × List Char)} {quote : Char}
    (one : ∀ cs, (∀ rest, cs ≠ quote :: quote :: rest)
      → read (quote :: cs) = Text.readAfter quote (read cs))
    {k : Nat} (few : k ≤ 2) {cs : List Char} (apart : cs.head? ≠ some quote)
    : read (List.replicate k quote ++ cs)
      = (read cs).map fun (text, rest) => (List.replicate k quote ++ text, rest) := by
  obtain rfl | rfl | rfl : k = 0 ∨ k = 1 ∨ k = 2 := by omega
  · cases h : read cs <;> simp [h]
  · exact one cs (by rintro rest rfl; exact apart rfl)
  · change read (quote :: quote :: cs) = _
    rw [one (quote :: cs), one cs]
    · cases read cs <;> rfl
    · rintro rest rfl; exact apart rfl
    · rintro rest e; cases e; exact apart rfl

theorem readBasicLines_quote (cs : List Char) (alone : ∀ rest, cs ≠ '"' :: '"' :: rest)
    : readBasicLines false ('"' :: cs) = Text.readAfter '"' (readBasicLines false cs) := by
  rw [readBasicLines, if_neg (by simp), if_pos (by decide)]
  all_goals simp_all

theorem readLiteralLines_quote (cs : List Char) (alone : ∀ rest, cs ≠ '\'' :: '\'' :: rest)
    : readLiteralLines ('\'' :: cs) = Text.readAfter '\'' (readLiteralLines cs) := by
  rw [readLiteralLines, if_pos (by decide)]
  all_goals simp_all

/-- A text with escapes over several lines is read back, by list induction: `k` double quotes are read at
once, as it is only known after them whether they close the text.
-/
theorem readBasicLines_escapeFrom {k : Nat} (few : k ≤ 2) (cs : List Char) {rest : List Char}
    (apart : rest.head? ≠ some '"')
    : readBasicLines false
        (List.replicate k '"' ++ (escapeFrom true k cs ++ '"' :: '"' :: '"' :: rest))
      = some (List.replicate k '"' ++ cs, rest) := by
  induction cs generalizing k with
  | nil =>
    change readBasicLines false (List.replicate k '"' ++ '"' :: '"' :: '"' :: rest) = _
    rw [closing_comm, Toml.readBasicLines, closingQuotes_replicate few apart, List.append_nil]
  | cons c cs ih =>
    have afresh := ih (k := 0) (by omega)
    rw [List.replicate_zero, List.nil_append] at afresh
    by_cases quote : c = '"'
    · subst quote
      by_cases room : k < 2
      · have counted := ih (k := k + 1) (by omega)
        simpa [escapeFrom, room, List.replicate_succ'] using counted
      · have text : CharText true '"' ['\\', '"'] := .letter rfl
        have escaped : escapeFrom true k ('"' :: cs) = ['\\', '"'] ++ escapeFrom true 0 cs := by
          simp [escapeFrom, room]
        rw [escaped, List.append_assoc, read_replicate readBasicLines_quote few (by simp),
          text.readBasicLines, afresh]
        rfl
    · have text := charText_escapeFrom true quote
      rw [escapeFrom_cons true k quote, List.append_assoc,
        read_replicate readBasicLines_quote few (text.head?_ne _), text.readBasicLines, afresh]
      rfl

theorem run_le_longestRun (c : Char) (run : Nat) (cs : List Char)
    : run ≤ longestRun c run cs := by
  induction cs generalizing run with
  | nil => exact Nat.le_refl _
  | cons d cs ih =>
    rw [longestRun]
    split
    · exact Nat.le_of_succ_le (ih (run + 1))
    · exact Nat.le_max_left _ _

/-- A text over several lines without three single quotes in a row stands for itself, by list induction
with the quotes that stand right before.
-/
theorem readLiteralLines_append {k : Nat} {cs : List Char} (few : longestRun '\'' k cs ≤ 2)
    (soft : ∀ c ∈ cs, isHardControl c = false) {rest : List Char}
    (apart : rest.head? ≠ some '\'')
    : readLiteralLines (List.replicate k '\'' ++ (cs ++ '\'' :: '\'' :: '\'' :: rest))
      = some (List.replicate k '\'' ++ cs, rest) := by
  have before : k ≤ 2 := Nat.le_trans (run_le_longestRun _ _ _) few
  induction cs generalizing k with
  | nil =>
    change readLiteralLines (List.replicate k '\'' ++ '\'' :: '\'' :: '\'' :: rest) = _
    rw [closing_comm, readLiteralLines, closingQuotes_replicate before apart, List.append_nil]
  | cons c cs ih =>
    obtain ⟨here, others⟩ := List.forall_mem_cons.1 soft
    by_cases quote : c = '\''
    · subst quote
      rw [longestRun, if_pos rfl] at few
      have counted := ih few others (Nat.le_trans (run_le_longestRun _ _ _) few)
      simpa [List.replicate_succ'] using counted
    · rw [longestRun, if_neg quote] at few
      have afresh := ih (k := 0) (Nat.le_trans (Nat.le_max_right _ _) few) others (Nat.zero_le _)
      rw [List.replicate_zero, List.nil_append] at afresh
      have kept (rest : List Char)
          : readLiteralLines (c :: rest) = Text.readAfter c (readLiteralLines rest) := by
        by_cases newline : c = '\n'
        · rw [newline, readLiteralLines]
        · have text := isTextChar_of_soft here newline
          rw [readLiteralLines, if_pos text]
          · rintro _ rfl
            exact absurd rfl quote
          · rintro _ rfl
            cases text
          · exact newline
      rw [List.cons_append, read_replicate readLiteralLines_quote before (by simpa using quote), kept,
        afresh]
      rfl

end

-----------------------------------------------------------------------------------------
-- Quoted texts
-----------------------------------------------------------------------------------------

theorem notMem_of_longestRun_eq_zero {c : Char} {cs : List Char} (none : longestRun c 0 cs = 0)
    : c ∉ cs := by
  induction cs with
  | nil => exact List.not_mem_nil
  | cons d cs ih =>
    rw [longestRun] at none
    split at none
    · have := run_le_longestRun c (0 + 1) cs
      omega
    · rename_i different
      have later := ih (by omega)
      simp [Ne.symm different, later]

/-- A text in single quotes on one line needs no escapes, and has characters. -/
theorem of_formFor_eq_literal {cs : List Char} (form : formFor cs = .literal)
    : cs ≠ [] ∧ ∀ c ∈ cs, isTextChar c ∧ c ≠ '\'' := by
  have present : cs ≠ [] := by
    rintro rfl
    cases form
  simp only [formFor] at form
  split at form
  · cases form
  · split at form
    · rename_i fits
      obtain ⟨⟨soft, newline⟩, single⟩ : (cs.any isHardControl = false ∧ '\n' ∉ cs)
          ∧ longestRun '\'' 0 cs = 0 := by
        simpa [and_assoc] using fits
      refine ⟨present, fun c member => ⟨isTextChar_of_soft ?_ ?_, ?_⟩⟩
      · simpa using List.any_eq_false.1 soft c member
      · rintro rfl
        exact newline member
      · rintro rfl
        exact notMem_of_longestRun_eq_zero single member
    · repeat' split at form
      all_goals cases form

theorem of_formFor_eq_literalLines {cs : List Char} (form : formFor cs = .literalLines)
    : (∀ c ∈ cs, isHardControl c = false) ∧ longestRun '\'' 0 cs ≤ 2 := by
  simp only [formFor] at form
  repeat' split at form
  all_goals cases form
  rename_i fits
  obtain ⟨soft, single⟩ : cs.any isHardControl = false ∧ longestRun '\'' 0 cs ≤ 2 := by
    simpa using fits
  exact ⟨fun c member => by simpa using List.any_eq_false.1 soft c member, single⟩

/-- The line end that is written before a text is passed over, and no other one is. -/
theorem dropFirstNewline_firstNewline {cs body : List Char}
    (starts : ∀ c, body.head? = some c → c ≠ '\r' ∧ (c = '\n' → c ∈ cs))
    : dropFirstNewline (firstNewline cs ++ body) = body := by
  rw [firstNewline]
  split
  · rfl
  · rename_i absent
    rw [List.nil_append, dropFirstNewline]
    match body with
    | [] => rfl
    | c :: rest =>
      obtain ⟨return', newline⟩ := starts c rfl
      have different : c ≠ '\n' := by
        rintro rfl
        exact absent (by simpa using newline rfl)
      rw [afterNewline?]
      · rfl
      · simp_all
      · simp_all

/-- What is written for a text over several lines starts with a line end only if the text does. -/
theorem head?_escapeFrom {cs rest : List Char} {c : Char}
    (first : (escapeFrom true 0 cs ++ '"' :: rest).head? = some c)
    : c ≠ '\r' ∧ (c = '\n' → c ∈ cs) := by
  match cs with
  | [] =>
    cases first
    simp
  | d :: cs =>
    by_cases quote : d = '"'
    · subst quote
      cases first
      simp
    · obtain ⟨start, tail, written, -, return', newline⟩ := (charText_escapeFrom true quote).eq_cons
      rw [escapeFrom_cons true 0 quote, written] at first
      cases first
      refine ⟨return', ?_⟩
      rintro rfl
      simp [newline rfl]

/-- A quoted text starts with a quote of either kind. -/
theorem quoteChars_eq_cons (cs : List Char)
    : ∃ quote tail, quoteChars cs = quote :: tail ∧ (quote = '"' ∨ quote = '\'') := by
  rw [quoteChars]
  split
  · exact ⟨'"', _, rfl, .inl rfl⟩
  · exact ⟨'\'', _, rfl, .inr rfl⟩
  · exact ⟨'"', _, rfl, .inl rfl⟩
  · exact ⟨'\'', _, rfl, .inr rfl⟩

section

variable {cs rest : List Char}

theorem readString?_basic (double : rest.head? ≠ some '"')
    : readString? ('"' :: (escapeFrom false 0 cs ++ '"' :: rest)) = some (cs, rest) := by
  rw [readString?, readBasic_escapeFrom]
  -- Two more quotes would open a text over several lines.
  intro more opening
  match cs with
  | [] =>
    injection opening with _ opening
    exact double (by simp [opening])
  | c :: cs =>
    by_cases quote : c = '"'
    · subst quote
      cases opening
    · rw [escapeFrom_cons false 0 quote, List.append_assoc] at opening
      exact (charText_escapeFrom false quote).head?_ne _ (by rw [opening]; rfl)

theorem readString?_literal (form : formFor cs = .literal)
    : readString? ('\'' :: (cs ++ '\'' :: rest)) = some (cs, rest) := by
  obtain ⟨present, text⟩ := of_formFor_eq_literal form
  rw [readString?, readLiteral_append text]
  intro more opening
  match cs with
  | c :: cs =>
    injection opening with quote
    exact (text c (by simp)).2 quote

theorem readString?_basicLines (double : rest.head? ≠ some '"')
    : readString? ('"' :: '"' :: '"' ::
        (firstNewline cs ++ (escapeFrom true 0 cs ++ '"' :: '"' :: '"' :: rest)))
      = some (cs, rest) := by
  rw [readString?, dropFirstNewline_firstNewline fun c => head?_escapeFrom]
  exact readBasicLines_escapeFrom (k := 0) (Nat.zero_le _) cs double

theorem readString?_literalLines (form : formFor cs = .literalLines) (single : rest.head? ≠ some '\'')
    : readString? ('\'' :: '\'' :: '\'' ::
        (firstNewline cs ++ (cs ++ '\'' :: '\'' :: '\'' :: rest)))
      = some (cs, rest) := by
  obtain ⟨soft, few⟩ := of_formFor_eq_literalLines form
  rw [readString?, dropFirstNewline_firstNewline]
  · exact readLiteralLines_append (k := 0) few soft single
  · intro c first
    match cs with
    | [] =>
      cases first
      simp
    | d :: cs =>
      cases first
      refine ⟨?_, fun _ => List.mem_cons_self⟩
      rintro rfl
      cases soft '\r' (by simp)

end

/-- Whatever form is picked for a text, it is read back, and what follows is left. -/
theorem readString?_quoteChars (cs rest : List Char) (double : rest.head? ≠ some '"')
    (single : rest.head? ≠ some '\'')
    : readString? (quoteChars cs ++ rest) = some (cs, rest) := by
  cases form : formFor cs with
  | basic => simpa [quoteChars, form] using readString?_basic double
  | literal => simpa [quoteChars, form] using readString?_literal form
  | basicLines => simpa [quoteChars, form] using readString?_basicLines double
  | literalLines => simpa [quoteChars, form] using readString?_literalLines form single

end ColumnStore.Toml

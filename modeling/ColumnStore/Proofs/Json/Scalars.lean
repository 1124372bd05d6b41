import ColumnStore.Proofs.Json.Lists

/-! The texts of strings, numerals and words are given by their grammar, and each is read to its end. A
string has an escape for any character, and a numeral is followed by nothing that could go on with it.
-/

namespace ColumnStore.Json

-----------------------------------------------------------------------------------------
-- Strings
-----------------------------------------------------------------------------------------

/-- Whether a character stands for itself in a string. -/
def IsPlainChar (c : Char) : Prop :=
  0x20 ≤ c.toNat ∧ c ≠ '"' ∧ c ≠ '\\'

instance (c : Char) : Decidable (IsPlainChar c) :=
  inferInstanceAs (Decidable (_ ∧ _))

/-- The texts of a string between its quotes: characters that stand for themselves, and escapes. -/
inductive StringText : List Char → List Char → Prop
  | nil : StringText [] []
  | plain {c : Char} {s cs : List Char} (h : IsPlainChar c) (rest : StringText s cs)
    : StringText (c :: s) (c :: cs)
  | escape {letter c : Char} {s cs : List Char} (h : escapeChar? letter = some c)
      (rest : StringText s cs)
    : StringText (c :: s) ('\\' :: letter :: cs)
  | unit {a b c d : Char} {n : Nat} {s cs : List Char} (h : hex4? a b c d = some n)
      (high : isHighSurrogate n = false) (low : isLowSurrogate n = false) (rest : StringText s cs)
    : StringText (Char.ofNat n :: s) ('\\' :: 'u' :: a :: b :: c :: d :: cs)

/-- A text that stands for itself in a string. -/
def IsPlainText (cs : List Char) : Prop :=
  ∀ c ∈ cs, IsPlainChar c

instance (cs : List Char) : Decidable (IsPlainText cs) :=
  List.decidableBAll IsPlainChar cs

/-- Characters that stand for themselves are their own text, by list induction. -/
theorem stringText_plain {cs : List Char} (h : IsPlainText cs)
    : StringText cs cs := by
  induction cs with
  | nil => exact .nil
  | cons c rest ih =>
    exact .plain (h c (by simp)) (ih fun d member => h d (by simp [member]))

/-- A string is read up to its closing quote, by induction over its characters. -/
theorem readString_text {s cs : List Char} (h : StringText s cs) (kept : Bool) (rest : List Char)
    : ∃ t, readString kept (cs ++ '"' :: rest) = some (t, rest) ∧ (kept = true → t = s) := by
  induction h with
  | nil => exact ⟨[], rfl, fun _ => rfl⟩
  | @plain c s cs h _ ih =>
    obtain ⟨t, read_eq, same⟩ := ih
    obtain ⟨control, quote, backslash⟩ := h
    refine ⟨c :: t, ?_, fun keeps => by rw [same keeps]⟩
    have visible : ¬ (c.toNat < 0x20 ∨ c = '\\') := by
      rintro (low | rfl)
      · omega
      · exact backslash rfl
    rw [List.cons_append, readString]
    · rw [if_neg visible, read_eq]
      rfl
    all_goals simp_all
  | @escape letter c s cs h _ ih =>
    obtain ⟨t, read_eq, same⟩ := ih
    refine ⟨c :: t, ?_, fun keeps => by rw [same keeps]⟩
    have other : letter ≠ 'u' := by
      rintro rfl
      simp [escapeChar?] at h
    rw [List.cons_append, List.cons_append, readString]
    · rw [h, read_eq]
      rfl
    all_goals simp_all
  | @unit a b c d n s cs h high low _ ih =>
    obtain ⟨t, read_eq, same⟩ := ih
    cases kept with
    | false =>
      refine ⟨'\uFFFD' :: t, ?_, nofun⟩
      simp [readString, h, read_eq, Text.readAfter]
    | true =>
      refine ⟨Char.ofNat n :: t, ?_, fun keeps => by rw [same keeps]⟩
      simp [readString, h, high, low, read_eq, Text.readAfter]

-----------------------------------------------------------------------------------------
-- Numerals
-----------------------------------------------------------------------------------------

/-- Digits, one at least. -/
structure IsDigits (cs : List Char) : Prop where
  present : cs ≠ []
  digits : ∀ c ∈ cs, c.isDigit

inductive FractionText : Option (List Char) → List Char → Prop
  | none : FractionText none []
  | some {digits : List Char} (h : IsDigits digits) : FractionText (some digits) ('.' :: digits)

/-- The sign of an exponent. -/
inductive SignText : Bool → List Char → Prop
  | none : SignText false []
  | plus : SignText false ['+']
  | minus : SignText true ['-']

inductive ExponentText : Option Int → List Char → Prop
  | none : ExponentText none []
  | some {e : Char} {negative : Bool} {sign digits : List Char} (letter : e = 'e' ∨ e = 'E')
      (signs : SignText negative sign) (h : IsDigits digits)
    : ExponentText (some (signed negative (digitsValue 10 digits))) (e :: sign ++ digits)

/-- The text of a numeral; a zero stands alone before the point. -/
inductive NumeralText : Numeral → List Char → Prop
  | of {negative : Bool} {whole : List Char} {fraction : Option (List Char)} {exponent : Option Int}
      {fractionText exponentText : List Char} (h : IsDigits whole)
      (zero : whole.head? = some '0' → whole.length = 1)
      (fractional : FractionText fraction fractionText)
      (exponential : ExponentText exponent exponentText)
    : NumeralText ⟨negative, whole, fraction, exponent⟩
        ((if negative then ['-'] else []) ++ whole ++ fractionText ++ exponentText)

/-- What may follow digits. -/
def EndsDigits (rest : List Char) : Prop :=
  ∀ c, rest.head? = some c → c.isDigit = false

theorem readDigits_append {digits rest : List Char} (h : IsDigits digits) (ends : EndsDigits rest)
    : readDigits (digits ++ rest) = some (digits, rest) := by
  have taken : rest.takeWhile Char.isDigit = [] := by
    cases rest with
    | nil => rfl
    | cons c more => exact List.takeWhile_cons_of_neg (by simp [ends c rfl])
  have left : rest.dropWhile Char.isDigit = rest := by
    cases rest with
    | nil => rfl
    | cons c more => exact List.dropWhile_cons_of_neg (by simp [ends c rfl])
  rw [readDigits, List.takeWhile_append_of_pos h.digits, List.dropWhile_append_of_pos h.digits,
    taken, left]
  simp [h.present]

/-- What follows a value goes on with no digit, point or exponent. -/
theorem Stops.ends {rest : List Char} (h : Stops rest)
    : EndsDigits rest ∧ ∀ c, rest.head? = some c → c ≠ '.' ∧ ¬ (c = 'e' ∨ c = 'E') := by
  have closed (c : Char) (first : rest.head? = some c)
      : c.isDigit = false ∧ c ≠ '.' ∧ ¬ (c = 'e' ∨ c = 'E') := by
    rcases h c first with blank | rfl | rfl | rfl
    · rcases eq_of_isSpace blank with rfl | rfl | rfl | rfl <;> decide
    all_goals decide
  exact ⟨fun c first => (closed c first).1, fun c first => (closed c first).2⟩

theorem endsDigits_fraction {fraction : Option (List Char)} {cs rest : List Char}
    (h : FractionText fraction cs) (ends : EndsDigits rest)
    : EndsDigits (cs ++ rest) := by
  cases h with
  | none => exact ends
  | some _ =>
    intro c first
    obtain rfl : '.' = c := by simpa using first
    rfl

theorem endsDigits_exponent {exponent : Option Int} {cs rest : List Char}
    (h : ExponentText exponent cs) (ends : EndsDigits rest)
    : EndsDigits (cs ++ rest) := by
  cases h with
  | none => exact ends
  | @some e negative sign digits letter _ _ =>
    intro c first
    obtain rfl : e = c := by simpa using first
    rcases letter with rfl | rfl <;> rfl

theorem readWhole_append {whole rest : List Char} (h : IsDigits whole)
    (zero : whole.head? = some '0' → whole.length = 1) (ends : EndsDigits rest)
    : readWhole (whole ++ rest) = some (whole, rest) := by
  have alone : ¬ (whole.head? = some '0' ∧ whole.length ≠ 1) :=
    fun ⟨first, long⟩ => long (zero first)
  simp [readWhole, readDigits_append h ends, alone]

theorem readFraction_append {fraction : Option (List Char)} {cs rest : List Char}
    (h : FractionText fraction cs) (ends : EndsDigits rest)
    (other : fraction = none → ∀ c, rest.head? = some c → c ≠ '.')
    : readFraction (cs ++ rest) = some (fraction, rest) := by
  cases h with
  | none =>
    unfold readFraction
    split
    · rename_i shape
      exact absurd rfl (other rfl '.' (by rw [← List.nil_append rest, shape]; rfl))
    · rfl
  | some digits => simp [readFraction, readDigits_append digits ends]

theorem splitSign_append {negative : Bool} {sign digits : List Char} (signs : SignText negative sign)
    (h : IsDigits digits) (rest : List Char)
    : splitSign (sign ++ digits ++ rest) = (negative, digits ++ rest) := by
  cases signs with
  | none =>
    obtain ⟨c, more, rfl⟩ := List.exists_cons_of_ne_nil h.present
    have digit : c.isDigit := h.digits c (by simp)
    have minus : c ≠ '-' := by rintro rfl; revert digit; decide
    have plus : c ≠ '+' := by rintro rfl; revert digit; decide
    simp only [List.nil_append, List.cons_append]
    unfold splitSign
    split <;> simp_all
  | plus => rfl
  | minus => rfl

theorem readExponent_append {exponent : Option Int} {cs rest : List Char}
    (h : ExponentText exponent cs) (ends : EndsDigits rest)
    (other : ∀ c, rest.head? = some c → ¬ (c = 'e' ∨ c = 'E'))
    : readExponent (cs ++ rest) = some (exponent, rest) := by
  cases h with
  | none =>
    cases rest with
    | nil => rfl
    | cons c more => simp [readExponent, other c rfl]
  | @some e negative sign digits letter signs h =>
    have split := splitSign_append signs h rest
    simp only [List.cons_append, List.append_assoc] at split ⊢
    simp [readExponent, letter, split, readDigits_append h ends]

/-- A numeral is read to its end. -/
theorem readNumeral_append {n : Numeral} {cs rest : List Char} (h : NumeralText n cs)
    (stops : Stops rest)
    : readNumeral (cs ++ rest) = some (n, rest) := by
  obtain ⟨ends, other⟩ := stops.ends
  cases h with
  | @of negative whole fraction exponent fractionText exponentText h zero fractional exponential =>
    have exponent_read := readExponent_append exponential ends fun c first => (other c first).2
    have point : ∀ c, (exponentText ++ rest).head? = some c → c ≠ '.' := by
      intro c first
      cases exponential with
      | none => exact (other c first).1
      | some letter _ _ =>
        obtain rfl := Option.some.inj first
        rcases letter with rfl | rfl <;> decide
    have fraction_read := readFraction_append fractional (endsDigits_exponent exponential ends)
      fun _ => point
    have whole_read := readWhole_append h zero
      (endsDigits_fraction fractional (endsDigits_exponent exponential ends))
    obtain ⟨c, more, rfl⟩ := List.exists_cons_of_ne_nil h.present
    have minus : c ≠ '-' := by
      rintro rfl
      exact absurd (h.digits '-' (by simp)) (by decide)
    rw [List.cons_append] at whole_read
    cases negative with
    | true => simp [readNumeral, whole_read, fraction_read, exponent_read]
    | false =>
      unfold readNumeral
      split
      rename_i negative text signed
      simp only [Bool.false_eq_true, if_false, List.nil_append, List.cons_append,
        List.append_assoc] at signed
      split at signed
      · rename_i shape
        exact absurd (List.cons.inj shape).1 minus
      · obtain ⟨rfl, rfl⟩ := Prod.mk.inj signed
        simp [whole_read, fraction_read, exponent_read]

/-- A numeral starts with a digit or a minus sign. -/
theorem NumeralText.starts {n : Numeral} {cs : List Char} (h : NumeralText n cs)
    : ∃ c rest, cs = c :: rest ∧ (c.isDigit ∨ c = '-') := by
  cases h with
  | @of negative whole fraction exponent fractionText exponentText h =>
    obtain ⟨c, more, rfl⟩ := List.exists_cons_of_ne_nil h.present
    cases negative with
    | false => exact ⟨c, _, rfl, .inl (h.digits c (by simp))⟩
    | true => exact ⟨'-', _, rfl, .inr rfl⟩

-----------------------------------------------------------------------------------------
-- Values without parts
-----------------------------------------------------------------------------------------

/-- The texts of values without parts. -/
inductive ScalarText : Json → List Char → Prop
  | null : ScalarText .null "null".toList
  | yes : ScalarText (.bool true) "true".toList
  | no : ScalarText (.bool false) "false".toList
  | number {n : Numeral} {v : Json} {cs : List Char} (text : NumeralText n cs)
      (h : n.toJson? = some v)
    : ScalarText v cs
  | string {s cs : List Char} (text : StringText s cs)
    : ScalarText (.string (String.ofList s)) ('"' :: cs ++ ['"'])

/-- How a value without parts starts: with no blank and no bracket. -/
theorem ScalarText.starts {v : Json} {cs : List Char} (h : ScalarText v cs)
    : ∃ c rest, cs = c :: rest ∧ isSpace c = false ∧ c ∉ ['[', ']', '{', '}'] := by
  cases h with
  | null => exact ⟨'n', _, rfl, by decide, by decide⟩
  | yes => exact ⟨'t', _, rfl, by decide, by decide⟩
  | no => exact ⟨'f', _, rfl, by decide, by decide⟩
  | number text _ =>
    obtain ⟨c, rest, rfl, first⟩ := text.starts
    refine ⟨c, rest, rfl, ?_, ?_⟩
    · cases blank : isSpace c with
      | false => rfl
      | true =>
        rcases eq_of_isSpace blank with rfl | rfl | rfl | rfl <;> exact absurd first (by decide)
    · intro bracket
      simp only [List.mem_cons, List.not_mem_nil, or_false] at bracket
      rcases bracket with rfl | rfl | rfl | rfl <;> exact absurd first (by decide)
  | string _ => exact ⟨'"', _, rfl, by decide, by decide⟩

/-- What starts with a digit or a minus sign is read as a numeral. -/
theorem readScalar_numeral (kept : Bool) {c : Char} (first : c.isDigit ∨ c = '-')
    (cs : List Char)
    : readScalar kept (c :: cs) = (do
        let (numeral, rest) ← readNumeral (c :: cs)
        match numeral.toJson? with
        | some v => return (v, rest)
        | none => if kept then none else return (.null, rest)) := by
  have other {d : Char} (h : ¬ (d.isDigit ∨ d = '-')) : c ≠ d := by
    rintro rfl
    exact h first
  unfold readScalar
  split
  case h_5 => rfl
  -- Words and strings start with other characters.
  all_goals
    rename_i shape
    exact absurd (List.cons.inj shape).1 (other (by decide))

theorem readScalar_text {v : Json} {cs rest : List Char} (h : ScalarText v cs) (stops : Stops rest)
    (kept : Bool)
    : ∃ w, readScalar kept (cs ++ rest) = some (w, rest) ∧ (kept = true → w = v) := by
  cases h with
  | null => exact ⟨.null, rfl, fun _ => rfl⟩
  | yes => exact ⟨.bool true, rfl, fun _ => rfl⟩
  | no => exact ⟨.bool false, rfl, fun _ => rfl⟩
  | @number n _ _ text exact =>
    have read_eq := readNumeral_append text stops
    obtain ⟨c, more, rfl, first⟩ := text.starts
    refine ⟨v, ?_, fun _ => rfl⟩
    rw [List.cons_append] at read_eq ⊢
    rw [readScalar_numeral kept first, read_eq]
    simp [exact]
  | @string s cs text =>
    obtain ⟨t, read_eq, same⟩ := readString_text text kept rest
    refine ⟨.string (String.ofList t), ?_, fun keeps => by rw [same keeps]⟩
    simp [readScalar, read_eq]

end ColumnStore.Json

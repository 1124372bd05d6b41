import Mathlib.Data.List.TakeWhile
import ColumnStore.Cli.Binding
import ColumnStore.Escaping
import ColumnStore.Proofs.Json.Decimal
import ColumnStore.Proofs.Number.Shortest

/-! An integer on the command line is bound as it stands as long as it fits 64 bits with a sign. Beyond that
it is bound as a float, and the text of the float is the roundest integer near it, seldom the one that
was given.
-/

namespace ColumnStore.Binding

-----------------------------------------------------------------------------------------
-- Integers as texts
-----------------------------------------------------------------------------------------

/-- The sign of an integer and its digits. -/
def integerText (negative : Bool) (n : Nat) : String :=
  (if negative then "-" else "") ++ toString n

/-- The integer that a literal denotes, if it is digits after a sign or without. -/
def denoted? (literal : String) : Option Int :=
  let (negative, digits) := splitSign literal.toList
  if isDigits digits then some (signed negative (digitsValue 10 digits)) else none

theorem toList_integerText (negative : Bool) (n : Nat)
    : (integerText negative n).toList = (if negative then ['-'] else []) ++ Nat.toDigits 10 n := by
  cases negative <;> simp [integerText]

theorem splitSign_integerText (negative : Bool) (n : Nat)
    : splitSign (integerText negative n).toList = (negative, Nat.toDigits 10 n) := by
  have signs : Json.SignText negative (if negative then ['-'] else []) := by
    cases negative
    · exact .none
    · exact .minus
  have split := Json.splitSign_append signs (Json.isDigits_toDigits n) []
  rwa [List.append_nil, List.append_nil, ← toList_integerText] at split

theorem isDigits_toDigits (n : Nat)
    : isDigits (Nat.toDigits 10 n) = true := by
  obtain ⟨present, digits⟩ := Json.isDigits_toDigits n
  rw [isDigits, List.all_eq_true.2 digits, Bool.and_true, Bool.not_eq_true', List.isEmpty_eq_false_iff]
  exact present

/-- The text of an integer denotes it. -/
theorem denoted?_integerText (negative : Bool) (n : Nat)
    : denoted? (integerText negative n) = some (signed negative n) := by
  rw [denoted?, splitSign_integerText]
  simp only [isDigits_toDigits, digitsValue_toDigits, if_true]

-----------------------------------------------------------------------------------------
-- Reading
-----------------------------------------------------------------------------------------

/-- Whether an integer fits 64 bits with a sign. -/
def FitsInt64 (z : Int) : Prop :=
  Int64.minValue.toInt ≤ z ∧ z ≤ Int64.maxValue.toInt

instance (z : Int) : Decidable (FitsInt64 z) :=
  inferInstanceAs (Decidable (_ ∧ _))

/-- Digits are no letters in lower case, so a text that holds one is no word. -/
theorem isWord_of_mem_digit {word : String} {cs : List Char} {c : Char} (member : c ∈ cs)
    (digit : c.isDigit) (letters : word.toList.all fun letter => !letter.isDigit)
    : isWord word cs = false := by
  have same : c.toLower = c := by
    refine dif_neg fun upper => ?_
    simp only [Char.isDigit, Bool.and_eq_true, decide_eq_true_eq] at digit
    exact absurd (Nat.le_trans upper.1 digit.2) (by decide)
  rw [isWord, decide_eq_false_iff_not]
  intro word_is
  have letter : c ∈ word.toList := word_is ▸ same ▸ List.mem_map_of_mem member
  have other := List.all_eq_true.1 letters c letter
  rw [digit] at other
  cases other

theorem integer?_integerText (negative : Bool) (n : Nat)
    : integer? (integerText negative n).toList
      = if FitsInt64 (signed negative n) then some (Int64.ofInt (signed negative n)) else none := by
  simp only [integer?, splitSign_integerText, isDigits_toDigits, digitsValue_toDigits, true_and]
  rfl

/-- Digits alone are a numeral without places and without an exponent. -/
theorem decimal?_toDigits (n : Nat)
    : decimal? (Nat.toDigits 10 n) = some (n, 0) := by
  obtain ⟨present, digits⟩ := Json.isDigits_toDigits n
  have plain (c : Char) (member : c ∈ Nat.toDigits 10 n) : (!decide (c = 'e' ∨ c = 'E')) = true := by
    have digit := digits c member
    by_contra mark
    simp only [Bool.not_eq_true', decide_eq_false_iff_not, Decidable.not_not] at mark
    rcases mark with rfl | rfl <;> exact absurd digit (by decide)
  have whole := List.takeWhile_eq_self_iff.2 plain
  have rest := List.dropWhile_eq_nil_iff.2 plain
  have wholeDigits := List.takeWhile_eq_self_iff.2 digits
  have restDigits := List.dropWhile_eq_nil_iff.2 digits
  simp only [decimal?, whole, rest, mantissa?, wholeDigits, restDigits, exponent?]
  simp [present, digitsValue_toDigits]

theorem float?_integerText (negative : Bool) (n : Nat)
    : float? (integerText negative n).toList = some (Binary64.ofRatio negative n 1) := by
  obtain ⟨c, member⟩ := List.exists_mem_of_ne_nil _ (Json.isDigits_toDigits n).present
  have digit := (Json.isDigits_toDigits n).digits c member
  have noWord (word : String) (letters : word.toList.all fun letter => !letter.isDigit) :=
    isWord_of_mem_digit member digit letters
  rw [float?, splitSign_integerText]
  simp only [noWord "inf" (by decide), noWord "infinity" (by decide), noWord "nan" (by decide),
    decimal?_toDigits, Option.map_some, Binary64.ofDecimal_zero, Bool.false_eq_true, or_self, if_false]

/-- The text of an integer is read as the integer if that fits, and else as the float nearest to it. -/
theorem parse_integerText (negative : Bool) (n : Nat)
    : parse (integerText negative n)
      = if FitsInt64 (signed negative n) then .int (Int64.ofInt (signed negative n))
        else .float (Binary64.ofRatio negative n 1) := by
  obtain ⟨c, member⟩ := List.exists_mem_of_ne_nil _ (Json.isDigits_toDigits n).present
  have digit := (Json.isDigits_toDigits n).digits c member
  have noWord : isWord "null" (integerText negative n).toList = false := by
    refine isWord_of_mem_digit (c := c) ?_ digit (by decide)
    rw [toList_integerText]
    exact List.mem_append_right _ member
  simp only [parse, noWord, Bool.false_eq_true, if_false, integer?_integerText, float?_integerText]
  by_cases fits : FitsInt64 (signed negative n)
  · simp only [fits, if_true]
  · simp only [fits, if_false]

-----------------------------------------------------------------------------------------
-- Writing
-----------------------------------------------------------------------------------------

theorem denoted?_toString (z : Int)
    : denoted? (toString z) = some z := by
  cases z with
  | ofNat n => exact denoted?_integerText false n
  | negSucc n => exact denoted?_integerText true (n + 1)

theorem fitsInt64_of_lt {negative : Bool} {n : Nat} (near : n < 2 ^ 63)
    : FitsInt64 (signed negative n) := by
  have least : Int64.minValue.toInt = -9223372036854775808 := by decide
  have most : Int64.maxValue.toInt = 9223372036854775807 := by decide
  cases negative <;> simp only [FitsInt64, signed, Bool.false_eq_true, if_true, if_false] <;> omega

theorem lt_of_fitsInt64 {negative : Bool} {n : Nat} (fits : FitsInt64 (signed negative n))
    : n < 2 ^ 64 := by
  have least : Int64.minValue.toInt = -9223372036854775808 := by decide
  have most : Int64.maxValue.toInt = 9223372036854775807 := by decide
  cases negative <;> simp only [FitsInt64, signed, Bool.false_eq_true, if_true, if_false] at fits
    <;> omega

theorem signed_injective {negative : Bool} {n m : Nat} (same : signed negative n = signed negative m)
    : n = m := by
  cases negative <;> simp only [signed, Bool.false_eq_true, if_true, if_false] at same <;> omega

theorem quote_of_fits (e : Escaping) {negative : Bool} {n : Nat}
    (fits : FitsInt64 (signed negative n))
    : e.quote (parse (integerText negative n)) = toString (signed negative n) := by
  have same : (Int64.ofInt (signed negative n)).toInt = signed negative n :=
    Int64.toInt_ofInt_of_le fits.1 (Int.lt_of_le_of_lt fits.2 (by decide))
  rw [parse_integerText, if_pos fits, Escaping.quote, same]

/-- An integer that does not fit is written as the roundest that is rounded to the same float, and two zeros
are its last digits.
-/
theorem quote_of_finite (e : Escaping) {negative : Bool} {n : Nat}
    (large : ¬ FitsInt64 (signed negative n)) (finite : n < Binary64.overflow)
    : ∃ m, e.quote (parse (integerText negative n)) = integerText negative m
      ∧ (Binary64.ofNat n).IsRoundest m ∧ 100 ∣ m := by
  have far : 2 ^ 63 ≤ n := Nat.not_lt.1 fun near => large (fitsInt64_of_lt near)
  obtain ⟨v, rounded⟩ := Binary64.exists_large far finite
  obtain ⟨isNumber, isFinite⟩ := v.not_special_float negative
  obtain ⟨m, text, roundest⟩ := v.positional_float negative
  refine ⟨m, ?_, ?_, v.hundred_dvd_of_isRoundest roundest⟩
  · rw [parse_integerText, if_neg large, rounded, Escaping.quote, Value.floatText, isNumber, isFinite]
    exact text
  · rw [Binary64.ofNat, rounded]
    exact roundest

theorem quote_of_overflow (e : Escaping) (negative : Bool) {n : Nat}
    (past : Binary64.overflow ≤ n)
    : e.quote (parse (integerText negative n)) = if negative then "-inf" else "inf" := by
  have large : ¬ FitsInt64 (signed negative n) := fun fits =>
    Nat.not_lt.2 (Nat.le_trans Binary64.le_overflow past) (lt_of_fitsInt64 fits)
  rw [parse_integerText, if_neg large, Binary64.ofRatio_one_overflow negative past, Escaping.quote]
  cases negative <;> decide

/-- An integer on the command line is denoted by its literal exactly if it fits 64 bits with a sign, or is
finite as a float and the roundest of the integers that are rounded to it. Any other is written as
that roundest integer, which ends in two zeros, or as an infinity.
-/
theorem denoted?_quote_iff (e : Escaping) (negative : Bool) (n : Nat)
    : (denoted? (e.quote (parse (integerText negative n))) = some (signed negative n)
        ↔ FitsInt64 (signed negative n) ∨ n < Binary64.overflow ∧ (Binary64.ofNat n).IsRoundest n)
      ∧ (FitsInt64 (signed negative n)
            ∧ e.quote (parse (integerText negative n)) = toString (signed negative n)
          ∨ ¬ FitsInt64 (signed negative n) ∧ n < Binary64.overflow
            ∧ (∃ m, e.quote (parse (integerText negative n)) = integerText negative m
              ∧ (Binary64.ofNat n).IsRoundest m ∧ 100 ∣ m)
          ∨ Binary64.overflow ≤ n
            ∧ e.quote (parse (integerText negative n)) = if negative then "-inf" else "inf") := by
  by_cases fits : FitsInt64 (signed negative n)
  · have text := quote_of_fits e fits
    exact ⟨iff_of_true (text ▸ denoted?_toString _) (.inl fits), .inl ⟨fits, text⟩⟩
  rcases Nat.lt_or_ge n Binary64.overflow with finite | past
  · obtain ⟨m, text, roundest, hundreds⟩ := quote_of_finite e fits finite
    refine ⟨?_, .inr (.inl ⟨fits, finite, m, text, roundest, hundreds⟩)⟩
    rw [text, denoted?_integerText]
    constructor
    · intro same
      obtain rfl := signed_injective (Option.some.inj same)
      exact .inr ⟨finite, roundest⟩
    · rintro (small | ⟨-, here⟩)
      · exact absurd small fits
      · rw [roundest.unique here]
  · have text := quote_of_overflow e negative past
    have nothing : denoted? (if negative then "-inf" else "inf") = none := by
      cases negative <;> decide
    refine ⟨?_, .inr (.inr ⟨past, text⟩)⟩
    rw [text, nothing]
    refine iff_of_false (by simp) ?_
    rintro (small | ⟨finite, -⟩)
    · exact fits small
    · exact Nat.not_lt.2 past finite

/-- The first integer that does not fit becomes `9223372036854776000`. -/
theorem not_denoted_pastInt64
    : ¬ denoted? (Escaping.native.quote (parse (integerText false 9223372036854775808)))
        = some (signed false 9223372036854775808) := by
  decide +kernel

end ColumnStore.Binding

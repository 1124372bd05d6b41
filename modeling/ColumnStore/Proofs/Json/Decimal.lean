import Mathlib.Tactic.IntervalCases
import ColumnStore.Proofs.Json.Scalars
import ColumnStore.Proofs.Number.Numerals

/-! The decimal digits of a number are a text of it, as a numeral and as a string. A number of 64 bits
is read back from either of them.
-/

namespace ColumnStore

/-- Only the digits of zero start with a zero, by induction on the number: a longer number starts as
its tenth part does.
-/
theorem eq_zero_of_head?_toDigits {n : Nat} (h : (Nat.toDigits 10 n).head? = some '0')
    : n = 0 := by
  induction n using Nat.strongRecOn with
  | ind n ih =>
    by_cases small : n < 10
    · rw [Nat.toDigits_of_lt_base small] at h
      interval_cases n
      · rfl
      all_goals exact absurd h (by decide)
    · have front : (Nat.toDigits 10 (n / 10)).head? = some '0' := by
        rw [Nat.toDigits_of_base_le (by decide) (by omega)] at h
        rwa [List.head?_append_of_ne_nil _ Nat.toDigits_ne_nil] at h
      have := ih (n / 10) (by omega) front
      omega

namespace Json

theorem isDigits_toDigits (n : Nat)
    : IsDigits (Nat.toDigits 10 n) where
  present := Nat.toDigits_ne_nil
  digits := fun _ => Nat.isDigit_of_mem_toDigits (by decide) (by decide)

/-- In a string digits stand for themselves. -/
theorem isPlainChar_of_isDigit {c : Char} (digit : c.isDigit)
    : IsPlainChar c := by
  refine ⟨?_, ?_, ?_⟩
  · simp only [Char.isDigit, Bool.and_eq_true, decide_eq_true_eq] at digit
    exact Nat.le_trans (by decide) digit.1
  · rintro rfl
    exact absurd digit (by decide)
  · rintro rfl
    exact absurd digit (by decide)

/-- Digits that stand for a number of 64 bits all count into the significand, by list induction. -/
theorem extend_eq {cs : List Char} {start : Nat}
    (room : cs.foldl (fun n c => n * 10 + digitValue c) start < UInt64.size)
    : extend start cs = (cs.foldl (fun n c => n * 10 + digitValue c) start, []) := by
  have grows (cs : List Char) (start : Nat)
      : start ≤ cs.foldl (fun n c => n * 10 + digitValue c) start := by
    induction cs generalizing start with
    | nil => exact Nat.le_refl _
    | cons c rest ih => exact Nat.le_trans (by omega) (ih (start * 10 + digitValue c))
  induction cs generalizing start with
  | nil => rfl
  | cons c rest ih =>
    have fits : start * 10 + digitValue c < UInt64.size := Nat.lt_of_le_of_lt (grows rest _) room
    rw [extend]
    exact (if_pos fits).trans (ih room)

/-- A number's digits are a numeral, with a minus sign or without. -/
theorem numeralText_toDigits (negative : Bool) (n : Nat)
    : NumeralText ⟨negative, Nat.toDigits 10 n, none, none⟩
        ((if negative then ['-'] else []) ++ Nat.toDigits 10 n) := by
  have alone : (Nat.toDigits 10 n).head? = some '0' → (Nat.toDigits 10 n).length = 1 := by
    intro first
    rw [eq_zero_of_head?_toDigits first]
    rfl
  have plain : NumeralText ⟨negative, Nat.toDigits 10 n, none, none⟩
      ((if negative then ['-'] else []) ++ Nat.toDigits 10 n ++ [] ++ []) :=
    .of (isDigits_toDigits n) alone .none .none
  simpa using plain

/-- The digits of a number of 64 bits are its significand, with no power of ten. -/
theorem parts_toDigits (negative : Bool) {n : Nat} (room : n < UInt64.size)
    : Numeral.parts ⟨negative, Nat.toDigits 10 n, none, none⟩ = (n, 0) := by
  have whole : extend 0 (Nat.toDigits 10 n) = (n, []) := by
    have value := digitsValue_toDigits n
    unfold digitsValue at value
    rw [extend_eq (by rw [value]; exact room), value]
  simp [Numeral.parts, whole, extend]

/-- The digits of a number of 64 bits are a text of it. -/
theorem scalarText_toDigits {n : Nat} (room : n < UInt64.size)
    : ScalarText (.integer n) (Nat.toDigits 10 n) := by
  refine .number (numeralText_toDigits false n) ?_
  simp [Numeral.toJson?, parts_toDigits false room, Numeral.isWhole]

/-- A negative number of 64 bits has a text too: a minus sign before its digits. -/
theorem scalarText_negSucc {n : Nat} (room : Int64.minValue.toInt ≤ Int.negSucc n)
    : ScalarText (.integer (Int.negSucc n)) ('-' :: Nat.toDigits 10 (n + 1)) := by
  have least : Int64.minValue.toInt = -9223372036854775808 := by decide
  have fits : n + 1 < UInt64.size := by
    have size : UInt64.size = 18446744073709551616 := rfl
    omega
  refine .number (numeralText_toDigits true (n + 1)) ?_
  have present : 0 < n + 1 ∧ Int64.minValue.toInt ≤ -((n + 1 : Nat) : Int) := ⟨by omega, by omega⟩
  simp only [Numeral.toJson?, parts_toDigits true fits, Numeral.isWhole, Option.isNone_none,
    Bool.and_self, and_self, if_true, if_pos present]
  rfl

/-- A number and its digits in a string are the same unsigned number. -/
theorem unsigned?_integer {n : Nat} (room : n < UInt64.size)
    : unsigned? (.integer n) = some (UInt64.ofNat n) := by
  have below : (n : Int) < UInt64.size := Int.ofNat_lt.2 room
  simp only [unsigned?, Int.natCast_nonneg, below, and_self, if_true, Int.toNat_natCast]

theorem unsigned?_string {n : Nat} (room : n < UInt64.size)
    : unsigned? (.string (toString n)) = some (UInt64.ofNat n) := by
  have given := isDigits_toDigits n
  rw [unsigned?, Nat.toString_eq_ofList_toDigits]
  unfold numeralValue?
  extract_lets digits
  have unsigned : digits = Nat.toDigits 10 n := by
    simp only [digits, String.toList_ofList]
    split
    · rename_i rest shape
      exact absurd (given.digits '+' (by simp [shape])) (by decide)
    · rfl
  have whole : digits ≠ [] ∧ digits.all Char.isDigit ∧ digitsValue 10 digits < UInt64.size := by
    rw [unsigned, digitsValue_toDigits]
    exact ⟨given.present, List.all_eq_true.2 given.digits, room⟩
  rw [if_pos whole, unsigned, digitsValue_toDigits]

end Json

end ColumnStore

import Mathlib.Data.List.Basic
import ColumnStore.Number.Digits

/-! An integer is written in decimal digits, behind a minus if it is negative. Its text tells it, and the
value of the digits is the number that they were written for.
-/

namespace ColumnStore

-----------------------------------------------------------------------------------------
-- The text of an integer
-----------------------------------------------------------------------------------------

theorem toList_toString_nat (n : Nat)
    : (toString n).toList = Nat.toDigits 10 n :=
  Nat.toList_repr

theorem toList_toString_ofNat (n : Nat)
    : (toString (Int.ofNat n)).toList = Nat.toDigits 10 n :=
  toList_toString_nat n

theorem toList_toString_negSucc (n : Nat)
    : (toString (Int.negSucc n)).toList = '-' :: Nat.toDigits 10 (n + 1) := by
  change ("-" ++ toString (n + 1)).toList = _
  rw [String.toList_append, toList_toString_nat]
  rfl

/-- A numeral starts with a digit. -/
theorem isDigit_of_toDigits_eq {n : Nat} {c : Char} {rest : List Char}
    (digits : Nat.toDigits 10 n = c :: rest)
    : c.isDigit :=
  Nat.isDigit_of_mem_toDigits (by decide) (by decide) (digits ▸ List.mem_cons_self)

theorem toDigits_inj {m n : Nat} (same : Nat.toDigits 10 m = Nat.toDigits 10 n)
    : m = n := by
  rw [← Nat.ofDigitChars_ten_toDigits (n := m), same, Nat.ofDigitChars_ten_toDigits]

/-- An integer is told by its sign and its digits. -/
theorem toString_int_inj {m n : Int}
    : toString m = toString n ↔ m = n := by
  -- `Int.repr_inj` says as much, but no single module of Mathlib brings it along.
  refine ⟨fun same => ?_, fun same => same ▸ rfl⟩
  have written := congrArg String.toList same
  cases m with
  | ofNat m =>
    rw [toList_toString_ofNat] at written
    cases n with
    | ofNat n =>
      rw [toList_toString_ofNat] at written
      rw [toDigits_inj written]
    | negSucc n =>
      rw [toList_toString_negSucc] at written
      cases isDigit_of_toDigits_eq written
  | negSucc m =>
    rw [toList_toString_negSucc] at written
    cases n with
    | ofNat n =>
      rw [toList_toString_ofNat] at written
      cases isDigit_of_toDigits_eq written.symm
    | negSucc n =>
      rw [toList_toString_negSucc] at written
      rw [Nat.succ.inj (toDigits_inj (List.cons.inj written).2)]

-----------------------------------------------------------------------------------------
-- The value of digits
-----------------------------------------------------------------------------------------

/-- The value of decimal digits, by their fold. -/
theorem digitsValue_eq_ofDigitChars {cs : List Char} (digits : ∀ c ∈ cs, c.isDigit)
    : digitsValue 10 cs = Nat.ofDigitChars 10 cs 0 := by
  rw [digitsValue, Nat.ofDigitChars_eq_foldl]
  refine List.foldl_ext _ _ _ fun m c member => ?_
  rw [digitValue, if_pos (digits c member), Nat.mul_comm]

/-- The digits of a number stand for it. -/
theorem digitsValue_toDigits (n : Nat)
    : digitsValue 10 (Nat.toDigits 10 n) = n := by
  have digits (c : Char) (member : c ∈ Nat.toDigits 10 n) : c.isDigit :=
    Nat.isDigit_of_mem_toDigits (by decide) (by decide) member
  rw [digitsValue_eq_ofDigitChars digits, Nat.ofDigitChars_ten_toDigits]

end ColumnStore

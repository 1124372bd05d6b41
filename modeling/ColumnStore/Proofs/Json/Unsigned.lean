import ColumnStore.Proofs.Json.Decimal

/-! A value stands for an unsigned number if it is that integer, or a string of digits that spell it. Of the
numerals only plain digits are read as such an integer, so no other number is taken for one.
-/

namespace ColumnStore.Json

/-- Decimal digits of a number, with zeros before them or without. -/
structure Spells (n : Nat) (cs : List Char) : Prop extends IsDigits cs where
  value : Nat.ofDigitChars 10 cs 0 = n

/-- The values that stand for a number: the integer itself, and its digits in a string, where a plus sign
may come first.
-/
inductive StandsFor (n : Nat) : Json → Prop
  | number : StandsFor n (.integer n)
  | text {sign digits : List Char} (signed : SignText false sign) (spells : Spells n digits)
    : StandsFor n (.string (String.ofList (sign ++ digits)))

theorem StandsFor.integer_eq {n : Nat} {z : Int} (h : StandsFor n (.integer z))
    : z = n := by
  cases h
  rfl

-----------------------------------------------------------------------------------------
-- Values
-----------------------------------------------------------------------------------------

/-- The number that a string of digits is taken for. -/
theorem numeralValue?_eq_some_iff {s : String} {n : UInt64}
    : numeralValue? s = some n
      ↔ ∃ sign digits, SignText false sign ∧ Spells n.toNat digits
        ∧ s = String.ofList (sign ++ digits) := by
  have reads (digits : List Char)
      : (if digits ≠ [] ∧ digits.all Char.isDigit ∧ digitsValue 10 digits < UInt64.size then
          some (UInt64.ofNat (digitsValue 10 digits)) else none) = some n
        ↔ Spells n.toNat digits := by
    rw [Option.ite_none_right_eq_some, Option.some.injEq, List.all_eq_true]
    constructor
    · rintro ⟨⟨present, all, room⟩, rfl⟩
      refine ⟨⟨present, all⟩, ?_⟩
      rw [← digitsValue_eq_ofDigitChars all, UInt64.toNat_ofNat_of_lt' room]
    · intro spells
      have value := (digitsValue_eq_ofDigitChars spells.digits).trans spells.value
      rw [value, UInt64.ofNat_toNat]
      exact ⟨⟨spells.present, spells.digits, n.toNat_lt⟩, rfl⟩
  unfold numeralValue?
  extract_lets unsigned
  rw [reads]
  constructor
  · intro spells
    have signs : ∃ sign, SignText false sign ∧ s = String.ofList (sign ++ unsigned) := by
      simp only [unsigned]
      split
      · rename_i rest shape
        exact ⟨['+'], .plus, by rw [List.singleton_append, ← shape, String.ofList_toList]⟩
      · exact ⟨[], .none, by rw [List.nil_append, String.ofList_toList]⟩
    obtain ⟨sign, signed, whole⟩ := signs
    exact ⟨sign, unsigned, signed, spells, whole⟩
  · rintro ⟨sign, digits, signed, spells, rfl⟩
    have same : unsigned = digits := by
      simp only [unsigned, String.toList_ofList]
      cases signed with
      | plus => rfl
      | none =>
        rw [List.nil_append]
        split
        · exact absurd (spells.digits '+' (by simp)) (by decide)
        · rfl
    rwa [same]

/-- A value is read as a number exactly if it stands for it. -/
theorem unsigned?_eq_some_iff {v : Json} {n : UInt64}
    : v.unsigned? = some n ↔ v.StandsFor n.toNat := by
  cases v with
  | integer z =>
    rw [unsigned?, Option.ite_none_right_eq_some, Option.some.injEq]
    constructor
    · rintro ⟨⟨positive, room⟩, rfl⟩
      have fits : z.toNat < UInt64.size := by omega
      have same : ((UInt64.ofNat z.toNat).toNat : Int) = z := by
        rw [UInt64.toNat_ofNat_of_lt' fits, Int.toNat_of_nonneg positive]
      have stands : StandsFor (UInt64.ofNat z.toNat).toNat (.integer (UInt64.ofNat z.toNat).toNat) :=
        .number
      rwa [same] at stands
    · intro stands
      cases stands
      exact ⟨⟨Int.natCast_nonneg _, Int.ofNat_lt.2 n.toNat_lt⟩, by simp⟩
  | string s =>
    rw [unsigned?, numeralValue?_eq_some_iff]
    constructor
    · rintro ⟨sign, digits, signed, spells, rfl⟩
      exact .text signed spells
    · intro stands
      cases stands with
      | text signed spells => exact ⟨_, _, signed, spells, rfl⟩
  | null | bool | float | array | object =>
    constructor
    · intro read
      cases read
    · intro stands
      cases stands

-----------------------------------------------------------------------------------------
-- Numerals
-----------------------------------------------------------------------------------------

/-- Where no digit is left over, the significand is the number of the digits and fits 64 bits, by list
induction.
-/
theorem eq_of_extend {cs : List Char} {start n : Nat} (room : start < UInt64.size)
    (whole : extend start cs = (n, []))
    : cs.foldl (fun n c => n * 10 + digitValue c) start = n ∧ n < UInt64.size := by
  induction cs generalizing start with
  | nil =>
    obtain rfl : start = n := congrArg (·.1) whole
    exact ⟨rfl, room⟩
  | cons c rest ih =>
    rw [extend] at whole
    by_cases fits : start * 10 + digitValue c < UInt64.size
    · exact ih fits ((if_pos fits).symm.trans whole)
    · cases (if_neg fits).symm.trans whole

/-- Without a point and an exponent a numeral has the significand of its digits, and as many tens as
digits are left over.
-/
theorem Numeral.parts_of_isWhole {numeral : Numeral} (whole : numeral.isWhole = true)
    : numeral.parts
      = ((extend 0 numeral.whole).1, ((extend 0 numeral.whole).2.length : Int)) := by
  simp only [Numeral.isWhole, Bool.and_eq_true, Option.isNone_iff_eq_none] at whole
  simp [Numeral.parts, whole, extend]

/-- A numeral stands for an unsigned number exactly if it is digits of the number and nothing else. With a
minus sign, a point or an exponent it is another number or a float, and so are digits that do not fit.
-/
theorem Numeral.standsFor_iff {numeral : Numeral} {v : Json} {n : Nat}
    (digits : IsDigits numeral.whole) (made : numeral.toJson? = some v) (room : n < UInt64.size)
    : v.StandsFor n
      ↔ numeral.negative = false ∧ numeral.isWhole = true ∧ Spells n numeral.whole := by
  have value := digitsValue_eq_ofDigitChars digits.digits
  simp only [Numeral.toJson?] at made
  constructor
  · intro stands
    by_cases plain : numeral.isWhole = true ∧ numeral.parts.2 = 0
    · rw [if_pos plain] at made
      have parts := parts_of_isWhole plain.1
      cases negative : numeral.negative with
      | true =>
        rw [negative, if_pos rfl] at made
        split at made
        · rename_i below
          obtain rfl := Option.some.inj made
          have := stands.integer_eq
          omega
        · obtain ⟨x, -, rfl⟩ := Option.map_eq_some_iff.1 made
          cases stands
      | false =>
        rw [negative, if_neg Bool.false_ne_true] at made
        obtain rfl := Option.some.inj made
        have same : numeral.parts.1 = n := Int.ofNat_inj.1 stands.integer_eq
        have all : extend 0 numeral.whole = (n, []) := by
          refine Prod.ext (by rw [← same, parts]) (List.length_eq_zero_iff.1 ?_)
          have none := plain.2
          rw [parts] at none
          exact Int.ofNat_inj.1 none
        have spelled := (eq_of_extend (by decide) all).1
        exact ⟨rfl, plain.1, digits, by rw [← value, digitsValue, spelled]⟩
    · rw [if_neg plain] at made
      obtain ⟨x, -, rfl⟩ := Option.map_eq_some_iff.1 made
      cases stands
  · rintro ⟨positive, whole, spells⟩
    have fits : extend 0 numeral.whole = (n, []) := by
      rw [← spells.value, ← value]
      exact extend_eq (by rw [← digitsValue, value, spells.value]; exact room)
    have parts : numeral.parts = (n, 0) := by rw [parts_of_isWhole whole, fits]; rfl
    rw [parts, if_pos ⟨whole, rfl⟩, positive] at made
    obtain rfl := Option.some.inj made
    exact .number

/-- A numeral that spells a number holds no sign, no point and no exponent. -/
theorem NumeralText.spells_iff {numeral : Numeral} {cs : List Char} (h : NumeralText numeral cs)
    {n : Nat}
    : Spells n cs
      ↔ numeral.negative = false ∧ numeral.isWhole = true ∧ Spells n numeral.whole := by
  obtain ⟨digits, zero, fractional, exponential⟩ := h
  rename_i negative whole fraction exponent fractionText exponentText
  constructor
  · intro spells
    have foreign {c : Char} (other : c.isDigit = false)
        : c ∉ (if negative then ['-'] else []) ++ whole ++ fractionText ++ exponentText := by
      intro member
      cases other.symm.trans (spells.digits c member)
    cases negative with
    | true => exact absurd (by simp) (foreign (c := '-') (by decide))
    | false =>
      cases fractional with
      | some _ => exact absurd (by simp) (foreign (c := '.') (by decide))
      | none =>
        cases exponential with
        | none => exact ⟨rfl, rfl, by simpa using spells⟩
        | some letter =>
          rcases letter with rfl | rfl
          · exact absurd (by simp) (foreign (c := 'e') (by decide))
          · exact absurd (by simp) (foreign (c := 'E') (by decide))
  · rintro ⟨rfl, isWhole, spells⟩
    simp only [Numeral.isWhole, Bool.and_eq_true, Option.isNone_iff_eq_none] at isWhole
    obtain ⟨rfl, rfl⟩ := isWhole
    cases fractional
    cases exponential
    simpa using spells

/-- A number that is read from a text stands for an unsigned number exactly if the text spells that number. -/
theorem standsFor_iff_spells {numeral : Numeral} {cs : List Char} {v : Json} {n : Nat}
    (text : NumeralText numeral cs) (made : numeral.toJson? = some v) (room : n < UInt64.size)
    : v.StandsFor n ↔ Spells n cs := by
  have digits : IsDigits numeral.whole := by
    obtain ⟨digits, -, -, -⟩ := text
    exact digits
  rw [text.spells_iff, Numeral.standsFor_iff digits made room]

end ColumnStore.Json

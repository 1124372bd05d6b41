import Mathlib.Algebra.Group.Nat.Defs
import Mathlib.Tactic.SplitIfs
import ColumnStore.Number.Shortest

/-! A whole number from 2^63 on is rounded to the float nearest to it, and those rounded to one float are an
interval around it. From halfway past the greatest float on they are infinite.
-/

namespace ColumnStore.Binary64

-----------------------------------------------------------------------------------------
-- Quotients
-----------------------------------------------------------------------------------------

/-- A quotient is rounded to a number if it is at most a half away from it, or less when the number is odd. -/
theorem roundQuotient_eq_iff {n d m : Nat} (positive : 0 < d)
    : roundQuotient n d = m
      ↔ if m % 2 = 1 then 2 * (m * d) < 2 * n + d ∧ 2 * n < 2 * (m * d) + d
        else 2 * (m * d) ≤ 2 * n + d ∧ 2 * n ≤ 2 * (m * d) + d := by
  have split : n / d * d + n % d = n := Nat.div_add_mod' n d
  have rest : n % d < d := Nat.mod_lt n positive
  rw [roundQuotient]
  generalize n / d = a at *
  generalize n % d = r at *
  have next : (a + 1) * d = a * d + d := Nat.succ_mul a d
  by_cases floor : m = a
  · subst floor
    split_ifs <;> omega
  by_cases ceiling : m = a + 1
  · subst ceiling
    split_ifs <;> omega
  have far : m * d + d ≤ a * d ∨ a * d + 2 * d ≤ m * d := by
    rcases Nat.lt_or_gt_of_ne floor with below | above
    · exact .inl (Nat.succ_mul m d ▸ Nat.mul_le_mul_right d below)
    · have above : a + 2 ≤ m := by omega
      exact .inr (Nat.add_mul a 2 d ▸ Nat.mul_le_mul_right d above)
  split_ifs <;> omega

-----------------------------------------------------------------------------------------
-- Large floats
-----------------------------------------------------------------------------------------

/-- A finite magnitude from 2^63 on: a significand of 53 bits and a binary scale. -/
structure Large where
  significand : Nat
  scale : Nat
  significand_ge : exponentPlace ≤ significand
  significand_lt : significand < 2 * exponentPlace
  scale_ge : 11 ≤ scale
  scale_le : scale ≤ 971

namespace Large

variable (v : Large)

def value : Nat :=
  v.significand * 2 ^ v.scale

def float (negative : Bool) : Binary64 :=
  withSign negative ((v.scale + 1074) * exponentPlace + v.significand)

theorem toNat_float_bits (negative : Bool)
    : (v.float negative).bits.toNat
      = (if negative then signPlace else 0) + ((v.scale + 1074) * exponentPlace + v.significand) := by
  have size : UInt64.size = 18446744073709551616 := rfl
  have bounds := And.intro v.significand_lt v.scale_le
  simp only [exponentPlace] at bounds
  rw [float, withSign, UInt64.toNat_ofNat_of_lt']
  all_goals cases negative <;> simp [signPlace, exponentPlace] <;> omega

@[simp]
theorem isNegative_float (negative : Bool)
    : (v.float negative).isNegative = negative := by
  have bounds := And.intro v.significand_lt v.scale_le
  rw [isNegative, toNat_float_bits]
  simp only [exponentPlace, signPlace] at *
  cases negative <;> simp
  omega

@[simp]
theorem exponentField_float (negative : Bool)
    : (v.float negative).exponentField = v.scale + 1075 := by
  have bounds := And.intro (And.intro v.significand_ge v.significand_lt) v.scale_le
  rw [exponentField, toNat_float_bits]
  simp only [exponentPlace, signPlace] at *
  cases negative <;> simp <;> omega

@[simp]
theorem fraction_float (negative : Bool)
    : (v.float negative).fraction = v.significand - exponentPlace := by
  have bounds := And.intro (And.intro v.significand_ge v.significand_lt) v.scale_le
  rw [fraction, toNat_float_bits]
  simp only [exponentPlace, signPlace] at *
  cases negative <;> simp <;> omega

@[simp]
theorem significand_float (negative : Bool)
    : (v.float negative).significand = v.significand := by
  have normal := v.significand_ge
  rw [Binary64.significand, exponentField_float, fraction_float, if_neg (by omega)]
  omega

@[simp]
theorem scale_float (negative : Bool)
    : (v.float negative).scale = v.scale := by
  rw [Binary64.scale, exponentField_float]
  omega

/-- A quarter of the distance to the next float, of which the other distances are multiples. -/
def quarter : Nat :=
  2 ^ (v.scale - 2)

/-- Half the distance to the next float. -/
def half : Nat :=
  2 * v.quarter

/-- Half the distance to the float before, which is nearer to a power of two. -/
def halfBelow : Nat :=
  if v.significand = exponentPlace then v.quarter else v.half

/-- Whether a number is at most halfway to a neighbour, or less when the significand is odd. -/
def Takes (n : Nat) : Prop :=
  if v.significand % 2 = 1 then v.value < n + v.halfBelow ∧ n < v.value + v.half
  else v.value ≤ n + v.halfBelow ∧ n ≤ v.value + v.half

theorem quarter_pos
    : 0 < v.quarter :=
  Nat.two_pow_pos _

theorem two_pow_scale
    : 2 ^ v.scale = 4 * v.quarter := by
  have large := v.scale_ge
  rw [quarter, Nat.mul_comm, ← Nat.pow_add 2 _ 2, Nat.sub_add_cancel (by omega)]

theorem two_pow_scale_sub
    : 2 ^ (v.scale - 1) = 2 * v.quarter := by
  have large := v.scale_ge
  rw [quarter, ← Nat.pow_succ', show (v.scale - 2).succ = v.scale - 1 by omega]

theorem value_eq
    : v.value = 4 * (v.significand * v.quarter) := by
  rw [value, two_pow_scale, Nat.mul_left_comm]

theorem halfBelow_le
    : v.halfBelow ≤ v.half := by
  have positive := v.quarter_pos
  rw [halfBelow, half]
  split_ifs <;> omega

/-- The significand in quarters. -/
theorem significand_bounds
    : exponentPlace * v.quarter ≤ v.significand * v.quarter
      ∧ v.significand * v.quarter + v.quarter ≤ 2 * exponentPlace * v.quarter :=
  ⟨Nat.mul_le_mul_right _ v.significand_ge,
    Nat.succ_mul v.significand v.quarter ▸ Nat.mul_le_mul_right _ v.significand_lt⟩

end Large

-----------------------------------------------------------------------------------------
-- Whole numbers
-----------------------------------------------------------------------------------------

/-- Moved to a binary length, a number is between two powers of two. -/
theorem scaled_bounds {n : Nat} (filled : n ≠ 0) (k : Nat)
    : 2 ^ k * 2 ^ (n.log2 - k) ≤ n * 2 ^ (k - n.log2)
      ∧ n * 2 ^ (k - n.log2) < 2 * 2 ^ k * 2 ^ (n.log2 - k) := by
  have moved : 2 ^ k * 2 ^ (n.log2 - k) = 2 ^ n.log2 * 2 ^ (k - n.log2) := by
    rw [← Nat.pow_add, ← Nat.pow_add]
    congr 1
    omega
  constructor
  · exact moved ▸ Nat.mul_le_mul_right _ (Nat.log2_self_le filled)
  · rw [Nat.mul_assoc, moved, ← Nat.mul_assoc, ← Nat.pow_succ']
    exact Nat.mul_lt_mul_of_pos_right Nat.lt_log2_self (Nat.two_pow_pos _)

theorem scaleOfRatio_one {n : Nat} (filled : n ≠ 0)
    : scaleOfRatio n 1 = (n.log2 : Int) - 52 := by
  have one : (1 : Nat).log2 = 0 := by decide
  have full : ¬ n * 2 ^ (53 - n.log2) / 2 ^ (n.log2 - 53) < 2 * exponentPlace := by
    rw [Nat.not_lt, Nat.le_div_iff_mul_le (Nat.two_pow_pos _)]
    exact (scaled_bounds filled 53).1
  have up : (-((n.log2 : Int) - (0 : Nat) - 53)).toNat = 53 - n.log2 := by omega
  have down : ((n.log2 : Int) - (0 : Nat) - 53).toNat = n.log2 - 53 := by omega
  simp only [scaleOfRatio, one, up, down, Nat.pow_eq, Nat.one_mul, full, decide_false,
    Bool.false_eq_true, if_false]
  omega

/-- The significand of a whole number. -/
def roundedSignificand (n : Nat) : Nat :=
  roundQuotient (n * 2 ^ (52 - n.log2)) (2 ^ (n.log2 - 52))

theorem roundedSignificand_bounds {n : Nat} (filled : n ≠ 0)
    : exponentPlace ≤ roundedSignificand n ∧ roundedSignificand n ≤ 2 * exponentPlace := by
  obtain ⟨least, below⟩ := scaled_bounds filled 52
  have low := (Nat.le_div_iff_mul_le (Nat.two_pow_pos _)).2 least
  have high := (Nat.div_lt_iff_lt_mul (Nat.two_pow_pos _)).2 below
  rw [roundedSignificand, roundQuotient, exponentPlace]
  split_ifs <;> omega

/-- A whole number is rounded to a significand at the scale of its length. -/
theorem ofRatio_one (negative : Bool) {n : Nat} (filled : n ≠ 0)
    : ofRatio negative n 1
      = if (n.log2 + 1022) * exponentPlace + roundedSignificand n < 2047 * exponentPlace then
          withSign negative ((n.log2 + 1022) * exponentPlace + roundedSignificand n)
        else infinity negative := by
  have bounds := roundedSignificand_bounds filled
  have up : (-((n.log2 : Int) - 52)).toNat = 52 - n.log2 := by omega
  have down : ((n.log2 : Int) - 52).toNat = n.log2 - 52 := by omega
  have place : ((n.log2 : Int) - 52 + 1074).toNat = n.log2 + 1022 := by omega
  rw [ofRatio, if_neg filled, scaleOfRatio_one filled]
  simp only [up, down, place, Nat.pow_eq, Nat.one_mul]
  rw [← roundedSignificand]
  simp only [Nat.not_lt.2 bounds.1, if_false]

theorem withSign_inj {negative : Bool} {m k : Nat} (m_lt : m < signPlace) (k_lt : k < signPlace)
    : withSign negative m = withSign negative k ↔ m = k := by
  refine ⟨fun same => ?_, congrArg _⟩
  have bits := congrArg (fun x : Binary64 => x.bits.toNat) same
  have size : UInt64.size = 18446744073709551616 := rfl
  simp only [withSign, signPlace] at *
  cases negative <;> simp at bits <;> omega

variable (v : Large)

/-- Whole numbers are rounded to a float by their length and their significand, which may be one too long
for a power of two.
-/
theorem ofRatio_one_eq_float (negative : Bool) (n : Nat)
    : ofRatio negative n 1 = v.float negative
      ↔ n ≠ 0 ∧ (n.log2 = v.scale + 52 ∧ roundedSignificand n = v.significand
          ∨ n.log2 + 1 = v.scale + 52 ∧ roundedSignificand n = 2 * exponentPlace
            ∧ v.significand = exponentPlace) := by
  obtain ⟨s_ge, s_lt, q_ge, q_le⟩ :=
    And.intro v.significand_ge (And.intro v.significand_lt (And.intro v.scale_ge v.scale_le))
  rw [Large.float]
  generalize v.significand = s at *
  generalize v.scale = q at *
  have sign : signPlace = 9223372036854775808 := rfl
  have below : (q + 1074) * exponentPlace + s < signPlace := by
    simp only [exponentPlace] at *
    omega
  by_cases filled : n = 0
  · rw [filled, ofRatio, if_pos rfl, withSign_inj (by decide) below]
    simp only [exponentPlace] at *
    omega
  have bounds := roundedSignificand_bounds filled
  rw [ofRatio_one negative filled]
  generalize roundedSignificand n = m at *
  split_ifs with finite
  · rw [withSign_inj (Nat.lt_trans finite (by decide)) below]
    simp only [exponentPlace] at *
    by_cases same : n.log2 = q + 52 <;> omega
  · rw [infinity, withSign_inj (by decide) below]
    simp only [exponentPlace] at *
    omega

/-- The length and the significand of a whole number, by how far it is from that significand. -/
theorem hasSignificand_iff {n q m : Nat} (filled : n ≠ 0)
    : n.log2 = q + 52 ∧ roundedSignificand n = m
      ↔ (exponentPlace * 2 ^ q ≤ n ∧ n < 2 * exponentPlace * 2 ^ q)
        ∧ if m % 2 = 1 then 2 * (m * 2 ^ q) < 2 * n + 2 ^ q ∧ 2 * n < 2 * (m * 2 ^ q) + 2 ^ q
          else 2 * (m * 2 ^ q) ≤ 2 * n + 2 ^ q ∧ 2 * n ≤ 2 * (m * 2 ^ q) + 2 ^ q := by
  have place : exponentPlace = 2 ^ 52 := rfl
  rw [← roundQuotient_eq_iff (Nat.two_pow_pos _), place, ← Nat.pow_succ', ← Nat.pow_add, ← Nat.pow_add,
    Nat.add_comm 52 q, show 52 + 1 + q = q + 52 + 1 by omega, ← Nat.log2_eq_iff filled]
  refine and_congr_right fun length => ?_
  rw [roundedSignificand, length, Nat.add_sub_cancel, Nat.sub_eq_zero_of_le (by omega), Nat.pow_zero,
    Nat.mul_one]

/-- The numbers that are rounded to a float are those that it takes. -/
theorem ofRatio_one_eq_float_iff (negative : Bool) (n : Nat)
    : ofRatio negative n 1 = v.float negative ↔ v.Takes n := by
  have large := v.scale_ge
  have positive := v.quarter_pos
  have near := v.halfBelow_le
  obtain ⟨least, most⟩ := v.significand_bounds
  have even : ¬ exponentPlace % 2 = 1 ∧ ¬ 2 * exponentPlace % 2 = 1 := by decide
  rw [ofRatio_one_eq_float, Large.Takes, v.value_eq]
  rw [Large.half] at near ⊢
  by_cases filled : n = 0
  · simp only [filled, exponentPlace, ne_eq, not_true, false_and, false_iff] at *
    split_ifs <;> omega
  have shorter : n.log2 + 1 = v.scale + 52 ↔ n.log2 = v.scale - 1 + 52 := by omega
  rw [shorter, ← and_assoc, hasSignificand_iff filled, hasSignificand_iff filled, v.two_pow_scale,
    v.two_pow_scale_sub, Nat.mul_left_comm exponentPlace, Nat.mul_left_comm v.significand,
    if_neg even.2]
  by_cases power : v.significand = exponentPlace
  · rw [Large.halfBelow, power, if_pos rfl, if_neg even.1, if_neg even.1]
    simp only [exponentPlace, and_true] at *
    omega
  · have apart : exponentPlace * v.quarter + v.quarter ≤ v.significand * v.quarter :=
      Nat.succ_mul exponentPlace v.quarter
        ▸ Nat.mul_le_mul_right _ (Nat.lt_of_le_of_ne v.significand_ge (Ne.symm power))
    rw [Large.halfBelow, if_neg power, Large.half]
    simp only [exponentPlace] at *
    split_ifs <;> omega

/-- A number is short enough for an exponent if it is below the halfway point to the next power of two. -/
theorem hasRoom_iff_lt {n : Nat} (filled : n ≠ 0) (q : Nat)
    : (n.log2 + 1022) * exponentPlace + roundedSignificand n < (q + 1077) * exponentPlace
      ↔ n < 2 ^ (q + 54) - 2 ^ q := by
  have bounds := roundedSignificand_bounds filled
  have positive : 0 < 2 ^ q := Nat.two_pow_pos q
  have step : 2 ^ (q + 1) = 2 * 2 ^ q := Nat.pow_succ'
  have whole : 2 ^ (q + 53) = 2 ^ 53 * 2 ^ q := by rw [Nat.pow_add, Nat.mul_comm]
  have next : 2 ^ (q + 54) = 2 * 2 ^ (q + 53) := Nat.pow_succ'
  have even : ¬ 2 * exponentPlace % 2 = 1 := by decide
  have longest := hasSignificand_iff (q := q + 1) (m := 2 * exponentPlace) filled
  have short := Nat.log2_lt (k := q + 53) filled
  have long := Nat.le_log2 (k := q + 54) filled
  rw [step, if_neg even] at longest
  rw [next] at long ⊢
  generalize 2 ^ (q + 53) = top at *
  generalize 2 ^ q = half at *
  simp only [exponentPlace] at *
  rcases Nat.lt_trichotomy n.log2 (q + 53) with less | length | more
  · omega
  · have same : n.log2 = q + 1 + 52 := by omega
    simp only [same, true_and] at longest
    omega
  · omega

/-- The number halfway between the greatest float and what would be the next. -/
def overflow : Nat :=
  2 ^ 1024 - 2 ^ 970

/-- A number is below the overflow if its length and its significand leave room for its exponent. -/
theorem hasRoom_iff {n : Nat} (filled : n ≠ 0)
    : (n.log2 + 1022) * exponentPlace + roundedSignificand n < 2047 * exponentPlace
      ↔ n < overflow := by
  simpa only [overflow, Nat.reduceAdd] using hasRoom_iff_lt filled 970

/-- From 2^63 up to the overflow a number is rounded to a large float, whatever its sign. -/
theorem exists_large {n : Nat} (large : 2 ^ 63 ≤ n) (finite : n < overflow)
    : ∃ v : Large, ∀ negative, ofRatio negative n 1 = v.float negative := by
  have filled : n ≠ 0 := by omega
  have room := (hasRoom_iff filled).2 finite
  have long := (Nat.le_log2 filled).2 large
  obtain ⟨least, most⟩ := roundedSignificand_bounds filled
  rcases Nat.lt_or_eq_of_le most with short | full
  · have scale : n.log2 - 52 ≤ 971 := by
      simp only [exponentPlace] at *
      omega
    refine ⟨⟨roundedSignificand n, n.log2 - 52, least, short, by omega, scale⟩, fun negative => ?_⟩
    have same : n.log2 + 1022 = n.log2 - 52 + 1074 := by omega
    rw [ofRatio_one negative filled, if_pos room, Large.float, same]
  · have scale : n.log2 - 51 ≤ 971 := by
      simp only [exponentPlace] at *
      omega
    refine ⟨⟨exponentPlace, n.log2 - 51, Nat.le_refl _, by decide, by omega, scale⟩, fun negative => ?_⟩
    have carried : (n.log2 + 1022) * exponentPlace + 2 * exponentPlace
        = (n.log2 - 51 + 1074) * exponentPlace + exponentPlace := by
      rw [← Nat.add_mul, ← Nat.succ_mul]
      congr 1
      omega
    rw [ofRatio_one negative filled, if_pos room, Large.float, full, carried]

theorem le_overflow
    : 2 ^ 64 ≤ overflow := by
  have past := Nat.pow_add 2 54 970
  have longer := Nat.pow_le_pow_right Nat.two_pos (show 64 ≤ 970 by decide)
  simp only [Nat.reduceAdd] at past
  rw [overflow, past]
  omega

theorem ofRatio_one_overflow (negative : Bool) {n : Nat} (past : overflow ≤ n)
    : ofRatio negative n 1 = infinity negative := by
  have filled : n ≠ 0 := Nat.ne_of_gt (Nat.lt_of_lt_of_le (by decide) (Nat.le_trans le_overflow past))
  rw [ofRatio_one negative filled, if_neg]
  exact fun room => Nat.not_lt.2 past ((hasRoom_iff filled).1 room)

theorem overflow_le {width : Nat} (wide : 400 ≤ width)
    : overflow ≤ 10 ^ width := by
  have longer : 1024 ≤ 3 * width := by omega
  have powers := Nat.pow_le_pow_right Nat.two_pos longer
  have base : (2 ^ 3) ^ width ≤ 10 ^ width := Nat.pow_le_pow_left (by decide) width
  rw [Nat.pow_mul] at powers
  rw [overflow]
  omega

/-- The digits of a whole number are read as the number; those that are too many are past the overflow. -/
theorem ofDecimal_zero (negative : Bool) (n : Nat)
    : ofDecimal negative n 0 = ofRatio negative n 1 := by
  by_cases filled : n = 0
  · simp [ofDecimal, ofRatio, filled]
  have near : ¬ ((Nat.toDigits 10 n).length : Int) < -400 := by omega
  by_cases long : 400 < ((Nat.toDigits 10 n).length : Int)
  · have past : 10 ^ ((Nat.toDigits 10 n).length - 1) ≤ n := by
      rw [← Nat.not_lt, ← Nat.length_toDigits_le_iff (by decide) (by omega)]
      omega
    rw [ofRatio_one_overflow negative (Nat.le_trans (overflow_le (by omega)) past)]
    simp only [ofDecimal, Int.zero_add, filled, near, long, decide_false, Bool.or_self,
      Bool.false_eq_true, if_false, if_true]
  · simp only [ofDecimal, Int.zero_add, filled, near, long, decide_false, Bool.or_self,
      Bool.false_eq_true, if_false, Int.neg_zero, Int.toNat_zero, Nat.pow_eq, Nat.pow_zero, Nat.mul_one]

end ColumnStore.Binary64

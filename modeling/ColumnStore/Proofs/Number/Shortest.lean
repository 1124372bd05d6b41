import ColumnStore.Proofs.Number.Rounding

/-! The text of a large float is a whole number: of those that are rounded to the float the one that ends in
the most zeros, and of several the nearest to it. Seventeen digits are enough for each.
-/

namespace ColumnStore

-----------------------------------------------------------------------------------------
-- Digits
-----------------------------------------------------------------------------------------

/-- Zeros at the end of the digits are powers of ten, by induction on their number. -/
theorem toDigits_mul_pow {n : Nat} (positive : 0 < n) (zeros : Nat)
    : Nat.toDigits 10 (n * 10 ^ zeros) = Nat.toDigits 10 n ++ List.replicate zeros '0' := by
  induction zeros with
  | zero => simp
  | succ zeros ih =>
    have filled : 0 < n * 10 ^ zeros := Nat.mul_pos positive (Nat.pow_pos (by decide))
    have appended := Nat.toDigits_append_toDigits (b := 10) (d := 0) (by decide) filled (by decide)
    rw [ih, Nat.toDigits_zero] at appended
    rw [List.replicate_succ', ← List.append_assoc, appended, Nat.pow_succ, Nat.add_zero,
      ← Nat.mul_assoc, Nat.mul_comm 10]

/-- What is found first along the numbers from 0 on, by induction on how many are tried. -/
theorem exists_of_findSome?_range {α : Type} {f : Nat → Option α} {count : Nat} {a : α}
    (found : (List.range count).findSome? f = some a)
    : ∃ n < count, f n = some a ∧ ∀ m < n, f m = none := by
  induction count with
  | zero => simp at found
  | succ count ih =>
    rw [List.range_succ, List.findSome?_append, Option.or_eq_some_iff] at found
    rcases found with earlier | ⟨missed, last⟩
    · obtain ⟨n, below, first⟩ := ih earlier
      exact ⟨n, Nat.lt_succ_of_lt below, first⟩
    · refine ⟨count, Nat.lt_succ_self count, by simpa using last, fun m before => ?_⟩
      exact List.findSome?_eq_none_iff.1 missed m (List.mem_range.2 before)

namespace Decimal

/-- The number that a decimal without places after the point stands for. -/
def whole (d : Decimal) : Nat :=
  d.digits * 10 ^ d.exponent.toNat

theorem positional_of_whole {d : Decimal} (nonnegative : 0 ≤ d.exponent) (filled : d.digits ≠ 0)
    : d.positional = toString d.whole := by
  rw [positional, if_pos nonnegative, if_neg filled, Nat.toString_eq_ofList_toDigits, whole,
    toDigits_mul_pow (Nat.pos_of_ne_zero filled)]

end Decimal

namespace Shortest

/-- Zeros taken from the digits go to the exponent, by induction on the fuel. -/
theorem whole_stripZeros (fuel : Nat) {d : Decimal} (nonnegative : 0 ≤ d.exponent)
    : 0 ≤ (stripZeros fuel d).exponent ∧ (stripZeros fuel d).whole = d.whole := by
  induction fuel generalizing d with
  | zero => exact ⟨nonnegative, rfl⟩
  | succ fuel ih =>
    rw [stripZeros]
    split_ifs with ends
    · obtain ⟨below, same⟩ := ih (d := ⟨d.digits / 10, d.exponent + 1⟩) (Int.le_add_one nonnegative)
      refine ⟨below, same.trans ?_⟩
      have next : (d.exponent + 1).toNat = d.exponent.toNat + 1 := Int.toNat_add nonnegative (by decide)
      have tens : d.digits / 10 * 10 = d.digits := Nat.div_mul_cancel (Nat.dvd_of_mod_eq_zero ends.2)
      rw [Decimal.whole, Decimal.whole, next, Nat.pow_succ', ← Nat.mul_assoc, tens]
    · exact ⟨nonnegative, rfl⟩

end Shortest

namespace Binary64

/-- How far a number is from a float, counted in the float's unit. -/
def distance (x : Binary64) (n : Nat) : Nat :=
  (((n * x.ratio.2 : Nat) : Int) - x.ratio.1).natAbs

/-- Whether a number is nearer to a float than another, or as near and not below it. -/
def IsNearer (x : Binary64) (n other : Nat) : Prop :=
  x.distance n < x.distance other ∨ x.distance n = x.distance other ∧ other ≤ n

/-- The roundest of the numbers that are rounded to a float: no other is a multiple of a higher power of
ten, and none of those that are multiples of as high a power is nearer.
-/
structure IsRoundest (x : Binary64) (n : Nat) : Prop where
  reads : ofNat n = x
  zeros : ∀ other, ofNat other = x → ∀ k, 10 ^ k ∣ other → 10 ^ k ∣ n
  nearest : ∀ other, ofNat other = x → (∀ k, 10 ^ k ∣ n → 10 ^ k ∣ other) → IsNearer x n other

/-- A float has one roundest number. -/
theorem IsRoundest.unique {x : Binary64} {n m : Nat} (n_is : IsRoundest x n) (m_is : IsRoundest x m)
    : n = m := by
  have upward := n_is.nearest m m_is.reads (m_is.zeros n n_is.reads)
  have downward := m_is.nearest n n_is.reads (n_is.zeros m m_is.reads)
  unfold IsNearer at upward downward
  omega

end Binary64

open Shortest

namespace Binary64.Large

variable {v : Large} {negative : Bool}

-----------------------------------------------------------------------------------------
-- Reading back
-----------------------------------------------------------------------------------------

@[simp]
theorem ratio_float
    : (v.float negative).ratio = (v.value, 1) := by
  have whole : (-(v.scale : Int)).toNat = 0 := by omega
  rw [ratio, significand_float, scale_float, whole, Int.toNat_natCast]
  rfl

theorem isNarrowBelow_float
    : (v.float negative).isNarrowBelow = (v.significand == exponentPlace) := by
  have normal := v.significand_ge
  have large := v.scale_ge
  rw [isNarrowBelow, fraction_float, exponentField_float, Bool.eq_iff_iff]
  simp only [Bool.and_eq_true, beq_iff_eq, decide_eq_true_eq]
  omega

/-- On a grid of whole numbers a decimal is read back if its number is taken. -/
theorem readsBack_iff (v : Large) (negative : Bool) (digits grid : Nat)
    : readsBack (v.float negative) ⟨digits, grid⟩ ↔ v.Takes (digits * 10 ^ grid) := by
  have large := v.scale_ge
  have filled : 1 ≤ v.significand := Nat.le_trans (by decide) v.significand_ge
  have scale : (v.scale : Int) - 2 = (v.scale - 2 : Nat) := by omega
  have up : (-(grid : Int)).toNat = 0 ∧ (-((v.scale - 2 : Nat) : Int)).toNat = 0 := by omega
  have value : v.value = 4 * v.significand * v.quarter := by
    rw [value_eq, Nat.mul_assoc]
  have below : (4 * v.significand - if v.significand = exponentPlace then 1 else 2) * v.quarter
      + v.halfBelow = v.value := by
    rw [halfBelow, half, value]
    split_ifs
    · rw [← Nat.succ_mul, Nat.succ_eq_add_one, Nat.sub_add_cancel (by omega)]
    · rw [← Nat.add_mul, Nat.sub_add_cancel (by omega)]
  have above : (4 * v.significand + 2) * v.quarter = v.value + v.half := by
    rw [value, half, Nat.add_mul]
  rw [readsBack, significand_float, scale_float, isNarrowBelow_float, Bool.and_eq_true, Takes, scale]
  simp only [decimalAbove, decimalBelow, up.1, up.2, Int.toNat_natCast, Nat.pow_eq, Nat.pow_zero,
    Nat.mul_one, ← quarter.eq_def, beq_iff_eq, above]
  generalize (4 * v.significand - if v.significand = exponentPlace then 1 else 2) * v.quarter
    = lowest at *
  split_ifs with odd <;> simp only [decide_eq_true_eq] <;> omega

-----------------------------------------------------------------------------------------
-- Magnitudes
-----------------------------------------------------------------------------------------

/-- The estimate of a decimal logarithm is less than a bit too high and less than two digits too low. -/
theorem logarithm_bounds (length : Nat) (short : length ≤ 10000)
    : 10 ^ (length * 30103 / 100000) ≤ 2 ^ (length + 1)
      ∧ 2 ^ (length + 1) ≤ 10 ^ (length * 30103 / 100000 + 2) := by
  have low : 10 ^ 59 ≤ 2 ^ 196 := by decide
  have high : 2 ^ 93 ≤ 10 ^ 28 := by decide
  generalize estimate : length * 30103 / 100000 = guess
  constructor
  · refine (Nat.pow_le_pow_iff_left (n := 59) (by decide)).1 ?_
    calc (10 ^ guess) ^ 59
      _ = (10 ^ 59) ^ guess := Nat.pow_right_comm 10 guess 59
      _ ≤ (2 ^ 196) ^ guess := Nat.pow_le_pow_left low guess
      _ = 2 ^ (196 * guess) := (Nat.pow_mul 2 196 guess).symm
      _ ≤ 2 ^ ((length + 1) * 59) := Nat.pow_le_pow_right (by decide) (by omega)
      _ = (2 ^ (length + 1)) ^ 59 := Nat.pow_mul 2 (length + 1) 59
  · refine (Nat.pow_le_pow_iff_left (n := 93) (by decide)).1 ?_
    calc (2 ^ (length + 1)) ^ 93
      _ = (2 ^ 93) ^ (length + 1) := Nat.pow_right_comm 2 (length + 1) 93
      _ ≤ (10 ^ 28) ^ (length + 1) := Nat.pow_le_pow_left high (length + 1)
      _ = 10 ^ (28 * (length + 1)) := (Nat.pow_mul 10 28 (length + 1)).symm
      _ ≤ 10 ^ ((guess + 2) * 93) := Nat.pow_le_pow_right (by decide) (by omega)
      _ = (10 ^ (guess + 2)) ^ 93 := Nat.pow_mul 10 (guess + 2) 93

theorem value_bounds (v : Large)
    : 2 ^ (v.scale + 52) ≤ v.value ∧ v.value < 2 ^ (v.scale + 52 + 1) := by
  have place : exponentPlace = 2 ^ 52 := rfl
  constructor
  · rw [Nat.add_comm, Nat.pow_add, ← place]
    exact Nat.mul_le_mul_right _ v.significand_ge
  · rw [Nat.pow_succ', Nat.add_comm, Nat.pow_add, ← place, ← Nat.mul_assoc]
    exact Nat.mul_lt_mul_of_pos_right v.significand_lt (Nat.two_pow_pos _)

/-- A value has nineteen digits or more. -/
theorem le_of_value_lt (v : Large) {k : Nat} (most : v.value < 10 ^ (k + 1))
    : 18 ≤ k := by
  have wide : 10 ^ 18 < 10 ^ (k + 1) :=
    calc 10 ^ 18
      _ < 2 ^ 63 := by decide
      _ ≤ 2 ^ (v.scale + 52) := Nat.pow_le_pow_right (by decide) (Nat.add_le_add_right v.scale_ge 52)
      _ ≤ v.value := v.value_bounds.1
      _ < 10 ^ (k + 1) := most
  exact Nat.le_of_lt_succ ((Nat.pow_lt_pow_iff_right (by decide)).1 wide)

/-- The magnitude is the number of digits of the value. -/
theorem magnitude_float (v : Large) (negative : Bool)
    : ∃ k : Nat, magnitude (v.float negative) = (k + 1 : Nat)
      ∧ 10 ^ k ≤ v.value ∧ v.value < 10 ^ (k + 1) := by
  have large := v.scale_ge
  have finite := v.scale_le
  have above (k : Nat) : decimalAbove true 1 k v.significand v.scale = true ↔ v.value < 10 ^ k := by
    have whole : (-(k : Int)).toNat = 0 ∧ (-(v.scale : Int)).toNat = 0 := by omega
    simp [decimalAbove, whole, value]
  have size : v.significand.log2 = 52 := by
    have filled : v.significand ≠ 0 := Nat.ne_of_gt (Nat.lt_of_lt_of_le (by decide) v.significand_ge)
    exact (Nat.log2_eq_iff filled).2 ⟨v.significand_ge, v.significand_lt⟩
  obtain ⟨least, most⟩ := v.value_bounds
  obtain ⟨low, high⟩ := logarithm_bounds (v.scale + 52) (by omega)
  have estimate : (((52 : Nat) + (v.scale : Int)) * 30103).fdiv 100000
      = ((v.scale + 52) * 30103 / 100000 : Nat) := by
    rw [Int.fdiv_eq_ediv_of_nonneg _ (by decide)]
    omega
  have filled : (v.scale + 52) * 30103 / 100000 ≠ 0 := by omega
  simp only [magnitude, significand_float, scale_float, size, estimate]
  obtain ⟨before, guess⟩ := Nat.exists_eq_succ_of_ne_zero filled
  rw [guess] at low high ⊢
  have next : ((before.succ : Int) + 1) = (before.succ + 1 : Nat) := by omega
  rw [next]
  simp only [above]
  split_ifs with first second
  · refine ⟨before, rfl, ?_, first⟩
    rw [Nat.pow_succ'] at low most
    omega
  · exact ⟨before.succ, rfl, Nat.not_lt.1 first, second⟩
  · exact ⟨before.succ + 1, rfl, Nat.not_lt.1 second, Nat.lt_of_lt_of_le most high⟩

-----------------------------------------------------------------------------------------
-- Grids
-----------------------------------------------------------------------------------------

theorem distance_float (v : Large) (negative : Bool) (n : Nat)
    : (v.float negative).distance n = ((n : Int) - v.value).natAbs := by
  rw [distance, ratio_float, Nat.mul_one]

/-- The numbers that are rounded to a float have no gaps, and the float's value is one of them. -/
theorem takes_of_between {low n high : Nat} (low_taken : v.Takes low) (high_taken : v.Takes high)
    (above : low ≤ n) (below : n ≤ high)
    : v.Takes n := by
  unfold Takes at *
  split_ifs at * <;> omega

theorem takes_value (v : Large)
    : v.Takes v.value := by
  have positive := v.quarter_pos
  rw [Takes, halfBelow, half]
  split_ifs <;> omega

/-- The neighbours of the value on a grid. -/
theorem neighbours (v : Large) (grid : Nat)
    : v.value / 10 ^ grid * 10 ^ grid + v.value % 10 ^ grid = v.value
      ∧ v.value % 10 ^ grid < 10 ^ grid
      ∧ (v.value / 10 ^ grid + 1) * 10 ^ grid = v.value / 10 ^ grid * 10 ^ grid + 10 ^ grid :=
  ⟨Nat.div_add_mod' _ _, Nat.mod_lt _ (Nat.pow_pos (by decide)), Nat.succ_mul _ _⟩

/-- A multiple that is rounded to the float is on one side of it, and so is the neighbour on that side. -/
theorem neighbour_taken (v : Large) (grid n : Nat) (multiple : 10 ^ grid ∣ n) (taken : v.Takes n)
    : n ≤ v.value / 10 ^ grid * 10 ^ grid ∧ v.Takes (v.value / 10 ^ grid * 10 ^ grid)
      ∨ (v.value / 10 ^ grid + 1) * 10 ^ grid ≤ n
        ∧ v.Takes ((v.value / 10 ^ grid + 1) * 10 ^ grid) := by
  obtain ⟨split, rest, next⟩ := v.neighbours grid
  generalize v.value / 10 ^ grid = below at *
  obtain ⟨k, rfl⟩ := multiple
  rw [Nat.mul_comm (10 ^ grid)] at taken ⊢
  rcases Nat.lt_or_ge below k with more | less
  · have beyond : (below + 1) * 10 ^ grid ≤ k * 10 ^ grid := Nat.mul_le_mul_right _ more
    exact .inr ⟨beyond, takes_of_between v.takes_value taken (by omega) beyond⟩
  · have within : k * 10 ^ grid ≤ below * 10 ^ grid := Nat.mul_le_mul_right _ less
    exact .inl ⟨within, takes_of_between taken v.takes_value within (by omega)⟩

/-- On a grid a number is found if one is rounded to the float, and it is the nearest of these. -/
theorem onGrid?_float (v : Large) (negative : Bool) (grid : Nat)
    : match onGrid? .up (v.float negative) grid with
      | none => ∀ n, 10 ^ grid ∣ n → ¬ v.Takes n
      | some d => 0 ≤ d.exponent ∧ 10 ^ grid ∣ d.whole ∧ v.Takes d.whole
        ∧ ∀ n, 10 ^ grid ∣ n → v.Takes n → IsNearer (v.float negative) d.whole n := by
  have up : (-(grid : Int)).toNat = 0 := by omega
  have low := v.readsBack_iff negative (v.value / 10 ^ grid) grid
  have high := v.readsBack_iff negative (v.value / 10 ^ grid + 1) grid
  have side := v.neighbour_taken grid
  obtain ⟨split, rest, next⟩ := v.neighbours grid
  simp only [onGrid?, ratio_float, up, Int.toNat_natCast, Nat.pow_eq, Nat.pow_zero, Nat.mul_one,
    Nat.one_mul]
  generalize v.value / 10 ^ grid = below at *
  generalize v.value % 10 ^ grid = excess at *
  have multiples (k : Nat) : 10 ^ grid ∣ k * 10 ^ grid := Nat.dvd_mul_left _ _
  simp only [IsNearer, distance_float]
  cases first : readsBack (v.float negative) ⟨below, grid⟩ <;>
    cases second : readsBack (v.float negative) ⟨below + 1, grid⟩ <;>
    simp only [first, second, true_iff, Bool.false_eq_true, false_iff] at low high ⊢
  · intro n multiple taken
    rcases side n multiple taken with ⟨-, reached⟩ | ⟨-, reached⟩
    · exact low reached
    · exact high reached
  · refine ⟨Int.natCast_nonneg _, multiples _, high, fun n multiple taken => ?_⟩
    rcases side n multiple taken with ⟨-, reached⟩ | ⟨beyond, -⟩
    · exact absurd reached low
    · simp only [Decimal.whole, Int.toNat_natCast]
      omega
  · refine ⟨Int.natCast_nonneg _, multiples _, low, fun n multiple taken => ?_⟩
    rcases side n multiple taken with ⟨within, -⟩ | ⟨-, reached⟩
    · simp only [Decimal.whole, Int.toNat_natCast]
      omega
    · exact absurd reached high
  · split_ifs with nearer farther
    all_goals
      refine ⟨Int.natCast_nonneg _, multiples _, by assumption, fun n multiple taken => ?_⟩
      simp only [Decimal.whole, Int.toNat_natCast]
      rcases side n multiple taken with ⟨within, -⟩ | ⟨beyond, -⟩ <;> omega

/-- With seventeen digits a number is rounded to the float: above a power of two the grid is finer than half
the distance to the next float, and elsewhere than the whole of it.
-/
theorem exists_takes_of_fine {grid : Nat} (fine : 10 ^ grid * 10 ^ 16 ≤ v.value)
    : ∃ n, 10 ^ grid ∣ n ∧ v.Takes n := by
  have positive := v.quarter_pos
  have most := v.significand_bounds.2
  have value := v.value_eq
  obtain ⟨split, rest, next⟩ := v.neighbours grid
  have near : v.Takes (v.value / 10 ^ grid * 10 ^ grid)
      ∨ v.Takes ((v.value / 10 ^ grid + 1) * 10 ^ grid) := by
    rw [Takes, Takes, halfBelow, half]
    by_cases power : v.significand = exponentPlace
    · rw [power] at value
      rw [if_pos power]
      simp only [exponentPlace] at *
      refine .inr ?_
      split_ifs <;> omega
    · rw [if_neg power]
      simp only [exponentPlace] at *
      split_ifs <;> omega
  rcases near with low | high
  · exact ⟨_, Nat.dvd_mul_left _ _, low⟩
  · exact ⟨_, Nat.dvd_mul_left _ _, high⟩

/-- Of numbers with one digit at most one is rounded to the float. -/
theorem eq_of_coarse {k n m : Nat} (coarse : v.value < 10 ^ (k + 1)) (n_multiple : 10 ^ k ∣ n)
    (m_multiple : 10 ^ k ∣ m) (n_taken : v.Takes n) (m_taken : v.Takes m)
    : n = m := by
  have positive := v.quarter_pos
  have least := v.significand_bounds.1
  have value := v.value_eq
  have below := v.halfBelow_le
  have near {j : Nat} (taken : v.Takes j)
      : v.value ≤ j + 2 * v.quarter ∧ j ≤ v.value + 2 * v.quarter := by
    rw [half] at below
    rw [Takes, half] at taken
    split_ifs at taken <;> omega
  have n_near := near n_taken
  have m_near := near m_taken
  rw [Nat.pow_succ'] at coarse
  obtain ⟨a, rfl⟩ := n_multiple
  obtain ⟨b, rfl⟩ := m_multiple
  simp only [exponentPlace] at least
  rcases Nat.lt_trichotomy a b with less | same | more
  · have apart := Nat.mul_le_mul_left (10 ^ k) less
    rw [Nat.mul_succ] at apart
    omega
  · rw [same]
  · have apart := Nat.mul_le_mul_left (10 ^ k) more
    rw [Nat.mul_succ] at apart
    omega

/-- The roundest number has seventeen digits at most before its zeros, so it ends in two zeros. -/
theorem hundred_dvd_of_isRoundest (v : Large) {n : Nat} (roundest : IsRoundest (v.float false) n)
    : 100 ∣ n := by
  obtain ⟨k, -, least, most⟩ := v.magnitude_float false
  have long := v.le_of_value_lt most
  have fine : 10 ^ (k - 16) * 10 ^ 16 ≤ v.value := by
    rwa [← Nat.pow_add, Nat.sub_add_cancel (by omega)]
  obtain ⟨m, multiple, taken⟩ := exists_takes_of_fine fine
  have reads : ofNat m = v.float false := (ofRatio_one_eq_float_iff v false m).2 taken
  have hundred : 100 ∣ m := Nat.dvd_trans (Nat.pow_dvd_pow 10 (show 2 ≤ k - 16 by omega)) multiple
  exact roundest.zeros m reads 2 hundred

/-- What is found on the coarsest grid with a number that is rounded to the float is its roundest number. -/
theorem isRoundest_of_onGrid? {k grid : Nat} {d : Decimal}
    (coarse : v.value < 10 ^ (k + 1)) (within : grid ≤ k)
    (found : onGrid? .up (v.float negative) grid = some d)
    (coarser : grid < k → onGrid? .up (v.float negative) (grid + 1 : Nat) = none)
    : IsRoundest (v.float false) d.whole := by
  have here := v.onGrid?_float negative grid
  rw [found] at here
  obtain ⟨-, multiple, taken, nearest⟩ := here
  constructor
  · exact (ofRatio_one_eq_float_iff v false d.whole).2 taken
  · intro n reads j divides
    have n_taken : v.Takes n := (ofRatio_one_eq_float_iff v false n).1 reads
    rcases Nat.lt_or_ge grid j with higher | lower
    · rcases Nat.lt_or_eq_of_le within with short | full
      · have above := v.onGrid?_float negative (grid + 1)
        rw [coarser short] at above
        exact absurd n_taken (above n (Nat.dvd_trans (Nat.pow_dvd_pow 10 higher) divides))
      · have same : d.whole = n :=
          eq_of_coarse coarse (full ▸ multiple)
            (Nat.dvd_trans (Nat.pow_dvd_pow 10 (full ▸ Nat.le_of_lt higher)) divides) taken n_taken
        exact same ▸ divides
    · exact Nat.dvd_trans (Nat.pow_dvd_pow 10 lower) multiple
  · intro n reads rounder
    have n_taken : v.Takes n := (ofRatio_one_eq_float_iff v false n).1 reads
    have nearer := nearest n (rounder grid multiple) n_taken
    rwa [IsNearer, distance_float, distance_float, ← v.distance_float false, ← v.distance_float false,
      ← IsNearer] at nearer

/-- The decimal of a float is a number without places after the point, the roundest that is rounded to it. -/
theorem decimal_float (v : Large) (negative : Bool)
    : 0 ≤ (decimal .up (v.float negative)).exponent
      ∧ IsRoundest (v.float false) (decimal .up (v.float negative)).whole := by
  have filled : v.significand ≠ 0 := Nat.ne_of_gt (Nat.lt_of_lt_of_le (by decide) v.significand_ge)
  obtain ⟨k, magnitude, least, most⟩ := v.magnitude_float negative
  have long := v.le_of_value_lt most
  let grids (n : Nat) : Option Decimal :=
    onGrid? .up (v.float negative) ((k + 1 : Nat) - (n + 1 : Nat))
  have grids_eq {n : Nat} (short : n < 17)
      : grids n = onGrid? .up (v.float negative) (k - n : Nat) := by
    have grid : ((k + 1 : Nat) : Int) - (n + 1 : Nat) = (k - n : Nat) := by omega
    rw [← grid]
  simp only [decimal, significand_float, filled, if_false, magnitude]
  cases search : (List.range 17).findSome? grids with
  | none =>
    have missed := List.findSome?_eq_none_iff.1 search 16 (by decide)
    have grid := v.onGrid?_float negative (k - 16)
    rw [← grids_eq (by decide), missed] at grid
    have fine : 10 ^ (k - 16) * 10 ^ 16 ≤ v.value := by
      rwa [← Nat.pow_add, Nat.sub_add_cancel (by omega)]
    obtain ⟨n, multiple, taken⟩ := exists_takes_of_fine fine
    exact absurd taken (grid n multiple)
  | some d =>
    obtain ⟨n, short, found, before⟩ := exists_of_findSome?_range search
    rw [grids_eq short] at found
    have grid := v.onGrid?_float negative (k - n)
    rw [found] at grid
    obtain ⟨nonnegative, same⟩ := whole_stripZeros 17 grid.1
    refine ⟨nonnegative, same ▸ isRoundest_of_onGrid? most (Nat.sub_le k n) found fun coarser => ?_⟩
    have next : k - n + 1 = k - (n - 1) := by omega
    rw [next, ← grids_eq (by omega)]
    exact before (n - 1) (by omega)

/-- The text of a large float is that of its roundest number, after a minus for a negative one. -/
theorem positional_float (v : Large) (negative : Bool)
    : ∃ n, (v.float negative).positional = (if negative then "-" else "") ++ toString n
      ∧ IsRoundest (v.float false) n := by
  obtain ⟨nonnegative, roundest⟩ := v.decimal_float negative
  have filled : (decimal .up (v.float negative)).whole ≠ 0 := fun zero =>
    ((ofRatio_one_eq_float v false _).1 roundest.reads).1 zero
  have digits : (decimal .up (v.float negative)).digits ≠ 0 := by
    intro empty
    rw [Decimal.whole, empty, Nat.zero_mul] at filled
    exact filled rfl
  refine ⟨_, ?_, roundest⟩
  rw [positional, isNegative_float, Decimal.positional_of_whole nonnegative digits]

theorem not_special_float (v : Large) (negative : Bool)
    : (v.float negative).isNaN = false ∧ (v.float negative).isInfinite = false := by
  have finite := v.scale_le
  have field : (v.float negative).exponentField ≠ 2047 := by
    rw [exponentField_float]
    omega
  simp only [isNaN, isInfinite, beq_false_of_ne field, Bool.false_and, and_self]

end Binary64.Large

end ColumnStore

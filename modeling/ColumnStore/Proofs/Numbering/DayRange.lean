import Mathlib.Data.Fintype.Card
import Mathlib.Data.Fintype.Prod
import ColumnStore.Numbering

/-! An id that is drawn from a day is a second of that day, not before its midnight and not after now, and
every second in between can be drawn. A draw skips some words of its source, but never more than half
of all words.
-/

namespace ColumnStore.Numbering

-----------------------------------------------------------------------------------------
-- Instants
-----------------------------------------------------------------------------------------

/-- An instant of universal time: a day, counted from the first one of 1970, and a time of the day. A leap
second has no number of its own; it has that of the second before it, and a billion nanoseconds or
more.
-/
structure Instant where
  day : Int
  second : Nat
  nanosecond : Nat
  second_lt : second < 86400
  nanosecond_lt : nanosecond < 2000000000
  /-- The seconds from 1970 on, or up to it, have 64 bits. -/
  bounded
    : Int64.minValue.toInt ≤ day * secondsPerDay + second
      ∧ day * secondsPerDay + second ≤ Int64.maxValue.toInt

namespace Instant

/-- The seconds since 1970. -/
def timestamp (i : Instant) : Int :=
  i.day * secondsPerDay + i.second

/-- Days start at their midnights, those before 1970 too. -/
theorem midnight_timestamp (i : Instant)
    : midnight i.timestamp = i.day * secondsPerDay := by
  have before := i.second_lt
  have floor : Int.fdiv i.timestamp secondsPerDay = i.day := by
    rw [Int.fdiv_eq_ediv_of_nonneg _ (by decide), timestamp, secondsPerDay]
    omega
  rw [midnight, floor]

/-- How many seconds of the day have begun. -/
theorem toNat_begun (i : Instant)
    : (i.timestamp - midnight i.timestamp + 1).toNat = i.second + 1 := by
  rw [midnight_timestamp, timestamp]
  omega

end Instant

-----------------------------------------------------------------------------------------
-- Words
-----------------------------------------------------------------------------------------

variable {range : Nat}

/-- At least half of all numbers are small enough for the low half of a product, and so are those below
the range itself.
-/
theorem acceptedUpTo_bounds (positive : 0 < range) (small : range < UInt64.size)
    : acceptedUpTo range + 1 = range * 2 ^ leadingZeros range
      ∧ range ≤ acceptedUpTo range + 1 ∧ acceptedUpTo range < UInt64.size
      ∧ UInt64.size ≤ 2 * (acceptedUpTo range + 1) := by
  have filled : range ≠ 0 := Nat.pos_iff_ne_zero.1 positive
  have below : 2 ^ range.log2 ≤ range := Nat.log2_self_le filled
  have above : range < 2 ^ (range.log2 + 1) := Nat.lt_log2_self
  have width : range.log2 < 64 := (Nat.log2_lt filled).2 small
  have zeros : leadingZeros range = 63 - range.log2 := if_neg filled
  have size : UInt64.size = 2 ^ 64 := rfl
  have accepted : acceptedUpTo range + 1 = range * 2 ^ leadingZeros range :=
    Nat.sub_add_cancel (Nat.mul_pos positive (Nat.two_pow_pos _))
  have whole : 2 ^ range.log2 * 2 ^ leadingZeros range = 2 ^ 63 := by
    rw [← Nat.pow_add, zeros, Nat.add_sub_cancel' (by omega)]
  have least : 2 ^ 63 ≤ range * 2 ^ leadingZeros range :=
    whole ▸ Nat.mul_le_mul_right _ below
  have most : range * 2 ^ leadingZeros range < 2 * 2 ^ 63 := by
    rw [← whole, ← Nat.mul_assoc, ← Nat.pow_succ']
    exact Nat.mul_lt_mul_of_pos_right above (Nat.two_pow_pos _)
  have room : range ≤ range * 2 ^ leadingZeros range :=
    Nat.le_mul_of_pos_right _ (Nat.two_pow_pos _)
  omega

/-- A word is in use for a range if the low half of its product with the range is small enough. -/
def IsInUse (range : Nat) (word : Nat) : Prop :=
  word * range % UInt64.size ≤ acceptedUpTo range

instance (range : Nat) : DecidablePred (IsInUse range) :=
  fun _ => inferInstanceAs (Decidable (_ ≤ _))

/-- The number that a word gives is the high half of its product with the range. -/
theorem drawBelow?_eq (range : Nat) (word : UInt64)
    : drawBelow? range word
      = if IsInUse range word.toNat then some (word.toNat * range / UInt64.size) else none :=
  rfl

theorem lt_of_drawBelow? (positive : 0 < range) {word : UInt64} {n : Nat}
    (draws : drawBelow? range word = some n)
    : n < range := by
  rw [drawBelow?_eq] at draws
  split at draws
  · obtain rfl := Option.some.inj draws
    refine Nat.div_lt_of_lt_mul ?_
    exact Nat.mul_lt_mul_of_pos_right word.toNat_lt_size positive
  · simp at draws

theorem draw_lt (positive : 0 < range) (words : List UInt64)
    : draw range words < range := by
  rw [draw]
  cases found : words.findSome? (drawBelow? range) with
  | none => exact positive
  | some n =>
    obtain ⟨word, -, draws⟩ := List.exists_of_findSome?_eq_some found
    exact lt_of_drawBelow? positive draws

/-- The first word whose product with the range has a number as its high half. -/
def firstWord (range n : Nat) : Nat :=
  (n * UInt64.size + (range - 1)) / range

/-- From the first word on, as many words give a number as the range leaves zeros in front. -/
theorem firstWord_add (small : range < UInt64.size) {n j : Nat} (below : n < range)
    (near : j < 2 ^ leadingZeros range)
    : IsInUse range (firstWord range n + j)
      ∧ (firstWord range n + j) * range / UInt64.size = n
      ∧ firstWord range n + j < UInt64.size := by
  have positive : 0 < range := Nat.zero_lt_of_lt below
  have size : UInt64.size = 18446744073709551616 := rfl
  obtain ⟨accepted, -, bounded, -⟩ := acceptedUpTo_bounds positive small
  have rounded := Nat.div_add_mod (n * UInt64.size + (range - 1)) range
  have rest := Nat.mod_lt (n * UInt64.size + (range - 1)) positive
  have more : (j + 1) * range ≤ acceptedUpTo range + 1 := by
    rw [accepted, Nat.mul_comm range]
    exact Nat.mul_le_mul_right _ near
  obtain ⟨low, product, low_le⟩ : ∃ low, (firstWord range n + j) * range = n * UInt64.size + low
      ∧ low ≤ acceptedUpTo range := by
    refine ⟨range - 1 - (n * UInt64.size + (range - 1)) % range + j * range, ?_, ?_⟩
    · rw [firstWord, Nat.add_mul, Nat.mul_comm _ range]
      omega
    · rw [Nat.add_mul] at more
      omega
  have high : (firstWord range n + j) * range / UInt64.size = n := by
    rw [product, size]
    omega
  refine ⟨?_, high, ?_⟩
  · rw [IsInUse, product, size]
    omega
  · refine Nat.lt_of_mul_lt_mul_right (a := range) ?_
    calc (firstWord range n + j) * range
      _ = n * UInt64.size + low := product
      _ < n * UInt64.size + UInt64.size := by omega
      _ = (n + 1) * UInt64.size := (Nat.succ_mul n UInt64.size).symm
      _ ≤ range * UInt64.size := Nat.mul_le_mul_right _ below
      _ = UInt64.size * range := Nat.mul_comm _ _

/-- Every number of a range is given by a word. -/
theorem drawBelow?_firstWord (small : range < UInt64.size) {n : Nat} (below : n < range)
    : drawBelow? range (UInt64.ofNat (firstWord range n)) = some n := by
  obtain ⟨used, high, word⟩ := firstWord_add (j := 0) small below (Nat.two_pow_pos _)
  rw [Nat.add_zero] at used high word
  have same : (UInt64.ofNat (firstWord range n)).toNat = firstWord range n :=
    UInt64.toNat_ofNat_of_lt' word
  rw [drawBelow?_eq, same, if_pos used]
  exact congrArg some high

/-- At least half of all words are in use: each number of the range has the same share of words from its
first one on, and together these are half of all words.
-/
theorem card_inUse (positive : 0 < range) (small : range < UInt64.size)
    : UInt64.size ≤ 2 * ((Finset.range UInt64.size).filter (IsInUse range)).card := by
  obtain ⟨accepted, -, -, half⟩ := acceptedUpTo_bounds positive small
  let shares := Finset.range range ×ˢ Finset.range (2 ^ leadingZeros range)
  have shared : shares.card = acceptedUpTo range + 1 := by
    rw [accepted, Finset.card_product, Finset.card_range, Finset.card_range]
  have apart : shares.card ≤ ((Finset.range UInt64.size).filter (IsInUse range)).card := by
    refine Finset.card_le_card_of_injOn (fun share => firstWord range share.1 + share.2) ?_ ?_
    · intro share member
      obtain ⟨below, near⟩ := Finset.mem_product.1 (Finset.mem_coe.1 member)
      obtain ⟨used, -, word⟩ :=
        firstWord_add small (Finset.mem_range.1 below) (Finset.mem_range.1 near)
      exact Finset.mem_coe.2 (Finset.mem_filter.2 ⟨Finset.mem_range.2 word, used⟩)
    · rintro ⟨n, j⟩ first ⟨m, k⟩ second same
      obtain ⟨below, near⟩ := Finset.mem_product.1 (Finset.mem_coe.1 first)
      obtain ⟨below', near'⟩ := Finset.mem_product.1 (Finset.mem_coe.1 second)
      have high := (firstWord_add small (Finset.mem_range.1 below) (Finset.mem_range.1 near)).2.1
      have high' := (firstWord_add small (Finset.mem_range.1 below') (Finset.mem_range.1 near')).2.1
      simp only at same high high'
      obtain rfl : n = m := by rw [← high, ← high', same]
      rw [Nat.add_left_cancel same]
  omega

-----------------------------------------------------------------------------------------
-- Draws
-----------------------------------------------------------------------------------------

/-- A draw from a source of words ends at a place: the word there is the first in use. -/
def EndsAt (range : Nat) (source : Nat → UInt64) (place : Nat) : Prop :=
  IsInUse range (source place).toNat ∧ ∀ j < place, ¬ IsInUse range (source j).toNat

instance (range : Nat) (source : Nat → UInt64) (place : Nat)
    : Decidable (EndsAt range source place) :=
  inferInstanceAs (Decidable (_ ∧ ∀ j < place, ¬ IsInUse range (source j).toNat))

/-- The words of a source up to a place. -/
def upTo (source : Nat → UInt64) (place : Nat) : List UInt64 :=
  (List.range (place + 1)).map source

/-- What a draw gives is decided by the word where it ends, and by nothing behind it. -/
theorem draw_upTo {source : Nat → UInt64} {place : Nat} (ends : EndsAt range source place)
    (more : List UInt64)
    : draw range (upTo source place ++ more)
      = (source place).toNat * range / UInt64.size := by
  obtain ⟨used, skipped⟩ := ends
  have before : ((List.range place).map source).findSome? (drawBelow? range) = none := by
    rw [List.findSome?_eq_none_iff]
    intro word member
    obtain ⟨j, early, rfl⟩ := List.mem_map.1 member
    rw [drawBelow?_eq, if_neg (skipped j (List.mem_range.1 early))]
  rw [draw, upTo, List.range_succ, List.map_append, List.append_assoc, List.findSome?_append, before]
  simp [drawBelow?_eq, used]

variable (i : Instant)

/-- The id of an instant is the second that is drawn, or 0 for a second before 1970. -/
theorem toNat_dayRangeId (words : List UInt64)
    : ((dayRangeId i.timestamp words).toNat : Int)
      = max 0 (midnight i.timestamp + draw (i.second + 1) words) := by
  have drawn : draw (i.second + 1) words < i.second + 1 := draw_lt (Nat.succ_pos _) words
  have bounded := i.bounded.2
  have greatest : Int64.maxValue.toInt = 9223372036854775807 := by decide
  have fits : (midnight i.timestamp + draw (i.second + 1) words).toNat < UInt64.size := by
    have size : UInt64.size = 18446744073709551616 := rfl
    rw [i.midnight_timestamp]
    omega
  rw [dayRangeId, i.toNat_begun, UInt64.toNat_ofNat_of_lt' fits]
  omega

theorem timestamp_eq
    : i.timestamp = midnight i.timestamp + i.second := by
  rw [i.midnight_timestamp]
  rfl

/-- An id is a second of the day so far, or 0 for one before 1970. -/
theorem dayRangeId_bounds (words : List UInt64)
    : max 0 (midnight i.timestamp) ≤ (dayRangeId i.timestamp words).toNat
      ∧ (dayRangeId i.timestamp words).toNat ≤ max 0 i.timestamp := by
  have now := timestamp_eq i
  have drawn : draw (i.second + 1) words < i.second + 1 := draw_lt (Nat.succ_pos _) words
  rw [toNat_dayRangeId]
  omega

/-- Every second of the day so far, from 1970 on, is the id of a source: that of the second's first word. -/
theorem exists_source (t : Nat) (after : midnight i.timestamp ≤ t) (before : t ≤ i.timestamp)
    : ∃ source : Nat → UInt64, EndsAt (i.second + 1) source 0
      ∧ (dayRangeId i.timestamp (upTo source 0)).toNat = t := by
  have now := timestamp_eq i
  have small : i.second + 1 < UInt64.size := Nat.lt_trans (Nat.succ_lt_succ i.second_lt) (by decide)
  let n := (t - midnight i.timestamp).toNat
  let source (_ : Nat) : UInt64 := UInt64.ofNat (firstWord (i.second + 1) n)
  have gives := drawBelow?_firstWord small (n := n) (by omega)
  have ends : EndsAt (i.second + 1) source 0 := by
    refine ⟨?_, fun j early => absurd early (Nat.not_lt_zero j)⟩
    by_contra skipped
    rw [drawBelow?_eq, if_neg skipped] at gives
    simp at gives
  have drawn : draw (i.second + 1) (upTo source 0) = n := by
    simp [draw, upTo, source, gives]
  refine ⟨source, ends, ?_⟩
  have id := toNat_dayRangeId i (upTo source 0)
  rw [drawn] at id
  omega

/-- An id that is drawn from the day of an instant is a second of it: not before the day's midnight, which
is at most a day short of a second before now, and not after now. A source gives the second on which
its draw ends, each second so far is given by one, and the draw ends at the first word in use, as at
least half of all words are. Seconds before 1970 are 0.
-/
theorem dayRangeId_covers (i : Instant)
    : (midnight i.timestamp = i.day * secondsPerDay ∧ midnight i.timestamp ≤ i.timestamp
          ∧ i.timestamp - midnight i.timestamp ≤ 86399)
      ∧ (∀ (source : Nat → UInt64) (place : Nat) (more : List UInt64),
          EndsAt (i.second + 1) source place →
          ∃ id : UInt64, dayRangeId i.timestamp (upTo source place ++ more) = id
            ∧ (id.toNat : Int) = max 0 (midnight i.timestamp
              + ((source place).toNat * (i.second + 1) / UInt64.size : Nat))
            ∧ max 0 (midnight i.timestamp) ≤ id.toNat ∧ id.toNat ≤ max 0 i.timestamp)
      ∧ (∀ words : List UInt64, max 0 (midnight i.timestamp) ≤ (dayRangeId i.timestamp words).toNat
          ∧ (dayRangeId i.timestamp words).toNat ≤ max 0 i.timestamp)
      ∧ (∀ t : Nat, midnight i.timestamp ≤ t → t ≤ i.timestamp →
          ∃ source : Nat → UInt64, EndsAt (i.second + 1) source 0
            ∧ (dayRangeId i.timestamp (upTo source 0)).toNat = t)
      ∧ UInt64.size
        ≤ 2 * ((Finset.range UInt64.size).filter (IsInUse (i.second + 1))).card := by
  have now := timestamp_eq i
  have second_lt := i.second_lt
  have small : i.second + 1 < UInt64.size := Nat.lt_trans (Nat.succ_lt_succ second_lt) (by decide)
  refine ⟨⟨i.midnight_timestamp, by omega, by omega⟩, ?_, dayRangeId_bounds i, exists_source i,
    card_inUse (Nat.succ_pos _) small⟩
  intro source place more ends
  refine ⟨_, rfl, ?_, dayRangeId_bounds i _⟩
  rw [toNat_dayRangeId, draw_upTo ends]

/-- Half a second into the leap second at the end of 2016. -/
def leapSecond : Instant where
  day := 17166
  second := 86399
  nanosecond := 1500000000
  second_lt := by decide
  nanosecond_lt := by decide
  bounded := by decide

/-- A source whose first word is not in use. -/
def lateSource : Nat → UInt64
  | 0 => 18446744073709551615
  | _ => 9223372036854775808

/-- From that instant the second word of the source is drawn and gives the middle of the day so far, and
another source gives its last second before the leap second.
-/
theorem dayRangeId_covers_leapSecond
    : EndsAt (leapSecond.second + 1) lateSource 1
      ∧ (∃ id : UInt64, dayRangeId leapSecond.timestamp (upTo lateSource 1) = id
        ∧ id.toNat = 1483185600
        ∧ max 0 (midnight leapSecond.timestamp) ≤ id.toNat ∧ id.toNat ≤ max 0 leapSecond.timestamp)
      ∧ midnight leapSecond.timestamp ≤ (1483228799 : Nat) ∧ (1483228799 : Nat) ≤ leapSecond.timestamp
      ∧ ∃ source : Nat → UInt64, EndsAt (leapSecond.second + 1) source 0
        ∧ (dayRangeId leapSecond.timestamp (upTo source 0)).toNat = 1483228799 := by
  have ends : EndsAt (leapSecond.second + 1) lateSource 1 := by decide
  have after : midnight leapSecond.timestamp ≤ (1483228799 : Nat) := by decide
  have before : (1483228799 : Nat) ≤ leapSecond.timestamp := by decide
  obtain ⟨-, drawn, -, given, -⟩ := dayRangeId_covers leapSecond
  obtain ⟨id, ran, number, bounds⟩ := drawn lateSource 1 [] ends
  rw [List.append_nil] at ran
  have here : (id.toNat : Int) = 1483185600 := by
    rw [number]
    decide
  exact ⟨ends, ⟨id, ran, by omega, bounds⟩, after, before, given 1483228799 after before⟩

end ColumnStore.Numbering

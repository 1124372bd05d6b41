import Mathlib.Data.List.SplitBy
import ColumnStore.Proofs.Text.Utf8
import ColumnStore.Text.Canonical

/-! A plain character stands for itself wherever it stands. No wide character before it takes it in,
neither as one of its bytes nor as a mark.
-/

namespace ColumnStore.Text

-----------------------------------------------------------------------------------------
-- Bytes
-----------------------------------------------------------------------------------------

namespace Utf8

/-- A single byte completes no character. -/
theorem isContinuation_of_lt {b : UInt8} (single : b < 0x80)
    : isContinuation b = false := by
  rw [Bool.eq_false_iff, ne_eq, isContinuation_iff]
  exact fun within => absurd (UInt8.lt_iff_toNat_lt.1 single) (Nat.not_lt.2 within.1)

theorem isSecond_of_lt (first : UInt8) {b : UInt8} (single : b < 0x80)
    : isSecond first b = false := by
  have below : b.toNat < 0x80 := UInt8.lt_iff_toNat_lt.1 single
  unfold isSecond
  repeat' split
  case isFalse => exact isContinuation_of_lt single
  all_goals
    simp only [UInt8.le_iff_toNat_le, Bool.and_eq_false_iff, decide_eq_false_iff_not, Nat.not_le]
    exact .inl (Nat.lt_of_lt_of_le below (by decide))

/-- What stands at the start ends before a single byte. -/
theorem next_append (first : UInt8) {b : UInt8} (single : b < 0x80) (front back : List UInt8)
    : next first (front ++ b :: back)
      = ((next first front).1, (next first front).2 ++ b :: back) := by
  have second := isSecond_of_lt first single
  have later := isContinuation_of_lt single
  unfold next
  -- The width says how many bytes are looked at, and no character has more than three behind its first.
  rcases width? first with _ | _ | _ | _ | _ | _ | _
  all_goals rcases front with _ | ⟨x, _ | ⟨y, _ | ⟨z, front⟩⟩⟩
  all_goals
    simp only [List.nil_append, List.cons_append, second, later, Bool.false_eq_true, ↓reduceIte]
  all_goals (repeat' split) <;> rfl

theorem scan_append (front : List UInt8) {b : UInt8} (single : b < 0x80) (back : List UInt8)
    : scan (front ++ b :: back) = scan front ++ some (Char.ofNat b.toNat) :: scan back := by
  fun_induction scan front with
  | case1 =>
    have alone : next b back = (some (Char.ofNat b.toNat), back) := by
      simp only [next, width?, if_pos single]
    rw [List.nil_append, List.nil_append, scan, alone]
  | case2 first rest _ ih =>
    rw [List.cons_append, scan, next_append first single, ih, List.cons_append]

/-- A lenient reading gives a single byte as its character, whatever stands before it. -/
theorem decodeLenient_append (front : List UInt8) {b : UInt8} (single : b < 0x80)
    (back : List UInt8)
    : decodeLenient (front ++ b :: back)
      = decodeLenient front ++ Char.ofNat b.toNat :: decodeLenient back := by
  rw [decodeLenient, scan_append front single, List.map_append, List.map_cons]
  rfl

end Utf8

-----------------------------------------------------------------------------------------
-- Canonical forms
-----------------------------------------------------------------------------------------

theorem placeOf_of_isPlain {c : Char} (plain : isPlain c)
    : placeOf c = 0 := by
  rw [placeOf, if_pos plain]

theorem together?_of_isPlain (letter : Char) {c : Char} (plain : isPlain c)
    : together? letter c = none := by
  rw [together?, if_pos plain]

variable {ending : List Char}

theorem takeApart_of_isPlain (plain : ∀ c ∈ ending, isPlain c)
    : takeApart ending = ending := by
  have each : ∀ c ∈ ending,
      (if isPlain c then [c] else (apart 4 c.toNat).map Char.ofNat) = [c] :=
    fun c member => if_pos (plain c member)
  rw [takeApart, List.flatMap_congr each, List.flatMap_singleton']

/-- A plain character is no mark of what stands before it. -/
theorem orderMarks_concat (front : List Char) {c : Char} (plain : isPlain c)
    : orderMarks (front ++ [c]) = orderMarks front ++ [c] := by
  have apart : ∀ last ∈ front.getLast?, (decide (placeOf c ≠ 0)) = false :=
    fun _ _ => decide_eq_false (not_not_intro (placeOf_of_isPlain plain))
  have alone : List.splitBy (fun _ next => decide (placeOf next ≠ 0)) [c] = [[c]] := rfl
  rw [orderMarks, List.splitBy_append_cons _ apart, List.flatMap_append, alone,
    List.flatMap_singleton, List.mergeSort_singleton, orderMarks]

/-- The marks of a text do not go over to a plain ending, by induction on the ending. -/
theorem orderMarks_append (front : List Char) (plain : ∀ c ∈ ending, isPlain c)
    : orderMarks (front ++ ending) = orderMarks front ++ ending := by
  induction ending generalizing front with
  | nil => rw [List.append_nil, List.append_nil]
  | cons c rest ih =>
    obtain ⟨first, others⟩ := List.forall_mem_cons.1 plain
    rw [List.append_cons, ih _ others, orderMarks_concat front first, ← List.append_cons]

theorem Cluster.add?_of_isPlain (k : Cluster) {c : Char} (plain : isPlain c)
    : k.add? c = none := by
  simp only [add?, together?_of_isPlain _ plain, placeOf_of_isPlain plain, ite_self, ↓reduceIte]

/-- No letter takes in a plain character, by induction on the ending. -/
theorem putTogether_of_isPlain (k : Cluster) (plain : ∀ c ∈ ending, isPlain c)
    : putTogether (some k) ending = k.toList ++ ending := by
  induction ending generalizing k with
  | nil => rw [putTogether, List.append_nil]
  | cons c rest ih =>
    obtain ⟨first, others⟩ := List.forall_mem_cons.1 plain
    rw [putTogether, k.add?_of_isPlain first]
    exact congrArg (k.toList ++ ·) (ih ⟨c, []⟩ others)

/-- A plain ending stays as it is, by induction on the text before it. -/
theorem putTogether_append (k : Option Cluster) (front : List Char)
    (plain : ∀ c ∈ ending, isPlain c)
    : putTogether k (front ++ ending) = putTogether k front ++ ending := by
  fun_induction putTogether k front with
  | case1 =>
    cases ending with
    | nil => rfl
    | cons c rest =>
      obtain ⟨first, others⟩ := List.forall_mem_cons.1 plain
      rw [List.nil_append, putTogether, if_pos (placeOf_of_isPlain first)]
      exact putTogether_of_isPlain ⟨c, []⟩ others
  | case2 k => exact putTogether_of_isPlain k plain
  | case3 c rest starts ih => rw [List.cons_append, putTogether, if_pos starts, ih]
  | case4 c rest mark ih =>
    rw [List.cons_append, putTogether, if_neg mark, ih, List.cons_append]
  | case5 k c rest k' taken ih => simp only [List.cons_append, putTogether, taken, ih]
  | case6 k c rest left ih =>
    simp only [List.cons_append, putTogether, left, ih, List.append_assoc]

/-- The canonical form of a text with a plain ending is that of the text before, and the ending. -/
theorem canonical_append (front : List Char) (plain : ∀ c ∈ ending, isPlain c)
    : canonical (front ++ ending) = canonical front ++ ending := by
  have parts : takeApart (front ++ ending) = takeApart front ++ ending := by
    rw [takeApart, List.flatMap_append]
    exact congrArg (takeApart front ++ ·) (takeApart_of_isPlain plain)
  rw [canonical, parts, orderMarks_append _ plain, putTogether_append _ _ plain, canonical]

end ColumnStore.Text

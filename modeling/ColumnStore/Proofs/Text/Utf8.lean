import Mathlib.Data.Char
import Mathlib.Data.List.Lex
import ColumnStore.Text.Utf8

/-! Every text is read back from its bytes, and the order of texts is the order of their bytes. The
bytes of a character are told apart by its width, of which there are four.
-/

namespace ColumnStore.Text.Utf8

-----------------------------------------------------------------------------------------
-- Reading what is written
-----------------------------------------------------------------------------------------

theorem toNat_ofNat {n : Nat} (h : n < 256)
    : (UInt8.ofNat n).toNat = n := by
  rw [UInt8.toNat_ofNat', Nat.mod_eq_of_lt h]

theorem width?_eq (first : UInt8)
    : width? first
      = if first.toNat < 0x80 then some 1
        else if 0xC2 ≤ first.toNat ∧ first.toNat ≤ 0xDF then some 2
        else if 0xE0 ≤ first.toNat ∧ first.toNat ≤ 0xEF then some 3
        else if 0xF0 ≤ first.toNat ∧ first.toNat ≤ 0xF4 then some 4
        else none := by
  simp [width?, UInt8.lt_iff_toNat_lt, UInt8.le_iff_toNat_le]

theorem isContinuation_iff {b : UInt8}
    : isContinuation b ↔ 0x80 ≤ b.toNat ∧ b.toNat ≤ 0xBF := by
  simp [isContinuation, UInt8.le_iff_toNat_le]

/-- A continuation may stand second, but for what four first bytes rule out. -/
theorem isSecond_of {first second : UInt8} (h : isContinuation second)
    (overlong3 : first.toNat = 0xE0 → 0xA0 ≤ second.toNat)
    (surrogate : first.toNat = 0xED → second.toNat ≤ 0x9F)
    (overlong4 : first.toNat = 0xF0 → 0x90 ≤ second.toNat)
    (beyond : first.toNat = 0xF4 → second.toNat ≤ 0x8F)
    : isSecond first second := by
  have range := isContinuation_iff.1 h
  simp only [isSecond, ← UInt8.toNat_inj, UInt8.le_iff_toNat_le]
  split
  · simp_all
  split
  · simp_all
  split
  · simp_all
  split
  · simp_all
  · exact h

theorem next_one {n : Nat} (h : n ≤ 127) (rest : List UInt8)
    : next (UInt8.ofNat n) rest = (some (Char.ofNat n), rest) := by
  have first := toNat_ofNat (n := n) (by omega)
  have width : width? (UInt8.ofNat n) = some 1 := by
    rw [width?_eq, first, if_pos (by omega)]
  simp only [next, width, first]

theorem next_two {n : Nat} (above : 127 < n) (h : n ≤ 2047) (rest : List UInt8)
    : next (UInt8.ofNat (n / 64 % 32 + 192)) (UInt8.ofNat (n % 64 + 128) :: rest)
      = (some (Char.ofNat n), rest) := by
  have first := toNat_ofNat (n := n / 64 % 32 + 192) (by omega)
  have second := toNat_ofNat (n := n % 64 + 128) (by omega)
  have width : width? (UInt8.ofNat (n / 64 % 32 + 192)) = some 2 := by
    rw [width?_eq, first, if_neg (by omega), if_pos (by omega)]
  have accepts
      : isSecond (UInt8.ofNat (n / 64 % 32 + 192)) (UInt8.ofNat (n % 64 + 128)) = true := by
    apply isSecond_of (isContinuation_iff.2 (by omega)) <;> omega
  have value : (n / 64 % 32 + 192) % 32 * 64 + (n % 64 + 128) % 64 = n := by omega
  simp only [next, width, accepts, if_true, payload, first, second, value]

theorem next_three {n : Nat} (above : 2047 < n) (h : n ≤ 65535) (valid : n < 0xD800 ∨ 0xDFFF < n)
    (rest : List UInt8)
    : next (UInt8.ofNat (n / 4096 % 16 + 224))
        (UInt8.ofNat (n / 64 % 64 + 128) :: UInt8.ofNat (n % 64 + 128) :: rest)
      = (some (Char.ofNat n), rest) := by
  have first := toNat_ofNat (n := n / 4096 % 16 + 224) (by omega)
  have second := toNat_ofNat (n := n / 64 % 64 + 128) (by omega)
  have third := toNat_ofNat (n := n % 64 + 128) (by omega)
  have width : width? (UInt8.ofNat (n / 4096 % 16 + 224)) = some 3 := by
    rw [width?_eq, first, if_neg (by omega), if_neg (by omega), if_pos (by omega)]
  have accepts : isSecond (UInt8.ofNat (n / 4096 % 16 + 224)) (UInt8.ofNat (n / 64 % 64 + 128))
      = true := by
    apply isSecond_of (isContinuation_iff.2 (by omega)) <;> omega
  have goes : isContinuation (UInt8.ofNat (n % 64 + 128)) = true :=
    isContinuation_iff.2 (by omega)
  have value : ((n / 4096 % 16 + 224) % 16 * 64 + (n / 64 % 64 + 128) % 64) * 64
      + (n % 64 + 128) % 64 = n := by omega
  simp only [next, width, accepts, goes, if_true, payload, first, second, third, value]

theorem next_four {n : Nat} (above : 65535 < n) (h : n < 0x110000) (rest : List UInt8)
    : next (UInt8.ofNat (n / 262144 % 8 + 240))
        (UInt8.ofNat (n / 4096 % 64 + 128) :: UInt8.ofNat (n / 64 % 64 + 128)
          :: UInt8.ofNat (n % 64 + 128) :: rest)
      = (some (Char.ofNat n), rest) := by
  have first := toNat_ofNat (n := n / 262144 % 8 + 240) (by omega)
  have second := toNat_ofNat (n := n / 4096 % 64 + 128) (by omega)
  have third := toNat_ofNat (n := n / 64 % 64 + 128) (by omega)
  have fourth := toNat_ofNat (n := n % 64 + 128) (by omega)
  have width : width? (UInt8.ofNat (n / 262144 % 8 + 240)) = some 4 := by
    rw [width?_eq, first, if_neg (by omega), if_neg (by omega), if_neg (by omega),
      if_pos (by omega)]
  have accepts : isSecond (UInt8.ofNat (n / 262144 % 8 + 240))
      (UInt8.ofNat (n / 4096 % 64 + 128)) = true := by
    apply isSecond_of (isContinuation_iff.2 (by omega)) <;> omega
  have goes : isContinuation (UInt8.ofNat (n / 64 % 64 + 128)) = true :=
    isContinuation_iff.2 (by omega)
  have still : isContinuation (UInt8.ofNat (n % 64 + 128)) = true :=
    isContinuation_iff.2 (by omega)
  have value : (((n / 262144 % 8 + 240) % 8 * 64 + (n / 4096 % 64 + 128) % 64) * 64
      + (n / 64 % 64 + 128) % 64) * 64 + (n % 64 + 128) % 64 = n := by omega
  simp only [next, width, accepts, goes, still, if_true, payload, first, second, third, fourth, value]

/-- The bytes of a character are read as the character, whatever follows them. -/
theorem next_encodeChar (c : Char) (rest : List UInt8)
    : ∃ first more, String.utf8EncodeChar c = first :: more
      ∧ next first (more ++ rest) = (some c, rest) := by
  have valid := c.valid
  simp only [UInt32.isValidChar, Nat.isValidChar] at valid
  have same : Char.ofNat c.val.toNat = c := Char.ofNat_toNat c
  simp only [String.utf8EncodeChar]
  generalize c.val.toNat = n at valid same
  subst same
  split
  · exact ⟨_, _, rfl, next_one (by omega) rest⟩
  split
  · exact ⟨_, _, rfl, next_two (by omega) (by omega) rest⟩
  split
  · exact ⟨_, _, rfl, next_three (by omega) (by omega) (by omega) rest⟩
  · exact ⟨_, _, rfl, next_four (by omega) (by omega) rest⟩

/-- The bytes of a text are scanned character by character, by list induction. -/
theorem scan_encode (cs : List Char)
    : scan (encode cs) = cs.map some := by
  induction cs with
  | nil => simp [encode, scan]
  | cons c rest ih =>
    obtain ⟨first, more, bytes, read⟩ := next_encodeChar c (encode rest)
    have split : encode (c :: rest) = first :: (more ++ encode rest) := by
      rw [encode, List.flatMap_cons, bytes]
      rfl
    rw [split, scan, read, ih]
    rfl

/-- A text is read back from its bytes. -/
theorem decode?_encode (cs : List Char)
    : decode? (encode cs) = some cs := by
  have each := List.mapM_pure (m := Option) (l := cs) (f := id)
  rw [decode?, scan_encode, List.mapM_map]
  simpa using each

theorem decodeLenient_encode (cs : List Char)
    : decodeLenient (encode cs) = cs := by
  simp [decodeLenient, scan_encode, Function.comp_def]

/-- A text that does not start with the mark is read back where the mark is left out. -/
theorem decodeUnmarked_encode {cs : List Char} (unmarked : cs.head? ≠ some '\uFEFF')
    : decodeUnmarked (encode cs) = cs := by
  unfold decodeUnmarked
  split
  · rename_i rest shape
    have scanned := scan_encode cs
    have mark : next 0xEF (0xBB :: 0xBF :: rest) = (some '\uFEFF', rest) := rfl
    rw [shape, scan, mark] at scanned
    cases cs with
    | nil => simp at scanned
    | cons c more =>
      obtain rfl : c = '\uFEFF' := by simpa using congrArg List.head? scanned.symm
      simp at unmarked
  · exact decodeLenient_encode cs

/-- A byte below 128 is the number of its character. -/
theorem toNat_of_mem_encodeChar {c : Char} {b : UInt8} (member : b ∈ String.utf8EncodeChar c)
    (small : b.toNat < 128)
    : c.toNat = b.toNat := by
  change c.val.toNat = _
  simp only [String.utf8EncodeChar] at member
  generalize c.val.toNat = n at member
  split at member
  · obtain rfl := List.mem_singleton.1 member
    exact (toNat_ofNat (by omega)).symm
  -- The bytes of any other character are 128 or more.
  all_goals
    repeat' split at member
    all_goals
      simp only [List.mem_cons, List.not_mem_nil, or_false] at member
      rcases member with rfl | rfl | rfl | rfl <;> simp only [UInt8.toNat_ofNat'] at small <;> omega

-----------------------------------------------------------------------------------------
-- Order
-----------------------------------------------------------------------------------------

/-- Bytes are in the order of their numbers. -/
theorem ofNat_cons_lt_iff {a b : Nat} {front back : List UInt8} (left : a < 256) (right : b < 256)
    : UInt8.ofNat a :: front < UInt8.ofNat b :: back ↔ a < b ∨ a = b ∧ front < back := by
  rw [List.cons_lt_cons_iff, UInt8.lt_iff_toNat_lt, ← UInt8.toNat_inj, UInt8.toNat_ofNat',
    UInt8.toNat_ofNat', Nat.mod_eq_of_lt left, Nat.mod_eq_of_lt right]

/-- A greater character is written with greater bytes, whatever follows either of them. The widths
of the two are compared case by case.
-/
theorem encodeChar_append_lt {c d : Char} (h : c < d) (front back : List UInt8)
    : String.utf8EncodeChar c ++ front < String.utf8EncodeChar d ++ back := by
  have below : c.val.toNat < d.val.toNat := h
  have valid : d.val.toNat < 0x110000 := by
    have range := d.valid
    simp only [UInt32.isValidChar, Nat.isValidChar] at range
    omega
  simp only [String.utf8EncodeChar]
  generalize c.val.toNat = m at below
  generalize d.val.toNat = n at below valid
  -- The parts of a number, down to the greatest, are in the order of the numbers.
  have parts (k : Nat) (h : k < 0x110000)
      : k / 64 / 64 = k / 4096 ∧ k / 4096 / 64 = k / 262144 ∧ k / 262144 / 8 = 0 := by
    refine ⟨Nat.div_div_eq_div_mul k 64 64, Nat.div_div_eq_div_mul k 4096 64, ?_⟩
    omega
  have left := parts m (by omega)
  have right := parts n valid
  have order (k : Nat) : m / k ≤ n / k := Nat.div_le_div_right (Nat.le_of_lt below)
  have ordered := And.intro (order 262144) (And.intro (order 4096) (order 64))
  repeat' split
  all_goals
    first
    | omega
    | simp (disch := omega) only [List.cons_append, List.nil_append, ofNat_cons_lt_iff]
      omega

theorem encodeChar_ne_nil (c : Char)
    : String.utf8EncodeChar c ≠ [] := by
  simp only [String.utf8EncodeChar]
  repeat' split
  all_goals simp

/-- A greater text is written with greater bytes, by list induction. -/
theorem encode_lt_of_lt {a b : List Char} (h : a < b)
    : encode a < encode b := by
  induction a generalizing b with
  | nil =>
    cases b with
    | nil => simp at h
    | cons d more =>
      obtain ⟨byte, rest, bytes⟩ := List.exists_cons_of_ne_nil (encodeChar_ne_nil d)
      simp [encode, bytes]
  | cons c rest ih =>
    cases b with
    | nil => simp at h
    | cons d more =>
      simp only [encode, List.flatMap_cons]
      rcases List.cons_lt_cons_iff.1 h with less | ⟨rfl, later⟩
      · exact encodeChar_append_lt less _ _
      · exact List.append_left_lt (ih later)

/-- Texts are in the order of their bytes. -/
theorem encode_lt_iff {a b : List Char}
    : encode a < encode b ↔ a < b := by
  refine ⟨fun h => ?_, encode_lt_of_lt⟩
  rcases lt_trichotomy a b with less | rfl | greater
  · exact less
  · exact absurd h (List.lt_irrefl _)
  · exact absurd h (List.lt_asymm (encode_lt_of_lt greater))

end ColumnStore.Text.Utf8

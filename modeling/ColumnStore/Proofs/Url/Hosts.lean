import ColumnStore.Proofs.Text.Plain
import ColumnStore.Url.Host

/-! A host takes in no port. A colon with digits behind it stays what it is when percent forms are
decoded and characters folded, and no host may hold it.
-/

namespace ColumnStore.Url

open Text

/-- What is no percent form is kept. -/
theorem percentDecode_cons {b : UInt8} {rest : List UInt8}
    (formless : b = 37 → ∀ high low more, rest = high :: low :: more →
      hexByteValue? high = none ∨ hexByteValue? low = none)
    : percentDecode (b :: rest) = b :: percentDecode rest := by
  rcases rest with _ | ⟨high, _ | ⟨low, more⟩⟩
  · rfl
  · rfl
  rw [percentDecode]
  split
  case isFalse => rfl
  case isTrue sign =>
    rcases formless sign high low more rfl with first | second
    · rw [first]
    · rw [second]
      cases hexByteValue? high <;> rfl

theorem percentDecode_of_notMem {bytes : List UInt8} (plain : 37 ∉ bytes)
    : percentDecode bytes = bytes := by
  induction bytes with
  | nil => rfl
  | cons b rest ih =>
    rw [List.mem_cons, not_or] at plain
    rw [percentDecode_cons fun sign => absurd sign.symm plain.1, ih plain.2]

/-- No percent form goes over a byte that is neither its sign nor a digit of it. -/
theorem percentDecode_append (front : List UInt8) {b : UInt8} (other : b ≠ 37)
    (digitless : hexByteValue? b = none) (back : List UInt8)
    : percentDecode (front ++ b :: back) = percentDecode front ++ b :: percentDecode back := by
  fun_induction percentDecode front with
  | case1 => exact percentDecode_cons fun sign => absurd sign other
  | case2 high low rest h l first second ih =>
    simp only [List.cons_append, percentDecode, ↓reduceIte, first, second, ih]
  | case3 high low rest unread ih =>
    have formless : hexByteValue? high = none ∨ hexByteValue? low = none := by
      cases first : hexByteValue? high with
      | none => exact .inl rfl
      | some h =>
        cases second : hexByteValue? low with
        | none => exact .inr rfl
        | some l => exact (unread h l first second).elim
    rw [List.cons_append, percentDecode_cons, ih, List.cons_append]
    rintro - _ _ _ ⟨⟩
    exact formless
  | case4 c high low rest sign ih =>
    rw [List.cons_append, percentDecode_cons fun same => absurd same sign, ih, List.cons_append]
  | case5 c rest short ih =>
    rw [List.cons_append, percentDecode_cons, ih, List.cons_append]
    -- The byte itself stands where a digit would have to.
    rintro - high low more shape
    rcases rest with _ | ⟨x, _ | ⟨y, rest⟩⟩
    · obtain ⟨rfl, -⟩ := List.cons.inj shape
      exact .inl digitless
    · obtain ⟨-, second⟩ := List.cons.inj shape
      obtain ⟨rfl, -⟩ := List.cons.inj second
      exact .inr digitless
    · exact (short x y rest rfl).elim

theorem isPlain_of_isDigit {c : Char} (digit : c.isDigit)
    : isPlain c := by
  simp only [Char.isDigit, Bool.and_eq_true, decide_eq_true_eq, UInt32.le_iff_toNat_le] at digit
  exact decide_eq_true (Nat.lt_of_le_of_lt digit.2 (by decide))

theorem toLower_of_isDigit {c : Char} (digit : c.isDigit)
    : c.toLower = c := by
  simp only [Char.isDigit, Bool.and_eq_true, decide_eq_true_eq] at digit
  have small : ¬ (c.val ≥ 'A'.val ∧ c.val ≤ 'Z'.val) := fun capital =>
    absurd (UInt32.le_trans capital.1 digit.2) (by decide)
  exact dif_neg small

theorem fold?_of_isPlain {c : Char} (plain : isPlain c)
    : fold? c = some [c.toLower] := by
  rw [fold?, if_pos plain]

theorem mapM_fold? {cs : List Char} (plain : ∀ c ∈ cs, isPlain c ∧ c.toLower = c)
    : cs.mapM fold? = some (cs.map fun c => [c]) := by
  induction cs with
  | nil => rfl
  | cons c rest ih =>
    obtain ⟨⟨first, small⟩, others⟩ := List.forall_mem_cons.1 plain
    rw [List.mapM_cons, fold?_of_isPlain first, small, ih others]
    rfl

/-- A plain ending without capitals is folded to itself, whatever stands before it. -/
theorem folded?_append (front : List Char) {ending : List Char}
    (plain : ∀ c ∈ ending, isPlain c ∧ c.toLower = c)
    : folded? (front ++ ending) = (folded? front).map (· ++ ending) := by
  have spelled : (ending.map fun c => [c]).flatten = ending := by
    rw [← List.flatMap_def, List.flatMap_singleton']
  rw [folded?, List.mapM_append, mapM_fold? plain, folded?]
  cases front.mapM fold? with
  | none => rfl
  | some forms =>
    have whole : canonical (forms ++ ending.map fun c => [c]).flatten
        = canonical forms.flatten ++ ending := by
      rw [List.flatten_append, spelled, canonical_append _ fun c member => (plain c member).1]
    exact congrArg some whole

variable {digits : List Char}

/-- What has a colon before digits at its end is no domain. -/
theorem domain?_eq_none (front : List Char) (each : ∀ c ∈ digits, c.isDigit)
    : domain? (front ++ ':' :: digits) = none := by
  have bytes : Utf8.encode (front ++ ':' :: digits) = Utf8.encode front ++ 58 :: Utf8.encode digits := by
    rw [Utf8.encode, List.flatMap_append]
    rfl
  have unsigned : 37 ∉ Utf8.encode digits := by
    intro member
    obtain ⟨c, known, inside⟩ := List.mem_flatMap.1 member
    obtain rfl : c = '%' := Char.toNat_inj.1 (Utf8.toNat_of_mem_encodeChar inside (by decide))
    exact absurd (each _ known) (by decide)
  have decoded : Utf8.decodeLenient (percentDecode (Utf8.encode (front ++ ':' :: digits)))
      = Utf8.decodeLenient (percentDecode (Utf8.encode front)) ++ ':' :: digits := by
    rw [bytes, percentDecode_append _ (by decide) (by decide), percentDecode_of_notMem unsigned,
      Utf8.decodeLenient_append _ (by decide), Utf8.decodeLenient_encode]
    rfl
  have plain : ∀ c ∈ ':' :: digits, isPlain c ∧ c.toLower = c :=
    List.forall_mem_cons.2 ⟨by decide, fun c member =>
      ⟨isPlain_of_isDigit (each c member), toLower_of_isDigit (each c member)⟩⟩
  rw [domain?, decoded, folded?_append _ plain]
  cases folded? (Utf8.decodeLenient (percentDecode (Utf8.encode front))) with
  | none => rfl
  | some folded =>
    have held : (folded ++ ':' :: digits).any isForbidden :=
      List.any_eq_true.2 ⟨':', by simp, by decide⟩
    simp only [Option.map_some, Option.bind_eq_bind, Option.bind_some, held, ↓reduceIte]
    rfl

/-- No host ends in a colon and digits. -/
theorem exists_parseHost_eq_error (front : List Char) (each : ∀ c ∈ digits, c.isDigit)
    : ∃ fault, parseHost (front ++ ':' :: digits) = .error fault := by
  have refused := domain?_eq_none front each
  unfold parseHost
  split
  case h_1 _ => exact ⟨_, rfl⟩
  case h_2 rest shape =>
    have opened : rest.getLast? ≠ some ']' := by
      intro closed
      have last : (front ++ ':' :: digits).getLast? = some ']' := by
        rw [shape, List.getLast?_cons, closed]
        rfl
      rw [List.getLast?_append_cons] at last
      rcases List.mem_cons.1 (List.mem_of_getLast? last) with same | member
      · exact absurd same (by decide)
      · exact absurd (each _ member) (by decide)
    rw [if_neg opened]
    exact ⟨_, rfl⟩
  case h_3 =>
    rw [refused]
    exact ⟨_, rfl⟩

end ColumnStore.Url

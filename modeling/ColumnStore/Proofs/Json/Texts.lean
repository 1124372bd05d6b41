import ColumnStore.Proofs.Json.Scalars

/-! Every text of a JSON value is read as the value, and what follows it is left. The texts are given
by their grammar, nested to any depth that the reader allows.
-/

namespace ColumnStore.Json

/-- The text of a member: a name in quotes, a colon and a value. -/
inductive MemberText (Value : Json → List Char → Prop) : String × Json → List Char → Prop
  | of {name nameText before after valueText : List Char} {v : Json}
      (names : StringText name nameText) (leads : IsSpaces before) (trails : IsSpaces after)
      (text : Value v valueText)
    : MemberText Value (String.ofList name, v)
        ('"' :: nameText ++ '"' :: before ++ ':' :: after ++ valueText)

/-- The texts of a value that is nested at most so deep. -/
def ValueText : Nat → Json → List Char → Prop
  | 0, v, cs => ScalarText v cs
  | depth + 1, v, cs =>
    ScalarText v cs
      ∨ (∃ items inner, ListText (ValueText depth) items inner
          ∧ v = .array items ∧ cs = '[' :: inner ++ [']'])
      ∨ ∃ members inner, ListText (MemberText (ValueText depth)) members inner
          ∧ v = .object (collect members) ∧ cs = '{' :: inner ++ ['}']

/-- A name that stands for itself makes a member with a value after it. -/
theorem MemberText.named {Value : Json → List Char → Prop} {name : String} {v : Json}
    {cs : List Char} (plain : IsPlainText name.toList) (text : Value v cs)
    : MemberText Value (name, v) ('"' :: name.toList ++ '"' :: ':' :: cs) := by
  have padded : MemberText Value (String.ofList name.toList, v)
      ('"' :: name.toList ++ '"' :: [] ++ ':' :: [] ++ cs) :=
    .of (stringText_plain plain) nofun nofun text
  simpa using padded

/-- The value of a member has its text in the member's. -/
theorem MemberText.exists_text {Value : Json → List Char → Prop} {m : String × Json}
    {cs : List Char} (h : MemberText Value m cs)
    : ∃ text, Value m.2 text := by
  cases h with
  | of _ _ _ text => exact ⟨_, text⟩

/-- A member starts with the quote of its name. -/
theorem MemberText.starts {Value : Json → List Char → Prop} {m : String × Json} {cs : List Char}
    (h : MemberText Value m cs)
    : ∃ c rest, cs = c :: rest ∧ isSpace c = false ∧ c ≠ ']' ∧ c ≠ '}' := by
  cases h
  exact ⟨'"', _, rfl, by decide, by decide, by decide⟩

theorem MemberText.imp {Value Other : Json → List Char → Prop} {m : String × Json}
    {cs : List Char} (h : MemberText Value m cs)
    (weaken : ∀ text, text.length ≤ cs.length → Value m.2 text → Other m.2 text)
    : MemberText Other m cs := by
  cases h with
  | of names leads trails text => exact .of names leads trails (weaken _ (by simp; omega) text)

theorem ScalarText.value {v : Json} {cs : List Char} (h : ScalarText v cs) (depth : Nat)
    : ValueText depth v cs := by
  cases depth with
  | zero => exact h
  | succ depth => exact .inl h

/-- A value starts with no blank and no closing bracket. -/
theorem ValueText.starts {depth : Nat} {v : Json} {cs : List Char} (h : ValueText depth v cs)
    : ∃ c rest, cs = c :: rest ∧ isSpace c = false ∧ c ≠ ']' ∧ c ≠ '}' := by
  have scalar {v : Json} {cs : List Char} (h : ScalarText v cs)
      : ∃ c rest, cs = c :: rest ∧ isSpace c = false ∧ c ≠ ']' ∧ c ≠ '}' := by
    obtain ⟨c, rest, shape, solid, other⟩ := h.starts
    exact ⟨c, rest, shape, solid, by rintro rfl; simp at other, by rintro rfl; simp at other⟩
  cases depth with
  | zero => exact scalar h
  | succ depth =>
    rcases h with h | ⟨_, _, _, _, rfl⟩ | ⟨_, _, _, _, rfl⟩
    · exact scalar h
    · exact ⟨'[', _, rfl, by decide, by decide, by decide⟩
    · exact ⟨'{', _, rfl, by decide, by decide, by decide⟩

/-- No value is nested deeper than its text is long, by induction on the nesting. -/
theorem ValueText.of_length_le {depth bound : Nat} {v : Json} {cs : List Char}
    (h : ValueText depth v cs) (room : cs.length ≤ bound)
    : ValueText bound v cs := by
  induction depth generalizing bound v cs with
  | zero => exact ScalarText.value h bound
  | succ depth ih =>
    rcases h with h | ⟨items, inner, listed, rfl, rfl⟩ | ⟨members, inner, listed, rfl, rfl⟩
    · exact h.value bound
    all_goals
      obtain ⟨bound, rfl⟩ : ∃ less, bound = less + 1 := ⟨bound - 1, by simp at room; omega⟩
      simp only [List.length_append, List.length_cons, List.length_nil] at room
    · refine .inr (.inl ⟨items, inner, listed.imp fun v text shorter h => ?_, rfl, rfl⟩)
      exact ih h (by omega)
    · refine .inr (.inr ⟨members, inner, listed.imp fun m text shorter h => ?_, rfl, rfl⟩)
      exact h.imp fun _ inside h => ih h (by omega)

/-- A member is read with the reader of its value, which is told its name if names are kept. -/
theorem readMember_text {β : Type} {Value : Json → List Char → Prop}
    {read : String → List Char → Option (β × List Char)} {Fits : β → Prop} {kept : Bool}
    {m : String × Json} {cs rest : List Char} (text : MemberText Value m cs)
    (starts : ∀ cs, Value m.2 cs → ∃ c more, cs = c :: more ∧ isSpace c = false)
    (reads : ∀ name cs, (kept = true → name = m.1) → Value m.2 cs →
      ∃ b, read name (cs ++ rest) = some (b, rest) ∧ Fits b)
    : ∃ name b, readMember kept read (cs ++ rest) = some ((name, b), rest)
      ∧ (kept = true → name = m.1) ∧ Fits b := by
  cases text with
  | @of name nameText before after valueText v names leads trails text =>
    obtain ⟨t, name_read, same⟩ := readString_text names kept
      (before ++ ':' :: (after ++ (valueText ++ rest)))
    have named : kept = true → String.ofList t = String.ofList name :=
      fun keeps => by rw [same keeps]
    obtain ⟨b, value_read, fits⟩ := reads (String.ofList t) valueText named text
    obtain ⟨c, more, rfl, solid⟩ := starts valueText text
    refine ⟨String.ofList t, b, ?_, named, fits⟩
    have split : '"' :: nameText ++ '"' :: before ++ ':' :: after ++ c :: more ++ rest
        = '"' :: (nameText ++ '"' :: (before ++ ':' :: (after ++ (c :: more ++ rest)))) := by simp
    rw [List.cons_append] at value_read
    have colon : isSpace ':' = false := rfl
    rw [split, readMember, name_read]
    simp [(Text.cut_append_cons leads colon _).2, (Text.cut_append_cons trails solid _).2, value_read]

/-- A value without brackets is read as one, however deep values may be nested. -/
theorem readValue_scalar (kept : Bool) (depth : Nat) {c : Char} (other : c ≠ '[' ∧ c ≠ '{')
    (cs : List Char)
    : readValue kept depth (c :: cs) = readScalar kept (c :: cs) := by
  unfold readValue
  split
  · rename_i shape
    exact absurd (List.cons.inj shape).1 other.1
  · rename_i shape
    exact absurd (List.cons.inj shape).1 other.2
  · rfl

/-- What is kept of the items of a list is the list. -/
theorem eq_of_fits {α : Type} {kept : Bool} {items found : List α}
    (h : List.Forall₂ (fun v w => kept = true → w = v) items found) (keeps : kept = true)
    : found = items := by
  have same : List.Forall₂ Eq items found := h.imp fun _ _ equal => (equal keeps).symm
  exact (List.forall₂_eq_eq_eq ▸ same : items = found).symm

/-- Every value is read up to its end, by induction on the nesting. What is kept is the value. -/
theorem reads_value (kept : Bool) (depth : Nat)
    : Reads (ValueText depth) (readValue kept depth) fun v w => kept = true → w = v := by
  have scalar (depth : Nat) {v : Json} {cs rest : List Char} (text : ScalarText v cs)
      (stops : Stops rest)
      : ∃ w, readValue kept depth (cs ++ rest) = some (w, rest) ∧ (kept = true → w = v) := by
    have read_eq := readScalar_text text stops kept
    obtain ⟨c, more, rfl, _, other⟩ := text.starts
    rw [List.cons_append] at read_eq ⊢
    rw [readValue_scalar kept depth ⟨by rintro rfl; simp at other, by rintro rfl; simp at other⟩]
    exact read_eq
  induction depth with
  | zero => exact ⟨fun _ _ => ValueText.starts, fun v cs rest text stops => scalar 0 text stops⟩
  | succ depth ih =>
    refine ⟨fun _ _ => ValueText.starts, fun v cs rest text stops => ?_⟩
    rcases text with text | ⟨items, inner, listed, rfl, rfl⟩ | ⟨members, inner, listed, rfl, rfl⟩
    · exact scalar (depth + 1) text stops
    · obtain ⟨found, read_eq, fits⟩ := ih.readList (.inl rfl) listed rest
      refine ⟨.array found, ?_, fun keeps => by rw [eq_of_fits fits keeps]⟩
      rw [List.cons_append, List.cons_append, List.append_assoc]
      simp [readValue, read_eq]
    · have reader : Reads (MemberText (ValueText depth))
          (readMember kept fun _ => readValue kept depth)
          (fun v w => kept = true → w = v) := by
        refine ⟨fun _ _ text => text.starts, fun m cs rest text stops => ?_⟩
        obtain ⟨name, w, read_eq, names, fits⟩ : ∃ name w,
            readMember kept (fun _ => readValue kept depth) (cs ++ rest) = some ((name, w), rest)
              ∧ (kept = true → name = m.1) ∧ (kept = true → w = m.2) := readMember_text text
          (fun _ text => text.starts.imp fun _ ⟨more, shape, solid, _⟩ => ⟨more, shape, solid⟩)
          (fun _ cs _ text => ih.reads m.2 cs rest text stops)
        exact ⟨(name, w), read_eq, fun keeps => Prod.ext (names keeps) (fits keeps)⟩
      obtain ⟨found, read_eq, fits⟩ := reader.readList (.inr rfl) listed rest
      refine ⟨.object (collect found), ?_, fun keeps => by rw [eq_of_fits fits keeps]⟩
      rw [List.cons_append, List.cons_append, List.append_assoc]
      simp [readValue, read_eq]

end ColumnStore.Json

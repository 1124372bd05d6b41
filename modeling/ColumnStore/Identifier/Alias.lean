import ColumnStore.Text.Trimming

/-! A name may carry an alias: `name as alias`.
The separator is the word `as` in either case between blanks, and the first one counts.
-/

namespace ColumnStore.Identifier

def isLetterA (c : Char) : Bool :=
  c = 'a' ∨ c = 'A'

/-- The letter that ends the separator; the long s is a lower-case s as well. -/
def isLetterS (c : Char) : Bool :=
  c = 's' ∨ c = 'S' ∨ c = 'ſ'

/-- What follows a separator at the start of the text, if there is one. -/
def afterSeparator? (cs : List Char) : Option (List Char) :=
  match cs with
  | [] => none
  | c :: rest =>
    if Text.isBlank c then
      match rest.dropWhile Text.isBlank with
      | a :: s :: b :: given =>
        if isLetterA a ∧ isLetterS s ∧ Text.isBlank b then some (given.dropWhile Text.isBlank)
        else none
      | _ => none
    else none

/-- The text before the first separator and the text after it. -/
def splitAlias? : List Char → Option (List Char × List Char)
  | [] => none
  | c :: rest =>
    match afterSeparator? (c :: rest) with
    | some given => some ([], given)
    | none => (splitAlias? rest).map fun (base, given) => (c :: base, given)

theorem length_lt_of_splitAlias? {cs base given : List Char}
    (h : splitAlias? cs = some (base, given))
    : base.length < cs.length := by
  induction cs generalizing base with
  | nil => simp [splitAlias?] at h
  | cons c rest ih =>
    simp only [splitAlias?] at h
    split at h
    · cases h
      simp
    · obtain ⟨⟨b, a⟩, hb, he⟩ := Option.map_eq_some_iff.1 h
      cases he
      simpa using ih hb

end ColumnStore.Identifier

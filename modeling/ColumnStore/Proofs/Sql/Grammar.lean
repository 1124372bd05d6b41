import ColumnStore.Number.Digits
import ColumnStore.Proofs.Sql.Tokens
import ColumnStore.Query.Condition

/-! The grammar of SQL conditions on tokens. Tests of columns and values are joined by `and`, which
binds tighter than `or`, and parentheses make one factor of a whole condition; the `and` between the
bounds of a test belongs to the test. No sequence of tokens has two trees.
-/

namespace ColumnStore.Grammar

open Lexical

/-- A part of a column reference: a name, or the star for all columns. -/
inductive Part where
  | star
  | name (cs : List Char)

/-- What a test is about: a column, by the parts between its dots, or a value. -/
inductive Operand where
  | column (parts : List Part)
  | value (v : Value)

/-- What is asked of an operand. -/
inductive Test where
  | compare (operator : Operator) (right : Operand)
  | inList (items : List Operand) (negated : Bool)
  | isNull (negated : Bool)
  | between (low high : Operand) (negated : Bool)

/-- What is true of a row or not, with no condition within it. -/
inductive Atom where
  | test (left : Operand) (test : Test)
  /-- Raw text with its values. It has a truth of its own, and no tokens are read as it. -/
  | raw (sql : String) (bindings : List Value)

/-- What `and` joins: an atom, a comparison of two numerals, or a condition in parentheses. -/
inductive Factor where
  | constant (b : Bool)
  | atom (a : Atom)
  /-- Groups joined by `or`, each of factors joined by `and`. -/
  | group (groups : List (List Factor))

-----------------------------------------------------------------------------------------
-- Tests
-----------------------------------------------------------------------------------------

def keyword (word : String) : Token :=
  .word word.toList

def sign (characters : String) : Token :=
  .sign characters.toList

@[simp] theorem keyword_inj {a b : String} : keyword a = keyword b ↔ a = b := by
  simp [keyword, String.toList_inj]

@[simp] theorem sign_inj {a b : String} : sign a = sign b ↔ a = b := by
  simp [sign, String.toList_inj]

@[simp] theorem keyword_ne_sign {a b : String} : keyword a ≠ sign b := by
  simp [keyword, sign]

@[simp] theorem sign_ne_keyword {a b : String} : sign a ≠ keyword b := by
  simp [keyword, sign]

def Part.token : Part → Token
  | star => sign "*"
  | name cs => .name cs

def operatorTokens : Operator → List Token
  | .eq => [sign "="]
  | .notEq => [sign "!="]
  | .lt => [sign "<"]
  | .ltEq => [sign "<="]
  | .gt => [sign ">"]
  | .gtEq => [sign ">="]
  | .like => [keyword "like"]
  | .notLike => [keyword "not", keyword "like"]
  | .iLike => [keyword "ilike"]

def negation (negated : Bool) : List Token :=
  if negated then [keyword "not"] else []

/-- Parts with dots between them. -/
inductive IsColumn : List Token → List Part → Prop where
  | one (p : Part) : IsColumn [p.token] [p]
  | dot (p : Part) {ts : List Token} {ps : List Part} (rest : IsColumn ts ps)
    : IsColumn (p.token :: sign "." :: ts) (p :: ps)

inductive IsOperand : List Token → Operand → Prop where
  | column {ts : List Token} {ps : List Part} (h : IsColumn ts ps) : IsOperand ts (.column ps)
  | value (v : Value) : IsOperand [.value v] (.value v)

/-- Operands with commas between them. -/
inductive IsList : List Token → List Operand → Prop where
  | one {ts : List Token} {o : Operand} (h : IsOperand ts o) : IsList ts [o]
  | comma {ts us : List Token} {o : Operand} {os : List Operand} (h : IsOperand ts o)
      (rest : IsList us os)
    : IsList (ts ++ sign "," :: us) (o :: os)

inductive IsTest : List Token → Test → Prop where
  | compare (operator : Operator) {ts : List Token} {r : Operand} (right : IsOperand ts r)
    : IsTest (operatorTokens operator ++ ts) (.compare operator r)
  | inList (negated : Bool) {ts : List Token} {os : List Operand} (items : IsList ts os)
    : IsTest (negation negated ++ keyword "in" :: sign "(" :: (ts ++ [sign ")"]))
        (.inList os negated)
  | isNull (negated : Bool)
    : IsTest (keyword "is" :: (negation negated ++ [keyword "null"])) (.isNull negated)
  | between (negated : Bool) {ts us : List Token} {low high : Operand} (lower : IsOperand ts low)
      (upper : IsOperand us high)
    : IsTest (negation negated ++ keyword "between" :: (ts ++ keyword "and" :: us))
        (.between low high negated)

inductive IsAtom : List Token → Atom → Prop where
  | test {ts us : List Token} {l : Operand} {t : Test} (left : IsOperand ts l) (test : IsTest us t)
    : IsAtom (ts ++ us) (.test l t)

-----------------------------------------------------------------------------------------
-- Conditions
-----------------------------------------------------------------------------------------

mutual

inductive IsFactor : List Token → Factor → Prop where
  | atom {ts : List Token} {a : Atom} (h : IsAtom ts a) : IsFactor ts (.atom a)
  /-- Two numerals that are the same number or not. -/
  | constant {m n : List Char} (left : m.all Char.isDigit) (right : n.all Char.isDigit)
    : IsFactor [.word m, sign "=", .word n]
        (.constant (digitsValue 10 m = digitsValue 10 n))
  | group {ts : List Token} {groups : List (List Factor)} (h : IsDisjunction ts groups)
    : IsFactor (sign "(" :: ts ++ [sign ")"]) (.group groups)

inductive IsConjunction : List Token → List Factor → Prop where
  | one {ts : List Token} {f : Factor} (h : IsFactor ts f) : IsConjunction ts [f]
  | and {ts us : List Token} {f : Factor} {fs : List Factor} (h : IsFactor ts f)
      (rest : IsConjunction us fs)
    : IsConjunction (ts ++ keyword "and" :: us) (f :: fs)

inductive IsDisjunction : List Token → List (List Factor) → Prop where
  | one {ts : List Token} {fs : List Factor} (h : IsConjunction ts fs) : IsDisjunction ts [fs]
  | or {ts us : List Token} {fs : List Factor} {groups : List (List Factor)}
      (h : IsConjunction ts fs) (rest : IsDisjunction us groups)
    : IsDisjunction (ts ++ keyword "or" :: us) (fs :: groups)

end

-----------------------------------------------------------------------------------------
-- One tree for a sequence of tokens
-----------------------------------------------------------------------------------------

theorem Part.token_inj {p q : Part} (h : p.token = q.token)
    : p = q := by
  cases p <;> cases q <;> simp_all [Part.token, sign]

/-- A column starts with one of its parts. -/
theorem IsColumn.head {ts : List Token} {ps : List Part} (h : IsColumn ts ps)
    : ∃ (p : Part) (rest : List Token), ts = p.token :: rest := by
  cases h with
  | one p => exact ⟨p, [], rfl⟩
  | dot p rest => exact ⟨p, _, rfl⟩

/-- The token after a column shows where it ends, so long as it is no dot. -/
theorem IsColumn.unique {a b x y : List Token} {ps qs : List Part} (left : IsColumn a ps)
    (right : IsColumn b qs) (same : a ++ x = b ++ y) (endLeft : x.head? ≠ some (sign "."))
    (endRight : y.head? ≠ some (sign "."))
    : ps = qs ∧ x = y := by
  induction left generalizing b qs with
  | one p =>
    cases right with
    | one q =>
      obtain ⟨token, rest⟩ := List.cons.inj same
      exact ⟨by rw [Part.token_inj token], rest⟩
    | dot q more =>
      obtain ⟨-, rest⟩ := List.cons.inj same
      simp at rest
      simp [rest] at endLeft
  | dot p more ih =>
    cases right with
    | one q =>
      obtain ⟨-, rest⟩ := List.cons.inj same
      simp at rest
      simp [← rest] at endRight
    | dot q further =>
      obtain ⟨token, rest⟩ := List.cons.inj same
      obtain ⟨-, rest⟩ := List.cons.inj rest
      obtain ⟨rfl, rfl⟩ := ih further rest
      exact ⟨by rw [Part.token_inj token], rfl⟩

theorem IsOperand.unique {a b x y : List Token} {o p : Operand} (left : IsOperand a o)
    (right : IsOperand b p) (same : a ++ x = b ++ y) (endLeft : x.head? ≠ some (sign "."))
    (endRight : y.head? ≠ some (sign "."))
    : o = p ∧ x = y := by
  cases left with
  | column h =>
    cases right with
    | column k =>
      obtain ⟨rfl, rest⟩ := h.unique k same endLeft endRight
      exact ⟨rfl, rest⟩
    | value v =>
      obtain ⟨part, rest, rfl⟩ := h.head
      cases part <;> simp [Part.token, sign] at same
  | value v =>
    cases right with
    | column k =>
      obtain ⟨part, rest, rfl⟩ := k.head
      cases part <;> simp [Part.token, sign] at same
    | value w =>
      obtain ⟨token, rest⟩ := List.cons.inj same
      cases token
      exact ⟨rfl, rest⟩

theorem IsList.unique {a b x y : List Token} {os ps : List Operand} (left : IsList a os)
    (right : IsList b ps) (same : a ++ sign ")" :: x = b ++ sign ")" :: y)
    : os = ps ∧ x = y := by
  induction left generalizing b ps with
  | one h =>
    cases right with
    | one k =>
      obtain ⟨rfl, rest⟩ := h.unique k same (by simp) (by simp)
      exact ⟨rfl, (List.cons.inj rest).2⟩
    | comma k more =>
      rw [List.append_assoc] at same
      obtain ⟨-, rest⟩ := h.unique k same (by simp) (by simp)
      simp at rest
  | comma h more ih =>
    rw [List.append_assoc] at same
    cases right with
    | one k =>
      obtain ⟨-, rest⟩ := h.unique k same (by simp) (by simp)
      simp at rest
    | comma k further =>
      rw [List.append_assoc] at same
      obtain ⟨rfl, rest⟩ := h.unique k same (by simp) (by simp)
      obtain ⟨rfl, rfl⟩ := ih further (List.cons.inj rest).2
      exact ⟨rfl, rfl⟩

/-- No operator is the start of another. -/
theorem operatorTokens_unique {o p : Operator} {x y : List Token}
    (same : operatorTokens o ++ x = operatorTokens p ++ y)
    : o = p ∧ x = y := by
  cases o <;> cases p <;> simp_all [operatorTokens]

/-- A word that is no negation shows whether there is a negation before it. -/
theorem negation_unique {m n : Bool} {v w : String} {x y : List Token}
    (same : negation m ++ keyword v :: x = negation n ++ keyword w :: y) (left : v ≠ "not")
    (right : w ≠ "not")
    : m = n ∧ v = w ∧ x = y := by
  cases m <;> cases n <;> simp_all [negation]

/-- The word that tells a test from the others; a comparison has an operator instead. -/
def Test.word? : Test → Option String
  | compare _ _ => none
  | inList _ _ => some "in"
  | isNull _ => some "is"
  | between _ _ _ => some "between"

/-- A test starts with its operator, or with its word and maybe a negation before it. -/
theorem IsTest.lead {ts : List Token} {t : Test} (h : IsTest ts t)
    : (∃ operator rest, t.word? = none ∧ ts = operatorTokens operator ++ rest)
      ∨ ∃ negated word rest,
          t.word? = some word
          ∧ word ∈ ["in", "is", "between"]
          ∧ ts = negation negated ++ keyword word :: rest := by
  cases h with
  | compare operator right => exact .inl ⟨operator, _, rfl, rfl⟩
  | inList negated items => exact .inr ⟨negated, "in", _, rfl, by simp, rfl⟩
  | isNull negated => exact .inr ⟨false, "is", _, rfl, by simp, rfl⟩
  | between negated lower upper => exact .inr ⟨negated, "between", _, rfl, by simp, rfl⟩

/-- No column goes on into a test. -/
theorem IsTest.bounds {ts : List Token} {t : Test} (h : IsTest ts t) (x : List Token)
    : (ts ++ x).head? ≠ some (sign ".") := by
  rcases h.lead with ⟨operator, rest, -, rfl⟩ | ⟨negated, word, rest, -, -, rfl⟩
  · cases operator <;> simp [operatorTokens]
  · cases negated <;> simp [negation]

/-- Tests that start alike have the same word, or both have an operator. -/
theorem IsTest.word_eq {a b x y : List Token} {t u : Test} (left : IsTest a t)
    (right : IsTest b u) (same : a ++ x = b ++ y)
    : t.word? = u.word? := by
  have apart {operator : Operator} {negated : Bool} {word : String} {r s : List Token}
      (known : word ∈ ["in", "is", "between"])
      : operatorTokens operator ++ r ≠ negation negated ++ keyword word :: s := by
    intro h
    simp only [List.mem_cons, List.not_mem_nil, or_false] at known
    rcases known with rfl | rfl | rfl <;> cases operator <;> cases negated <;>
      simp [operatorTokens, negation] at h
  rcases left.lead with ⟨o, r, first, rfl⟩ | ⟨m, v, r, first, known, rfl⟩
  · rcases right.lead with ⟨p, q, second, rfl⟩ | ⟨n, w, q, second, known, rfl⟩
    · rw [first, second]
    · rw [List.append_assoc, List.append_assoc] at same
      exact (apart known same).elim
  · rcases right.lead with ⟨p, q, second, rfl⟩ | ⟨n, w, q, second, listed, rfl⟩
    · rw [List.append_assoc, List.append_assoc] at same
      exact (apart known same.symm).elim
    · rw [List.append_assoc, List.append_assoc] at same
      obtain ⟨-, rfl, -⟩ := negation_unique same (by rintro rfl; simp at known)
        (by rintro rfl; simp at listed)
      rw [first, second]

/-- The token after a test shows where it ends, so long as it is no dot. By cases of tests with one
word; the `and` between two bounds ends the lower one, and is no connector.
-/
theorem IsTest.unique {a b x y : List Token} {t u : Test} (left : IsTest a t)
    (right : IsTest b u) (same : a ++ x = b ++ y) (endLeft : x.head? ≠ some (sign "."))
    (endRight : y.head? ≠ some (sign "."))
    : t = u ∧ x = y := by
  have word := left.word_eq right same
  cases left with
  | compare operator l =>
    cases right with
    | compare other r =>
      rw [List.append_assoc, List.append_assoc] at same
      obtain ⟨rfl, rest⟩ := operatorTokens_unique same
      obtain ⟨rfl, ends⟩ := l.unique r rest endLeft endRight
      exact ⟨rfl, ends⟩
    | inList | isNull | between => simp [Test.word?] at word
  | inList negated items =>
    cases right with
    | inList other further =>
      simp only [List.append_assoc, List.cons_append] at same
      obtain ⟨rfl, -, rest⟩ := negation_unique same (by simp) (by simp)
      obtain ⟨rfl, ends⟩ := items.unique further (List.cons.inj rest).2
      exact ⟨rfl, ends⟩
    | compare | isNull | between => simp [Test.word?] at word
  | isNull negated =>
    cases right with
    | isNull other =>
      simp only [List.append_assoc, List.cons_append] at same
      obtain ⟨rfl, -, ends⟩ := negation_unique (List.cons.inj same).2 (by simp) (by simp)
      exact ⟨rfl, ends⟩
    | compare | inList | between => simp [Test.word?] at word
  | between negated lower upper =>
    cases right with
    | between other least most =>
      simp only [List.append_assoc, List.cons_append] at same
      obtain ⟨rfl, -, rest⟩ := negation_unique same (by simp) (by simp)
      obtain ⟨rfl, more⟩ := lower.unique least rest (by simp) (by simp)
      obtain ⟨rfl, ends⟩ := upper.unique most (List.cons.inj more).2 endLeft endRight
      exact ⟨rfl, ends⟩
    | compare | inList | isNull => simp [Test.word?] at word

theorem IsAtom.unique {a b x y : List Token} {p q : Atom} (left : IsAtom a p)
    (right : IsAtom b q) (same : a ++ x = b ++ y) (endLeft : x.head? ≠ some (sign "."))
    (endRight : y.head? ≠ some (sign "."))
    : p = q ∧ x = y := by
  obtain ⟨l, t⟩ := left
  obtain ⟨r, u⟩ := right
  rw [List.append_assoc, List.append_assoc] at same
  obtain ⟨rfl, rest⟩ := l.unique r same (t.bounds x) (u.bounds y)
  obtain ⟨rfl, ends⟩ := t.unique u rest endLeft endRight
  exact ⟨rfl, ends⟩

/-- An atom starts with a part of a column or with a value. -/
theorem IsAtom.head {ts : List Token} {a : Atom} (h : IsAtom ts a)
    : (∃ (p : Part) (rest : List Token), ts = p.token :: rest)
      ∨ ∃ v rest, ts = .value v :: rest := by
  obtain ⟨left, test⟩ := h
  cases left with
  | column h =>
    obtain ⟨p, rest, rfl⟩ := h.head
    exact .inl ⟨p, _, rfl⟩
  | value v => exact .inr ⟨v, _, rfl⟩

-----------------------------------------------------------------------------------------
-- One tree for a condition
-----------------------------------------------------------------------------------------

/-- What follows a factor does not go on with its last column. -/
def EndsFactor (rest : List Token) : Prop :=
  rest.head? ≠ some (sign ".")

/-- What follows factors joined by `and` does not join one more. -/
def EndsConjunction (rest : List Token) : Prop :=
  EndsFactor rest ∧ rest.head? ≠ some (keyword "and")

/-- What follows groups joined by `or` does not join one more, nor a factor to the last of them. -/
def EndsDisjunction (rest : List Token) : Prop :=
  EndsConjunction rest ∧ rest.head? ≠ some (keyword "or")

theorem endsFactor_keyword (word : String) (x : List Token)
    : EndsFactor (keyword word :: x) := by
  simp [EndsFactor]

theorem endsConjunction_or (x : List Token)
    : EndsConjunction (keyword "or" :: x) := by
  simp [EndsConjunction, EndsFactor]

theorem endsDisjunction_close (x : List Token)
    : EndsDisjunction (sign ")" :: x) := by
  simp [EndsDisjunction, EndsConjunction, EndsFactor]

theorem endsDisjunction_nil : EndsDisjunction [] := by
  simp [EndsDisjunction, EndsConjunction, EndsFactor]

/-- Atoms, comparisons of numerals and parentheses differ in their first tokens. -/
theorem IsAtom.ne_constant {ts x y : List Token} {a : Atom} (h : IsAtom ts a) (cs : List Char)
    : ts ++ x ≠ .word cs :: y := by
  rcases h.head with ⟨p, rest, rfl⟩ | ⟨v, rest, rfl⟩
  · cases p <;> simp [Part.token, sign]
  · simp

theorem IsAtom.ne_group {ts x y : List Token} {a : Atom} (h : IsAtom ts a)
    : ts ++ x ≠ sign "(" :: y := by
  rcases h.head with ⟨p, rest, rfl⟩ | ⟨v, rest, rfl⟩
  · cases p <;> simp [Part.token]
    simp [sign]
  · simp [sign]

mutual

/-- A factor is told from what follows it, by induction over its parentheses. -/
theorem IsFactor.unique {a : List Token} {f : Factor}
    : IsFactor a f → ∀ {b x y : List Token} {g : Factor},
        IsFactor b g → a ++ x = b ++ y → EndsFactor x → EndsFactor y → f = g ∧ x = y
  | .atom h, b, x, y, g, right, same, endLeft, endRight => by
    cases right with
    | atom k =>
      obtain ⟨rfl, ends⟩ := h.unique k same endLeft endRight
      exact ⟨rfl, ends⟩
    | constant => exact (h.ne_constant _ same).elim
    | group k => exact (h.ne_group same).elim
  | .constant _ _, b, x, y, g, right, same, endLeft, endRight => by
    cases right with
    | atom k => exact (k.ne_constant _ same.symm).elim
    | constant =>
      simp only [List.cons_append, List.nil_append, List.cons.injEq, Token.word.injEq] at same
      obtain ⟨rfl, -, rfl, ends⟩ := same
      exact ⟨rfl, ends⟩
    | group k => simp [sign] at same
  | .group h, b, x, y, g, right, same, endLeft, endRight => by
    cases right with
    | atom k => exact (k.ne_group same.symm).elim
    | constant => simp [sign] at same
    | group k =>
      simp only [List.append_assoc, List.cons_append] at same
      obtain ⟨rfl, rest⟩ := h.unique k (List.cons.inj same).2 (endsDisjunction_close x)
        (endsDisjunction_close y)
      exact ⟨rfl, (List.cons.inj rest).2⟩

/-- Factors joined by `and` are told from what follows them, by induction over the factors. -/
theorem IsConjunction.unique {a : List Token} {fs : List Factor}
    : IsConjunction a fs → ∀ {b x y : List Token} {gs : List Factor},
        IsConjunction b gs → a ++ x = b ++ y → EndsConjunction x → EndsConjunction y
          → fs = gs ∧ x = y
  | .one h, b, x, y, gs, right, same, endLeft, endRight => by
    cases right with
    | one k =>
      obtain ⟨rfl, ends⟩ := h.unique k same endLeft.1 endRight.1
      exact ⟨rfl, ends⟩
    | and k more =>
      rw [List.append_assoc] at same
      obtain ⟨-, rfl⟩ := h.unique k same endLeft.1 (endsFactor_keyword _ _)
      exact (endLeft.2 rfl).elim
  | .and h more, b, x, y, gs, right, same, endLeft, endRight => by
    rw [List.append_assoc] at same
    cases right with
    | one k =>
      obtain ⟨-, rfl⟩ := h.unique k same (endsFactor_keyword _ _) endRight.1
      exact (endRight.2 rfl).elim
    | and k further =>
      rw [List.append_assoc] at same
      obtain ⟨rfl, rest⟩ := h.unique k same (endsFactor_keyword _ _) (endsFactor_keyword _ _)
      obtain ⟨rfl, ends⟩ := more.unique further (List.cons.inj rest).2 endLeft endRight
      exact ⟨rfl, ends⟩

/-- Groups joined by `or` are told from what follows them, by induction over the groups. -/
theorem IsDisjunction.unique {a : List Token} {groups : List (List Factor)}
    : IsDisjunction a groups → ∀ {b x y : List Token} {others : List (List Factor)},
        IsDisjunction b others → a ++ x = b ++ y → EndsDisjunction x → EndsDisjunction y
          → groups = others ∧ x = y
  | .one h, b, x, y, others, right, same, endLeft, endRight => by
    cases right with
    | one k =>
      obtain ⟨rfl, ends⟩ := h.unique k same endLeft.1 endRight.1
      exact ⟨rfl, ends⟩
    | or k more =>
      rw [List.append_assoc] at same
      obtain ⟨-, rfl⟩ := h.unique k same endLeft.1 (endsConjunction_or _)
      exact (endLeft.2 rfl).elim
  | .or h more, b, x, y, others, right, same, endLeft, endRight => by
    rw [List.append_assoc] at same
    cases right with
    | one k =>
      obtain ⟨-, rfl⟩ := h.unique k same (endsConjunction_or _) endRight.1
      exact (endRight.2 rfl).elim
    | or k further =>
      rw [List.append_assoc] at same
      obtain ⟨rfl, rest⟩ := h.unique k same (endsConjunction_or _) (endsConjunction_or _)
      obtain ⟨rfl, ends⟩ := more.unique further (List.cons.inj rest).2 endLeft endRight
      exact ⟨rfl, ends⟩

end

/-- No sequence of tokens has two trees. -/
theorem IsDisjunction.eq {ts : List Token} {groups others : List (List Factor)}
    (left : IsDisjunction ts groups) (right : IsDisjunction ts others)
    : groups = others :=
  (left.unique right rfl endsDisjunction_nil endsDisjunction_nil).1

-----------------------------------------------------------------------------------------
-- Longer conditions
-----------------------------------------------------------------------------------------

/-- One more factor behind an `and`, by induction over the factors before it. -/
theorem IsConjunction.snoc {ts us : List Token} {fs : List Factor} {f : Factor}
    (h : IsConjunction ts fs) (last : IsFactor us f)
    : IsConjunction (ts ++ keyword "and" :: us) (fs ++ [f]) := by
  induction fs generalizing ts with
  | nil => cases h
  | cons g gs ih =>
    cases h with
    | one k => exact .and k (.one last)
    | and k more =>
      rw [List.append_assoc]
      exact .and k (ih more)

end ColumnStore.Grammar

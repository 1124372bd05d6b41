import ColumnStore.Proofs.Identifier.Reading
import ColumnStore.Proofs.Query.Names
import Mathlib.Data.Fintype.Order

/-! A compiled condition says what was asked. Its text has one tree under the grammar of conditions,
and that tree is the one of the predicates: groups between the words `or`, a tree of its own for each
list in parentheses, and a constant for an empty list. So the text and the predicates are true of the
same rows.
-/

namespace ColumnStore

open Lexical Grammar

-----------------------------------------------------------------------------------------
-- The tree of a list of conditions
-----------------------------------------------------------------------------------------

namespace Condition

variable {α : Type}

/-- A list cut before every `or`: the group that is open and what is linked to it. -/
def cut (group : List α) : List (Connector × α) → List (List α)
  | [] => [group]
  | (.and, x) :: rest => cut (group ++ [x]) rest
  | (.or, x) :: rest => group :: cut [x] rest

end Condition

mutual

/-- The tree of a condition. A list of values or conditions that is empty is a constant, and a group
that is not empty is the tree of its list.
-/
def Predicate.tree : Predicate → Factor
  | .basic column operator value =>
    .atom (.test (.ofName column) (.compare operator (.value value)))
  | .columns first operator second =>
    .atom (.test (.ofName first) (.compare operator (.ofName second)))
  | .inList column values negated =>
    if values.isEmpty then .constant negated
    else .atom (.test (.ofName column) (.inList (values.map .value) negated))
  | .isNull column negated => .atom (.test (.ofName column) (.isNull negated))
  | .between column low high negated =>
    .atom (.test (.ofName column) (.between (.value low) (.value high) negated))
  | .raw sql bindings => .atom (.raw sql bindings)
  | .nested [] => .constant true
  | .nested ((_, first) :: rest) => .group (Condition.cut [first.tree] (Condition.linkedTrees rest))

def Condition.linkedTrees : List Where → List (Connector × Factor)
  | [] => []
  | (connector, predicate) :: rest => (connector, predicate.tree) :: Condition.linkedTrees rest

end

/-- The groups of a list of conditions; the connector of the first does not count. -/
def Condition.trees : List Where → List (List Factor)
  | [] => []
  | (_, first) :: rest => cut [first.tree] (linkedTrees rest)

-----------------------------------------------------------------------------------------
-- Truth
-----------------------------------------------------------------------------------------

section Truth

variable {α : Type} [Lattice α] [BoundedOrder α] (truth : Atom → α)

namespace Grammar

mutual

/-- The truth of a tree under a truth of its atoms, which need not be one of two values. -/
def Factor.eval : Factor → α
  | .constant b => if b then ⊤ else ⊥
  | .atom a => truth a
  | .group groups => anyOf groups

/-- The truth of factors joined by `and`. -/
def allOf : List Factor → α
  | [] => ⊤
  | f :: rest => f.eval ⊓ allOf rest

/-- The truth of groups joined by `or`. -/
def anyOf : List (List Factor) → α
  | [] => ⊥
  | group :: rest => allOf group ⊔ anyOf rest

end

end Grammar

mutual

/-- The truth of a condition under a truth of its atoms. No value is in an empty list, and an empty
group holds.
-/
def Predicate.holds : Predicate → α
  | .basic column operator value =>
    truth (.test (.ofName column) (.compare operator (.value value)))
  | .columns first operator second =>
    truth (.test (.ofName first) (.compare operator (.ofName second)))
  | .inList column values negated =>
    if values.isEmpty then if negated then ⊤ else ⊥
    else truth (.test (.ofName column) (.inList (values.map .value) negated))
  | .isNull column negated => truth (.test (.ofName column) (.isNull negated))
  | .between column low high negated =>
    truth (.test (.ofName column) (.between (.value low) (.value high) negated))
  | .raw sql bindings => truth (.raw sql bindings)
  | .nested [] => ⊤
  | .nested ((_, first) :: rest) => Condition.holdsFrom first.holds rest

/-- The truth of conditions behind others that are joined by `and` and have a truth together: an `or`
leaves these behind and starts anew.
-/
def Condition.holdsFrom (current : α) : List Where → α
  | [] => current
  | (.and, predicate) :: rest => Condition.holdsFrom (current ⊓ predicate.holds) rest
  | (.or, predicate) :: rest => current ⊔ Condition.holdsFrom predicate.holds rest

end

/-- The truth of a list of conditions, which holds when it is empty. -/
def Condition.holds : List Where → α
  | [] => ⊤
  | (_, first) :: rest => holdsFrom truth (first.holds truth) rest

-----------------------------------------------------------------------------------------
-- A tree is as true as its conditions
-----------------------------------------------------------------------------------------

namespace Grammar

theorem allOf_singleton (f : Factor)
    : allOf truth [f] = f.eval truth := by
  simp [allOf]

theorem allOf_snoc (group : List Factor) (f : Factor)
    : allOf truth (group ++ [f]) = allOf truth group ⊓ f.eval truth := by
  induction group with
  | nil => simp [allOf]
  | cons g rest ih => simp only [List.cons_append, allOf, ih, inf_assoc]

end Grammar

namespace Condition

mutual

/-- A tree is as true as its condition, by induction over the groups. -/
theorem eval_tree
    : ∀ p : Predicate, p.tree.eval truth = p.holds truth
  | .basic _ _ _ => rfl
  | .columns _ _ _ => rfl
  | .inList column values negated => by
    cases values <;> rfl
  | .isNull _ _ => rfl
  | .between _ _ _ _ => rfl
  | .raw _ _ => rfl
  | .nested [] => rfl
  | .nested ((_, first) :: rest) => by
    rw [Predicate.tree, Predicate.holds, Factor.eval, anyOf_cut rest, allOf_singleton,
      eval_tree first]

/-- Cut groups are as true as the conditions behind the open group, by list induction. -/
theorem anyOf_cut
    : ∀ (entries : List Where) (group : List Factor),
        anyOf truth (cut group (linkedTrees entries))
        = holdsFrom truth (allOf truth group) entries
  | [], group => by
    simp [linkedTrees, cut, anyOf, holdsFrom]
  | (.and, p) :: rest, group => by
    rw [linkedTrees, cut, anyOf_cut rest, allOf_snoc, eval_tree p, holdsFrom]
  | (.or, p) :: rest, group => by
    rw [linkedTrees, cut, anyOf, anyOf_cut rest, allOf_singleton, eval_tree p, holdsFrom]

end

/-- The groups of conditions are as true as the conditions. -/
theorem anyOf_trees {entries : List Where} (filled : entries ≠ [])
    : anyOf truth (trees entries) = holds truth entries := by
  cases entries with
  | nil => exact (filled rfl).elim
  | cons entry rest =>
    obtain ⟨connector, first⟩ := entry
    rw [trees, holds, anyOf_cut, allOf_singleton, eval_tree]

end Condition

end Truth

-----------------------------------------------------------------------------------------
-- The tree of the text
-----------------------------------------------------------------------------------------

namespace Statement

theorem separates_text {sql : String} {c : Char} {rest : List Char} (shape : sql.toList = c :: rest)
    (h : Breaks c)
    : Separates (textSymbols sql) :=
  ⟨c, rest.map .char, by rw [textSymbols, shape, List.map_cons], h⟩

end Statement

open Statement

namespace Condition

/-- An operator between blanks is read as the operator. -/
theorem parted_operator (operator : Operator)
    : Parted (textSymbols (" " ++ operator.sql ++ " ")) (operatorTokens operator) := by
  cases operator <;> rfl

theorem separates_operator (operator : Operator)
    : Separates (textSymbols (" " ++ operator.sql ++ " ")) := by
  cases operator <;> exact separates_text rfl (by decide)

/-- Values with commas between them are read as a list, by list induction. -/
theorem parted_values
    : ∀ {values : List Value},
        values ≠ []
        → ∃ ts, Parted (joined ", " (values.map .param)).symbols ts
          ∧ IsList ts (values.map .value)
  | [], filled => (filled rfl).elim
  | [v], _ => ⟨[.value v], rfl, .one (.value v)⟩
  | v :: next :: more, _ => by
    obtain ⟨ts, rest, list⟩ := parted_values (List.cons_ne_nil next more)
    have first : Parted [.literal v] [.value v] := rfl
    have comma : Parted (textSymbols ", ") [sign ","] := rfl
    refine ⟨_, ?_, .comma (.value v) list⟩
    simpa [joined] using first.append (comma.append rest)

/-- A column and what is asked of it, where the question goes on with no column. -/
theorem reads_test {column : String} (h : IsColumnName column) {symbols : List Symbol}
    {ts : List Token} {test : Test} (apart : Separates symbols) (read : tokens? symbols = some ts)
    (isTest : IsTest ts test)
    : ∃ us, tokens? (textSymbols (columnSql column) ++ symbols) = some us
      ∧ IsFactor us (.atom (.test (.ofName column) test)) := by
  obtain ⟨front, name, operand⟩ := reads_columnSql h
  exact ⟨front ++ ts, apart.tokens?_append name read, .atom (.test operand isTest)⟩

theorem reads_basic {column : String} (h : IsColumnName column) (operator : Operator) (v : Value)
    : ∃ ts, tokens? (text (columnSql column ++ " " ++ operator.sql ++ " ") ++ param v).symbols
        = some ts
      ∧ IsFactor ts (Predicate.basic column operator v).tree := by
  have read : tokens? (textSymbols (" " ++ operator.sql ++ " ") ++ [.literal v])
      = some (operatorTokens operator ++ [.value v]) :=
    (parted_operator operator).tokens?_append rfl
  have whole := reads_test h ((separates_operator operator).append _) read
    (.compare operator (.value v))
  simpa [Predicate.tree] using whole

theorem reads_columns {first second : String} (left : IsColumnName first)
    (right : IsColumnName second) (operator : Operator)
    : ∃ ts, tokens? (text (columnSql first ++ " " ++ operator.sql ++ " "
        ++ columnSql second)).symbols = some ts
      ∧ IsFactor ts (Predicate.columns first operator second).tree := by
  obtain ⟨back, name, operand⟩ := reads_columnSql right
  have read := (parted_operator operator).tokens?_append name
  have whole := reads_test left ((separates_operator operator).append _) read
    (.compare operator operand)
  simpa [Predicate.tree, textSymbols] using whole

theorem reads_isNull {column : String} (h : IsColumnName column) (negated : Bool)
    : ∃ ts, tokens? (text (columnSql column ++ " is " ++ negation negated ++ "null")).symbols
        = some ts
      ∧ IsFactor ts (Predicate.isNull column negated).tree := by
  have read : tokens? (textSymbols (" is " ++ negation negated ++ "null"))
      = some (keyword "is" :: (Grammar.negation negated ++ [keyword "null"])) := by
    cases negated <;> rfl
  have apart : Separates (textSymbols (" is " ++ negation negated ++ "null")) := by
    cases negated <;> exact separates_text rfl (by decide)
  have whole := reads_test h apart read (.isNull negated)
  simpa [Predicate.tree] using whole

theorem reads_between {column : String} (h : IsColumnName column) (low high : Value)
    (negated : Bool)
    : ∃ ts, tokens? (text (columnSql column ++ " " ++ negation negated ++ "between ")
        ++ param low ++ text " and " ++ param high).symbols = some ts
      ∧ IsFactor ts (Predicate.between column low high negated).tree := by
  have read : tokens? (textSymbols (" " ++ negation negated ++ "between ") ++ .literal low
      :: (textSymbols " and " ++ [.literal high]))
      = some (Grammar.negation negated ++ keyword "between"
        :: ([.value low] ++ keyword "and" :: [.value high])) := by
    cases negated <;> rfl
  have apart : Separates (textSymbols (" " ++ negation negated ++ "between ")) := by
    cases negated <;> exact separates_text rfl (by decide)
  have whole := reads_test h (apart.append _) read (.between negated (.value low) (.value high))
  simpa [Predicate.tree] using whole

def alwaysTokens : List Token :=
  [.word ['1'], sign "=", .word ['1']]

def neverTokens : List Token :=
  [.word ['0'], sign "=", .word ['1']]

theorem reads_always : tokens? always.symbols = some alwaysTokens := rfl

theorem reads_never : tokens? never.symbols = some neverTokens := rfl

theorem isFactor_always : IsFactor alwaysTokens (.constant true) :=
  .constant rfl rfl

theorem isFactor_never : IsFactor neverTokens (.constant false) :=
  .constant rfl rfl

/-- Membership in a list is read as such, and that in an empty list as a comparison of numerals. -/
theorem reads_inList {column : String} (h : IsColumnName column) (values : List Value)
    (negated : Bool)
    : ∃ ts, tokens? (inList column values negated).symbols = some ts
      ∧ IsFactor ts (Predicate.inList column values negated).tree := by
  by_cases none : values = []
  · subst none
    cases negated with
    | false => exact ⟨_, reads_never, isFactor_never⟩
    | true => exact ⟨_, reads_always, isFactor_always⟩
  · unfold inList
    obtain ⟨ts, inside, list⟩ := parted_values none
    have opened : Parted (textSymbols (" " ++ negation negated ++ "in ("))
        (Grammar.negation negated ++ [keyword "in", sign "("]) := by
      cases negated <;> rfl
    have closed : Parted (textSymbols ")") [sign ")"] := rfl
    have read := (opened.append (inside.append closed)).tokens?
    have apart : Separates (textSymbols (" " ++ negation negated ++ "in (")) := by
      cases negated <;> exact separates_text rfl (by decide)
    rw [List.append_assoc] at read
    have whole := reads_test h (apart.append _) read (.inList negated list)
    simpa [none, Predicate.tree] using whole

mutual

/-- A condition without raw text compiles, and its text is read as its tree. By induction over the
groups: parentheses go around what was read of the list within them.
-/
theorem reads_ofPredicate
    : ∀ p : Predicate,
        (∀ name ∈ p.names, IsColumnName name)
        → p.raws = []
        → ∃ s ts, ofPredicate p = .ok s ∧ tokens? s.symbols = some ts ∧ IsFactor ts p.tree
  | .basic column operator value, names, _ => by
    obtain ⟨ts, read, factor⟩ := reads_basic (names column (by simp [Predicate.names])) operator
      value
    exact ⟨_, ts, rfl, read, factor⟩
  | .columns first operator second, names, _ => by
    obtain ⟨ts, read, factor⟩ := reads_columns (names first (by simp [Predicate.names]))
      (names second (by simp [Predicate.names])) operator
    exact ⟨_, ts, rfl, read, factor⟩
  | .inList column values negated, names, _ => by
    obtain ⟨ts, read, factor⟩ := reads_inList (names column (by simp [Predicate.names])) values
      negated
    exact ⟨_, ts, rfl, read, factor⟩
  | .isNull column negated, names, _ => by
    obtain ⟨ts, read, factor⟩ := reads_isNull (names column (by simp [Predicate.names])) negated
    exact ⟨_, ts, rfl, read, factor⟩
  | .between column low high negated, names, _ => by
    obtain ⟨ts, read, factor⟩ := reads_between (names column (by simp [Predicate.names])) low high
      negated
    exact ⟨_, ts, rfl, read, factor⟩
  | .raw sql bindings, _, raws => by simp [Predicate.raws] at raws
  | .nested [], _, _ => ⟨_, _, rfl, reads_always, isFactor_always⟩
  | .nested ((connector, first) :: rest), names, raws => by
    simp only [Predicate.names, Condition.names, List.forall_mem_append] at names
    simp only [Predicate.raws, Condition.raws, List.append_eq_nil_iff] at raws
    obtain ⟨s, ts, firstOk, read, factor⟩ := reads_ofPredicate first names.1 raws.1
    obtain ⟨t, us, restOk, goesOn, groups⟩ := reads_linked rest names.2 raws.2
    have opened : Parted (textSymbols "(") [sign "("] := rfl
    have closed : Parted (textSymbols ")") [sign ")"] := rfl
    have apart : Separates (textSymbols ")") := separates_text rfl (by decide)
    have inside := opened.tokens?_append (apart.tokens?_append (goesOn read) closed.tokens?)
    refine ⟨text "(" ++ s ++ t ++ text ")", _, by simp [ofPredicate, firstOk, restOk]; rfl, ?_,
      .group (groups (.one factor))⟩
    simpa [Predicate.tree] using inside

/-- Conditions behind their connectors go on with every condition, by list induction: each is a new
factor of the open group, or the first of a new group.
-/
theorem reads_linked
    : ∀ entries : List Where,
        (∀ name ∈ Condition.names entries, IsColumnName name)
        → Condition.raws entries = []
        → ∃ s us,
            linked entries = .ok s
            ∧ (∀ {front ts}, tokens? front = some ts → tokens? (front ++ s.symbols) = some (ts ++ us))
            ∧ ∀ {ts group}, IsConjunction ts group
              → IsDisjunction (ts ++ us) (cut group (linkedTrees entries))
  | [], _, _ => by
    refine ⟨_, [], rfl, ?_, ?_⟩
    · intro front ts read
      simpa using read
    · intro ts group h
      rw [List.append_nil]
      exact .one h
  | (connector, predicate) :: rest, names, raws => by
    simp only [Condition.names, List.forall_mem_append] at names
    simp only [Condition.raws, List.append_eq_nil_iff] at raws
    obtain ⟨s, ts, firstOk, read, factor⟩ := reads_ofPredicate predicate names.1 raws.1
    obtain ⟨t, us, restOk, goesOn, groups⟩ := reads_linked rest names.2 raws.2
    have word : Parted (textSymbols (" " ++ connector.keyword ++ " "))
        [keyword connector.keyword] := by
      cases connector <;> rfl
    have apart : Separates (textSymbols (" " ++ connector.keyword ++ " ")) := by
      cases connector <;> exact separates_text rfl (by decide)
    refine ⟨_, keyword connector.keyword :: (ts ++ us), by simp [linked, firstOk, restOk]; rfl,
      ?_, ?_⟩
    · intro front before readFront
      have joined := (apart.append _).tokens?_append readFront (word.tokens?_append read)
      simpa using goesOn joined
    · intro before group h
      cases connector with
      | and =>
        have longer := groups (h.snoc factor)
        simpa [linkedTrees, cut, Connector.keyword] using longer
      | or => exact .or h (groups (.one factor))

end

theorem reads_ofList {wheres : List Where} (filled : wheres ≠ [])
    (names : ∀ name ∈ Condition.names wheres, IsColumnName name)
    (raws : Condition.raws wheres = [])
    : ∃ s ts, ofList wheres = .ok s ∧ tokens? s.symbols = some ts
      ∧ IsDisjunction ts (trees wheres) := by
  cases wheres with
  | nil => exact (filled rfl).elim
  | cons entry rest =>
    obtain ⟨connector, first⟩ := entry
    simp only [Condition.names, List.forall_mem_append] at names
    simp only [Condition.raws, List.append_eq_nil_iff] at raws
    obtain ⟨s, ts, firstOk, read, factor⟩ := reads_ofPredicate first names.1 raws.1
    obtain ⟨t, us, restOk, goesOn, groups⟩ := reads_linked rest names.2 raws.2
    refine ⟨s ++ t, ts ++ us, by simp [ofList, firstOk, restOk]; rfl, ?_, groups (.one factor)⟩
    rw [symbols_append]
    exact goesOn read

end Condition

/-- A where clause is read as groups: its word, and a condition with these groups. -/
def Statement.IsReadAs (s : Statement) (groups : List (List Factor)) : Prop :=
  ∃ ts, tokens? s.symbols = some (keyword "where" :: ts) ∧ IsDisjunction ts groups

/-- No clause is read in two ways, since its tokens have one tree. -/
theorem Statement.IsReadAs.eq {s : Statement} {groups others : List (List Factor)}
    (left : s.IsReadAs groups) (right : s.IsReadAs others)
    : groups = others := by
  obtain ⟨ts, read, tree⟩ := left
  obtain ⟨us, again, other⟩ := right
  obtain rfl : ts = us := by simpa using read.symm.trans again
  exact tree.eq other

namespace Condition

/-- The where clause of conditions without raw text is read in one way, as the trees of the
conditions, and is as true as they are, whatever is true of the atoms.
-/
theorem isReadAs_trees {wheres : List Where} (filled : wheres ≠ [])
    (names : ∀ name ∈ Condition.names wheres, IsColumnName name)
    (raws : Condition.raws wheres = [])
    : ∃ s,
        clause wheres = .ok s
        ∧ s.IsReadAs (trees wheres)
        ∧ (∃! groups, s.IsReadAs groups)
        ∧ ∀ (α : Type) [Lattice α] [BoundedOrder α] (truth : Atom → α) groups,
            s.IsReadAs groups → anyOf truth groups = holds truth wheres := by
  obtain ⟨s, ts, ok, read, tree⟩ := reads_ofList filled names raws
  have word : Parted (textSymbols "where ") [keyword "where"] := rfl
  have isRead : (text "where " ++ s).IsReadAs (trees wheres) := by
    refine ⟨ts, ?_, tree⟩
    rw [symbols_append]
    exact word.tokens?_append read
  refine ⟨text "where " ++ s, ?_, isRead, ⟨_, isRead, fun _ other => other.eq isRead⟩, ?_⟩
  · simp [clause, filled, ok]
  · intro α _ _ truth groups other
    rw [other.eq isRead]
    exact anyOf_trees truth filled

/-- Conditions of every kind: an `or` before a group, within which bounds have an `and` of their own,
a list without values, and names with quotes, dots and words in them.
-/
def mixedConditions : List Where := [
  (.or, .basic "t.a\"b" .notLike (.string "x%")),
  (.and, .nested [
    (.and, .between "and or" (.int 1) (.int 9) true),
    (.or, .columns "t.*" .ltEq "("),
    (.and, .nested [])]),
  (.or, .inList "k" [] false),
  (.and, .inList "k" [.null, .array [.bool true]] true),
  (.and, .isNull "" true)]

/-- The mixed conditions are read in one way, and are true of the same rows as their text. -/
theorem isReadAs_mixedConditions
    : mixedConditions ≠ []
      ∧ (∀ name ∈ Condition.names mixedConditions, IsColumnName name)
      ∧ Condition.raws mixedConditions = []
      ∧ ∃ s,
          clause mixedConditions = .ok s
          ∧ s.IsReadAs (trees mixedConditions)
          ∧ ∀ (truth : Atom → Bool) groups,
              s.IsReadAs groups → anyOf truth groups = holds truth mixedConditions := by
  have filled : mixedConditions ≠ [] := by simp [mixedConditions]
  have names : ∀ name ∈ Condition.names mixedConditions, IsColumnName name := by decide
  have raws : Condition.raws mixedConditions = [] := by decide
  obtain ⟨s, ok, isRead, -, alike⟩ := isReadAs_trees filled names raws
  exact ⟨filled, names, raws, s, ok, isRead, fun truth => alike Bool truth⟩

end Condition

end ColumnStore

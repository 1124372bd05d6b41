import ColumnStore.Proofs.Sql.Filling

/-! A statement is seen as segments, and what is added goes to the end of them: a text runs on from a text
that stands last. Segments that came about so are in a normal form, of which every sequence of characters
and values has one.
-/

namespace ColumnStore

open Lexical

namespace Segment

-----------------------------------------------------------------------------------------
-- Adding segments in place
-----------------------------------------------------------------------------------------

/-- One more segment at the end. A text without characters adds nothing, and a text is joined to a text
that stands last.
-/
def push (front : List Segment) : Segment → List Segment
  | .param v => front ++ [.param v]
  | .text sql =>
    if sql.isEmpty then front
    else match front.getLast? with
      | some (.text last) => front.dropLast ++ [.text (last ++ sql)]
      | _ => front ++ [.text sql]

def pushAll (front more : List Segment) : List Segment :=
  more.foldl push front

/-- A value and the piece of a raw text behind it. -/
def boundPiece (pair : Value × String) : List Segment :=
  [.param pair.1, .text pair.2]

/-- The pieces of a raw text with values between them, or nothing where their numbers differ. -/
def pushRaw (front : List Segment) (sql : String) (bindings : List Value) : List Segment :=
  let (first, more) := Lexical.split sql
  if more.length = bindings.length then
    pushAll front (.text first :: (bindings.zip more).flatMap boundPiece)
  else front

/-- Segments as they are built in place, and the statement that is made alike. -/
inductive Built : List Segment → Statement → Prop where
  | new : Built [] .empty
  | text (sql : String) : Built (push [] (.text sql)) (.text sql)
  | pushText {l : List Segment} {s : Statement} (h : Built l s) (sql : String)
    : Built (push l (.text sql)) (s.pushText sql)
  | pushParam {l : List Segment} {s : Statement} (h : Built l s) (v : Value)
    : Built (push l (.param v)) (s.pushParam v)
  | pushRaw {l : List Segment} {s : Statement} (h : Built l s) (sql : String) (bindings : List Value)
    : Built (pushRaw l sql bindings) (s.afterRaw sql bindings)
  | append {l m : List Segment} {s t : Statement} (h : Built l s) (other : Built m t)
    : Built (pushAll l m) (s ++ t)

-----------------------------------------------------------------------------------------
-- The normal form
-----------------------------------------------------------------------------------------

def IsText : Segment → Prop
  | .text _ => True
  | .param _ => False

/-- No text is empty, and no two texts stand side by side. -/
structure IsNormal (segments : List Segment) : Prop where
  filled : .text "" ∉ segments
  apart : segments.IsChain fun a b => a.IsText → ¬ b.IsText

theorem isNormal_nil
    : IsNormal [] :=
  ⟨List.not_mem_nil, .nil⟩

theorem isNormal_cons {x : Segment} {l : List Segment}
    : IsNormal (x :: l)
      ↔ x ≠ .text "" ∧ (∀ y ∈ l.head?, x.IsText → ¬ y.IsText) ∧ IsNormal l := by
  constructor
  · rintro ⟨filled, apart⟩
    rw [List.mem_cons, not_or] at filled
    obtain ⟨first, others⟩ := List.isChain_cons.1 apart
    exact ⟨Ne.symm filled.1, first, filled.2, others⟩
  · rintro ⟨filled, first, normal⟩
    refine ⟨?_, List.isChain_cons.2 ⟨first, normal.apart⟩⟩
    rw [List.mem_cons, not_or]
    exact ⟨filled.symm, normal.filled⟩

theorem isNormal_concat {l : List Segment} {x : Segment}
    : IsNormal (l ++ [x])
      ↔ IsNormal l ∧ (∀ y ∈ l.getLast?, y.IsText → ¬ x.IsText) ∧ x ≠ .text "" := by
  have ends : List.IsChain (fun a b : Segment => a.IsText → ¬ b.IsText) (l ++ [x])
      ↔ List.IsChain (fun a b : Segment => a.IsText → ¬ b.IsText) l
        ∧ ∀ y ∈ l.getLast?, y.IsText → ¬ x.IsText := by
    simp [List.isChain_append]
  constructor
  · rintro ⟨filled, apart⟩
    rw [List.mem_append, not_or, List.mem_singleton] at filled
    obtain ⟨front, last⟩ := ends.1 apart
    exact ⟨⟨filled.1, front⟩, last, Ne.symm filled.2⟩
  · rintro ⟨normal, last, filled⟩
    refine ⟨?_, ends.2 ⟨normal.apart, last⟩⟩
    rw [List.mem_append, not_or, List.mem_singleton]
    exact ⟨normal.filled, filled.symm⟩

/-- What becomes of a text at the end: nothing if it is empty, a part of the text that stands last, or a
segment of its own.
-/
theorem push_text_cases (front : List Segment) (sql : String)
    : (sql = "" ∧ push front (.text sql) = front)
      ∨ (∃ init last, sql ≠ "" ∧ front = init ++ [.text last]
          ∧ push front (.text sql) = init ++ [.text (last ++ sql)])
      ∨ ((∀ x ∈ front.getLast?, ¬ x.IsText) ∧ sql ≠ ""
          ∧ push front (.text sql) = front ++ [.text sql]) := by
  by_cases present : sql = ""
  · exact .inl ⟨present, by simp [push, present]⟩
  have filled : sql.isEmpty = false := by simpa using present
  cases front using List.reverseRecOn with
  | nil => exact .inr (.inr ⟨by simp, present, by simp [push, filled]⟩)
  | append_singleton init x =>
    cases x with
    | text last => exact .inr (.inl ⟨init, last, present, rfl, by simp [push, filled]⟩)
    | param v => exact .inr (.inr ⟨by simp [IsText], present, by simp [push, filled]⟩)

/-- One more segment leaves segments in normal form. -/
theorem IsNormal.push {front : List Segment} (normal : IsNormal front) (x : Segment)
    : IsNormal (push front x) := by
  cases x with
  | param v => exact isNormal_concat.2 ⟨normal, fun _ _ _ => id, nofun⟩
  | text sql =>
    rcases push_text_cases front sql with ⟨-, same⟩ | ⟨init, last, present, rfl, joined⟩
      | ⟨apart, present, added⟩
    · rwa [same]
    · obtain ⟨before, apart, -⟩ := isNormal_concat.1 normal
      rw [joined]
      exact isNormal_concat.2 ⟨before, apart, by simp [present]⟩
    · rw [added]
      exact isNormal_concat.2 ⟨normal, fun y last text => (apart y last text).elim, by simp [present]⟩

theorem IsNormal.pushAll {front : List Segment} (normal : IsNormal front) (more : List Segment)
    : IsNormal (pushAll front more) := by
  induction more generalizing front with
  | nil => exact normal
  | cons x rest ih => exact ih (normal.push x)

-----------------------------------------------------------------------------------------
-- What segments hold
-----------------------------------------------------------------------------------------

/-- The characters of a text, or the value. -/
def symbols : Segment → List Symbol
  | .text sql => Statement.textSymbols sql
  | .param v => [.literal v]

def allSymbols (segments : List Segment) : List Symbol :=
  segments.flatMap symbols

@[simp] theorem allSymbols_nil : allSymbols [] = [] := rfl

@[simp] theorem allSymbols_cons (x : Segment) (l : List Segment)
    : allSymbols (x :: l) = x.symbols ++ allSymbols l := by
  simp [allSymbols]

@[simp] theorem allSymbols_append (l m : List Segment)
    : allSymbols (l ++ m) = allSymbols l ++ allSymbols m := by
  simp [allSymbols]

/-- One more segment is held after the others. -/
theorem allSymbols_push (front : List Segment) (x : Segment)
    : allSymbols (push front x) = allSymbols front ++ x.symbols := by
  cases x with
  | param v => simp [push]
  | text sql =>
    rcases push_text_cases front sql with ⟨rfl, same⟩ | ⟨init, last, -, rfl, joined⟩ | ⟨-, -, added⟩
    · simp [same, symbols, Statement.textSymbols]
    · simp [joined, symbols]
    · simp [added]

theorem allSymbols_pushAll (front more : List Segment)
    : allSymbols (pushAll front more) = allSymbols front ++ allSymbols more := by
  induction more generalizing front with
  | nil => simp [pushAll]
  | cons x rest ih =>
    change allSymbols (pushAll (push front x) rest) = _
    rw [ih, allSymbols_push, allSymbols_cons, List.append_assoc]

/-- A run of characters ends where no character follows, by list induction in lockstep. -/
theorem map_char_unique {a b : List Char} {r s : List Symbol} (left : ∀ c, r.head? ≠ some (.char c))
    (right : ∀ c, s.head? ≠ some (.char c)) (same : a.map .char ++ r = b.map .char ++ s)
    : a = b ∧ r = s := by
  induction a generalizing b with
  | nil =>
    cases b with
    | nil => exact ⟨rfl, same⟩
    | cons c b =>
      rw [List.map_nil, List.nil_append] at same
      exact absurd (by rw [same]; rfl) (left c)
  | cons c a ih =>
    cases b with
    | nil =>
      rw [List.map_nil, List.nil_append] at same
      exact absurd (by rw [← same]; rfl) (right c)
    | cons d b =>
      obtain ⟨here, later⟩ := List.cons_eq_cons.1 same
      obtain ⟨rfl, rest⟩ := ih later
      cases here
      exact ⟨rfl, rest⟩

/-- In normal form no character follows a text. -/
theorem IsNormal.head?_ne {sql : String} {l : List Segment} (normal : IsNormal (.text sql :: l)) (c : Char)
    : (allSymbols l).head? ≠ some (.char c) := by
  obtain ⟨-, apart, -⟩ := isNormal_cons.1 normal
  cases l with
  | nil => exact nofun
  | cons y more =>
    cases y with
    | text next => exact (apart (.text next) rfl trivial trivial).elim
    | param v => simp [symbols]

theorem IsNormal.symbols_ne_nil {x : Segment} {l : List Segment} (normal : IsNormal (x :: l))
    : x.symbols ≠ [] := by
  cases x with
  | text sql =>
    have filled : sql ≠ "" := by simpa using (isNormal_cons.1 normal).1
    simpa [symbols, Statement.textSymbols] using filled
  | param v => exact List.cons_ne_nil _ _

/-- One sequence of characters and values has one normal form, by list induction in lockstep. A value
counts as a run of no characters.
-/
theorem IsNormal.unique {l m : List Segment} (left : IsNormal l) (right : IsNormal m)
    (same : allSymbols l = allSymbols m)
    : l = m := by
  induction l generalizing m with
  | nil =>
    cases m with
    | nil => rfl
    | cons y m =>
      rw [allSymbols_nil, allSymbols_cons, eq_comm, List.append_eq_nil_iff] at same
      exact absurd same.1 right.symbols_ne_nil
  | cons x l ih =>
    cases m with
    | nil =>
      rw [allSymbols_nil, allSymbols_cons, List.append_eq_nil_iff] at same
      exact absurd same.1 left.symbols_ne_nil
    | cons y m =>
      have others := ih (isNormal_cons.1 left).2.2 (isNormal_cons.1 right).2.2
      rw [allSymbols_cons, allSymbols_cons] at same
      cases x with
      | text sql =>
        cases y with
        | text next =>
          obtain ⟨chars, rest⟩ := map_char_unique left.head?_ne right.head?_ne same
          rw [String.toList_inj.1 chars, others rest]
        | param v =>
          obtain ⟨none, -⟩ := map_char_unique (b := []) left.head?_ne (by simp) same
          exact absurd (by simp [symbols, Statement.textSymbols, none]) left.symbols_ne_nil
      | param v =>
        cases y with
        | text next =>
          obtain ⟨none, -⟩ := map_char_unique (b := []) right.head?_ne (by simp) same.symm
          exact absurd (by simp [symbols, Statement.textSymbols, none]) right.symbols_ne_nil
        | param w =>
          obtain ⟨value, rest⟩ := List.cons_eq_cons.1 same
          cases value
          rw [others rest]

-----------------------------------------------------------------------------------------
-- Statements
-----------------------------------------------------------------------------------------

theorem allSymbols_textSegments (sql : String)
    : allSymbols (Statement.textSegments sql) = Statement.textSymbols sql := by
  unfold Statement.textSegments
  split
  · simp_all [Statement.textSymbols]
  · simp [symbols]

theorem isNormal_textSegments (sql : String)
    : IsNormal (Statement.textSegments sql) := by
  unfold Statement.textSegments
  split
  · exact isNormal_nil
  · rename_i present
    exact isNormal_cons.2 ⟨by simpa using present, nofun, isNormal_nil⟩

/-- The segments of a statement hold its characters and values. -/
theorem allSymbols_segments (s : Statement)
    : allSymbols s.segments = s.symbols := by
  obtain ⟨bound, tail⟩ := s
  induction bound with
  | nil => exact allSymbols_textSegments tail
  | cons first rest ih =>
    obtain ⟨sql, v⟩ := first
    simp_all [Statement.segments, Statement.symbols, allSymbols_textSegments, symbols]

/-- The segments of a statement are in normal form, by induction over its values. -/
theorem isNormal_segments (s : Statement)
    : IsNormal s.segments := by
  obtain ⟨bound, tail⟩ := s
  induction bound with
  | nil => exact isNormal_textSegments tail
  | cons first rest ih =>
    obtain ⟨sql, v⟩ := first
    have value : IsNormal (.param v :: Statement.segments ⟨rest, tail⟩) :=
      isNormal_cons.2 ⟨nofun, fun _ _ => False.elim, ih⟩
    have whole : Statement.segments ⟨(sql, v) :: rest, tail⟩
        = Statement.textSegments sql ++ .param v :: Statement.segments ⟨rest, tail⟩ := by
      simp [Statement.segments]
    rw [whole, Statement.textSegments]
    split
    · exact value
    · rename_i present
      exact isNormal_cons.2 ⟨by simpa using present, by simp [IsText], value⟩

-----------------------------------------------------------------------------------------
-- Statements under construction
-----------------------------------------------------------------------------------------

/-- A raw text is added in place as it is added to a statement. -/
theorem allSymbols_pushRaw {l : List Segment} {s : Statement} (holds : allSymbols l = s.symbols)
    (sql : String) (bindings : List Value)
    : allSymbols (pushRaw l sql bindings) = (s.afterRaw sql bindings).symbols := by
  by_cases count : (pieces .code sql.toList).2.length = bindings.length
  · obtain ⟨t, added⟩ := s.exists_pushRaw count
    have behind (pairs : List (Value × List Char))
        : allSymbols ((pairs.map (Prod.map id String.ofList)).flatMap boundPiece)
          = pairs.flatMap Statement.boundPiece := by
      induction pairs with
      | nil => rfl
      | cons pair rest ih =>
        simp [ih, boundPiece, symbols, Statement.boundPiece, Statement.textSymbols]
    have inPlace : pushRaw l sql bindings
        = pushAll l (.text (String.ofList (pieces .code sql.toList).1)
            :: ((bindings.zip (pieces .code sql.toList).2).map
              (Prod.map id String.ofList)).flatMap boundPiece) := by
      simp [pushRaw, Lexical.split, count, List.zip_map_right]
    rw [Statement.afterRaw, added, (Statement.pushRaw_eq_ok_iff.1 added).2, inPlace, allSymbols_pushAll,
      holds, allSymbols_cons, behind]
    rw [symbols, Statement.textSymbols, String.toList_ofList, Statement.boundPieces]
  · have inPlace : pushRaw l sql bindings = l := by simp [pushRaw, Lexical.split, count]
    rw [Statement.afterRaw, s.pushRaw_eq_error count, inPlace, holds]

/-- What is built in place holds what the statement holds, operation by operation. -/
theorem Built.allSymbols_eq {l : List Segment} {s : Statement} (h : Built l s)
    : allSymbols l = s.symbols := by
  induction h with
  | new => rfl
  | text sql => simp [allSymbols_push, symbols]
  | pushText _ sql ih => simp [allSymbols_push, symbols, ih]
  | pushParam _ v ih => simp [allSymbols_push, symbols, ih]
  | pushRaw _ sql bindings ih => exact allSymbols_pushRaw ih sql bindings
  | append _ _ ih other => simp [allSymbols_pushAll, ih, other]

/-- What is built in place is in normal form, operation by operation. -/
theorem Built.isNormal {l : List Segment} {s : Statement} (h : Built l s)
    : IsNormal l := by
  induction h with
  | new => exact isNormal_nil
  | text sql => exact isNormal_nil.push _
  | pushText _ sql ih => exact ih.push _
  | pushParam _ v ih => exact ih.push _
  | pushRaw _ sql bindings ih =>
    simp only [Segment.pushRaw]
    split
    · exact ih.pushAll _
    · exact ih
  | append _ _ ih _ => exact ih.pushAll _

/-- What is built in place are the segments of the statement. -/
theorem Built.eq_segments {l : List Segment} {s : Statement} (h : Built l s)
    : l = s.segments :=
  h.isNormal.unique (isNormal_segments s) (h.allSymbols_eq.trans (allSymbols_segments s).symm)

end Segment

namespace Statement

theorem isEmpty_iff {s : Statement}
    : s.isEmpty ↔ s.symbols = [] := by
  obtain ⟨bound, tail⟩ := s
  cases bound <;> simp [isEmpty, symbols, textSymbols]

/-- A statement that is written with literals is empty only if it holds nothing. -/
theorem write_eq_empty_iff {literal : Value → String} (whole : ∀ v, IsLiteral (literal v).toList)
    {s : Statement}
    : s.write literal = "" ↔ s.isEmpty := by
  rw [isEmpty_iff, ← String.toList_inj, toList_write, Symbol.spellAll, String.toList_empty,
    List.flatMap_eq_nil_iff, List.eq_nil_iff_forall_not_mem]
  exact forall₂_congr fun x _ => iff_false_intro (spell_ne_nil whole x)

theorem empty_append (s : Statement)
    : empty ++ s = s :=
  symbols_inj.1 (by rw [symbols_append, symbols_empty, List.nil_append])

end Statement

namespace Segment

/-- Nothing is held where no segments are, in normal form. -/
theorem Built.isEmpty_iff {l : List Segment} {s : Statement} (h : Built l s)
    : s.isEmpty ↔ l = [] := by
  rw [Statement.isEmpty_iff, ← h.allSymbols_eq]
  refine ⟨fun none => ?_, fun none => none ▸ rfl⟩
  exact h.isNormal.unique isNormal_nil none

/-- Appending in place is associative and has the empty list as its unit, as it is for statements. -/
theorem Built.pushAll_laws {l m n : List Segment} {s t u : Statement} (first : Built l s)
    (second : Built m t) (third : Built n u)
    : pushAll (pushAll l m) n = pushAll l (pushAll m n) ∧ pushAll l [] = l ∧ pushAll [] l = l := by
  have left := ((first.append second).append third).eq_segments
  have right := (first.append (second.append third)).eq_segments
  have alone := (Built.new.append first).eq_segments
  rw [Statement.append_assoc, ← right] at left
  rw [Statement.empty_append, ← first.eq_segments] at alone
  exact ⟨left, rfl, alone⟩

/-- Statements are kept in normal form, whatever they were made by: their segments are in it, and what
holds the same characters and values is the same statement. Appending is associative, with the statement
that holds nothing as its unit, and what is appended is rendered after what was there. A statement is empty
exactly if its template is, and if it is rendered as nothing.
-/
theorem normal_of_built {l m n : List Segment} {s t u : Statement} (first : Built l s)
    (second : Built m t) (third : Built n u) (e : Escaping)
    : (l = s.segments ∧ IsNormal l)
      ∧ (s.symbols = t.symbols → s = t ∧ l = m)
      ∧ (s ++ t ++ u = s ++ (t ++ u) ∧ s ++ .empty = s ∧ .empty ++ s = s)
      ∧ (pushAll (pushAll l m) n = pushAll l (pushAll m n) ∧ pushAll l [] = l ∧ pushAll [] l = l)
      ∧ ((s ++ t).render e = s.render e ++ t.render e
        ∧ (s ++ t).template = s.template ++ t.template
        ∧ (s ++ t).params = s.params ++ t.params)
      ∧ ((s.isEmpty ↔ l = []) ∧ (s.isEmpty ↔ s.template = "") ∧ (s.isEmpty ↔ s.render e = "")) := by
  have placeholder (v : Value) : IsLiteral ((fun _ : Value => "?") v).toList := isLiteral_placeholder
  refine ⟨⟨first.eq_segments, first.isNormal⟩, fun same => ?_,
    ⟨s.append_assoc t u, s.append_empty, s.empty_append⟩, first.pushAll_laws second third,
    ⟨Statement.write_append _ s t, Statement.write_append _ s t, Statement.params_append s t⟩,
    first.isEmpty_iff, (Statement.write_eq_empty_iff placeholder).symm,
    (Statement.write_eq_empty_iff (isLiteral_quote e)).symm⟩
  obtain rfl := Statement.symbols_inj.1 same
  exact ⟨rfl, first.eq_segments.trans second.eq_segments.symm⟩

/-- A raw text after a text, and the whole appended to itself: texts that meet are one. -/
theorem normal_of_built_doubled
    : let half : Statement := (Statement.text "a").afterRaw " = ? or " [.int 1]
      let once : List Segment := [.text "a = ", .param (.int 1), .text " or "]
      let twice : List Segment :=
        [.text "a = ", .param (.int 1), .text " or a = ", .param (.int 1), .text " or "]
      Built once half ∧ Built twice (half ++ half) ∧ Built [] .empty
        ∧ twice = (half ++ half).segments ∧ IsNormal twice
        ∧ (half ++ half ++ .empty).render .native = "a = 1 or a = 1 or " := by
  intro half once twice
  have raw : Built once half := (Built.text "a").pushRaw " = ? or " [.int 1]
  have doubled : Built twice (half ++ half) := raw.append raw
  have whole := normal_of_built doubled .new .new .native
  exact ⟨raw, doubled, .new, whole.1.1, whole.1.2, rfl⟩

end Segment

end ColumnStore

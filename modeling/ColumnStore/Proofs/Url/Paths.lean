import ColumnStore.Proofs.Url.Authority

/-! A part of a path with a colon in it is never taken for dots. So it is kept if nothing but a slash
follows, and the path is more than the root.
-/

namespace ColumnStore.Url

variable {part : List Char}

theorem isDot_of_mem (held : ':' ∈ part)
    : isSingleDot part = false ∧ isDoubleDot part = false := by
  have differs (text : String) (plain : ':' ∉ text.toList)
      : String.ofList (part.map Char.toLower) ≠ text := by
    rintro rfl
    rw [String.toList_ofList] at plain
    exact plain (List.mem_map.2 ⟨':', held, by decide⟩)
  constructor
  · simp [isSingleDot, differs "." (by decide), differs "%2e" (by decide)]
  · simp [isDoubleDot, differs ".." (by decide), differs "%2e." (by decide),
      differs ".%2e" (by decide), differs "%2e%2e" (by decide)]

/-- Dots take away only what stands before them, by list induction. -/
theorem exists_resolveDots_append (before parts : List (List Char)) (held : ':' ∈ part)
    : ∃ front, resolveDots before (parts ++ [part, []]) = front ++ [part, []] := by
  induction parts generalizing before with
  | nil =>
    have empty : isSingleDot [] = false ∧ isDoubleDot [] = false := by decide
    exact ⟨before, by simp [resolveDots, isDot_of_mem held, empty]⟩
  | cons first rest ih =>
    have followed : ¬ ((rest ++ [part, []]).isEmpty ∧ (isDoubleDot first ∨ isSingleDot first)) := by
      simp
    rw [List.cons_append, resolveDots, if_neg followed]
    exact ih _

/-- What stands behind the last separator is in the last part, by list induction. -/
theorem exists_splitOn_append {separator : Char} (front : List Char) {ending : List Char}
    (absent : separator ∉ ending)
    : ∃ parts last, (front ++ ending).splitOn separator = parts ++ [last ++ ending] := by
  induction front with
  | nil => exact ⟨[], [], List.splitOn_eq_singleton absent⟩
  | cons c rest ih =>
    obtain ⟨parts, last, split⟩ := ih
    rw [List.cons_append, List.splitOn_cons_eq_if_modifyHead, split]
    split
    · exact ⟨[] :: parts, last, rfl⟩
    · cases parts with
      | nil => exact ⟨[], c :: last, rfl⟩
      | cons first others => exact ⟨(c :: first) :: others, last, rfl⟩

theorem mem_percentEncode_colon (held : ':' ∈ part)
    : ':' ∈ percentEncode pathSet part :=
  List.mem_flatMap.2 ⟨':', held, by decide⟩

/-- What stands in front of the last slash stays in the last part but one, if a colon is in it. -/
theorem exists_pathParts (front : List Char) {ending : List Char} (held : ':' ∈ ending)
    (whole : ∀ c ∈ ending, isSlash c = false)
    : ∃ parts part, ':' ∈ part
        ∧ pathParts (front ++ ending ++ ['/']) = (parts ++ [part, []]).map String.ofList := by
  let forward (c : Char) : Char := if c = '\\' then '/' else c
  have kept : ending.map forward = ending := by
    refine (List.map_congr_left fun c member => if_neg ?_).trans (List.map_id ending)
    rintro rfl
    exact absurd (whole _ member) (by decide)
  have absent : '/' ∉ ending := fun member => absurd (whole _ member) (by decide)
  obtain ⟨parts, last, split⟩ := exists_splitOn_append (front.map forward) absent
  have cut : ((front ++ ending ++ ['/']).map forward).splitOn '/' = parts ++ [last ++ ending, []] := by
    have slash : ['/'].map forward = ['/'] := by decide
    rw [List.map_append, List.map_append, kept, slash, List.splitOn_append_cons_self, split,
      List.append_assoc]
    rfl
  have inside : ':' ∈ percentEncode pathSet (last ++ ending) :=
    mem_percentEncode_colon (List.mem_append_right last held)
  obtain ⟨before, resolved⟩ :=
    exists_resolveDots_append [] (parts.map (percentEncode pathSet)) inside
  refine ⟨before, _, inside, ?_⟩
  rw [← resolved, pathParts, cut, List.map_append]
  rfl

/-- A path is more than the root if a part of it is not empty. -/
theorem pathText_ne_of_mem {u : Url} {part : List Char} (member : String.ofList part ∈ u.path)
    (held : ':' ∈ part)
    : u.pathText ≠ "/" := by
  intro root
  have text := congrArg String.toList root
  rw [pathText, String.toList_append, String.toList_intercalate] at text
  have empty : ['/'].intercalate (u.path.map String.toList) = [] := List.append_cancel_left text
  have inside : part ∈ u.path.map String.toList :=
    List.mem_map.2 ⟨String.ofList part, member, String.toList_ofList⟩
  have colon : ':' ∈ ['/'].intercalate (u.path.map String.toList) :=
    Text.subset_intercalate inside held
  rw [empty] at colon
  cases colon

/-- Behind what ends the authority, a colon in front of the last slash is in the path, the query or the
fragment.
-/
theorem IsReadFrom.pathText_ne {scheme : String} {authority front ending : List Char} {sign : Char}
    {u : Url} (read : u.IsReadFrom scheme authority (sign :: (front ++ ending ++ ['/'])))
    (ends : endsAuthority sign) (held : ':' ∈ ending) (whole : ∀ c ∈ ending, isSlash c = false)
    (query : u.query = none) (fragment : u.fragment = none)
    : u.pathText ≠ "/" := by
  obtain ⟨fragmentless, before⟩ :=
    cutAt_eq_none (Option.map_eq_none_iff.1 (read.fragment ▸ fragment))
  have queried := read.query
  have path := read.path
  rw [before] at queried path
  obtain ⟨queryless, all⟩ := cutAt_eq_none (Option.map_eq_none_iff.1 (queried ▸ query))
  have slash : isSlash sign := by
    simp only [List.mem_cons, not_or] at fragmentless queryless
    simpa [endsAuthority, Ne.symm fragmentless.1, Ne.symm queryless.1] using ends
  simp only [all, slash, ↓reduceIte] at path
  obtain ⟨parts, part, inside, resolved⟩ := exists_pathParts front held whole
  exact pathText_ne_of_mem (by rw [path, resolved]; simp) inside

end ColumnStore.Url

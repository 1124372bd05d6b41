/-! A keyed list holds values under names, in an order of its own and no name twice.
Writing to a name that is present keeps its place, and a new name goes to the end.
-/

namespace ColumnStore.Keyed

variable {α : Type}

/-- The list with one value replaced in its place, or the pair added at the end. -/
def set (key : String) (value : α) : List (String × α) → List (String × α)
  | [] => [(key, value)]
  | (k, v) :: rest => if k = key then (k, value) :: rest else (k, v) :: set key value rest

def without (key : String) (pairs : List (String × α)) : List (String × α) :=
  pairs.filter (·.1 ≠ key)

/-- The names after a write: as before, or with the new one at the end. -/
theorem map_fst_set (key : String) (value : α) (pairs : List (String × α))
    : (set key value pairs).map (·.1)
      = if key ∈ pairs.map (·.1) then pairs.map (·.1) else pairs.map (·.1) ++ [key] := by
  induction pairs with
  | nil => rfl
  | cons pair rest ih =>
    obtain ⟨k, v⟩ := pair
    by_cases h : k = key
    · simp [set, h]
    · have hne : key ≠ k := fun e => h e.symm
      simp only [set, h, if_false, List.map_cons, ih, List.mem_cons, hne, false_or]
      split <;> simp

/-- A write keeps the names distinct, as it adds only a name that was absent. -/
theorem nodup_set {pairs : List (String × α)} (key : String) (value : α)
    (h : (pairs.map (·.1)).Nodup)
    : ((set key value pairs).map (·.1)).Nodup := by
  rw [map_fst_set]
  split
  · exact h
  · rename_i absent
    refine List.nodup_append.2 ⟨h, by simp, fun a ha b hb => ?_⟩
    rintro rfl
    exact absent (List.mem_singleton.1 hb ▸ ha)

/-- Taking a name out and putting it first keeps the names distinct. -/
theorem nodup_cons_without {pairs : List (String × α)} (key : String) (value : α)
    (h : (pairs.map (·.1)).Nodup)
    : (((key, value) :: without key pairs).map (·.1)).Nodup := by
  refine List.nodup_cons.2 ⟨?_, ?_⟩
  · simp [without]
  · exact h.sublist (List.filter_sublist.map _)

/-- A name has a value in a keyed list just where the list says so, for no name occurs twice. By
list induction.
-/
theorem lookup_eq_some_iff {κ : Type} [BEq κ] [LawfulBEq κ] {pairs : List (κ × α)}
    (nodup : (pairs.map (·.1)).Nodup) {key : κ} {v : α}
    : pairs.lookup key = some v ↔ (key, v) ∈ pairs := by
  induction pairs with
  | nil => simp
  | cons pair rest ih =>
    obtain ⟨k, w⟩ := pair
    obtain ⟨absent, nodup⟩ := List.nodup_cons.1 nodup
    by_cases same : key = k
    · subst same
      have elsewhere : (key, v) ∉ rest := fun member => absent (List.mem_map.2 ⟨_, member, rfl⟩)
      simp [elsewhere, eq_comm]
    · have different : (key == k) = false := by simpa using same
      simp [List.lookup_cons, different, same, ih nodup]

end ColumnStore.Keyed

import Mathlib.Data.List.Induction
import Mathlib.Logic.Function.Basic
import ColumnStore.Proofs.Record.Columns

/-! A record is an ordered map, however it is edited. That no column occurs twice is checked nowhere, and
yet it is why an edit that takes out the first field of a column takes out all of them, and why sorted
columns have one order only.
-/

namespace ColumnStore

namespace Keyed

variable {α : Type}

theorem lookup_cons_eq (key : String) (value : α) (rest : List (String × α)) (name : String)
    : ((key, value) :: rest).lookup name = if name = key then some value else rest.lookup name := by
  by_cases same : name = key
  · simp [same]
  · have apart : (name == key) = false := beq_false_of_ne same
    rw [List.lookup_cons, apart, if_neg same]

/-- What is written is read under its name, and elsewhere what was there. By list induction. -/
theorem lookup_set (key : String) (value : α) (pairs : List (String × α)) (name : String)
    : (set key value pairs).lookup name = if name = key then some value else pairs.lookup name := by
  induction pairs with
  | nil => rw [set, lookup_cons_eq]
  | cons pair rest ih =>
    obtain ⟨k, v⟩ := pair
    rw [set]
    split
    · rename_i here
      subst here
      rw [lookup_cons_eq, lookup_cons_eq]
      split <;> rfl
    · rename_i elsewhere
      rw [lookup_cons_eq, lookup_cons_eq, ih]
      by_cases first : name = k
      · simp [first, elsewhere]
      · simp [first]

/-- Where no name occurs twice, the first pair under a name is the only one. By list induction. -/
theorem eraseP_eq_without {pairs : List (String × α)} (nodup : (pairs.map (·.1)).Nodup) (key : String)
    : pairs.eraseP (·.1 = key) = without key pairs := by
  induction pairs with
  | nil => rfl
  | cons pair rest ih =>
    obtain ⟨absent, nodup⟩ := List.nodup_cons.1 nodup
    by_cases here : pair.1 = key
    · have others : without key rest = rest := by
        refine List.filter_eq_self.2 fun p member => ?_
        have apart : p.1 ≠ key := fun same =>
          absent (List.mem_map.2 ⟨p, member, same.trans here.symm⟩)
        simpa using apart
      rw [List.eraseP_cons_of_pos (by simpa using here), without,
        List.filter_cons_of_neg (by simpa using here)]
      exact others.symm
    · rw [List.eraseP_cons_of_neg (by simpa using here), ih nodup, without, without,
        List.filter_cons_of_pos (by simpa using here)]

end Keyed

namespace Record

-----------------------------------------------------------------------------------------
-- Edits and what they do
-----------------------------------------------------------------------------------------

/-- A change to a record. -/
inductive Edit where
  /-- Writes a column, in place or as a step of a chain. -/
  | set (column : String) (value : Value)
  /-- Starts anew with the record of some pairs. -/
  | collect (pairs : List Field)
  | sort
  | prepend (column : String) (value : Value)
  | putFirst (column : String) (value : Value)

namespace Edit

def apply : Edit → Record → Record
  | set column value, r => r.set column value
  | collect pairs, _ => .ofList pairs
  | sort, r => r.sorted
  | prepend column value, r => r.prepend column value
  | putFirst column value, r => r.putFirst column value

/-- The edit on fields that may hold a column twice. A write and a prepend go to the first field of the
column, and only putting a column first goes to all.
-/
def rewrite : Edit → List Field → List Field
  | set column value, fields => Keyed.set column value fields
  | collect pairs, _ => pairs.foldl (fun fields p => Keyed.set p.1 p.2 fields) []
  | sort, fields => fields.mergeSort (fun a b => a.1 ≤ b.1)
  | prepend column value, fields =>
    (column, (fields.lookup column).getD value) :: fields.eraseP (·.1 = column)
  | putFirst column value, fields => (column, value) :: fields.filter (·.1 ≠ column)

/-- The edit on a map from columns to values, which has no order. -/
def write : Edit → (String → Option Value) → (String → Option Value)
  | set column value, m => Function.update m column (some value)
  | collect pairs, _ => pairs.foldl (fun m p => Function.update m p.1 (some p.2)) fun _ => none
  | sort, m => m
  | prepend column value, m =>
    if (m column).isSome then m else Function.update m column (some value)
  | putFirst column value, m => Function.update m column (some value)

end Edit

/-- The record after some edits, the first of which finds it empty. -/
def edited (edits : List Edit) : Record :=
  edits.foldl (fun r e => e.apply r) empty

/-- The fields after some edits of fields that may hold a column twice. -/
def rewritten (edits : List Edit) : List Field :=
  edits.foldl (fun fields e => e.rewrite fields) []

/-- The map after some edits. -/
def written (edits : List Edit) : String → Option Value :=
  edits.foldl (fun m e => e.write m) fun _ => none

theorem fields_ofList (pairs : List Field)
    : (ofList pairs).fields = pairs.foldl (fun fields p => Keyed.set p.1 p.2 fields) [] :=
  (List.foldl_hom fields fun _ _ => rfl).symm

/-- An edit of a record edits its fields as it would edit any fields. -/
theorem rewrite_fields (e : Edit) (r : Record)
    : e.rewrite r.fields = (e.apply r).fields := by
  cases e with
  | set column value => rfl
  | collect pairs => exact (fields_ofList pairs).symm
  | sort => rfl
  | prepend column value =>
    -- The first field of the column is taken out, and it is the only one.
    rw [Edit.rewrite, Keyed.eraseP_eq_without r.nodup]
    rfl
  | putFirst column value => rfl

theorem fields_edited (edits : List Edit)
    : (edited edits).fields = rewritten edits :=
  (List.foldl_hom fields fun r e => rewrite_fields e r).symm

-----------------------------------------------------------------------------------------
-- Values
-----------------------------------------------------------------------------------------

theorem get?_set (r : Record) (column : String) (value : Value)
    : (r.set column value).get? = Function.update r.get? column (some value) := by
  funext name
  rw [Function.update_apply]
  exact Keyed.lookup_set column value r.fields name

/-- A column that is put first is written only if it was absent. -/
theorem get?_prepend_eq (r : Record) (column : String) (value : Value)
    : (r.prepend column value).get?
      = if (r.get? column).isSome then r.get? else Function.update r.get? column (some value) := by
  funext name
  rw [get?_prepend]
  cases found : r.get? column with
  | none => simp [Function.update_apply]
  | some own =>
    by_cases same : name = column
    · simp [same, found]
    · simp [same]

/-- An edit of a record writes what it would write to a map. -/
theorem get?_apply (e : Edit) (r : Record)
    : (e.apply r).get? = e.write r.get? := by
  cases e with
  | set column value => exact r.get?_set column value
  | collect pairs => exact (List.foldl_hom get? fun r p => (r.get?_set p.1 p.2).symm).symm
  | sort => exact funext r.get?_sorted
  | prepend column value => exact r.get?_prepend_eq column value
  | putFirst column value =>
    funext name
    rw [Edit.write, Function.update_apply]
    exact r.get?_putFirst column name value

theorem get?_edited (edits : List Edit)
    : (edited edits).get? = written edits :=
  (List.foldl_hom get? fun r e => (get?_apply e r).symm).symm

-----------------------------------------------------------------------------------------
-- Order
-----------------------------------------------------------------------------------------

/-- The fields are those of a list, in the order of the bytes of their columns. -/
structure IsSorting (fields sorted : List Field) : Prop where
  perm : sorted.Perm fields
  ordered : sorted.Pairwise fun a b => Text.Utf8.encode a.1.toList < Text.Utf8.encode b.1.toList

/-- Where an edit puts the columns of a record. -/
def Edit.Arranges (e : Edit) (r s : Record) : Prop :=
  match e with
  | set column _ => s.columns = if column ∈ r.columns then r.columns else r.columns ++ [column]
  | collect pairs => s.columns = (pairs.map (·.1)).eraseDups
  | sort => IsSorting r.fields s.fields ∧ ∀ fields, IsSorting r.fields fields → fields = s.fields
  | prepend column _ | putFirst column _ => s.columns = column :: r.columns.filter (· ≠ column)

theorem columns_set (r : Record) (column : String) (value : Value)
    : (r.set column value).columns
      = if column ∈ r.columns then r.columns else r.columns ++ [column] :=
  Keyed.map_fst_set column value r.fields

/-- Pairs give the columns in the order in which they first come, by induction from the last pair. -/
theorem columns_ofList (pairs : List Field)
    : (ofList pairs).columns = (pairs.map (·.1)).eraseDups := by
  induction pairs using List.reverseRecOn with
  | nil => rfl
  | append_singleton pairs p ih =>
    have last : ofList (pairs ++ [p]) = (ofList pairs).set p.1 p.2 := List.foldl_concat _ _ _ _
    rw [last, columns_set, ih, List.map_append, List.eraseDups_append, List.map_singleton]
    split
    · rename_i known
      have none : [p.1].removeAll (pairs.map (·.1)) = [] := by
        simpa [List.removeAll] using List.mem_eraseDups.1 known
      rw [none, List.eraseDups_nil, List.append_nil]
    · rename_i absent
      have kept : [p.1].removeAll (pairs.map (·.1)) = [p.1] := by
        simpa [List.removeAll] using fun known => absent (List.mem_eraseDups.2 known)
      rw [kept]
      rfl

theorem isSorting_sorted (r : Record)
    : IsSorting r.fields r.sorted.fields where
  perm := r.perm_sorted
  ordered :=
    (List.pairwise_map.1 r.pairwise_columns_sorted).imp fun h =>
      Text.Utf8.encode_lt_iff.2 (String.lt_iff.1 h)

/-- Fields have one order by the bytes of their columns. -/
theorem IsSorting.unique {fields a b : List Field} (left : IsSorting fields a) (right : IsSorting fields b)
    : a = b := by
  refine (left.perm.trans right.perm.symm).eq_of_pairwise ?_ left.ordered right.ordered
  intro x y _ _ below above
  exact absurd above (List.lt_asymm below)

theorem arranges_apply (e : Edit) (r : Record)
    : e.Arranges r (e.apply r) := by
  cases e with
  | set column value => exact r.columns_set column value
  | collect pairs => exact columns_ofList pairs
  | sort => exact ⟨r.isSorting_sorted, fun _ sorting => sorting.unique r.isSorting_sorted⟩
  | prepend column value => exact r.columns_prepend column value
  | putFirst column value => exact r.columns_putFirst column value

/-- However it is edited, a record has its columns once, though no edit looks for them; it reads as a map
that is edited alike; and each edit puts the columns where it says.
-/
theorem edited_isOrderedMap (edits : List Edit)
    : ((edited edits).fields = rewritten edits ∧ ((rewritten edits).map (·.1)).Nodup)
      ∧ (edited edits).get? = written edits
      ∧ ∀ e : Edit, e.Arranges (edited edits) (e.apply (edited edits)) := by
  refine ⟨⟨fields_edited edits, ?_⟩, get?_edited edits, fun e => arranges_apply e (edited edits)⟩
  rw [← fields_edited]
  exact (edited edits).nodup

end Record

end ColumnStore

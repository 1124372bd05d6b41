import ColumnStore.Keyed
import ColumnStore.Toml.Basic

/-! A document grows by one line at a time, and no line may say again what another has said.
A table has at most one header, a key at most one value, and what braces or a header hold is
not extended by dotted keys.
-/

namespace ColumnStore.Toml

/-- A table as it is being filled: how it came about, and its entries. -/
structure Building where
  origin : Origin
  entries : List (String × Toml) := []

namespace Building

def toToml (b : Building) : Toml :=
  .table b.origin b.entries

def put (b : Building) (key : String) (v : Toml) : Building :=
  { b with entries := Keyed.set key v b.entries }

/-- Changes the table at a path. Tables that are missing on the way are made, as implied ones or
for a dotted key as dotted ones; an array of tables stands for its last table.
-/
def changeAt (forKey : Bool) (change : Building → Option Building)
    : List String → Building → Option Building
  | [], b => change b
  | key :: path, b =>
    match b.entries.lookup key with
    | none => do
      let made ← changeAt forKey change path ⟨if forKey then .dotted else .implied, []⟩
      return b.put key made.toToml
    | some (.table origin entries) =>
      if origin = .inLine ∨ (forKey ∧ origin = .header) then none
      else do
        let changed ← changeAt forKey change path ⟨origin, entries⟩
        return b.put key changed.toToml
    | some (.tables elements) =>
      match elements.getLast? with
      | some (.table origin entries) => do
        let changed ← changeAt forKey change path ⟨origin, entries⟩
        return b.put key (.tables (elements.dropLast ++ [changed.toToml]))
      | _ => none
    | some _ => none

/-- Adds a value under a dotted key: the table it goes into is the one at hand or was made by
dotted keys, and has no such key yet.
-/
def addEntry (path : List String) (key : String) (v : Toml) (b : Building) : Option Building :=
  let insert (t : Building) : Option Building :=
    if (t.origin == .dotted) = path.isEmpty ∨ (t.entries.lookup key).isSome then none
    else some (t.put key v)
  changeAt true insert path b

/-- Opens the table of a header, which may be implied so far but not more. -/
def openTable (key : String) (b : Building) : Option Building :=
  match b.entries.lookup key with
  | none => some (b.put key (.table .header []))
  | some (.table .implied entries) => some (b.put key (.table .header entries))
  | some _ => none

def openElement (key : String) (b : Building) : Option Building :=
  match b.entries.lookup key with
  | none => some (b.put key (.tables [.table .header []]))
  | some (.tables elements) => some (b.put key (.tables (elements ++ [.table .header []])))
  | some _ => none

/-- Follows the path of a header to its last key. -/
def openAt (change : String → Building → Option Building) (path : List String)
    (b : Building) : Option Building :=
  match path.getLast? with
  | none => none
  | some key => changeAt false (change key) path.dropLast b

end Building

/-- The table of entries in braces. -/
def inLineTable? (entries : List (List String × String × Toml)) : Option Toml :=
  let add (b : Building) (entry : List String × String × Toml) : Option Building :=
    b.addEntry entry.1 entry.2.1 entry.2.2
  (entries.foldlM add ⟨.inLine, []⟩).map Building.toToml

end ColumnStore.Toml

import ColumnStore.Config.Saved
import ColumnStore.Proofs.Text.Utf8
import ColumnStore.Proofs.Toml.Documents

/-! Saved connections are loaded again as they were, but for their passwords. Nothing of a password is
in the text, which is the same for all of them.
-/

namespace ColumnStore.Config

open Toml

/-- The settings without the one that is not saved. -/
def withoutPassword (c : Config) : Config :=
  { c with password := "" }

/-- The value of a setting as it is found in a saved text. -/
def savedValue? (c : Config) : Setting → Option Toml
  | .name => some (.string c.name)
  | .host => some (.string c.host)
  | .port => some (.integer c.port.toNat)
  | .mode => some (.string (modeWord c.mode))
  | .username => some (.string c.username)
  | .password => none
  | .database => some (.string c.database)
  | .useTls => some (.bool c.useTls)
  | .readOnly => some (.bool c.readOnly)
  | .async => some (.bool c.async)
  | .tablePrefix => some (.string c.tablePrefix)
  | .escaping => some (.string (escapingWord c.escaping))

/-- The entries of a connection in a saved text, in the order of the settings. -/
def savedEntries (c : Config) : List (String × Toml) :=
  Setting.all.filterMap fun s => (c.savedValue? s).map fun v => (s.keys.headD "", v)

-----------------------------------------------------------------------------------------
-- Writing
-----------------------------------------------------------------------------------------

theorem valueText_quoted (s : String)
    : ValueText (.string s) (quoted s).toList := by
  rw [quoted, String.toList_ofList]
  exact .string s

/-- A setting is written as a text of its value, or not at all if it has none. -/
theorem valueText_written (c : Config) (s : Setting)
    : match c.savedValue? s, c.written? s with
      | some v, some w => ValueText v w.toList
      | none, none => True
      | _, _ => False := by
  cases s with
  | name | host | mode | username | database | tablePrefix | escaping => exact valueText_quoted _
  | port =>
    change ValueText (.integer c.port.toNat) (toString c.port.toNat).toList
    rw [toList_toString_nat]
    refine .integer (Nat.lt_trans c.port.toNat_lt (by decide))
  | useTls => exact .bool c.useTls
  | readOnly => exact .bool c.readOnly
  | async => exact .bool c.async
  | password => trivial

theorem isBare_connections
    : IsBare "connections" :=
  ⟨by decide, by simp [isKeyChar]⟩

theorem isBare_key (s : Setting)
    : IsBare (s.keys.headD "") := by
  cases s <;> exact ⟨by decide, by simp [Setting.keys, isKeyChar]⟩

/-- The lines of settings are texts of their entries, by list induction. -/
theorem linesText_settings (c : Config) (settings : List Setting)
    : LinesText
        ((settings.filterMap fun s => (c.savedValue? s).map fun v => (s.keys.headD "", v)).map
          fun (k, v) => Line.entry [] k v)
        (String.join (settings.filterMap fun s =>
          (c.written? s).map fun v => setting (s.keys.headD "") v)).toList := by
  induction settings with
  | nil => exact .nil
  | cons s settings ih =>
    have text := valueText_written c s
    split at text
    · rename_i v w saved written
      have line := LinesText.cons (.setting (isBare_key s) text) ih
      simpa [saved, written, setting] using line
    · rename_i saved written
      simpa [saved, written] using ih
    · exact text.elim

/-- A connection is written as a header and its settings. -/
theorem linesText_lines (c : Config)
    : LinesText (.element ["connections"] :: c.savedEntries.map fun (k, v) => .entry [] k v)
        c.lines.toList := by
  have header : LineText (.element ["connections"]) "[[connections]]\n".toList :=
    .element isBare_connections
  unfold lines
  rw [String.toList_append]
  exact .cons header (linesText_settings c Setting.all)

/-- What is saved is a text of one table for each connection, by list induction. -/
theorem linesText_save {connections : List Config} (present : connections ≠ [])
    : LinesText (elementLines "connections" (connections.map savedEntries))
        (save connections).toList := by
  have joined (c : Config) (others : List Config)
      : LinesText (elementLines "connections" ((c :: others).map savedEntries))
          ("\n".intercalate ((c :: others).map lines)).toList := by
    induction others generalizing c with
    | nil => simpa [elementLines] using linesText_lines c
    | cons d others ih =>
      have rest : LinesText (elementLines "connections" ((d :: others).map savedEntries))
          ('\n' :: ("\n".intercalate ((d :: others).map lines)).toList) :=
        (ih d).apart
      have text : ("\n".intercalate ((c :: d :: others).map lines)).toList
          = c.lines.toList ++ '\n' :: ("\n".intercalate ((d :: others).map lines)).toList := by
        simp
      rw [List.map_cons, elementLines_cons, text]
      exact (linesText_lines c).append rest
  obtain ⟨c, others, rfl⟩ := List.exists_cons_of_ne_nil present
  exact joined c others

-----------------------------------------------------------------------------------------
-- Reading
-----------------------------------------------------------------------------------------

theorem portNumber?_toNat (port : UInt16)
    : portNumber? (.integer port.toNat) = some port := by
  have below : port.toNat < 65536 := port.toNat_lt
  rw [portNumber?, if_pos ⟨by omega, by omega⟩]
  simp

theorem ofWord?_modeWord (mode : Mode)
    : Mode.ofWord? (modeWord mode) = some mode := by
  cases mode <;> rfl

theorem ofWord?_escapingWord (escaping : Escaping)
    : Escaping.ofWord? (escapingWord escaping) = some escaping := by
  cases escaping <;> rfl

/-- A setting is found by the name that it is written under. -/
theorem ofKey?_key (s : Setting)
    : Setting.ofKey? (s.keys.headD "") = some s := by
  cases s <;> decide

/-- The entries of a connection name the settings that are saved, each at most once. -/
theorem filterMap_ofKey? (c : Config)
    : (c.savedEntries.filterMap fun (key, v) => (Setting.ofKey? key).map fun s => (s, v))
      = Setting.all.filterMap fun s => (c.savedValue? s).map fun v => (s, v) := by
  rw [savedEntries, List.filterMap_filterMap]
  refine List.filterMap_congr fun s _ => ?_
  cases c.savedValue? s with
  | none => rfl
  | some v =>
    simp only [Option.map_some, Option.bind_some]
    rw [ofKey?_key]
    rfl

/-- Labels that tell the settings apart tell the saved ones apart. -/
theorem nodup_saved {κ : Type} (label : Setting → κ) (distinct : (Setting.all.map label).Nodup)
    (c : Config)
    : ((Setting.all.filterMap fun s => (c.savedValue? s).map fun v => (label s, v)).map
        (·.1)).Nodup := by
  have kept : (Setting.all.filterMap fun s => (c.savedValue? s).map fun v => (label s, v)).map (·.1)
      = (Setting.all.filter fun s => (c.savedValue? s).isSome).map label := by
    rw [List.map_filterMap, ← List.filterMap_eq_filter, List.map_filterMap]
    refine List.filterMap_congr fun s _ => ?_
    cases h : c.savedValue? s <;> simp [Option.guard, h]
  rw [kept]
  exact distinct.sublist (List.filter_sublist.map label)

theorem nodup_savedEntries (c : Config)
    : (c.savedEntries.map (·.1)).Nodup :=
  nodup_saved (fun s => s.keys.headD "") (by decide) c

/-- The entries of a connection are its settings, and the password is the default one. -/
theorem ofEntries?_savedEntries (c : Config)
    : ofEntries? c.savedEntries = some c.withoutPassword := by
  have distinct := nodup_saved id (by decide) c
  simp only [id_eq] at distinct
  rw [ofEntries?]
  simp only [filterMap_ofKey?, distinct, if_true]
  simp [Setting.all, savedValue?, assign?, text?, truth?, word?, portNumber?_toNat,
    ofWord?_modeWord, ofWord?_escapingWord, withoutPassword]

theorem mapM_ofToml? (connections : List Config)
    : ((connections.map savedEntries).map (.table .header)).mapM ofToml?
      = some (connections.map withoutPassword) := by
  induction connections with
  | nil => rfl
  | cons c others ih =>
    have first : ofToml? (.table .header c.savedEntries) = some c.withoutPassword :=
      ofEntries?_savedEntries c
    simp only [List.map_cons, List.mapM_cons, first, ih]
    rfl

/-- A saved text is a document of one list, which holds a table for each connection. No connections are
written as a list without items, as there is no header then.
-/
theorem parse?_save (connections : List Config)
    : ∃ v, parse? (save connections) = some [("connections", v)]
      ∧ elements? v = some ((connections.map savedEntries).map (.table .header)) := by
  cases connections with
  | nil =>
    have text : LinesText [.entry [] "connections" (.array [])] (save []).toList :=
      .cons (.setting isBare_connections .empty) .nil
    have document := parse?_linesText text
    rw [String.ofList_toList] at document
    exact ⟨_, document, rfl⟩
  | cons c others =>
    have distinct : ∀ entries ∈ (c :: others).map savedEntries, (entries.map (·.1)).Nodup := by
      intro entries member
      obtain ⟨d, -, rfl⟩ := List.mem_map.1 member
      exact d.nodup_savedEntries
    have document := parse?_elementLines (by simp) distinct (linesText_save (List.cons_ne_nil c others))
    rw [String.ofList_toList] at document
    exact ⟨_, document, rfl⟩

theorem loadText_save (connections : List Config)
    : loadText (save connections) = .ok (connections.map withoutPassword) := by
  obtain ⟨v, document, tables⟩ := parse?_save connections
  have found : [("connections", v)].lookup "connections" = some v := by simp
  simp only [loadText, document, Option.bind_eq_bind, Option.bind_some, found, tables, mapM_ofToml?]

-----------------------------------------------------------------------------------------
-- Passwords
-----------------------------------------------------------------------------------------

/-- What is written does not depend on passwords. -/
theorem save_map_withoutPassword (connections : List Config)
    : save (connections.map withoutPassword) = save connections := by
  have same (c : Config) : c.withoutPassword.lines = c.lines := by
    have values : c.withoutPassword.written? = c.written? := by
      funext s
      cases s <;> rfl
    unfold lines
    rw [values]
  cases connections with
  | nil => rfl
  | cons c others =>
    simp only [List.map_cons, save, List.map_map, Function.comp_def, same]

/-- What is saved of connections is loaded as they were, in their order, but for the passwords; and these
are not in the text, as other passwords give the same one.
-/
theorem load_save (connections : List Config)
    : load (some (Text.Utf8.encode (save connections).toList))
        = .ok (connections.map withoutPassword)
      ∧ ∀ others : List Config, others.map withoutPassword = connections.map withoutPassword
        → save others = save connections := by
  refine ⟨?_, fun others alike => ?_⟩
  · rw [load, Text.Utf8.decode?_encode]
    exact (congrArg loadText String.ofList_toList).trans (loadText_save connections)
  · rw [← save_map_withoutPassword others, alike, save_map_withoutPassword]

/-- A connection with quotes and a line end in its name comes back without its password, and with another
password it is saved by the same text.
-/
theorem load_save_secret
    : load (some (Text.Utf8.encode (save [{ name := "it's \"\"\"\n", password := "secret" }]).toList))
        = .ok [{ name := "it's \"\"\"\n" }]
      ∧ save [{ name := "it's \"\"\"\n", password := "other" }]
        = save [{ name := "it's \"\"\"\n", password := "secret" }] :=
  have saved := load_save [{ name := "it's \"\"\"\n", password := "secret" }]
  ⟨saved.1, saved.2 [{ name := "it's \"\"\"\n", password := "other" }] rfl⟩

end ColumnStore.Config

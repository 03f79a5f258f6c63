import Mathlib
import EntryCoverage.ConfigFile

/-!
# Layers of Settings

Which value a setting gets, out of three layers that know absence in different ways.

An override counts if it is there and not null, whatever else it is. Under it lies the table
of one project file: of the directory where the search begins, or else of the nearest one
above it that has such a file (`Nearest`). It is this file that counts, even if it has no table
of settings, and then the layer is empty (`SettingsIn`). The defaults are last. So for each
setting there is one value that is given, or none (`Layer`), and the settings are made of these
values and of nothing else: what is under other keys does not matter.

A value that is given for a setting is checked for that setting alone, so settings cannot be
made exactly if one of the values would be refused without all the others, and what is said is
what would be said about each of them (`ofValues_eq_error_iff`).

## Main definitions

* `Nearest`: What is in the nearest project file.
* `SettingsIn`: The table of settings in a document.
* `HoldsAt`: The table of settings that holds at a place.
* `Misread`: Why none does.
* `Layer`: The value that is given for a setting.
* `Settled`: Settings that are made of given values.
* `faultsOf`: What is wrong with given values.
* `LoadsLayers`: Settings that are loaded in layers.

## Theorems

* `projectFile?_eq_some_iff`, `projectFile?_eq_none_iff`: The project file that is found.
* `fileTable_eq_ok_iff`, `fileTable_eq_error_iff`: The table that is read.
* `layer_iff`: The values that win.
* `ofValues_eq_ok_iff`, `ofValues_eq_error_iff`: What settings values make.
* `load_layers`: The settings that hold in a directory.
-/

namespace EntryCoverage

namespace Config

/-! ### The nearest project file -/

/-- A directory has a project file with some content. -/
def HasProjectFile (t : FileTree) (l : Location) (content : ByteArray) : Prop :=
  t.find? (l ++ [projectFileName]) = some (.file content)

/-- What is in the nearest project file of a place: in the one there, or, if there is none, in
    the nearest one of the place above. -/
inductive Nearest (t : FileTree) : Location → ByteArray → Prop
  | here {l : Location} {content : ByteArray} (h : HasProjectFile t l content) :
      Nearest t l content
  | above {l : Location} {name : String} {content : ByteArray}
      (hnone : ∀ c, ¬ HasProjectFile t (l ++ [name]) c) (h : Nearest t l content) :
      Nearest t (l ++ [name]) content

theorem projectFileAt?_eq_some_iff {t : FileTree} {l : Location} {content : ByteArray} :
    projectFileAt? t l = some content ↔ HasProjectFile t l content := by
  unfold projectFileAt? HasProjectFile
  split
  · rename_i found hfind
    rw [hfind, Option.some.injEq, Option.some.injEq, Entry.file.injEq]
  · rename_i hno
    exact iff_of_false (by simp only [reduceCtorEq, not_false_eq_true]) (hno content)

theorem projectFileAt?_eq_none_iff {t : FileTree} {l : Location} :
    projectFileAt? t l = none ↔ ∀ content, ¬ HasProjectFile t l content := by
  rw [Option.eq_none_iff_forall_ne_some]
  simp only [ne_eq, projectFileAt?_eq_some_iff]

/-- Above a place in a directory are that directory and the places above it. -/
theorem upward_concat (l : Location) (name : String) :
    upward (l ++ [name]) = (l ++ [name]) :: upward l := by
  have hlength : (l ++ [name]).length = l.length + 1 := List.length_append
  rw [upward, upward, hlength, List.range_succ, List.reverse_append, List.map_append]
  have hinner : ((List.range (l.length + 1)).reverse.map fun n => (l ++ [name]).take n) =
      (List.range (l.length + 1)).reverse.map fun n => l.take n := by
    refine List.map_congr_left fun n hn => ?_
    rw [List.mem_reverse, List.mem_range] at hn
    exact List.take_append_of_le_length (by omega)
  rw [hinner, List.reverse_singleton, List.map_singleton, ← hlength, List.take_length,
    List.singleton_append]

theorem findSome?_upward_iff {t : FileTree} {l : Location} {content : ByteArray} :
    (upward l).findSome? (projectFileAt? t) = some content ↔ Nearest t l content := by
  induction l using List.reverseRecOn with
  | nil =>
      have htop : (upward []).findSome? (projectFileAt? t) = projectFileAt? t [] := by
        simp [upward]
      rw [htop, projectFileAt?_eq_some_iff]
      refine ⟨.here, fun h => ?_⟩
      generalize hl : ([] : Location) = l at h
      cases h with
      | here h => exact h
      | above _ _ => exact absurd hl.symm (by simp)
  | append_singleton l name ih =>
      rw [upward_concat, List.findSome?_cons]
      cases hhere : projectFileAt? t (l ++ [name]) with
      | some found =>
          have hfound := projectFileAt?_eq_some_iff.1 hhere
          rw [Option.some.injEq]
          constructor
          · rintro rfl
            exact .here hfound
          · intro h
            generalize hl : l ++ [name] = m at h hfound
            cases h with
            | here h =>
                rw [HasProjectFile, h, Option.some.injEq, Entry.file.injEq] at hfound
                exact hfound.symm
            | above hnone _ => exact absurd hfound (hnone found)
      | none =>
          have hnone := projectFileAt?_eq_none_iff.1 hhere
          rw [ih]
          refine ⟨.above hnone, fun h => ?_⟩
          generalize hl : l ++ [name] = m at h hnone
          cases h with
          | here h => exact absurd h (hnone content)
          | above _ h =>
              rw [(List.append_inj' hl rfl).1]
              exact h

theorem projectFile?_eq_some_iff {t : FileTree} {search : Path} {content : ByteArray} :
    projectFile? t search = some content ↔ Nearest t (t.resolve search) content :=
  findSome?_upward_iff

/-- No project file is found exactly if neither the directory nor any above it has one. -/
theorem projectFile?_eq_none_iff {t : FileTree} {search : Path} :
    projectFile? t search = none ↔
      ∀ l below, t.resolve search = l ++ below → ∀ content, ¬ HasProjectFile t l content := by
  rw [projectFile?, List.findSome?_eq_none_iff]
  simp only [projectFileAt?_eq_none_iff, mem_upward, forall_exists_index]

/-! ### The table of settings -/

/-- The table of settings in a document: the one under its two keys, or an empty one if one of
    them is not there. -/
inductive SettingsIn (document : List (String × Value)) : List (String × Value) → Prop
  | toolless (h : document.lookup "tool" = none) : SettingsIn document []
  | bare {tool : List (String × Value)} (h : document.lookup "tool" = some (.table tool))
      (hnone : tool.lookup "prodcov" = none) : SettingsIn document []
  | table {tool table : List (String × Value)} (h : document.lookup "tool" = some (.table tool))
      (htable : tool.lookup "prodcov" = some (.table table)) : SettingsIn document table

/-- The table of settings that holds at a place: that of the nearest project file, or an empty
    one if there is none. -/
inductive HoldsAt (t : FileTree) (l : Location) : List (String × Value) → Prop
  | fileless (h : ∀ m below, l = m ++ below → ∀ content, ¬ HasProjectFile t m content) :
      HoldsAt t l []
  | file {content : ByteArray} {text : String} {document table : List (String × Value)}
      (h : Nearest t l content) (htext : String.fromUTF8? content = some text)
      (hdocument : Toml.parse? text = some document) (htable : SettingsIn document table) :
      HoldsAt t l table

/-- Why no table of settings holds at a place: that of the nearest project file cannot be
    told. -/
inductive Misread (t : FileTree) (l : Location) : LoadError → Prop
  | notText {content : ByteArray} (h : Nearest t l content)
      (htext : String.fromUTF8? content = none) : Misread t l .notText
  | malformed {content : ByteArray} {text : String} (h : Nearest t l content)
      (htext : String.fromUTF8? content = some text) (hdocument : Toml.parse? text = none) :
      Misread t l .malformed
  | notATable {content : ByteArray} {text : String} {document : List (String × Value)}
      (h : Nearest t l content) (htext : String.fromUTF8? content = some text)
      (hdocument : Toml.parse? text = some document)
      (hnone : ∀ table, ¬ SettingsIn document table) : Misread t l .notATable

theorem Misread.nearest {t : FileTree} {l : Location} {reason : LoadError}
    (h : Misread t l reason) : ∃ content, Nearest t l content := by
  cases h with
  | notText h _ => exact ⟨_, h⟩
  | malformed h _ _ => exact ⟨_, h⟩
  | notATable h _ _ _ => exact ⟨_, h⟩

theorem Misread.ne_invalid {t : FileTree} {l : Location} {reason : LoadError}
    (h : Misread t l reason) (faults : List FieldError) : reason ≠ .invalid faults := by
  cases h <;> simp only [ne_eq, reduceCtorEq, not_false_eq_true]

theorem find?_key_eq (key : String) (entries : List (String × Value)) :
    (entries.find? (·.1 == key)).map (·.2) = entries.lookup key := by
  induction entries with
  | nil => rfl
  | cons e entries ih =>
      rcases e with ⟨k, v⟩
      rw [List.find?_cons, List.lookup_cons]
      by_cases hkey : k = key
      · subst hkey
        simp only [beq_self_eq_true, Option.map_some]
      · simp only [beq_eq_false_iff_ne.2 hkey, beq_eq_false_iff_ne.2 (Ne.symm hkey), ih]

theorem subtable_eq_ok_iff {key : String} {entries inner : List (String × Value)} :
    subtable key entries = .ok inner ↔
      entries.lookup key = none ∧ inner = [] ∨ entries.lookup key = some (.table inner) := by
  rw [← find?_key_eq]
  unfold subtable
  split
  · rename_i hfind
    simp [hfind, eq_comm]
  · rename_i found hfind
    simp [hfind]
  · rename_i e hno hfind
    rw [hfind]
    simp only [reduceCtorEq, Option.map_some, Option.some.injEq, false_and, false_or, false_iff]
    exact fun hc => hno e.1 inner (Prod.ext rfl hc)

theorem subtables_eq_ok_iff {document table : List (String × Value)} :
    (subtable "tool" document).bind (subtable "prodcov") = .ok table ↔
      SettingsIn document table := by
  constructor
  · intro h
    rcases hok : subtable "tool" document with e | tool
    · rw [hok] at h
      simp only [Except.bind, reduceCtorEq] at h
    · rw [hok] at h
      change subtable "prodcov" tool = .ok table at h
      rcases subtable_eq_ok_iff.1 hok with ⟨hnone, rfl⟩ | htool
      · rcases subtable_eq_ok_iff.1 h with ⟨-, rfl⟩ | hc
        · exact .toolless hnone
        · simp only [List.lookup_nil, reduceCtorEq] at hc
      · rcases subtable_eq_ok_iff.1 h with ⟨hnone, rfl⟩ | htable
        · exact .bare htool hnone
        · exact .table htool htable
  · intro h
    cases h with
    | toolless h =>
        rw [subtable_eq_ok_iff.2 (.inl ⟨h, rfl⟩)]
        rfl
    | bare h hnone =>
        rw [subtable_eq_ok_iff.2 (.inr h)]
        exact subtable_eq_ok_iff.2 (.inl ⟨hnone, rfl⟩)
    | table h htable =>
        rw [subtable_eq_ok_iff.2 (.inr h)]
        exact subtable_eq_ok_iff.2 (.inr htable)

/-- The table that is read is the one that holds. -/
theorem fileTable_eq_ok_iff {t : FileTree} {search : Path} {table : List (String × Value)} :
    fileTable t search = .ok table ↔ HoldsAt t (t.resolve search) table := by
  unfold fileTable
  cases hfile : projectFile? t search with
  | none =>
      have hnone := projectFile?_eq_none_iff.1 hfile
      simp only [Except.ok.injEq]
      constructor
      · rintro rfl
        exact .fileless hnone
      · intro h
        cases h with
        | fileless _ => rfl
        | file hnearest _ _ _ =>
            rw [projectFile?_eq_some_iff.2 hnearest] at hfile
            simp only [reduceCtorEq] at hfile
  | some content =>
      have hnearest := projectFile?_eq_some_iff.1 hfile
      simp only [tableOf]
      constructor
      · intro h
        split at h
        · simp only [reduceCtorEq] at h
        · rename_i text htext
          split at h
          · simp only [reduceCtorEq] at h
          · rename_i document hdocument
            exact .file hnearest htext hdocument (subtables_eq_ok_iff.1 h)
      · intro h
        cases h with
        | fileless hnone =>
            rw [projectFile?_eq_none_iff.2 hnone] at hfile
            simp only [reduceCtorEq] at hfile
        | file hnearest' htext hdocument htable =>
            rw [projectFile?_eq_some_iff.2 hnearest', Option.some.injEq] at hfile
            subst hfile
            simp only [htext, hdocument]
            exact subtables_eq_ok_iff.2 htable

/-- Something stands where the settings should that is no table, if the document has no table of
    settings. -/
theorem subtables_eq_error_iff {document : List (String × Value)} {reason : LoadError} :
    (subtable "tool" document).bind (subtable "prodcov") = .error reason ↔
      reason = .notATable ∧ ∀ table, ¬ SettingsIn document table := by
  have hreason : ∀ {key entries e}, subtable key entries = .error e → e = .notATable := by
    intro key entries e h
    unfold subtable at h
    split at h
    · simp only [reduceCtorEq] at h
    · simp only [reduceCtorEq] at h
    · exact (Except.error.inj h).symm
  simp only [← subtables_eq_ok_iff]
  cases htool : subtable "tool" document with
  | error e =>
      have htool := hreason htool
      simp only [Except.bind, Except.error.injEq, reduceCtorEq, not_false_eq_true, implies_true,
        and_true, htool, eq_comm]
  | ok tool =>
      cases htable : subtable "prodcov" tool with
      | error e =>
          have htable' := hreason htable
          simp only [Except.bind, htable, Except.error.injEq, reduceCtorEq, not_false_eq_true,
            implies_true, and_true, htable', eq_comm]
      | ok table =>
          simp only [Except.bind, htable, reduceCtorEq, Except.ok.injEq, false_iff, not_and,
            not_forall, not_not]
          exact fun _ => ⟨table, rfl⟩

theorem fileTable_eq_error_iff {t : FileTree} {search : Path} {reason : LoadError} :
    fileTable t search = .error reason ↔ Misread t (t.resolve search) reason := by
  unfold fileTable
  cases hfile : projectFile? t search with
  | none =>
      refine iff_of_false (by simp only [reduceCtorEq, not_false_eq_true]) fun h => ?_
      rcases h.nearest with ⟨content, hnearest⟩
      rw [projectFile?_eq_some_iff.2 hnearest] at hfile
      simp only [reduceCtorEq] at hfile
  | some content =>
      have hnearest := projectFile?_eq_some_iff.1 hfile
      have hsame : ∀ {other}, Nearest t (t.resolve search) other → other = content := by
        intro other hother
        exact Option.some.inj ((projectFile?_eq_some_iff.2 hother).symm.trans hfile)
      simp only [tableOf]
      constructor
      · intro h
        split at h
        · rename_i htext
          rw [← Except.error.inj h]
          exact .notText hnearest htext
        · rename_i text htext
          split at h
          · rename_i hdocument
            rw [← Except.error.inj h]
            exact .malformed hnearest htext hdocument
          · rename_i document hdocument
            rcases subtables_eq_error_iff.1 h with ⟨rfl, hnone⟩
            exact .notATable hnearest htext hdocument hnone
      · intro h
        cases h with
        | notText h htext =>
            cases hsame h
            simp only [htext]
        | malformed h htext hdocument =>
            cases hsame h
            simp only [htext, hdocument]
        | notATable h htext hdocument hnone =>
            cases hsame h
            simp only [htext, hdocument]
            exact subtables_eq_error_iff.2 ⟨rfl, hnone⟩

/-! ### The value that is given -/

/-- The value that is given for a setting, or that none is: its override, unless that is null;
    or else what the table has under its name. -/
inductive Layer (table overrides : List (String × Value)) (name : String) : Option Value → Prop
  | override {value : Value} (h : (name, value) ∈ overrides) (hvalue : value ≠ .null) :
      Layer table overrides name (some value)
  | table {value : Value} (h : ∀ v, (name, v) ∈ overrides → v = .null)
      (htable : table.lookup name = some value) : Layer table overrides name (some value)
  | default (h : ∀ v, (name, v) ∈ overrides → v = .null) (hnone : table.lookup name = none) :
      Layer table overrides name none

theorem isNull_iff {value : Value} : isNull value = true ↔ value = .null := by
  cases value <;> simp [isNull]

theorem lookup_eq_some_iff_mem {entries : List (String × Value)} {name : String} {value : Value}
    (hkeys : (entries.map (·.1)).Nodup) :
    entries.lookup name = some value ↔ (name, value) ∈ entries := by
  constructor
  · intro h
    rcases List.lookup_eq_some_iff.1 h with ⟨before, after, rfl, -⟩
    exact List.mem_append_right _ List.mem_cons_self
  · intro h
    rcases List.append_of_mem h with ⟨before, after, rfl⟩
    rw [List.map_append, List.map_cons, List.nodup_append] at hkeys
    refine List.lookup_eq_some_iff.2 ⟨before, after, rfl, fun p hp => bne_iff_ne.2 fun hname => ?_⟩
    exact hkeys.2.2 p.1 (List.mem_map_of_mem hp) name List.mem_cons_self hname.symm

/-- The overrides that count. -/
theorem lookup_given {overrides : List (String × Value)} {name : String} {value : Value}
    (hkeys : (overrides.map (·.1)).Nodup) :
    (overrides.filter fun e => !isNull e.2).lookup name = some value ↔
      (name, value) ∈ overrides ∧ value ≠ .null := by
  have hgiven : ((overrides.filter fun e => !isNull e.2).map (·.1)).Nodup :=
    hkeys.sublist (List.filter_sublist.map _)
  rw [lookup_eq_some_iff_mem hgiven, List.mem_filter, Bool.not_eq_true', ← Bool.not_eq_true,
    isNull_iff]

theorem lookup_filter_name (keep : String → Bool) (entries : List (String × Value))
    (name : String) : (entries.filter fun e => keep e.1).lookup name =
      if keep name then entries.lookup name else none := by
  induction entries with
  | nil => simp
  | cons e entries ih =>
      rcases e with ⟨k, v⟩
      by_cases hkey : name = k
      · subst hkey
        cases hkeep : keep name <;> simp [hkeep, ih]
      · have hne : (name == k) = false := beq_eq_false_iff_ne.2 hkey
        cases hkeep : keep k <;> simp [hkeep, ih, List.lookup_cons, hne]

/-- What wins under the name of a setting is what the layers give for it. -/
theorem layer_iff {table overrides : List (String × Value)} {name : String}
    {given : Option Value} (hkeys : (overrides.map (·.1)).Nodup) (hname : name ∈ fieldNames) :
    Layer table overrides name given ↔ (layered table overrides).lookup name = given := by
  have hnone : (overrides.filter fun e => !isNull e.2).lookup name = none ↔
      ∀ v, (name, v) ∈ overrides → v = .null := by
    rw [Option.eq_none_iff_forall_ne_some]
    simp only [ne_eq, lookup_given hkeys, not_and, not_not]
  have hany : (overrides.filter fun e => !isNull e.2).lookup name = none →
      (overrides.filter fun e => !isNull e.2).any (·.1 == name) = false := by
    intro h
    rw [List.any_eq_false]
    intro e he hc
    exact bne_iff_ne.1 (List.lookup_eq_none_iff.1 h e he) (beq_iff_eq.1 hc).symm
  rw [layered, List.lookup_append, lookup_filter_name fun k =>
    fieldNames.contains k && !(overrides.filter fun e => !isNull e.2).any (·.1 == k)]
  cases hgiven : (overrides.filter fun e => !isNull e.2).lookup name with
  | some value =>
      have hvalue := (lookup_given hkeys).1 hgiven
      rw [Option.some_or]
      constructor
      · intro h
        cases h with
        | override h hnull =>
            rw [← hgiven, (lookup_given hkeys).2 ⟨h, hnull⟩]
        | table h _ => exact absurd (h value hvalue.1) hvalue.2
        | default h _ => exact absurd (h value hvalue.1) hvalue.2
      · rintro rfl
        exact .override hvalue.1 hvalue.2
  | none =>
      have hnulls := hnone.1 hgiven
      rw [hany hgiven, List.contains_iff_mem.2 hname, Option.none_or]
      simp only [Bool.not_false, Bool.and_self, if_true]
      constructor
      · intro h
        cases h with
        | override h hnull => exact absurd (hnulls _ h) hnull
        | table _ htable => exact htable
        | default _ hnone => exact hnone
      · rintro rfl
        cases htable : table.lookup name with
        | some value => exact .table hnulls htable
        | none => exact .default hnulls htable

/-! ### Settings of given values -/

/-- A setting is what is read from the value that is given for it, or its default. -/
def Takes {α : Type} (read : Value → Except Fault α) (default : α) : Option Value → α → Prop
  | none, a => a = default
  | some value, a => read value = .ok a

/-- Settings that are made of given values, each of its own. -/
structure Settled (given : String → Option Value) (config : Config) : Prop where
  hookFileName : Takes nonEmptyField "instrument_code.py" (given "hook_file_name")
    config.hookFileName
  hookNamespace : Takes namespaceField "instrument_code" (given "hook_namespace")
    config.hookNamespace
  hookInstance : Takes identifierField "instrument_code_instance" (given "hook_instance")
    config.hookInstance
  hookMethod : Takes identifierField "instrument_code" (given "hook_method") config.hookMethod
  anonymousName : Takes nonEmptyField "Anonymous" (given "anonymous_name") config.anonymousName
  instrumentLambdas : Takes Field.flag true (given "instrument_lambdas") config.instrumentLambdas
  injectHookImport : Takes Field.flag true (given "inject_hook_import") config.injectHookImport

/-- What is said about settings of which one value is given, if they cannot be made. -/
def faultsFor (name : String) : Option Value → List FieldError
  | none => []
  | some value =>
      match ofValues [(name, value)] with
      | .ok _ => []
      | .error faults => faults

/-- What is said about given values, each by itself, in the order of the settings. -/
def faultsOf (given : String → Option Value) : List FieldError :=
  fieldNames.flatMap fun name => faultsFor name (given name)

theorem field_eq {α : Type} (values : List (String × Value)) (name : String) (default : α)
    (read : Value → Except Fault α) :
    field values name default read =
      match values.lookup name with
      | none => .ok default
      | some value => read value := by
  rw [field, ← find?_key_eq]
  cases values.find? (·.1 == name) <;> rfl

theorem field_eq_ok_iff {α : Type} {values : List (String × Value)} {name : String}
    {default a : α} {read : Value → Except Fault α} :
    field values name default read = .ok a ↔ Takes read default (values.lookup name) a := by
  rw [field_eq]
  cases values.lookup name with
  | none => rw [Takes, Except.ok.injEq, eq_comm]
  | some value => rw [Takes]

theorem ofValues_eq_ok_iff {values : List (String × Value)} {config : Config} :
    ofValues values = .ok config ↔ Settled (fun name => values.lookup name) config := by
  unfold ofValues
  constructor
  · intro h
    dsimp only at h
    split at h
    · rename_i h₁ h₂ h₃ h₄ h₅ h₆ h₇
      rw [Except.ok.injEq] at h
      subst h
      exact ⟨field_eq_ok_iff.1 h₁, field_eq_ok_iff.1 h₂, field_eq_ok_iff.1 h₃,
        field_eq_ok_iff.1 h₄, field_eq_ok_iff.1 h₅, field_eq_ok_iff.1 h₆, field_eq_ok_iff.1 h₇⟩
    · simp only [reduceCtorEq] at h
  · rintro ⟨h₁, h₂, h₃, h₄, h₅, h₆, h₇⟩
    dsimp only
    rw [field_eq_ok_iff.2 h₁, field_eq_ok_iff.2 h₂, field_eq_ok_iff.2 h₃, field_eq_ok_iff.2 h₄,
      field_eq_ok_iff.2 h₅, field_eq_ok_iff.2 h₆, field_eq_ok_iff.2 h₇]

theorem faultOf_eq_nil_iff {α : Type} {name : String} {taken : Except Fault α} :
    faultOf name taken = [] ↔ ∃ a, taken = .ok a := by
  cases taken <;> simp [faultOf]

/-- Only a setting's own value is refused if it alone is given. -/
theorem faultsFor_some (value : Value) :
    faultsFor "hook_file_name" (some value) = faultOf "hook_file_name" (nonEmptyField value) ∧
    faultsFor "hook_namespace" (some value) = faultOf "hook_namespace" (namespaceField value) ∧
    faultsFor "hook_instance" (some value) = faultOf "hook_instance" (identifierField value) ∧
    faultsFor "hook_method" (some value) = faultOf "hook_method" (identifierField value) ∧
    faultsFor "anonymous_name" (some value) = faultOf "anonymous_name" (nonEmptyField value) ∧
    faultsFor "instrument_lambdas" (some value) =
      faultOf "instrument_lambdas" (Field.flag value) ∧
    faultsFor "inject_hook_import" (some value) =
      faultOf "inject_hook_import" (Field.flag value) := by
  refine ⟨?_, ?_, ?_, ?_, ?_, ?_, ?_⟩
  · cases h : nonEmptyField value <;> simp [faultsFor, ofValues, field, faultOf, h]
  · cases h : namespaceField value <;> simp [faultsFor, ofValues, field, faultOf, h]
  · cases h : identifierField value <;> simp [faultsFor, ofValues, field, faultOf, h]
  · cases h : identifierField value <;> simp [faultsFor, ofValues, field, faultOf, h]
  · cases h : nonEmptyField value <;> simp [faultsFor, ofValues, field, faultOf, h]
  · cases h : Field.flag value <;> simp [faultsFor, ofValues, field, faultOf, h]
  · cases h : Field.flag value <;> simp [faultsFor, ofValues, field, faultOf, h]

theorem faultOf_field {α : Type} {values : List (String × Value)} {name : String} {default : α}
    {read : Value → Except Fault α}
    (h : ∀ value, faultsFor name (some value) = faultOf name (read value)) :
    faultOf name (field values name default read) = faultsFor name (values.lookup name) := by
  rw [field_eq]
  cases values.lookup name with
  | none => rfl
  | some value => exact (h value).symm

/-- What is wrong with values is what is wrong with the value of each setting. -/
theorem faultsOf_lookup (values : List (String × Value)) :
    faultsOf (fun name => values.lookup name) =
      faultOf "hook_file_name"
          (field values "hook_file_name" "instrument_code.py" nonEmptyField) ++
        faultOf "hook_namespace"
          (field values "hook_namespace" "instrument_code" namespaceField) ++
        faultOf "hook_instance"
          (field values "hook_instance" "instrument_code_instance" identifierField) ++
        faultOf "hook_method" (field values "hook_method" "instrument_code" identifierField) ++
        faultOf "anonymous_name" (field values "anonymous_name" "Anonymous" nonEmptyField) ++
        faultOf "instrument_lambdas" (field values "instrument_lambdas" true Field.flag) ++
        faultOf "inject_hook_import" (field values "inject_hook_import" true Field.flag) := by
  rw [faultOf_field fun v => (faultsFor_some v).1, faultOf_field fun v => (faultsFor_some v).2.1,
    faultOf_field fun v => (faultsFor_some v).2.2.1,
    faultOf_field fun v => (faultsFor_some v).2.2.2.1,
    faultOf_field fun v => (faultsFor_some v).2.2.2.2.1,
    faultOf_field fun v => (faultsFor_some v).2.2.2.2.2.1,
    faultOf_field fun v => (faultsFor_some v).2.2.2.2.2.2]
  simp only [faultsOf, fieldNames, List.flatMap_cons, List.flatMap_nil, List.append_nil,
    List.append_assoc]

/-- Settings cannot be made of values exactly if one of them would be refused by itself, and
    then all that is said about them is said. -/
theorem ofValues_eq_error_iff {values : List (String × Value)} {faults : List FieldError} :
    ofValues values = .error faults ↔
      faultsOf (fun name => values.lookup name) ≠ [] ∧
        faults = faultsOf fun name => values.lookup name := by
  rw [faultsOf_lookup]
  unfold ofValues
  dsimp only
  split
  · rename_i h₁ h₂ h₃ h₄ h₅ h₆ h₇
    rw [h₁, h₂, h₃, h₄, h₅, h₆, h₇]
    simp [faultOf]
  · rename_i hno
    rw [Except.error.injEq, eq_comm (a := faults)]
    refine (and_iff_right fun hnil => ?_).symm
    simp only [List.append_eq_nil_iff, faultOf_eq_nil_iff] at hnil
    rcases hnil with ⟨⟨⟨⟨⟨⟨⟨_, h₁⟩, _, h₂⟩, _, h₃⟩, _, h₄⟩, _, h₅⟩, _, h₆⟩, _, h₇⟩
    exact hno _ _ _ _ _ _ _ h₁ h₂ h₃ h₄ h₅ h₆ h₇

/-! ### Loading -/

theorem Settled.congr {given given' : String → Option Value} {config : Config}
    (h : ∀ name ∈ fieldNames, given name = given' name) (hsettled : Settled given config) :
    Settled given' config where
  hookFileName := h "hook_file_name" (by decide) ▸ hsettled.hookFileName
  hookNamespace := h "hook_namespace" (by decide) ▸ hsettled.hookNamespace
  hookInstance := h "hook_instance" (by decide) ▸ hsettled.hookInstance
  hookMethod := h "hook_method" (by decide) ▸ hsettled.hookMethod
  anonymousName := h "anonymous_name" (by decide) ▸ hsettled.anonymousName
  instrumentLambdas := h "instrument_lambdas" (by decide) ▸ hsettled.instrumentLambdas
  injectHookImport := h "inject_hook_import" (by decide) ▸ hsettled.injectHookImport

theorem faultsOf_congr {given given' : String → Option Value}
    (h : ∀ name ∈ fieldNames, given name = given' name) : faultsOf given = faultsOf given' := by
  refine List.flatMap_congr fun name hname => ?_
  rw [h name hname]

/-- Values under the names of settings are all that settings are made of. -/
theorem ofValues_congr {values values' : List (String × Value)}
    (h : ∀ name ∈ fieldNames, values.lookup name = values'.lookup name) :
    ofValues values = ofValues values' := by
  cases hvalues : ofValues values' with
  | ok config =>
      refine ofValues_eq_ok_iff.2 (Settled.congr (fun name hname => (h name hname).symm) ?_)
      exact ofValues_eq_ok_iff.1 hvalues
  | error faults =>
      rw [ofValues_eq_error_iff] at hvalues ⊢
      rw [faultsOf_congr h]
      exact hvalues

theorem Layer.congr {table table' overrides overrides' : List (String × Value)} {name : String}
    {given : Option Value} (htable : table.lookup name = table'.lookup name)
    (hoverrides : ∀ value, (name, value) ∈ overrides ↔ (name, value) ∈ overrides')
    (h : Layer table overrides name given) : Layer table' overrides' name given := by
  cases h with
  | override h hvalue => exact .override ((hoverrides _).1 h) hvalue
  | table h hvalue =>
      exact .table (fun v hv => h v ((hoverrides v).2 hv)) (htable ▸ hvalue)
  | default h hnone =>
      exact .default (fun v hv => h v ((hoverrides v).2 hv)) (htable ▸ hnone)

theorem load_of_holdsAt {t : FileTree} {search : Path} {table : List (String × Value)}
    (h : HoldsAt t (t.resolve search) table) (overrides : List (String × Value)) :
    load t search overrides = (ofValues (layered table overrides)).mapError .invalid := by
  rw [load, fileTable_eq_ok_iff.2 h]
  cases hvalues : ofValues (layered table overrides) <;> simp only [hvalues, Except.mapError]

theorem load_eq_ok_iff {t : FileTree} {search : Path} {table : List (String × Value)}
    (h : HoldsAt t (t.resolve search) table) {overrides : List (String × Value)}
    {config : Config} :
    load t search overrides = .ok config ↔ ofValues (layered table overrides) = .ok config := by
  rw [load_of_holdsAt h]
  cases ofValues (layered table overrides) <;> simp [Except.mapError]

theorem load_eq_error_iff {t : FileTree} {search : Path} {table : List (String × Value)}
    (h : HoldsAt t (t.resolve search) table) {overrides : List (String × Value)}
    {reason : LoadError} :
    load t search overrides = .error reason ↔
      ∃ faults, ofValues (layered table overrides) = .error faults ∧ reason = .invalid faults := by
  rw [load_of_holdsAt h]
  cases ofValues (layered table overrides) <;> simp [Except.mapError, eq_comm]

/-- What wins under the names of settings, if that is what the layers give. -/
theorem lookup_layered {table overrides : List (String × Value)} {given : String → Option Value}
    (hkeys : (overrides.map (·.1)).Nodup)
    (hgiven : ∀ name ∈ fieldNames, Layer table overrides name (given name)) :
    ∀ name ∈ fieldNames, (layered table overrides).lookup name = given name :=
  fun name hname => (layer_iff hkeys hname).1 (hgiven name hname)

/-- The settings that hold in a directory: where they come from, and what is said if there are
    none. -/
structure LoadsLayers (t : FileTree) (search : Path) (overrides : List (String × Value)) :
    Prop where
  /-- One table of settings holds, or the project file is misread. -/
  file : (∃! table, HoldsAt t (t.resolve search) table) ↔
    ¬ ∃ reason, Misread t (t.resolve search) reason
  misread : ∀ reason, Misread t (t.resolve search) reason →
    load t search overrides = .error reason ∧ ∀ faults, reason ≠ .invalid faults
  /-- The layers give each setting one value, or none. -/
  given : ∀ table, ∀ name ∈ fieldNames, ∃! value, Layer table overrides name value
  settings : ∀ table given, HoldsAt t (t.resolve search) table →
    (∀ name ∈ fieldNames, Layer table overrides name (given name)) →
    ∀ config, load t search overrides = .ok config ↔ Settled given config
  faults : ∀ table given, HoldsAt t (t.resolve search) table →
    (∀ name ∈ fieldNames, Layer table overrides name (given name)) →
    ∀ reason, load t search overrides = .error reason ↔
      faultsOf given ≠ [] ∧ reason = .invalid (faultsOf given)
  /-- What is under other names does not matter. -/
  others : ∀ t' search' table table' overrides', (overrides'.map (·.1)).Nodup →
    HoldsAt t (t.resolve search) table → HoldsAt t' (t'.resolve search') table' →
    (∀ name ∈ fieldNames, table.lookup name = table'.lookup name ∧
      ∀ value, (name, value) ∈ overrides ↔ (name, value) ∈ overrides') →
    load t search overrides = load t' search' overrides'

/-- Settings are loaded in layers: the overrides, the table of the nearest project file, the
    defaults. -/
theorem load_layers (t : FileTree) (search : Path) (overrides : List (String × Value))
    (hkeys : (overrides.map (·.1)).Nodup) : LoadsLayers t search overrides where
  file := by
    simp only [← fileTable_eq_ok_iff, ← fileTable_eq_error_iff]
    cases fileTable t search with
    | error e => simp
    | ok table => simp
  misread := by
    intro reason h
    refine ⟨?_, h.ne_invalid⟩
    rw [load, fileTable_eq_error_iff.2 h]
  given := by
    intro table name hname
    simp only [layer_iff hkeys hname]
    exact ⟨_, rfl, fun _ h => h.symm⟩
  settings := by
    intro table given htable hgiven config
    have hsame := lookup_layered hkeys hgiven
    rw [load_eq_ok_iff htable, ofValues_eq_ok_iff]
    exact ⟨.congr hsame, .congr fun name hname => (hsame name hname).symm⟩
  faults := by
    intro table given htable hgiven reason
    rw [load_eq_error_iff htable, ← faultsOf_congr (lookup_layered hkeys hgiven)]
    constructor
    · rintro ⟨faults, hvalues, rfl⟩
      rcases ofValues_eq_error_iff.1 hvalues with ⟨hne, rfl⟩
      exact ⟨hne, rfl⟩
    · rintro ⟨hne, rfl⟩
      exact ⟨_, ofValues_eq_error_iff.2 ⟨hne, rfl⟩, rfl⟩
  others := by
    intro t' search' table table' overrides' hkeys' htable htable' hsame
    rw [load_of_holdsAt htable, load_of_holdsAt htable']
    refine congrArg (Except.mapError LoadError.invalid) (ofValues_congr fun name hname => ?_)
    have hlayer := (layer_iff hkeys hname).2 (rfl : (layered table overrides).lookup name = _)
    rcases hsame name hname with ⟨htables, hoverrides⟩
    exact ((layer_iff hkeys' hname).1 (hlayer.congr htables hoverrides)).symm

/-- A directory in one with a project file, whose table is not all about settings. Further up is
    another project file. -/
def nested : FileTree :=
  { entries := [(["pyproject.toml"], .file "[tool.prodcov]\nhook_instance = \"far\"\n".toUTF8),
      (["w"], .directory),
      (["w", "pyproject.toml"], .file
        "[tool.prodcov]\nhook_method = \"near\"\nanonymous_name = \"A\"\ncolour = 3\n".toUTF8),
      (["w", "d"], .directory)] }

def nestedOverrides : List (String × Value) :=
  [("anonymous_name", .null), ("inject_hook_import", .bool false), ("shade", .int 1)]

/-- Each layer gives a setting: a null override gives none, and one that is off does. -/
theorem load_layers_nested : (nestedOverrides.map (·.1)).Nodup ∧
    LoadsLayers nested ⟨0, ["w", "d"]⟩ nestedOverrides ∧
    load nested ⟨0, ["w", "d"]⟩ nestedOverrides =
      .ok { hookMethod := "near", anonymousName := "A", injectHookImport := false } := by
  have hkeys : (nestedOverrides.map (·.1)).Nodup := by
    decide
  exact ⟨hkeys, load_layers nested ⟨0, ["w", "d"]⟩ nestedOverrides hkeys, by decide +kernel⟩

/-- An empty text is an override like others, and is refused. -/
example : load nested ⟨0, ["w", "d"]⟩ [("hook_file_name", .text "")] =
    .error (.invalid [⟨"hook_file_name", .empty⟩]) := by
  decide +kernel

end Config

end EntryCoverage

import EntryCoverage.Config
import EntryCoverage.Files.Tree
import EntryCoverage.Toml.Parser

/-!
# Settings From Files

The settings of a project stand in a table of its project file. It is looked for in
a directory and then in those above it, and the first one found is the only one that
counts, whether it has the table or not.

## Main definitions

* `Config.projectFile?`: What is in the nearest project file.
* `Config.tableOf`: The table of settings in a project file.
* `Config.load`: The settings that hold in a directory, with overrides.
* `LoadError`: Why there are no settings.

## Theorems

* `mem_upward`: The places looked at are the directory and those above it.
-/

namespace EntryCoverage

/-- Why there are no settings. -/
inductive LoadError
  /-- The bytes of the project file are no text. -/
  | notText
  /-- The text of the project file is no document. -/
  | malformed
  /-- Something that is no table stands where the settings should. -/
  | notATable
  | invalid (faults : List FieldError)
deriving DecidableEq, Repr

namespace Config

/-- The name of a project file. -/
def projectFileName : String := "pyproject.toml"

/-- A place and those above it, from the lowest to the top. -/
def upward (l : Location) : List Location :=
  (List.range (l.length + 1)).reverse.map fun n => l.take n

/-- What is in the project file at a place, if it is there. -/
def projectFileAt? (t : FileTree) (l : Location) : Option ByteArray :=
  match t.find? (l ++ [projectFileName]) with
  | some (.file content) => some content
  | _ => none

/-- What is in the nearest project file of a directory. -/
def projectFile? (t : FileTree) (search : Path) : Option ByteArray :=
  (upward (t.resolve search)).findSome? (projectFileAt? t)

/-- The entries of a table in a table; none if it is missing. -/
def subtable (key : String) (entries : List (String × Value)) :
    Except LoadError (List (String × Value)) :=
  match entries.find? (·.1 == key) with
  | none => .ok []
  | some (_, .table inner) => .ok inner
  | some _ => .error .notATable

/-- The table of settings in a project file. -/
def tableOf (content : ByteArray) : Except LoadError (List (String × Value)) :=
  match String.fromUTF8? content with
  | none => .error .notText
  | some text =>
      match Toml.parse? text with
      | none => .error .malformed
      | some entries => (subtable "tool" entries).bind (subtable "prodcov")

/-- The table of settings that holds in a directory. -/
def fileTable (t : FileTree) (search : Path) : Except LoadError (List (String × Value)) :=
  match projectFile? t search with
  | none => .ok []
  | some content => tableOf content

/-- The settings that hold in a directory, with overrides. -/
def load (t : FileTree) (search : Path) (overrides : List (String × Value)) :
    Except LoadError Config :=
  match fileTable t search with
  | .error e => .error e
  | .ok table =>
      match ofValues (layered table overrides) with
      | .error faults => .error (.invalid faults)
      | .ok config => .ok config

theorem mem_upward {l m : Location} : m ∈ upward l ↔ ∃ below, l = m ++ below := by
  constructor
  · intro h
    simp only [upward, List.mem_map] at h
    obtain ⟨n, _, rfl⟩ := h
    exact ⟨l.drop n, (List.take_append_drop n l).symm⟩
  · rintro ⟨below, rfl⟩
    simp only [upward, List.mem_map, List.mem_reverse, List.mem_range]
    exact ⟨m.length, by simp only [List.length_append]; omega, by simp⟩

end Config

end EntryCoverage

import EntryCoverage.Command.Report
import EntryCoverage.Mapping.Basic

/-!
# The Decode Command

Looks up identifiers in a mapping file. Every identifier either becomes a row of a
table or a line that says why it does not.

## Main definitions

* `decodeCommand`: What the command leaves behind.
-/

namespace EntryCoverage

/-- The row of an identifier, or the line that says why it has none. -/
def decodeRow (m : Mapping) (identifier : String) : Except LogLine (List String) :=
  match m.decode identifier with
  | .ok c => .ok [identifier, c.file, c.function, c.kind]
  | .error (.unknownIdentifier _) => .error ⟨.warning, "Unknown identifier: " ++ identifier⟩
  | .error reason => .error ⟨.error, reason.message⟩

/-- The identifiers that are looked up: all of the mapping if none are given. -/
def targetsOf (m : Mapping) (identifiers : List String) : List String :=
  if identifiers.isEmpty then m.entries.map (·.1) else identifiers

/-- The rows of results, in their order. -/
def rowsOf (results : List (Except LogLine (List String))) : List (List String) :=
  results.filterMap fun | .ok row => some row | .error _ => none

/-- The lines of results, in their order. -/
def linesOf (results : List (Except LogLine (List String))) : List LogLine :=
  results.filterMap fun | .ok _ => none | .error line => some line

/-- What looking up identifiers in a mapping leaves behind. -/
def decodeWith (t : FileTree) (path : Path) (m : Mapping) (identifiers : List String) : Report :=
  let results := (targetsOf m identifiers).map (decodeRow m)
  { files := t
    logs := linesOf results
    tables :=
      [{ title := "Coverage Identifiers (" ++ path.name ++ ")"
         columns := ["Identifier", "File", "Function", "Kind"]
         rows := rowsOf results }]
    outcome := .ok (if (linesOf results).isEmpty then 0 else 1) }

/-- What the decode command leaves behind. -/
def decodeCommand (t : FileTree) (path : Path) (identifiers : List String) : Report :=
  if !t.isFile path then
    { files := t, logs := [⟨.error, "Mapping not found: " ++ path.text⟩], outcome := .ok 1 }
  else
    match t.readText path with
    | .error e => { files := t, outcome := .error (.file e) }
    | .ok text =>
        match Mapping.ofText text with
        | .error e =>
            { files := t
              logs :=
                [⟨.error, "Invalid mapping file " ++ path.text ++ ": " ++ e.message⟩]
              outcome := .ok 1 }
        | .ok m => decodeWith t path m identifiers

end EntryCoverage

import EntryCoverage.Json.Parser
import EntryCoverage.Json.Printer
import EntryCoverage.Mapping.Line
import EntryCoverage.Text.Lines
import EntryCoverage.Text.Order
import EntryCoverage.Vlq

/-!
# Mappings

The table that turns the identifiers a program reports into the places they stand
for. Three reserved rows list the names of files, of functions and of kinds of
places; every other row gives for one identifier the three positions, in those
lists, of the names that make up its place.

A mapping is written as text, a row on a line, in the order of the keys. The keys
of the reserved rows begin with a blank, which brings them to the top and keeps
them apart from identifiers.

## Main definitions

* `Row`: A row of a mapping.
* `Mapping.ofRows`: A mapping, if every key occurs once and no reserved row lacks.
* `Mapping.toText`, `Mapping.ofText`: A mapping as text.
* `Mapping.decode`: The place that an identifier stands for.
* `MappingError`: Why reading or decoding fails.
-/

namespace EntryCoverage

/-- A place that instrumentation reports: the file, the function in it, and what
    kind of place it is. -/
structure Coordinate where
  file : String
  function : String
  kind : String
deriving DecidableEq, Repr, Inhabited

/-- The lists of names that a mapping holds. -/
inductive Namespace
  | files | functions | kinds
deriving DecidableEq, Repr

namespace Namespace

/-- All of them, in the order in which they are looked for. -/
def all : List Namespace := [files, functions, kinds]

/-- The name of a list's row. -/
def rowName : Namespace → String
  | files => "FileNames"
  | functions => "FunctionNames"
  | kinds => "Types"

/-- What the keys of reserved rows begin with. -/
def keyMark : String := " "

/-- The key of a list's row. -/
def key (n : Namespace) : String := keyMark ++ n.rowName

def ofRowName? (name : String) : Option Namespace := all.find? (·.rowName == name)

end Namespace

/-- A row of a mapping. -/
inductive Row
  | reserved (name : Namespace) (values : List String)
  | coordinate (identifier compositeKey : String)
deriving DecidableEq, Repr, Inhabited

namespace Row

def key : Row → String
  | reserved name _ => name.key
  | coordinate identifier _ => identifier

/-- What stands after the key: names as a list in JSON, positions as they are. -/
def value : Row → String
  | reserved _ values => Json.render false (.list (values.map .text))
  | coordinate _ compositeKey => compositeKey

/-- The line of a row, without its end. -/
def line (row : Row) : List Char :=
  Mapping.escape row.key.toList ++ ':' :: Mapping.escape row.value.toList

end Row

/-- Why rows are no mapping. -/
inductive InvalidMapping
  | duplicateKey (key : String)
  | missingRow (name : Namespace)
deriving DecidableEq, Repr

namespace InvalidMapping

def message : InvalidMapping → String
  | duplicateKey key => "Duplicate mapping key " ++ Text.quote key
  | missingRow name => "Missing reserved row " ++ Text.quote name.rowName

end InvalidMapping

/-- Why reading a mapping, or decoding an identifier with it, fails. -/
inductive MappingError
  | line (number : Nat) (fault : Mapping.LineFault)
  | unknownRow (number : Nat) (key : String)
  | notJson (number : Nat) (name : Namespace)
  | notNames (number : Nat) (name : Namespace)
  | invalid (reason : InvalidMapping)
  | unknownIdentifier (identifier : String)
  | corruptKey (identifier : String) (reason : VlqError)
  | wrongCount (identifier : String) (count : Nat)
  | missingName (identifier : String)
deriving DecidableEq, Repr

namespace MappingError

def message : MappingError → String
  | line number .danglingEscape => s!"Line {number}: dangling escape character"
  | line number .missingSeparator => s!"Line {number}: missing ':' separator"
  | unknownRow number key => s!"Line {number}: unknown reserved row " ++ Text.quote key
  | notJson number name =>
      s!"Line {number}: reserved row " ++ name.rowName ++ " is not valid JSON"
  | notNames number name =>
      s!"Line {number}: reserved row " ++ name.rowName ++ " must be a list of strings"
  | invalid reason => "Invalid mapping: Value error, " ++ reason.message
  | unknownIdentifier identifier => Text.quote identifier
  | corruptKey identifier reason =>
      "Corrupt composite key for " ++ Text.quote identifier ++ ": " ++ reason.message
  | wrongCount identifier count =>
      "Composite key for " ++ Text.quote identifier ++ s!" holds {count} values, expected 3"
  | missingName identifier =>
      "Identifier " ++ Text.quote identifier ++ " references a missing namespace entry"

end MappingError

/-- The rows of a table from identifiers to places. -/
structure Mapping where
  rows : List Row
deriving DecidableEq, Repr, Inhabited

namespace Mapping

/-- The first key that occurs again. -/
def duplicateKey? : List String → List Row → Option String
  | _, [] => none
  | seen, row :: rows =>
      if seen.contains row.key then some row.key else duplicateKey? (row.key :: seen) rows

/-- A mapping of these rows. -/
def ofRows (rows : List Row) : Except InvalidMapping Mapping :=
  match duplicateKey? [] rows with
  | some key => .error (.duplicateKey key)
  | none =>
      match Namespace.all.find? fun name => rows.all (·.key != name.key) with
      | some name => .error (.missingRow name)
      | none => .ok ⟨rows⟩

/-- The names in a list, by their position. -/
def names (m : Mapping) (name : Namespace) : List String :=
  (m.rows.findSome? fun
    | .reserved n values => if n = name then some values else none
    | .coordinate _ _ => none).getD []

/-- The identifiers with their composite keys. -/
def entries (m : Mapping) : List (String × String) :=
  m.rows.filterMap fun
    | .coordinate identifier compositeKey => some (identifier, compositeKey)
    | .reserved _ _ => none

/-! ### As text -/

/-- Puts a row before the first one whose key does not come before its own. -/
def insertRow (row : Row) : List Row → List Row
  | [] => [row]
  | r :: rows =>
      if Text.precedes r.key row.key then r :: insertRow row rows else row :: r :: rows

/-- The rows in the order of their keys. -/
def sortedRows (m : Mapping) : List Row := m.rows.foldr insertRow []

def toText (m : Mapping) : String :=
  String.ofList (m.sortedRows.flatMap fun row => row.line ++ ['\n'])

/-- The names that a value lists. -/
def textItems? : Value → Option (List String)
  | .list items => items.mapM fun | .text s => some s | _ => none
  | _ => none

/-- The row that a key and a value on a line make. -/
def rowOfLine (number : Nat) (key value : String) : Except MappingError Row :=
  match key.toList with
  | ' ' :: name =>
      match Namespace.ofRowName? (String.ofList name) with
      | none => .error (.unknownRow number key)
      | some name =>
          match Json.parse? value with
          | none => .error (.notJson number name)
          | some v =>
              match textItems? v with
              | none => .error (.notNames number name)
              | some values => .ok (.reserved name values)
  | _ => .ok (.coordinate key value)

/-- The row of a line. -/
def parseLine (number : Nat) (line : List Char) : Except MappingError Row :=
  match splitLine line with
  | .error fault => .error (.line number fault)
  | .ok (key, value) => rowOfLine number (String.ofList key) (String.ofList value)

/-- The rows of lines that are numbered from `number` on. Empty lines are none. -/
def parseLines : Nat → List (List Char) → Except MappingError (List Row)
  | _, [] => .ok []
  | number, [] :: lines => parseLines (number + 1) lines
  | number, line :: lines => do
      let row ← parseLine number line
      let rows ← parseLines (number + 1) lines
      .ok (row :: rows)

/-- The mapping that a text holds. -/
def ofText (text : String) : Except MappingError Mapping := do
  let rows ← parseLines 1 (Text.splitLines text.toList)
  (ofRows rows).mapError .invalid

/-- The mapping in a file, in which any kind of line end may be used. -/
def ofFileText (text : String) : Except MappingError Mapping :=
  ofText (String.ofList (Text.withLineFeeds text.toList))

/-! ### Decoding -/

/-- The positions that an identifier stands for. -/
def decodeIndices (m : Mapping) (identifier : String) :
    Except MappingError (Int × Int × Int) :=
  match m.entries.find? (·.1 == identifier) with
  | none => .error (.unknownIdentifier identifier)
  | some (_, compositeKey) =>
      match Vlq.decodeAll compositeKey with
      | .error reason => .error (.corruptKey identifier reason)
      | .ok [file, function, kind] => .ok (file, function, kind)
      | .ok indices => .error (.wrongCount identifier indices.length)

/-- The item at a position, which below zero counts from the end. -/
def itemAt? (items : List String) (index : Int) : Option String :=
  if 0 ≤ index then items[index.toNat]?
  else if index.natAbs ≤ items.length then items[items.length - index.natAbs]?
  else none

/-- The place that an identifier stands for. -/
def decode (m : Mapping) (identifier : String) : Except MappingError Coordinate := do
  let (file, function, kind) ← m.decodeIndices identifier
  let coordinate? : Option Coordinate := do
    let file ← itemAt? (m.names .files) file
    let function ← itemAt? (m.names .functions) function
    let kind ← itemAt? (m.names .kinds) kind
    some { file, function, kind }
  match coordinate? with
  | some coordinate => .ok coordinate
  | none => .error (.missingName identifier)

/-- The places of all identifiers, in the order of the rows. -/
def coordinates (m : Mapping) : Except MappingError (List (String × Coordinate)) :=
  m.entries.mapM fun (identifier, _) => do
    let coordinate ← m.decode identifier
    .ok (identifier, coordinate)

end Mapping

end EntryCoverage

import EntryCoverage.Mapping.Basic

/-!
# The Registry of Identifiers

Identifiers for the places that instrumentation reports, handed out during one
compilation. A name gets its position in its list when it is first seen. The
positions of the three names of a place, written as quantities one after the
other, are its composite key; a composite key that was not seen before gets the
next number, and that number, written as a quantity, is the identifier.

A registry ends as a mapping, and hands out nothing afterwards.

## Main definitions

* `Registry.encode`: The identifier of a place.
* `Registry.materialize`: The mapping of all places seen.
* `RegistryError`: Why no identifier is handed out.
-/

namespace EntryCoverage

/-- Why a registry hands out no identifier or no mapping. -/
inductive RegistryError
  | finalized
  | alreadyMaterialized
  | capacityExceeded
  | invariant (reason : VlqError)
  | invalid (reason : InvalidMapping)
deriving DecidableEq, Repr

namespace RegistryError

def message : RegistryError → String
  | finalized => "Cannot encode parameters after the mapping was materialized"
  | alreadyMaterialized => "The mapping was already materialized"
  | capacityExceeded =>
      "Unique Identifier exceeds the signed 32-bit maximum, could not encode with Base64 VLQ"
  | invariant reason => reason.message
  | invalid reason => "Value error, " ++ reason.message

end RegistryError

/-- Names with their positions, in the order in which they were first seen. -/
abbrev NameTable := List (String × Int)

namespace NameTable

def names (t : NameTable) : List String := t.map (·.1)

/-- The position of a name, and the table that has it. -/
def position (t : NameTable) (name : String) : Int × NameTable :=
  match t.find? (·.1 == name) with
  | some (_, index) => (index, t)
  | none => (t.length, t ++ [(name, (t.length : Int))])

/-- Gives a name a position of its own. -/
def set (t : NameTable) (name : String) (index : Int) : NameTable :=
  if t.any (·.1 == name) then t.map fun e => if e.1 == name then (name, index) else e
  else t ++ [(name, index)]

end NameTable

structure Registry where
  files : NameTable := []
  functions : NameTable := []
  kinds : NameTable := []
  /-- Composite keys with their identifiers, in the order of the latter. -/
  identifiers : List (String × String) := []
  /-- The last number that was handed out. -/
  counter : Int := 0
  materialized : Bool := false
deriving DecidableEq, Repr, Inhabited

namespace Registry

def table (r : Registry) : Namespace → NameTable
  | .files => r.files
  | .functions => r.functions
  | .kinds => r.kinds

def setTable (r : Registry) (t : NameTable) : Namespace → Registry
  | .files => { r with files := t }
  | .functions => { r with functions := t }
  | .kinds => { r with kinds := t }

/-- How many identifiers were handed out. -/
def count (r : Registry) : Nat := r.identifiers.length

/-- The composite key of three positions. -/
def compositeKey (file function kind : Int) : Except VlqError String := do
  let file ← Vlq.encode file
  let function ← Vlq.encode function
  let kind ← Vlq.encode kind
  .ok (file ++ function ++ kind)

/-- A new identifier for a composite key. The number counts as handed out even if
    it is too large to be one. -/
def allocate (r : Registry) (key : String) : Registry × Except RegistryError String :=
  let next := r.counter + 1
  let r := { r with counter := next }
  if Vlq.maxValue < next then (r, .error .capacityExceeded)
  else
    match Vlq.encode next with
    | .error reason => (r, .error (.invariant reason))
    | .ok identifier =>
        ({ r with identifiers := r.identifiers ++ [(key, identifier)] }, .ok identifier)

/-- The identifier of a place. Its names get their positions even if it gets no
    identifier. -/
def encode (r : Registry) (c : Coordinate) : Registry × Except RegistryError String :=
  if r.materialized then (r, .error .finalized)
  else
    let (file, files) := r.files.position c.file
    let (function, functions) := r.functions.position c.function
    let (kind, kinds) := r.kinds.position c.kind
    let r := { r with files, functions, kinds }
    match compositeKey file function kind with
    | .error reason => (r, .error (.invariant reason))
    | .ok key =>
        match r.identifiers.find? (·.1 == key) with
        | some (_, identifier) => (r, .ok identifier)
        | none => r.allocate key

/-- The rows of a registry's mapping. -/
def rows (r : Registry) : List Row :=
  (Namespace.all.map fun n => .reserved n (r.table n).names) ++
    r.identifiers.map fun (key, identifier) => .coordinate identifier key

/-- The mapping of all places seen, which ends the registry. -/
def materialize (r : Registry) : Registry × Except RegistryError Mapping :=
  if r.materialized then (r, .error .alreadyMaterialized)
  else ({ r with materialized := true }, (Mapping.ofRows r.rows).mapError .invalid)

end Registry

end EntryCoverage

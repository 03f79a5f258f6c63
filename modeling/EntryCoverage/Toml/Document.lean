import EntryCoverage.Value

/-!
# Documents Under Construction

A TOML document says where a value goes by a path of keys, and its tables can be
opened in several places and in any order. What may be said after what is decided
here, by what each table remembers about how it came to be.

A table that only lies on the way to another one may still be declared by a header,
once. A table on the way of a dotted key belongs to the section that the key stands
in: other keys of the section may add to it, later sections may not. An array of
tables is open at its last table. A value that is written in one place, an inline
table or array among them, is closed.

## Main definitions

* `Node`: What stands behind a key so far.
* `declareTable`: A document after a header in single brackets.
* `appendTable`: A document after a header in double brackets.
* `assign`: A document after a key and its value.
* `Node.value`: The value of what stands behind a key.
-/

namespace EntryCoverage

namespace Toml

/-- How a table came to be. -/
inductive Standing
  /-- It lies on the way to another table. -/
  | implied
  /-- A header declares it. -/
  | declared
  /-- It lies on the way of a dotted key in the section with this number. -/
  | dotted (number : Nat)
deriving DecidableEq, Repr

/-- What stands behind a key so far. -/
inductive Node
  | closed (value : Value)
  | table (standing : Standing) (entries : List (String × Node))
  /-- An array of tables, of which the last one is open. -/
  | series (earlier : List Value) (entries : List (String × Node))

/-- The entries of a table so far. -/
abbrev Entries := List (String × Node)

mutual

/-- The value of what stands behind a key. -/
def Node.value : Node → Value
  | .closed v => v
  | .table _ entries => .table (values entries)
  | .series earlier entries => .list (earlier ++ [.table (values entries)])

/-- The values of entries. -/
def values : List (String × Node) → List (String × Value)
  | [] => []
  | (key, node) :: rest => (key, node.value) :: values rest

end

/-- Entries with a change to what stands behind a key. -/
def change (key : String) (f : Option Node → Option Node) : Entries → Option Entries
  | [] => (f none).map fun node => [(key, node)]
  | (k, node) :: rest =>
      if k == key then (f (some node)).map fun node => (k, node) :: rest
      else (change key f rest).map ((k, node) :: ·)

/-- Entries with a change to those of a table further in. Tables that are missing
    on the way are made, and an array of tables is entered at its last one. -/
def within (f : Entries → Option Entries) : List String → Entries → Option Entries
  | [], entries => f entries
  | key :: keys, entries =>
      entries |> change key fun
        | none => (within f keys []).map (.table .implied)
        | some (.table standing inner) => (within f keys inner).map (.table standing)
        | some (.series earlier inner) => (within f keys inner).map (.series earlier)
        | some (.closed _) => none

/-- A table that a header declares, if it may. -/
def declared : Option Node → Option Node
  | none => some (.table .declared [])
  | some (.table .implied entries) => some (.table .declared entries)
  | some _ => none

/-- An array of tables that goes on with an empty one, if it may. -/
def appended : Option Node → Option Node
  | none => some (.series [] [])
  | some (.series earlier entries) => some (.series (earlier ++ [.table (values entries)]) [])
  | some _ => none

/-- Splits the last key off a path. -/
def splitLast : List String → Option (List String × String)
  | [] => none
  | [key] => some ([], key)
  | key :: keys => (splitLast keys).map fun (way, last) => (key :: way, last)

/-- A document after a header in single brackets. -/
def declareTable (path : List String) (entries : Entries) : Option Entries := do
  let (way, key) ← splitLast path
  within (change key declared) way entries

/-- A document after a header in double brackets. -/
def appendTable (path : List String) (entries : Entries) : Option Entries := do
  let (way, key) ← splitLast path
  within (change key appended) way entries

/-- Entries with a value behind a dotted key in the section with a number. -/
def put (number : Nat) (value : Value) : List String → Entries → Option Entries
  | [], _ => none
  | [key], entries =>
      entries |> change key fun
        | none => some (.closed value)
        | some _ => none
  | key :: keys, entries =>
      entries |> change key fun
        | none => (put number value keys []).map (.table (.dotted number))
        | some (.table standing inner) =>
            if standing = .implied ∨ standing = .dotted number then
              (put number value keys inner).map (.table (.dotted number))
            else none
        | some _ => none

/-- A document after a dotted key and its value, in the section with a number, of
    which the header is given. -/
def assign (header : List String) (number : Nat) (path : List String) (value : Value)
    (entries : Entries) : Option Entries :=
  within (put number value path) header entries

end Toml

end EntryCoverage

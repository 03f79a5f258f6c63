/-!
# Changes

Which functions of which files a run changed, in the order of the changes.

## Main definitions

* `ScopeChange`: A change to a function.
* `changedFiles`: The files with changes.
-/

namespace EntryCoverage

/-- A change to a function of a file. -/
structure ScopeChange where
  file : String
  scope : String
deriving DecidableEq, Repr

namespace ScopeChange

/-- File and function in one word. -/
def label (c : ScopeChange) : String := c.file ++ "::" ++ c.scope

end ScopeChange

/-- The distinct items of a list, each where it first occurs. -/
def distinct : List String → List String
  | [] => []
  | x :: xs => x :: (distinct xs).filter (· != x)

/-- The files with changes, in the order of their first ones. -/
def changedFiles (changes : List ScopeChange) : List String :=
  distinct (changes.map (·.file))

end EntryCoverage

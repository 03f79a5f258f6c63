import EntryCoverage.Text.Pieces

/-!
# Paths

A path is names with slashes between them. It begins with no slash, and then it is
relative, or with one, or with two. More than two mean the same as one, but two are
kept apart. Empty names and single dots say nothing and are left out. Double dots
stay, because what they mean depends on what is there.

## Main definitions

* `Path`: A path.
* `Path.ofText`, `Path.text`: A path from its text, and the text of a path.
* `Path.join`: A path that goes on from another one.
* `Path.relativeTo?`: A path as it is seen from another one.

## Theorems

* `join_of_relative`: A relative path is joined by its names.
-/

namespace EntryCoverage

/-- A path. -/
structure Path where
  /-- How many slashes it begins with: none, one or two. -/
  slashes : Nat := 0
  names : List String := []
deriving DecidableEq, Repr, Inhabited

namespace Path

/-- The names between the slashes of a text that say something. -/
def namesOf (cs : List Char) : List String :=
  ((Text.splitOn '/' cs).filter fun name => name ≠ [] ∧ name ≠ ['.']).map String.ofList

/-- How many of the slashes that a text begins with are kept. -/
def slashesOf (cs : List Char) : Nat :=
  match (cs.takeWhile (· == '/')).length with
  | 0 => 0
  | 2 => 2
  | _ => 1

/-- The path that a text stands for. -/
def ofText (s : String) : Path := ⟨slashesOf s.toList, namesOf s.toList⟩

/-- A path as a text. The path that says nothing is a dot. -/
def text (p : Path) : String :=
  if p.slashes = 0 ∧ p.names = [] then "."
  else String.ofList (List.replicate p.slashes '/') ++ Text.joined "/" p.names

def isAbsolute (p : Path) : Bool := p.slashes != 0

/-- The path `q`, taken from where `p` leads, unless it is absolute. -/
def join (p q : Path) : Path :=
  if q.isAbsolute then q else { p with names := p.names ++ q.names }

/-- A path without its last name. -/
def parent (p : Path) : Path := { p with names := p.names.dropLast }

/-- The last name of a path; empty if there is none. -/
def name (p : Path) : String := p.names.getLast?.getD ""

/-- The names after others that must come first. -/
def namesAfter? : List String → List String → Option (List String)
  | [], names => some names
  | b :: bs, n :: ns => if b = n then namesAfter? bs ns else none
  | _ :: _, [] => none

/-- The path `p` as it is seen from `base`, if it begins with that. -/
def relativeTo? (base p : Path) : Option Path :=
  if base.slashes = p.slashes then (namesAfter? base.names p.names).map (⟨0, ·⟩) else none

theorem join_of_relative {p q : Path} (h : q.slashes = 0) :
    p.join q = ⟨p.slashes, p.names ++ q.names⟩ := by
  simp [join, isAbsolute, h]

end Path

end EntryCoverage

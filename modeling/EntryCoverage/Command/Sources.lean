import EntryCoverage.Engine
import EntryCoverage.Files.Tree

/-!
# Sources

Which files are instrumented, under which names, and where they go. A file that is
named on the command line keeps that name, as it is seen from the directory where
the command runs. A directory stands for all Python files in it and below it, which
are named as they are seen from that directory.

An instrumented file goes below the output directory. What would lead out of it is
left out of its name, but a name that begins with two slashes stays as it is.

## Main definitions

* `collectSources`: The files that paths stand for, with their names.
* `SourceError`: Why paths do not stand for files.
* `readSources`: The files of a program.
* `destination`: Where an instrumented file goes.
-/

namespace EntryCoverage

/-- Why paths do not stand for files. -/
inductive SourceError
  | missing (path : Path)
  | duplicate (name : String) (first second : Path)
deriving DecidableEq, Repr

namespace SourceError

def message : SourceError → String
  | missing path => "Input not found: " ++ path.text
  | duplicate name first second =>
      "Duplicate source name '" ++ name ++ "' (" ++ first.text ++ " and " ++ second.text ++ ")"

end SourceError

/-- The name of a file that is given by its path. -/
def unitName (t : FileTree) (p : Path) : String :=
  ((Path.relativeTo? ⟨1, t.home⟩ p).getD p).text

/-- Whether a name is that of a Python file. -/
def isPythonName (name : String) : Bool :=
  (Text.after? ".py".toList.reverse name.toList.reverse).isSome

/-- The Python files in a directory and below it, with their names. -/
def directorySources (t : FileTree) (p : Path) : List (String × Path) :=
  (t.filesBelow p).filterMap fun file =>
    if isPythonName file.name then (Path.relativeTo? p file).map fun inner => (inner.text, file)
    else none

/-- The files that one path stands for, with their names. -/
def sourcesAt (t : FileTree) (p : Path) : Except SourceError (List (String × Path)) :=
  if t.isFile p then .ok [(unitName t p, p)]
  else if t.isDirectory p then .ok (directorySources t p)
  else .error (.missing p)

/-- Sources with more of them, no two under one name. -/
def addSources (done : List (String × Path)) :
    List (String × Path) → Except SourceError (List (String × Path))
  | [] => .ok done
  | (name, file) :: rest =>
      match done.find? (·.1 == name) with
      | some (_, first) => .error (.duplicate name first file)
      | none => addSources (done ++ [(name, file)]) rest

/-- The files that paths stand for, with their names, after others. -/
def collectAfter (t : FileTree) (done : List (String × Path)) :
    List Path → Except SourceError (List (String × Path))
  | [] => .ok done
  | p :: ps =>
      match sourcesAt t p with
      | .error e => .error e
      | .ok sources =>
          match addSources done sources with
          | .error e => .error e
          | .ok done => collectAfter t done ps

/-- The files that paths stand for, with their names, in the order of the paths. -/
def collectSources (t : FileTree) (paths : List Path) :
    Except SourceError (List (String × Path)) :=
  collectAfter t [] paths

/-- The files of a program, in their order. -/
def readSources (t : FileTree) : List (String × Path) → Except FileError (List SourceUnit)
  | [] => .ok []
  | (name, file) :: rest =>
      match t.readText file with
      | .error e => .error e
      | .ok code => (readSources t rest).map (⟨name, code⟩ :: ·)

/-- Where an instrumented file goes. -/
def destination (output : Path) (name : String) : Path :=
  let p := Path.ofText name
  output.join ⟨if p.slashes = 2 then 2 else 0, p.names.filter (· ≠ "..")⟩

end EntryCoverage

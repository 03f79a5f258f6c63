import EntryCoverage.Files.Path
import EntryCoverage.Text.Lines
import EntryCoverage.Text.Order

/-!
# File Trees

The files and directories that a command finds and leaves. A tree is a list of
places, each with what is there, together with the directory in which relative
paths begin. A place is the names on the way down from the top, so it has no double
dots. The top itself is always a directory.

A path leads to a place name by name. Every name on the way must be that of a
directory, also one that double dots lead out of again; only the last one may be
missing.

## Main definitions

* `FileTree`: Files and directories.
* `FileError`: Why something cannot be done with a file.
* `FileTree.locate`: The place that a path leads to.
* `FileTree.readText`: The text in a file.
* `FileTree.filesBelow`: What is in a directory and in those below it.
* `FileTree.save`: A tree with a text in a file.
* `FileTree.changedSince`: What a tree has that another one has not.

## Theorems

* `find?_put`: What is at a place after something was put there.
* `find?_put_of_ne`: What is at other places then.
-/

namespace EntryCoverage

/-- The names on the way from the top to a place. -/
abbrev Location := List String

/-- What is at a place. -/
inductive Entry
  | directory
  | file (content : ByteArray)

instance : DecidableEq Entry
  | .directory, .directory => isTrue rfl
  | .directory, .file _ | .file _, .directory => isFalse nofun
  | .file a, .file b =>
      decidable_of_iff (a.data = b.data) (by cases a; cases b; simp)

/-- Why something cannot be done with a file. -/
inductive FileError
  /-- Nothing is there. -/
  | missing
  /-- A name on the way is that of a file. -/
  | notADirectory
  /-- What should be a file is a directory. -/
  | isADirectory
  /-- Something is there already. -/
  | alreadyThere
  /-- The bytes of a file are no text. -/
  | notText
deriving DecidableEq, Repr

/-- Files and directories, and the directory in which relative paths begin. -/
structure FileTree where
  home : Location := []
  entries : List (Location × Entry) := []

namespace FileTree

/-- What is at a place. -/
def find? (t : FileTree) (l : Location) : Option Entry :=
  if l = [] then some .directory else (t.entries.find? (·.1 = l)).map (·.2)

/-- Entries with one of them put in, in the place of what was there before. -/
def putIn (l : Location) (e : Entry) : List (Location × Entry) → List (Location × Entry)
  | [] => [(l, e)]
  | old :: rest => if old.1 = l then (l, e) :: rest else old :: putIn l e rest

/-- A tree with something at a place. -/
def put (t : FileTree) (l : Location) (e : Entry) : FileTree :=
  { t with entries := putIn l e t.entries }

/-- The place that a name leads to from another one. -/
def step (l : Location) (name : String) : Location :=
  if name = ".." then l.dropLast else l ++ [name]

/-- The place that names lead to from another one. -/
def walk (t : FileTree) : Location → List String → Except FileError Location
  | l, [] => .ok l
  | l, name :: names =>
      match t.find? l with
      | none => .error .missing
      | some (.file _) => .error .notADirectory
      | some .directory => walk t (step l name) names

/-- The place where a path begins. -/
def start (t : FileTree) (p : Path) : Location := if p.isAbsolute then [] else t.home

/-- The place that a path leads to. -/
def locate (t : FileTree) (p : Path) : Except FileError Location :=
  t.walk (t.start p) p.names

/-- The place that a path would lead to if all its names were those of directories. -/
def resolve (t : FileTree) (p : Path) : Location := p.names.foldl step (t.start p)

/-- What a path leads to. -/
def lookup (t : FileTree) (p : Path) : Except FileError Entry := do
  let l ← t.locate p
  match t.find? l with
  | some e => .ok e
  | none => .error .missing

def isFile (t : FileTree) (p : Path) : Bool :=
  match t.lookup p with
  | .ok (.file _) => true
  | _ => false

def isDirectory (t : FileTree) (p : Path) : Bool :=
  match t.lookup p with
  | .ok .directory => true
  | _ => false

/-! ### Reading -/

/-- The text that bytes are. -/
def textOf (content : ByteArray) : Except FileError String :=
  match String.fromUTF8? content with
  | some s => .ok s
  | none => .error .notText

/-- The text in a file, with line feeds for all its line ends. -/
def readText (t : FileTree) (p : Path) : Except FileError String :=
  match t.lookup p with
  | .error e => .error e
  | .ok .directory => .error .isADirectory
  | .ok (.file content) =>
      (textOf content).map fun s => String.ofList (Text.withLineFeeds s.toList)

/-- The paths of what is in a directory and in those below it, sorted by their names
    one after the other. -/
def filesBelow (t : FileTree) (p : Path) : List Path :=
  match t.locate p with
  | .error _ => []
  | .ok l =>
      let below := t.entries.filterMap fun e => (Path.namesAfter? l e.1).filter (· ≠ [])
      (below.mergeSort fun a b => !b.lex a Text.precedes).map fun names => p.join ⟨0, names⟩

/-! ### Writing -/

/-- A tree with a directory at the end of a path, where nothing was before. -/
def makeDirectory (t : FileTree) (p : Path) : Except FileError FileTree := do
  let l ← t.locate p
  match t.find? l with
  | some _ => .error .alreadyThere
  | none => .ok (t.put l .directory)

/-- A tree with a directory at the end of a path, whose other directories are there. -/
def ensureDirectory (t : FileTree) (p : Path) : Except FileError FileTree :=
  match t.makeDirectory p with
  | .ok t => .ok t
  | .error e => if t.isDirectory p then .ok t else .error e

/-- A tree with a directory at the end of a path and all those on the way. The names
    of the path are given from the last one to the first one. -/
def ensureWay (t : FileTree) (slashes : Nat) : List String → Except FileError FileTree
  | [] => t.ensureDirectory ⟨slashes, []⟩
  | name :: outer =>
      let p : Path := ⟨slashes, (name :: outer).reverse⟩
      match t.ensureDirectory p with
      | .error .missing => do
          let t ← t.ensureWay slashes outer
          t.ensureDirectory p
      | result => result

/-- A tree with a directory at the end of a path and all those on the way. -/
def ensureDirectories (t : FileTree) (p : Path) : Except FileError FileTree :=
  t.ensureWay p.slashes p.names.reverse

/-- A tree with a text in a file, whose directory is there. -/
def writeText (t : FileTree) (p : Path) (text : String) : Except FileError FileTree := do
  let l ← t.locate p
  match t.find? l with
  | some .directory => .error .isADirectory
  | _ => .ok (t.put l (.file text.toUTF8))

/-- A tree with a text in a file, and the directories on the way to it. -/
def save (t : FileTree) (p : Path) (text : String) : Except FileError FileTree := do
  let t ← t.ensureDirectories p.parent
  t.writeText p text

/-- A tree with texts in files, one after the other up to the first that fails. -/
def saveAll (t : FileTree) : List (Path × String) → FileTree × Except FileError Unit
  | [] => (t, .ok ())
  | (p, text) :: rest =>
      match t.save p text with
      | .error e => (t, .error e)
      | .ok t => t.saveAll rest

/-- The places where a tree has something else than another one, with what it has. -/
def changedSince (after before : FileTree) : List (Location × Entry) :=
  after.entries.filter fun e => before.find? e.1 ≠ some e.2

/-! ### Laws -/

theorem lookup_putIn (l : Location) (e : Entry) (es : List (Location × Entry)) :
    (putIn l e es).find? (·.1 = l) = some (l, e) := by
  induction es with
  | nil => simp [putIn]
  | cons old rest ih =>
      by_cases h : old.1 = l
      · simp [putIn, h]
      · simp [putIn, h, ih]

theorem lookup_putIn_of_ne {l m : Location} (h : m ≠ l) (e : Entry)
    (es : List (Location × Entry)) :
    (putIn l e es).find? (·.1 = m) = es.find? (·.1 = m) := by
  induction es with
  | nil => simp [putIn, h.symm]
  | cons old rest ih =>
      by_cases hl : old.1 = l
      · simp [putIn, hl, h.symm]
      · by_cases hm : old.1 = m
        · simp [putIn, hm, h]
        · simp [putIn, hl, hm, ih]

theorem find?_put (t : FileTree) {l : Location} (h : l ≠ []) (e : Entry) :
    (t.put l e).find? l = some e := by
  simp [find?, put, h, lookup_putIn]

theorem find?_put_of_ne (t : FileTree) {l m : Location} (h : m ≠ l) (e : Entry) :
    (t.put l e).find? m = t.find? m := by
  simp [find?, put, lookup_putIn_of_ne h]

end FileTree

end EntryCoverage

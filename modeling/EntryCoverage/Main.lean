import EntryCoverage.Command.Decode
import EntryCoverage.Command.Instrument

/-!
# The Program

Reads the files that a request is about, does what is asked for, and writes what
comes of it. Nothing is decided here.

## Main definitions

* `main`: The program.
-/

namespace EntryCoverage

namespace Program

/-- How the program is used. -/
def usage : List String :=
  ["usage: prodcov [-h] [--version] instrument|decode ...",
   "       prodcov instrument [-h] --out OUT --mapping MAPPING [--hook-file HOOK_FILE]",
   "         [--no-inject-import] [--no-lambdas] [--json-trace JSON_TRACE] paths [paths ...]",
   "       prodcov decode [-h] mapping [identifiers ...]"]

/-- The text of a place. -/
def placeText (l : Location) : String := (⟨1, l⟩ : Path).text

/-- A tree with something at a place and the directories on the way to it. -/
def withWay (t : FileTree) (l : Location) (e : Entry) : FileTree :=
  ((Config.upward l).filter (· ≠ l)).foldl (fun t l => t.put l .directory) (t.put l e)

/-- What lies below a directory, at a place. -/
partial def readBelow (t : FileTree) (l : Location) (e : IO.FS.DirEntry) : IO FileTree := do
  let l := l ++ [e.fileName]
  if ← e.path.isDir then
    let mut t := t.put l .directory
    for inner in ← e.path.readDir do
      t ← readBelow t l inner
    return t
  else return t.put l (.file (← IO.FS.readBinFile e.path))

/-- A tree with what is at a place, and all below it. -/
def readPlace (t : FileTree) (l : Location) : IO FileTree := do
  let place := (← IO.currentDir) / placeText l
  if ← place.isDir then
    let mut t := withWay t l .directory
    for e in ← place.readDir do
      t ← readBelow t l e
    return t
  else if ← place.pathExists then return withWay t l (.file (← IO.FS.readBinFile place))
  else return t

/-- The tree of the files that paths lead to, and of the project files around the
    first of them. -/
def readTree (paths : List Path) : IO FileTree := do
  let home := (Path.ofText (← IO.currentDir).toString).names
  let mut t := withWay { home } home .directory
  for p in paths do
    t ← readPlace t (t.resolve p)
  for l in Config.upward (t.resolve (paths.headD {})) do
    let place := (← IO.currentDir) / placeText (l ++ [Config.projectFileName])
    if (← place.pathExists) && !(← place.isDir) then
      t := withWay t (l ++ [Config.projectFileName]) (.file (← IO.FS.readBinFile place))
  return t

/-- Writes what a command has changed. -/
def writeChanges (before after : FileTree) : IO Unit := do
  for (l, e) in after.changedSince before do
    match e with
    | .directory => IO.FS.createDirAll (placeText l)
    | .file content => IO.FS.writeBinFile (placeText l) content

/-- Shows lines that may not be fit to be shown without their tags. -/
def showLines (lines : Option (List String)) (plain : String) : IO Unit :=
  (lines.getD [plain]).forM IO.println

/-- What is said about a command that breaks off. -/
def failureText : Failure → String
  | .file .missing => "a file is missing"
  | .file .notADirectory => "a file is in the place of a directory"
  | .file .isADirectory => "a directory is in the place of a file"
  | .file .alreadyThere => "something is there already"
  | .file .notText => "a file is not encoded as UTF-8"
  | .settings .notText => "the project file is not encoded as UTF-8"
  | .settings .malformed => "the project file is not valid TOML"
  | .settings .notATable => "the settings in the project file are not a table"
  | .settings (.invalid _) => "the settings are not valid"
  | .crash (.naming _) => "a key that a function is bound to is not valid"
  | .crash .unwritable => "a call cannot be written"
  | .crash (.invalidMapping reason) => reason.message

/-- Writes and shows what a command leaves behind, and gives its exit code. -/
def finish (before : FileTree) (r : Report) : IO UInt32 := do
  writeChanges before r.files
  for l in r.logs do
    showLines (Console.logLines l) l.text
  for t in r.tables do
    (Console.tableLines t).forM IO.println
  match r.outcome with
  | .ok code => return UInt32.ofNat code
  | .error reason =>
      IO.eprintln ("prodcov: " ++ failureText reason)
      return 1

/-- Does what is asked for, and gives the exit code. -/
def serve : Request → IO UInt32
  | .help _ => do
      usage.forM IO.println
      return 0
  | .version => do
      IO.println ("prodcov " ++ programVersion)
      return 0
  | .misuse problem => do
      usage.forM IO.eprintln
      IO.eprintln ("prodcov: error: " ++ problem)
      return 2
  | .instrument o => do
      let t ← readTree o.paths
      finish t (instrumentCommand t o (← IO.monoMsNow))
  | .decode mapping identifiers => do
      let t ← readTree [mapping]
      finish t (decodeCommand t mapping identifiers)

end Program

end EntryCoverage

/-- The program. -/
def main (args : List String) : IO UInt32 :=
  EntryCoverage.Program.serve (EntryCoverage.Request.ofArguments args)

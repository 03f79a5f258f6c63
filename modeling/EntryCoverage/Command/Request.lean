import EntryCoverage.Command.Arguments
import EntryCoverage.Files.Path

/-!
# Requests

What the arguments of the program ask for. The first operand is the name of a
command, and the arguments after it are that command's own:

* `instrument` takes files and directories, and where to put what comes of them.
* `decode` takes a mapping file and identifiers.

## Main definitions

* `Request`: What is asked for.
* `Request.ofArguments`: What arguments ask for.
-/

namespace EntryCoverage

open Arguments

/-- What is given with the instrument command. -/
structure InstrumentOptions where
  paths : List Path
  output : Path
  mapping : Path
  hookFile : Option String := none
  injectImport : Option Bool := none
  lambdas : Option Bool := none
  trace : Option Path := none
deriving DecidableEq, Repr

/-- What is asked for. -/
inductive Request
  /-- How the program is used, or one of its commands. -/
  | help (command : Option String)
  | version
  /-- Nothing that the program can do. -/
  | misuse (problem : String)
  | instrument (options : InstrumentOptions)
  | decode (mapping : Path) (identifiers : List String)
deriving DecidableEq, Repr

/-- The version of the program. -/
def programVersion : String := "0.1.0"

namespace Request

def helpSwitches : List Switch := [⟨"-h", false⟩, ⟨"--help", false⟩]

def versionSwitch : Switch := ⟨"--version", false⟩

def instrumentSwitches : List Switch :=
  helpSwitches ++
    [⟨"--out", true⟩, ⟨"--mapping", true⟩, ⟨"--hook-file", true⟩, ⟨"--no-inject-import", false⟩,
     ⟨"--no-lambdas", false⟩, ⟨"--json-trace", true⟩]

/-- The value of a switch that only turns something off. -/
def offIf (t : Taken) (name : String) : Option Bool := if t.has name then some false else none

/-- What is asked for with the instrument command. -/
def ofInstrument (t : Taken) : Request :=
  match t.operands, t.value? "--out", t.value? "--mapping" with
  | some paths, some output, some mapping =>
      .instrument
        { paths := (paths.erase "--").map Path.ofText
          output := Path.ofText output
          mapping := Path.ofText mapping
          hookFile := t.value? "--hook-file"
          injectImport := offIf t "--no-inject-import"
          lambdas := offIf t "--no-lambdas"
          trace := (t.value? "--json-trace").map Path.ofText }
  | _, _, _ => .misuse "the following arguments are required: paths, --out, --mapping"

/-- What is asked for with the decode command. -/
def ofDecode (t : Taken) : Request :=
  match t.operands with
  | some ("--" :: mapping :: rest) | some (mapping :: "--" :: rest) | some (mapping :: rest) =>
      .decode (Path.ofText mapping) (rest.erase "--")
  | _ => .misuse "the following arguments are required: mapping"

/-- What is asked for with a command. Arguments left over, here or before the name of
    the command, are a misuse. -/
def ofCommand (name : String) (switches : List Switch) (read : Taken → Request)
    (leftOver : Bool) (args : List String) : Request :=
  match take switches (helpSwitches.contains ·) false args with
  | .error (.ended _) => .help (some name)
  | .error (.misuse problem) => .misuse problem
  | .ok t =>
      match read t with
      | .misuse problem => .misuse problem
      | request => if leftOver || t.leftOver then .misuse "unrecognized arguments" else request

/-- What arguments ask for. -/
def ofArguments (args : List String) : Request :=
  match take (versionSwitch :: helpSwitches) (fun _ => true) true args with
  | .error (.ended s) => if s = versionSwitch then .version else .help none
  | .error (.misuse problem) => .misuse problem
  | .ok t =>
      match t.operands with
      | some ("instrument" :: args) =>
          ofCommand "instrument" instrumentSwitches ofInstrument t.leftOver args
      | some ("decode" :: args) => ofCommand "decode" helpSwitches ofDecode t.leftOver args
      | some (name :: _) => .misuse ("argument command: invalid choice: " ++ name)
      | _ => .misuse "the following arguments are required: command"

end Request

end EntryCoverage

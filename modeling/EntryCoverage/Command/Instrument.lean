import EntryCoverage.Command.Report
import EntryCoverage.Command.Request
import EntryCoverage.Command.Sources
import EntryCoverage.TraceFile

/-!
# The Instrument Command

Instruments a program that lies in files. The settings come from the project file
that is nearest to the first path, and from the arguments. The instrumented files
and the mapping are written only if the run succeeds; the trace, if it is asked for,
in either case.

## Main definitions

* `instrumentCommand`: What the command leaves behind.
-/

namespace EntryCoverage

namespace InstrumentOptions

/-- The settings that the arguments override. -/
def overrides (o : InstrumentOptions) : List (String × Value) :=
  [("hook_file_name", (o.hookFile.map .text).getD .null),
   ("inject_hook_import", (o.injectImport.map .bool).getD .null),
   ("instrument_lambdas", (o.lambdas.map .bool).getD .null)]

/-- Where the search for a project file begins: at the first path, if that is a
    directory, or else in the directory it lies in. -/
def searchPath (o : InstrumentOptions) (t : FileTree) : Path :=
  let first := o.paths.headD {}
  if t.isDirectory first then first else first.parent

end InstrumentOptions

/-- What is written when a run has succeeded. -/
def outputsOf (o : InstrumentOptions) (outcome : Outcome) : List (Path × String) :=
  outcome.units.map (fun u => (destination o.output u.name, u.code)) ++
    (outcome.mapping.map fun m => (o.mapping, m.toText)).toList

/-- How many functions of each file got calls. -/
def summaryTable (outcome : Outcome) : Table :=
  { title := "Instrumentation Summary"
    columns := ["File", "Functions"]
    rows := outcome.units.map fun u => [u.name, toString u.siteCount] }

/-- The end of the command, after the trace is written. -/
def writeOutputs (o : InstrumentOptions) (outcome : Outcome) (report : Report) : Report :=
  if !outcome.success then
    { report with
      logs := report.logs ++ outcome.errors.map (⟨.error, ·⟩)
      outcome := .ok 1 }
  else
    match report.files.saveAll (outputsOf o outcome) with
    | (files, .error e) => { report with files, outcome := .error (.file e) }
    | (files, .ok _) =>
        { files
          logs := report.logs ++
            [⟨.success, "Mapping written to [path]" ++ o.mapping.text ++ "[/path]"⟩]
          tables := [summaryTable outcome] }

/-- The end of the command, after the run. -/
def writeTrace (o : InstrumentOptions) (time : Nat) (outcome : Outcome) (report : Report) :
    Report :=
  match o.trace with
  | none => writeOutputs o outcome report
  | some path =>
      match report.files.save path (outcome.trace.fileText time) with
      | .error e => { report with outcome := .error (.file e) }
      | .ok files =>
          writeOutputs o outcome
            { report with
              files
              logs := report.logs ++ [⟨.info, "Trace saved to [path]" ++ path.text ++ "[/path]"⟩] }

/-- The command from the run on. -/
def instrumentUnits (t : FileTree) (o : InstrumentOptions) (time : Nat) (config : Config)
    (units : List SourceUnit) : Report :=
  let run := Engine.run config 0 units
  let logs := ⟨.info, s!"Instrumenting {units.length} files..."⟩ :: run.logs
  match run.outcome with
  | .error reason => { files := t, logs, outcome := .error (.crash reason) }
  | .ok outcome => writeTrace o time outcome { files := t, logs }

/-- A command that tells its user what is wrong. -/
def refuse (t : FileTree) (message : String) : Report :=
  { files := t, logs := [⟨.error, message⟩], outcome := .ok 1 }

/-- What is wrong with settings. -/
def settingsMessage (faults : List FieldError) : String :=
  "Invalid configuration: " ++
    Text.joined "; " (faults.map fun e => e.place ++ ": " ++ e.fault.message)

/-- What the instrument command leaves behind; `time` is that of the run, in
    milliseconds. -/
def instrumentCommand (t : FileTree) (o : InstrumentOptions) (time : Nat) : Report :=
  match collectSources t o.paths with
  | .error e => refuse t e.message
  | .ok [] => { files := t, logs := [⟨.warning, "No .py files found."⟩] }
  | .ok sources =>
      match Config.load t (o.searchPath t) o.overrides with
      | .error (.invalid faults) => refuse t (settingsMessage faults)
      | .error reason => { files := t, outcome := .error (.settings reason) }
      | .ok config =>
          match readSources t sources with
          | .error e => { files := t, outcome := .error (.file e) }
          | .ok units => instrumentUnits t o time config units

end EntryCoverage

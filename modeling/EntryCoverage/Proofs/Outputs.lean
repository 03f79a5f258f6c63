import EntryCoverage.Proofs.Commands
import EntryCoverage.Proofs.UnitNames

/-!
# What the Instrument Command Writes

Which files the command writes, and what becomes of those of a program's units.

Whatever the command comes to, it has saved a row of texts: the trace, the units at their
destinations, and the mapping. So a place where something has changed is one of those that
they lead to, or a directory on the way. A unit's place is below that of the output
directory, unless the unit's name begins with two slashes: the root of such a path is not
among what is left out of a destination.

No two units of a program have the same name, but names that differ in their roots and
double dots only have the same destination. Then one file gets the texts of both units, and
holds the later one. Units that have destinations of their own below the output directory
have files of their own, and none of them is lost.

## Main definitions

* `StaysBelow`: Where files are written.
* `Held`: What the files of units hold.
* `Apart`: Which units have files of their own, and what the files hold.

## Theorems

* `instrumentCommand_saves`: What the command has saved.
* `instrument_stays_below`: The command writes no unit outside the output directory, names with
  two slashes apart.
* `units_apart`: No unit is written over another one, names that are alike apart.
-/

namespace EntryCoverage

/-! ### What is saved -/

/-- A unit's text is among what is written. -/
theorem mem_outputsOf {o : InstrumentOptions} {outcome : Outcome} {u : InstrumentedUnit}
    (hu : u ∈ outcome.units) : (destination o.output u.name, u.code) ∈ outputsOf o outcome :=
  List.mem_append_left _ (List.mem_map_of_mem hu)

/-- What is written is a unit's text, or the mapping. -/
theorem eq_mapping_or_of_mem_outputsOf {o : InstrumentOptions} {outcome : Outcome}
    {output : Path × String} (h : output ∈ outputsOf o outcome) :
    output.1 = o.mapping ∨
      ∃ u ∈ outcome.units, (destination o.output u.name, u.code) = output := by
  rcases List.mem_append.1 h with hunit | hmapping
  · exact .inr (List.mem_map.1 hunit)
  · rw [Option.mem_toList, Option.map_eq_some_iff] at hmapping
    rcases hmapping with ⟨m, -, rfl⟩
    exact .inl rfl

/-- What is written at the end, up to the first text that cannot be saved. -/
theorem writeOutputs_saves (o : InstrumentOptions) (outcome : Outcome) (report : Report) :
    ∃ saved, report.files.saveAll saved = ((writeOutputs o outcome report).files, .ok ()) ∧
      ∀ output ∈ saved, outcome.success = true ∧ output ∈ outputsOf o outcome := by
  unfold writeOutputs
  cases hsuccess : outcome.success with
  | false => exact ⟨[], rfl, fun _ hmem => absurd hmem List.not_mem_nil⟩
  | true =>
      cases hsaveAll : report.files.saveAll (outputsOf o outcome) with
      | mk files answer =>
          rcases FileTree.exists_saved hsaveAll with ⟨saved, left, houtputs, hsaved⟩
          have hmem : ∀ output ∈ saved, true = true ∧ output ∈ outputsOf o outcome :=
            fun output h => ⟨rfl, houtputs ▸ List.mem_append_left _ h⟩
          cases answer <;> exact ⟨saved, hsaved, hmem⟩

/-- The trace is written first. -/
theorem writeTrace_saves (o : InstrumentOptions) (time : Nat) (outcome : Outcome)
    (report : Report) :
    ∃ saved, report.files.saveAll saved = ((writeTrace o time outcome report).files, .ok ()) ∧
      ∀ output ∈ saved, o.trace = some output.1 ∨
        outcome.success = true ∧ output ∈ outputsOf o outcome := by
  unfold writeTrace
  cases htrace : o.trace with
  | none =>
      rcases writeOutputs_saves o outcome report with ⟨saved, hsaved, hmem⟩
      exact ⟨saved, hsaved, fun output h => .inr (hmem output h)⟩
  | some path =>
      dsimp only
      cases hsave : report.files.save path (outcome.trace.fileText time) with
      | error e => exact ⟨[], rfl, fun _ hmem => absurd hmem List.not_mem_nil⟩
      | ok files =>
          rcases writeOutputs_saves o outcome { report with files, logs := report.logs ++
            [⟨.info, "Trace saved to [path]" ++ path.text ++ "[/path]"⟩] } with
            ⟨saved, hsaved, hmem⟩
          refine ⟨(path, outcome.trace.fileText time) :: saved,
            FileTree.saveAll_cons_eq_ok.2 ⟨files, hsave, hsaved⟩, fun output h => ?_⟩
          rcases List.mem_cons.1 h with rfl | h
          · exact .inl rfl
          · exact .inr (hmem output h)

/-- The units of a run that ends well have the names of the files that it was given. -/
theorem names_run {config : Config} {units : List SourceUnit} {outcome : Outcome}
    (h : (Engine.run config 0 units).outcome = .ok outcome) (hsuccess : outcome.success = true) :
    outcome.units.map (·.name) = units.map (·.name) := by
  rcases Engine.run_ok h hsuccess with ⟨done, seen, hended⟩
  rw [hended.units, List.map_map, hended.names]
  rfl

/-- What the command has saved once it has its files: the trace, the mapping, and texts of
    units at their destinations. -/
theorem instrumentUnits_saves (t : FileTree) (o : InstrumentOptions) (time : Nat)
    (config : Config) (units : List SourceUnit) :
    ∃ saved, t.saveAll saved = ((instrumentUnits t o time config units).files, .ok ()) ∧
      ∀ output ∈ saved, o.trace = some output.1 ∨ output.1 = o.mapping ∨
        ∃ name ∈ units.map (·.name), output.1 = destination o.output name := by
  unfold instrumentUnits
  dsimp only
  cases houtcome : (Engine.run config 0 units).outcome with
  | error reason => exact ⟨[], rfl, fun _ hmem => absurd hmem List.not_mem_nil⟩
  | ok outcome =>
      rcases writeTrace_saves o time outcome
        { files := t
          logs := ⟨.info, s!"Instrumenting {units.length} files..."⟩ ::
            (Engine.run config 0 units).logs } with ⟨saved, hsaved, hmem⟩
      refine ⟨saved, hsaved, fun output h => ?_⟩
      rcases hmem output h with htrace | ⟨hsuccess, houtput⟩
      · exact .inl htrace
      · rcases eq_mapping_or_of_mem_outputsOf houtput with hmapping | ⟨u, hu, rfl⟩
        · exact .inr (.inl hmapping)
        · refine .inr (.inr ⟨u.name, ?_, rfl⟩)
          rw [← names_run houtcome hsuccess]
          exact List.mem_map_of_mem hu

/-- What the command has saved, whatever it comes to. -/
theorem instrumentCommand_saves (t : FileTree) (o : InstrumentOptions) (time : Nat) :
    ∃ saved, t.saveAll saved = ((instrumentCommand t o time).files, .ok ()) ∧
      ∀ output ∈ saved, o.trace = some output.1 ∨ output.1 = o.mapping ∨
        ∃ sources, collectSources t o.paths = .ok sources ∧
          ∃ name ∈ sources.map (·.1), output.1 = destination o.output name := by
  unfold instrumentCommand
  -- All ends but the last one leave the files as they are.
  split
  case h_3 sources _ hsources =>
    split
    case h_3 config _ =>
      split
      case h_2 units hunits =>
        rcases instrumentUnits_saves t o time config units with ⟨saved, hsaved, hmem⟩
        refine ⟨saved, hsaved, fun output h => (hmem output h).imp_right fun h => ?_⟩
        refine h.imp_right fun hname => ⟨sources, hsources, ?_⟩
        rwa [← names_readSources hunits]
      all_goals exact ⟨[], rfl, fun _ hmem => absurd hmem List.not_mem_nil⟩
    all_goals exact ⟨[], rfl, fun _ hmem => absurd hmem List.not_mem_nil⟩
  all_goals exact ⟨[], rfl, fun _ hmem => absurd hmem List.not_mem_nil⟩

/-! ### Below the output directory -/

/-- Where the command writes. -/
structure StaysBelow (t : FileTree) (o : InstrumentOptions) (t' : FileTree) : Prop where
  /-- A destination is the output directory joined with a relative path that has no double
      dots, unless it strays. -/
  joins_iff : ∀ name, (∃ inner, ".." ∉ inner ∧
    destination o.output name = o.output.join ⟨0, inner⟩) ↔ ¬ Strays o.output name
  /-- The destination of a name that begins with two slashes is not up to the output
      directory. -/
  rooted : ∀ name, (Path.ofText name).slashes = 2 →
    destination o.output name = ⟨2, (Path.ofText name).onward⟩
  /-- What has changed is a directory that was made where nothing was, the mapping, the
      trace, or a unit's file. That is below the output directory, unless it strays. -/
  changed : ∀ l, t'.find? l ≠ t.find? l →
    t.find? l = none ∧ t'.find? l = some .directory ∨
    t'.locate o.mapping = .ok l ∨
    (∃ p, o.trace = some p ∧ t'.locate p = .ok l) ∨
    ∃ sources, collectSources t o.paths = .ok sources ∧ ∃ name ∈ sources.map (·.1),
      t'.locate (destination o.output name) = .ok l ∧
        (¬ Strays o.output name → ∃ base, t'.locate o.output = .ok base ∧ base <+: l)
  /-- A unit's file is its own source only if the source is below the output directory, or
      the unit strays. -/
  own : ∀ sources, collectSources t o.paths = .ok sources → ∀ source ∈ sources, ∀ l,
    t'.locate source.2 = .ok l → t'.locate (destination o.output source.1) = .ok l →
      ¬ Strays o.output source.1 → ∃ base, t'.locate o.output = .ok base ∧ base <+: l

/-- A destination that does not stray leads to a place below that of the output directory. -/
theorem locate_destination {t : FileTree} {output : Path} {name : String} {l : Location}
    (h : ¬ Strays output name) (hl : t.locate (destination output name) = .ok l) :
    ∃ base, t.locate output = .ok base ∧ base <+: l := by
  rcases (destination_joins_iff output name).2 h with ⟨inner, honward, hjoin⟩
  rcases FileTree.locate_join honward (hjoin ▸ hl) with ⟨base, hbase, rfl⟩
  exact ⟨base, hbase, List.prefix_append base inner⟩

/-- Whatever the files, the arguments and the end it comes to, the command writes units to
    their destinations only. These are below the output directory, unless a unit's name
    begins with two slashes; then it goes where that path leads from the top. -/
theorem instrument_stays_below (t : FileTree) (o : InstrumentOptions) (time : Nat) :
    StaysBelow t o (instrumentCommand t o time).files where
  joins_iff := destination_joins_iff o.output
  rooted := fun _ h => destination_of_eq h o.output
  changed := by
    intro l hchanged
    rcases instrumentCommand_saves t o time with ⟨saved, hsaved, hmem⟩
    rcases FileTree.writtenAt_saveAll hsaved with ⟨-, hwritten⟩
    by_cases hreached : (instrumentCommand t o time).files.Reached saved l
    · rcases hreached with ⟨output, houtput, hl⟩
      rcases hmem output houtput with htrace | hmapping | ⟨sources, hsources, name, hname, hto⟩
      · exact .inr (.inr (.inl ⟨output.1, htrace, hl⟩))
      · exact .inr (.inl (hmapping ▸ hl))
      · rw [hto] at hl
        exact .inr (.inr (.inr ⟨sources, hsources, name, hname, hl,
          fun hstays => locate_destination hstays hl⟩))
    · rcases hwritten.elsewhere l hreached with hsame | hmade
      · exact absurd hsame hchanged
      · exact .inl hmade
  own := fun _ _ _ _ _ _ hl hstays => locate_destination hstays hl

/-- A program whose files have the same name in two directories. -/
def twoFiles : FileTree :=
  { home := ["w"]
    entries :=
      [(["w"], .directory),
        (["w", "instrument_code.py"], .file "".toUTF8),
        (["w", "a.py"], .file "def f(): pass\n".toUTF8),
        (["w", "d"], .directory),
        (["w", "d", "a.py"], .file "def g(): pass\n".toUTF8)] }

/-- How files of the program are instrumented along with its hook file. -/
def twoOptions (paths : List Path) : InstrumentOptions :=
  { paths := ⟨0, ["instrument_code.py"]⟩ :: paths
    output := ⟨0, ["out"]⟩
    mapping := ⟨0, ["m"]⟩ }

/-- A unit whose name begins with two slashes is written over its own source. -/
example :
    (instrumentCommand twoFiles (twoOptions [⟨2, ["w", "a.py"]⟩]) 0).files.find? ["w", "a.py"] ≠
      twoFiles.find? ["w", "a.py"] := by
  decide +kernel

/-! ### Files of their own -/

/-- What the files of units hold that were written to their destinations. The mapping is
    taken to go elsewhere. -/
structure Held (t : FileTree) (o : InstrumentOptions) (units : List InstrumentedUnit) : Prop where
  /-- All texts are found exactly if those that go to one place are the same. -/
  found_iff :
    (∀ u ∈ units, t.locate o.mapping ≠ t.locate (destination o.output u.name)) →
    ((∀ u ∈ units, t.lookup (destination o.output u.name) = .ok (.file u.code.toUTF8)) ↔
      ∀ u ∈ units, ∀ v ∈ units,
        t.locate (destination o.output u.name) = t.locate (destination o.output v.name) →
          u.code = v.code)
  /-- Destinations below the output directory that lead to one place are one. -/
  own : ∀ u ∈ units, ∀ v ∈ units, ¬ Strays o.output u.name → ¬ Strays o.output v.name →
    t.locate (destination o.output u.name) = t.locate (destination o.output v.name) →
      destination o.output u.name = destination o.output v.name

/-- Which units of a program have files of their own, and what the files hold in the end. -/
structure Apart (t : FileTree) (o : InstrumentOptions) (names : List String) : Prop where
  nodup : names.Nodup
  /-- Units have destinations of their own exactly if those that are alike are one. -/
  injective_iff : (∀ n ∈ names, ∀ m ∈ names,
      destination o.output n = destination o.output m → n = m) ↔
    ∀ n ∈ names, ∀ m ∈ names,
      Alike o.output (Path.ofText n) (Path.ofText m) → Path.ofText n = Path.ofText m
  /-- They have if no file is named on the command line by a path with a root or double
      dots. -/
  injective_of_plain : (∀ p ∈ o.paths, t.isFile p = true → (seenFrom t p).Plain) →
    ∀ n ∈ names, ∀ m ∈ names, destination o.output n = destination o.output m → n = m
  /-- If the command ends well, it has written the units of its run, and if they have
      destinations of their own below the output directory, none of them is lost. -/
  written : ∀ time, names ≠ [] → (instrumentCommand t o time).outcome = .ok 0 →
    ∃ config inputs outcome, (Engine.run config 0 inputs).outcome = .ok outcome ∧
      inputs.map (·.name) = names ∧ outcome.units.map (·.name) = names ∧
      Held (instrumentCommand t o time).files o outcome.units ∧
      ((∀ n ∈ names, ∀ m ∈ names, destination o.output n = destination o.output m → n = m) →
        (∀ n ∈ names, ¬ Strays o.output n) →
        (∀ n ∈ names, (instrumentCommand t o time).files.locate o.mapping ≠
          (instrumentCommand t o time).files.locate (destination o.output n)) →
        ∀ u ∈ outcome.units, (instrumentCommand t o time).files.lookup
          (destination o.output u.name) = .ok (.file u.code.toUTF8))

/-- What the files of units hold, of which the mapping was written last. -/
theorem held_of_saveAll {t t' : FileTree} {o : InstrumentOptions} {outcome : Outcome}
    (h : t.saveAll (outputsOf o outcome) = (t', .ok ())) : Held t' o outcome.units where
  found_iff := by
    intro hmapping
    have hall : ∀ output ∈ outcome.units.map fun u => (destination o.output u.name, u.code),
        output ∈ outputsOf o outcome := by
      intro output hmem
      rcases List.mem_map.1 hmem with ⟨u, hu, rfl⟩
      exact mem_outputsOf hu
    have hiff := FileTree.lookup_saveAll_iff h hall ?_
    · simpa only [List.forall_mem_map] using hiff
    · -- Only the mapping is no unit, and it goes elsewhere.
      intro output hmem other hother hsame
      rcases List.mem_map.1 hmem with ⟨u, hu, rfl⟩
      rcases eq_mapping_or_of_mem_outputsOf hother with hlast | hunit
      · rw [hlast] at hsame
        exact absurd hsame (hmapping u hu)
      · exact List.mem_map.2 hunit
  own := by
    intro u hu v _ hstays hstays' hsame
    rcases (FileTree.writtenAt_saveAll h).1 _ (mem_outputsOf hu) with ⟨l, hl⟩
    exact locate_destination_inj hstays hstays' hl (hsame ▸ hl)

/-- Units of different names that have destinations of their own are all found. -/
theorem Held.found {t : FileTree} {o : InstrumentOptions} {units : List InstrumentedUnit}
    (h : Held t o units) (hnodup : (units.map (·.name)).Nodup)
    (hown : ∀ n ∈ units.map (·.name), ∀ m ∈ units.map (·.name),
      destination o.output n = destination o.output m → n = m)
    (hstays : ∀ n ∈ units.map (·.name), ¬ Strays o.output n)
    (hmapping : ∀ n ∈ units.map (·.name),
      t.locate o.mapping ≠ t.locate (destination o.output n)) :
    ∀ u ∈ units, t.lookup (destination o.output u.name) = .ok (.file u.code.toUTF8) := by
  rw [List.forall_mem_map] at hstays hmapping
  refine (h.found_iff hmapping).2 fun u hu v hv hsame => ?_
  have hdestination := h.own u hu v hv (hstays u hu) (hstays v hv) hsame
  have hname := hown _ (List.mem_map_of_mem hu) _ (List.mem_map_of_mem hv) hdestination
  rw [List.inj_on_of_nodup_map hnodup hu hv hname]

/-- For every program whose files are found, under paths that texts stand for: its units have
    names of their own, and they have destinations of their own unless two of them differ in
    roots and double dots only. The command writes units with destinations of their own below
    the output directory to files of their own; of those that go to one file, the last is
    kept. -/
theorem units_apart (t : FileTree) (ht : t.Proper) (o : InstrumentOptions)
    (hpaths : ∀ p ∈ o.paths, p.Proper) (sources : List (String × Path))
    (hsources : collectSources t o.paths = .ok sources) : Apart t o (sources.map (·.1)) where
  nodup := nodup_names hsources
  injective_iff := by
    have htext : ∀ n ∈ sources.map (·.1), (Path.ofText n).text = n :=
      fun n hn => text_ofText_of_mem hsources ht hpaths hn
    constructor
    · intro h n hn m hm halike
      rw [h n hn m hm ((destination_eq_iff o.output n m).2 halike)]
    · intro h n hn m hm hsame
      have hpath := h n hn m hm ((destination_eq_iff o.output n m).1 hsame)
      rw [← htext n hn, hpath, htext m hm]
  injective_of_plain := by
    intro hplain n hn m hm hsame
    have hread : ∀ n ∈ sources.map (·.1), (Path.ofText n).Plain ∧ (Path.ofText n).text = n := by
      intro n hn
      rcases exists_path_of_mem hsources ht hpaths hn with ⟨q, hproper, rfl, hq⟩
      rw [Path.ofText_text hproper]
      refine ⟨?_, rfl⟩
      rcases hq with hq | ⟨p, hp, hfile, rfl⟩
      · exact hq
      · exact hplain p hp hfile
    have hpath := ((destination_eq_iff o.output n m).1 hsame).eq_of_plain (hread n hn).1
      (hread m hm).1
    rw [← (hread n hn).2, hpath, (hread m hm).2]
  written := by
    intro time hne hok
    have hfound : sources ≠ [] := fun hnil => hne (hnil ▸ rfl)
    rcases instrumentCommand_ok hsources hfound hok with
      ⟨config, inputs, outcome, -, hinputs, hrun, hsuccess, t₁, hsaved⟩
    have hnames := names_readSources hinputs
    have hunits := (names_run hrun hsuccess).trans hnames
    have hheld := held_of_saveAll hsaved
    refine ⟨config, inputs, outcome, hrun, hnames, hunits, hheld, ?_⟩
    rw [← hunits]
    exact hheld.found (hunits ▸ nodup_names hsources)

/-- Paths of two files that differ in their double dots only. -/
def alikePaths : List Path := [⟨0, ["d", "a.py"]⟩, ⟨0, ["d", "..", "a.py"]⟩]

/-- The code of the later one in the end. -/
def laterCode : String :=
  "import instrument_code\n" ++
    "def f(): instrument_code.instrument_code_instance.instrument_code(\"E\", 1); pass\n"

/-- The two files have different names and one destination, where only the later one is. -/
theorem units_apart_alike :
    twoFiles.Proper ∧ (∀ p ∈ (twoOptions alikePaths).paths, p.Proper) ∧
      ∃ sources, collectSources twoFiles (twoOptions alikePaths).paths = .ok sources ∧
        Apart twoFiles (twoOptions alikePaths) (sources.map (·.1)) ∧
        sources.map (·.1) = ["instrument_code.py", "d/a.py", "d/../a.py"] ∧
        destination ⟨0, ["out"]⟩ "d/a.py" = destination ⟨0, ["out"]⟩ "d/../a.py" ∧
        (instrumentCommand twoFiles (twoOptions alikePaths) 0).files.find?
          ["w", "out", "d", "a.py"] = some (.file laterCode.toUTF8) := by
  have ht : twoFiles.Proper := by
    decide +kernel
  have hpaths : ∀ p ∈ (twoOptions alikePaths).paths, p.Proper := by
    decide +kernel
  have hsources : collectSources twoFiles (twoOptions alikePaths).paths =
      .ok [("instrument_code.py", ⟨0, ["instrument_code.py"]⟩),
        ("d/a.py", ⟨0, ["d", "a.py"]⟩), ("d/../a.py", ⟨0, ["d", "..", "a.py"]⟩)] := by
    rfl
  exact ⟨ht, hpaths, _, hsources, units_apart twoFiles ht _ hpaths _ hsources, rfl, by
    decide +kernel, by decide +kernel⟩

end EntryCoverage

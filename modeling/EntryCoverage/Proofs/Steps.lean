import EntryCoverage.Proofs.Requests

/-!
# Runs That Get Through

What it takes to get through a step of a run, and what is left then.

Every step of a run either stops it or hands on what it carries. For each of them there is
one lemma that says when it does not stop and what it hands on: for a place, a function, a
node, the nodes of a file, a file and the files of a program. They are read in both
directions, to take a run apart that got through, and to show of another one that it does.

A run that ends well has three stages: the files are read, they are gone through with one
pass, and the pass that is left is concluded (`ends_well_iff`). Only the middle one has
state.

## Main definitions

* `Looks`: What looking at a node comes to.
* `written`: A file with its calls.
* `opening`, `conclusion`: The first and the last stage of a run.

## Theorems

* `Builder.enter_eq_ok`, `callFor_eq_ok`, `look_eq_ok`, `plan_cons_eq_ok`,
  `instrumentUnit_eq_ok`, `instrumentUnits_cons_eq_ok`: When a step is got through.
* `ends_well_iff`: The stages of a run.
* `instrumentUnits_append`: Files are gone through one row after the other.
-/

namespace EntryCoverage

open Source

/-! ### Steps that succeed -/

/-- A call is made if the registry has an identifier for the place and the call can be
    written. -/
theorem Builder.enter_eq_ok {b b' : Builder} {p : Place} {call : Tree} :
    b.enter p = (b', .ok call) ↔ ∃ registry identifier,
      b.registry.encode p.coordinate = (registry, .ok identifier) ∧
      Hook.hookCall? b.config identifier p.line = some call ∧
      b' = ({ b with registry, sites := b.sites ++ [⟨p, identifier⟩] } : Builder).noteChange p
        call := by
  unfold enter allocate
  rcases b.registry.encode p.coordinate with ⟨registry, _ | identifier⟩
  · simp only [Prod.mk.injEq, reduceCtorEq, and_false, false_and, exists_false]
  · dsimp only
    constructor
    · intro h
      cases hcall : Hook.hookCall? b.config identifier p.line with
      | none => simp only [hcall, Prod.mk.injEq, reduceCtorEq, and_false] at h
      | some made =>
          simp only [hcall, Prod.mk.injEq, Except.ok.injEq] at h
          rcases h with ⟨rfl, rfl⟩
          exact ⟨registry, identifier, rfl, hcall, rfl⟩
    · rintro ⟨_, _, hencode, hcall, rfl⟩
      cases hencode
      simp only [hcall]

namespace Engine

variable {start : Int}

/-- A function gets its call if it has a name and there is a call for its place. -/
theorem callFor_eq_ok {file : String} {b b' : Builder} {v : Visit} {call : Tree} :
    callFor file b v = (b', .ok call) ↔ ∃ name, v.name b.config.anonymousName = .ok name ∧
      b.enter ⟨file, name, v.sitePosition.line, v.sitePosition.column⟩ = (b', .ok call) := by
  unfold callFor
  cases v.name b.config.anonymousName with
  | error reason =>
      simp only [Prod.mk.injEq, reduceCtorEq, and_false, false_and, exists_false]
  | ok name =>
      simp only [Except.ok.injEq, exists_eq_left']
      rcases b.enter ⟨file, name, v.sitePosition.line, v.sitePosition.column⟩ with
        ⟨b₁, (_ | _ | _) | made⟩ <;>
        simp only [Prod.mk.injEq, reduceCtorEq, and_false, Except.ok.injEq]

/-- What looking at a node comes to if it does not stop the run. -/
inductive Looks (file : String) (p : Pass) (v : Visit) : Pass → Option Tree → Prop
  | foreign (h : verdict p.books.config file p.hookSeen v = .foreign) :
      Looks file p v (p.skip v ("originates from " ++ v.origin)) none
  | hook (h : verdict p.books.config file p.hookSeen v = .hook) :
      Looks file p v { p with hookSeen := true } none
  | tooEarly (h : verdict p.books.config file p.hookSeen v = .tooEarly) :
      Looks file p v (p.skip v "runtime hook file not seen yet") none
  | called (h : verdict p.books.config file p.hookSeen v = .eligible)
      (hgets : getsCall p.books.config v.kind = true) (books : Builder) (call : Tree)
      (hcall : callFor file p.books v = (books, .ok call)) :
      Looks file p v { p with books } (some call)
  | leftOut (h : verdict p.books.config file p.hookSeen v = .eligible)
      (hgets : getsCall p.books.config v.kind = false) : Looks file p v p none

theorem look_eq_ok {file : String} {p p' : Pass} {v : Visit} {call : Option Tree} :
    look file p v = (p', .ok call) ↔ Looks file p v p' call := by
  constructor
  · intro h
    unfold look at h
    cases hverdict : verdict p.books.config file p.hookSeen v with
    | foreign =>
        simp only [hverdict, Prod.mk.injEq, Except.ok.injEq] at h
        rcases h with ⟨rfl, rfl⟩
        exact .foreign hverdict
    | hook =>
        simp only [hverdict, Prod.mk.injEq, Except.ok.injEq] at h
        rcases h with ⟨rfl, rfl⟩
        exact .hook hverdict
    | tooEarly =>
        simp only [hverdict, Prod.mk.injEq, Except.ok.injEq] at h
        rcases h with ⟨rfl, rfl⟩
        exact .tooEarly hverdict
    | eligible =>
        simp only [hverdict] at h
        split at h
        · rename_i hgets
          rcases hcall : callFor file p.books v with ⟨books, _ | made⟩ <;>
            simp only [hcall, Prod.mk.injEq, reduceCtorEq, and_false, Except.ok.injEq] at h
          rcases h with ⟨rfl, rfl⟩
          exact .called hverdict hgets books made hcall
        · rename_i hgets
          simp only [Prod.mk.injEq, Except.ok.injEq] at h
          rcases h with ⟨rfl, rfl⟩
          exact .leftOut hverdict (Bool.eq_false_iff.2 hgets)
  · intro h
    cases h with
    | foreign h => simp only [look, h]
    | hook h => simp only [look, h]
    | tooEarly h => simp only [look, h]
    | called h hgets books made hcall => simp only [look, h, hgets, if_true, hcall]
    | leftOut h hgets => simp only [look, h, hgets, Bool.false_eq_true, if_false]

/-- The nodes of a file are got through if the first one is, and after it the others are. -/
theorem plan_cons_eq_ok {file : String} {p p' : Pass} {v : Visit} {vs : List Visit}
    {calls : List (Option Tree)} :
    plan file p (v :: vs) = (p', .ok calls) ↔ ∃ p₁ call rest, look file p v = (p₁, .ok call) ∧
      plan file p₁ vs = (p', .ok rest) ∧
        calls = if isFunction v.kind then call :: rest else rest := by
  rw [plan]
  constructor
  · intro h
    rcases hlook : look file p v with ⟨p₁, _ | call⟩
    · simp only [hlook, Prod.mk.injEq, reduceCtorEq, and_false] at h
    · simp only [hlook] at h
      rcases hrest : plan file p₁ vs with ⟨p₂, _ | rest⟩ <;>
        simp only [hrest, Prod.mk.injEq, reduceCtorEq, and_false, Except.ok.injEq] at h
      rcases h with ⟨rfl, rfl⟩
      exact ⟨p₁, call, rest, rfl, hrest, rfl⟩
  · rintro ⟨p₁, call, rest, hlook, hrest, rfl⟩
    simp only [hlook, hrest]

/-- A file with its calls. -/
def written (config : Config) (nm : String × Module) (calls : List (Option Tree)) :
    InstrumentedUnit :=
  ⟨nm.1, (withCalls config nm.2 calls).render, (calls.filter (·.isSome)).length⟩

/-- A file is got through if its nodes are, between the two ends of a phase. -/
theorem instrumentUnit_eq_ok {p p' : Pass} {name : String} {m : Module}
    {unit : InstrumentedUnit} :
    instrumentUnit p name m = (p', .ok unit) ↔ ∃ p₁ calls,
      plan name { p with books := { p.books with
        trace := p.books.trace.startPhase ("Instrumenting " ++ name) } }
        (visits m.layout { origin := name } m.tree) = (p₁, .ok calls) ∧
      p' = { p₁ with books := { p₁.books with trace := p₁.books.trace.endPhase } } ∧
      unit = written p₁.books.config (name, m) calls := by
  unfold instrumentUnit
  dsimp only
  constructor
  · intro h
    split at h
    · simp only [Prod.mk.injEq, reduceCtorEq, and_false] at h
    · rename_i p₁ calls hplan
      simp only [Prod.mk.injEq, Except.ok.injEq] at h
      exact ⟨p₁, calls, hplan, h.1.symm, h.2.symm⟩
  · rintro ⟨p₁, calls, hplan, rfl, rfl⟩
    simp only [hplan, written]

/-- The files of a program are got through if the first one is, and after it the others
    are. -/
theorem instrumentUnits_cons_eq_ok {p p' : Pass} {name : String} {m : Module}
    {rest : List (String × Module)} {units : List InstrumentedUnit} :
    instrumentUnits p ((name, m) :: rest) = (p', .ok units) ↔ ∃ p₁ unit more,
      instrumentUnit p name m = (p₁, .ok unit) ∧ instrumentUnits p₁ rest = (p', .ok more) ∧
        units = unit :: more := by
  rw [instrumentUnits]
  constructor
  · intro h
    rcases hunit : instrumentUnit p name m with ⟨p₁, _ | unit⟩
    · simp only [hunit, Prod.mk.injEq, reduceCtorEq, and_false] at h
    · simp only [hunit] at h
      rcases hrest : instrumentUnits p₁ rest with ⟨p₂, _ | more⟩ <;>
        simp only [hrest, Prod.mk.injEq, reduceCtorEq, and_false, Except.ok.injEq] at h
      rcases h with ⟨rfl, rfl⟩
      exact ⟨p₁, unit, more, rfl, hrest, rfl⟩
  · rintro ⟨p₁, unit, more, hunit, hrest, rfl⟩
    simp only [hunit, hrest]

/-! ### Stages -/

/-- The pass that a run over so many files begins with. -/
def opening (config : Config) (counter : Int) (size : Nat) : Pass :=
  { books :=
      { config, registry := { counter }
        trace := ((({} : Trace).startPhase "Instrumentation Pipeline"
          s!"{size} source units").startPhase "Parsing").endPhase } }

/-- The trace at the end of a run that got through all files. -/
def closing (p : Pass) : Trace :=
  let trace := (p.books.trace.startPhase "Materializing Mapping").endPhase
  (if p.hookSeen then trace else trace.warning (missingHook p.books.config)).endPhase

/-- What a run gives that got through all files. -/
def conclusion (p : Pass) (units : List InstrumentedUnit) : Outcome :=
  { units, mapping := some ⟨p.books.registry.rows⟩
    sites := p.books.sites
    changedScopes := p.books.changes.map (·.label)
    trace := closing p }

theorem balanced_opening (config : Config) (counter : Int) (size : Nat) :
    (opening config counter size).books.Balanced counter :=
  balanced_fresh config counter _ rfl rfl

theorem outcome_finish {p : Pass} (units : List InstrumentedUnit)
    (hb : p.books.Balanced start) : (finish p units).outcome = .ok (conclusion p units) := by
  unfold finish conclusion closing
  simp only [Registry.materialize_eq hb.registry.toRecords hb.registry.isOpen]
  cases p.hookSeen <;> rfl

/-- A run ends well if all files have trees and the pass over them does not stop, and gives
    what that pass is concluded with. -/
theorem ends_well_iff (config : Config) (counter : Int) (units : List SourceUnit) (o : Outcome) :
    ((run config counter units).outcome = .ok o ∧ o.success = true) ↔
      ∃ modules p results, Reads units modules ∧
        instrumentUnits (opening config counter units.length) modules = (p, .ok results) ∧
          o = conclusion p results := by
  have hb := balanced_opening config counter units.length
  constructor
  · rintro ⟨h, hsuccess⟩
    unfold run at h
    cases hparse : parseUnits units with
    | error name =>
        simp only [hparse, Except.ok.injEq] at h
        rw [← h] at hsuccess
        exact absurd hsuccess Bool.false_ne_true
    | ok modules =>
        simp only [hparse] at h
        split at h
        · simp only [reduceCtorEq] at h
        · simp only [Except.ok.injEq] at h
          rw [← h] at hsuccess
          exact absurd hsuccess Bool.false_ne_true
        · rename_i p results hunits
          rw [outcome_finish results (instrumentUnits_ok hb hunits).1, Except.ok.injEq] at h
          exact ⟨modules, p, results, parseUnits_ok hparse, hunits, h.symm⟩
  · rintro ⟨modules, p, results, hreads, hunits, rfl⟩
    refine ⟨?_, rfl⟩
    unfold run
    rw [(parseUnits_eq_ok_iff units modules).2 hreads]
    have hfinish := outcome_finish results (instrumentUnits_ok hb hunits).1
    unfold opening at hunits
    simp only [hunits, hfinish]

/-- The files that are read have the names that are given. -/
theorem Reads.names {units : List SourceUnit} {modules : List (String × Module)}
    (h : Reads units modules) : units.map (·.name) = modules.map (·.1) := by
  have hnames : List.Forall₂ (· = ·) (units.map (·.name)) (modules.map (·.1)) := by
    rw [List.forall₂_map_left_iff, List.forall₂_map_right_iff]
    exact h.imp fun _ _ hread => hread.1
  rwa [List.forall₂_eq_eq_eq] at hnames

/-- The files before one that was read define the hook if those given do. -/
theorem Reads.any_definesHook {config : Config} {units : List SourceUnit}
    {modules : List (String × Module)} (h : Reads units modules) (i : Nat) :
    ((modules.take i).any fun e => definesHook config e.1) =
      (units.take i).any fun e => definesHook config e.name := by
  have hnames := congrArg (fun names => (names.take i).any (definesHook config)) h.names
  simp only [← List.map_take, List.any_map] at hnames
  exact hnames.symm

/-- They are modules, above which nothing is marked. -/
theorem Reads.root {units : List SourceUnit} {modules : List (String × Module)}
    (h : Reads units modules) : ∀ nm ∈ modules,
      ∃ above more, nm.2.tree = .node .module (.node .header above :: more) := by
  intro nm hnm
  rcases List.getElem?_of_mem hnm with ⟨i, hi⟩
  rcases forall₂_getElem? h.flip i nm hi with ⟨u, -, -, hparse⟩
  exact (parse?_fits hparse).2

end Engine

end EntryCoverage

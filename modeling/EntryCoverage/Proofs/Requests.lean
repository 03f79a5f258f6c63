import EntryCoverage.Proofs.Exhaustion
import EntryCoverage.Proofs.Selection

/-!
# Requests

The run of a program as a row of requests.

Between the texts of a program and the end of its run stands one row: for each function
that gets a call, in the order of the run, the place that the registry is asked for, or
the reason why the function has no name (`requests`). A run goes through the row and
stops at the first request that it cannot serve. `serve` does the same with nothing but
the row at hand, and `run_eq_serve` says that the run ends as the row does.

That is built up from one node (`serve_look`) over the nodes of a file (`serve_plan`) to
the files (`serve_instrumentUnits`), by the same recursions as the run itself. The hook
flag drops out on the way: the nodes of a file are selected by the flag of its beginning,
and that flag is known from the names of the files before it.

## Main definitions

* `Request`: What the registry is asked for a function.
* `requests`: The requests of a program.
* `serve`: What a row of requests comes to.
* `Reads`: The files of a program with their trees.
* `FirstUnread`: The first file without a tree.

## Theorems

* `serve_look`, `serve_plan`, `serve_instrumentUnits`: Nodes and files come to what their
  requests come to.
* `run_eq_serve`: So does a run, if all its files have trees.
* `run_of_unread`: If not, it fails at once.
-/

namespace EntryCoverage

open Source

namespace Engine

/-! ### Rows of requests -/

/-- What the registry is asked for a function: its place, or the reason why it has no
    name. -/
abbrev Request := Except Naming.NamingError Coordinate

/-- The requests that looking at a node makes. -/
def requestOf (config : Config) (file : String) (seen : Bool) (v : Visit) : List Request :=
  if selects config file seen v then
    [(v.name config.anonymousName).map fun name => ⟨file, name, functionKind⟩]
  else []

/-- The requests of the nodes of a file. -/
def requestsOf (config : Config) (file : String) (seen : Bool) (vs : List Visit) :
    List Request :=
  vs.flatMap (requestOf config file seen)

/-- The requests of a program's files, `seen` saying whether a file before them defines
    the hook. -/
def requests (config : Config) (seen : Bool) : List (String × Module) → List Request
  | [] => []
  | (name, m) :: rest =>
      requestsOf config name seen (visits m.layout { origin := name } m.tree) ++
        requests config (seen || definesHook config name) rest

/-- The places in a row of requests. -/
def places (row : List Request) : List Coordinate := row.filterMap (·.toOption)

/-- What a row of requests comes to, after the places that were asked for: all the places
    asked for in the end, or where it stops. -/
def serve (writable : Bool) (start : Int) :
    List Coordinate → List Request → Except Stop (List Coordinate)
  | called, [] => .ok called
  | _, .error reason :: _ => .error (.crash (.naming reason))
  | called, .ok c :: row =>
      if Registry.room start < (called ++ [c]).eraseDups.length then .error (.registry .capacityExceeded)
      else if writable then serve writable start (called ++ [c]) row
      else .error (.crash .unwritable)

/-- Requests in two rows are served one row after the other. -/
theorem serve_append (writable : Bool) (start : Int) (called : List Coordinate)
    (row more : List Request) :
    serve writable start called (row ++ more) =
      (serve writable start called row).bind fun called => serve writable start called more := by
  induction row generalizing called with
  | nil => rfl
  | cons a row ih =>
      cases a with
      | error reason => rfl
      | ok c =>
          simp only [List.cons_append, serve]
          split
          · rfl
          · split
            · exact ih _
            · rfl

/-! ### Runs serve their requests -/

/-- The hook's path can be written. -/
def pathWritable (config : Config) : Bool := (Hook.dottedName? config.hookPath).isSome

/-- A quantity can stand between quotes, so a call can be written if its path can. -/
theorem isSome_hookCall?_text (config : Config) (n : Int) (line : Nat) :
    (Hook.hookCall? config (Vlq.text n) line).isSome = pathWritable config := by
  rw [Bool.eq_iff_iff, isSome_hookCall?_iff, pathWritable]
  exact and_iff_left ⟨isWritableIdentifier_text n, Int.natCast_nonneg line⟩

variable {start : Int}

/-- A call for a place is made if the registry has a number for it and the path can be
    written. -/
theorem serve_enter {b : Builder} (hb : b.Balanced start) (hstart : 0 ≤ start) (p : Place)
    (line : Nat) (hline : p.line = line) :
    serve (pathWritable b.config) start (coordinates b.sites) [.ok p.coordinate] =
      match b.enter p with
      | (b', .ok _) => .ok (coordinates b'.sites)
      | (_, .error (.registry reason)) => .error (.registry reason)
      | (_, .error _) => .error (.crash .unwritable) := by
  unfold Builder.enter Builder.allocate
  cases hencode : b.registry.encode p.coordinate with
  | mk registry answer =>
    cases answer with
    | error reason =>
        rcases Registry.After.refused hb.registry hstart p.coordinate registry reason hencode with
          ⟨rfl, hfull⟩
        simp only [serve, if_pos hfull]
    | ok identifier =>
        rcases Registry.encode_ok hb.registry p.coordinate registry identifier hencode with
          ⟨hafter, hnumber⟩
        have hfits : ¬ Registry.room start <
            (coordinates b.sites ++ [p.coordinate]).eraseDups.length := by
          have hle := (Registry.After.holds hafter).2
          omega
        have hcall := isSome_hookCall?_text b.config
          (start + ((coordinates b.sites ++ [p.coordinate]).eraseDups.idxOf p.coordinate : Int) + 1)
          line
        rw [← ((Vlq.encode_eq_ok_iff _ _).1 hnumber).2, ← hline] at hcall
        simp only [serve, if_neg hfits, ← hcall]
        cases Hook.hookCall? b.config identifier p.line with
        | none => rfl
        | some call =>
            -- The site of the place is added to those there were.
            simp only [Option.isSome_some, if_true, Builder.noteChange_sites, coordinates,
              List.map_append, List.map_singleton]

/-- A node comes to what its requests come to. -/
theorem serve_look {p : Pass} (hb : p.books.Balanced start) (hstart : 0 ≤ start) (file : String)
    (v : Visit) :
    serve (pathWritable p.books.config) start (coordinates p.books.sites)
        (requestOf p.books.config file p.hookSeen v) =
      (look file p v).2.map fun _ => coordinates (look file p v).1.books.sites := by
  have hselects := selects_eq p.books.config file p.hookSeen v
  have hskip : ∀ detail, (p.skip v detail).books.sites = p.books.sites :=
    fun detail => (p.quiet_skip v detail).1.sites
  unfold requestOf look
  cases hverdict : verdict p.books.config file p.hookSeen v with
  | foreign =>
      rw [hverdict] at hselects
      simp only [hselects, reduceCtorEq, decide_false, Bool.false_and, Bool.false_eq_true, if_false,
        serve, Except.map, hskip]
  | hook =>
      rw [hverdict] at hselects
      simp only [hselects, reduceCtorEq, decide_false, Bool.false_and, Bool.false_eq_true, if_false,
        serve, Except.map]
  | tooEarly =>
      rw [hverdict] at hselects
      simp only [hselects, reduceCtorEq, decide_false, Bool.false_and, Bool.false_eq_true, if_false,
        serve, Except.map, hskip]
  | eligible =>
      rw [hverdict, decide_eq_true rfl, Bool.true_and] at hselects
      rw [hselects]
      dsimp only
      by_cases hgets : getsCall p.books.config v.kind = true
      · rw [if_pos hgets, if_pos hgets]
        unfold callFor
        cases hname : v.name p.books.config.anonymousName with
        | error reason => rfl
        | ok name =>
            have henter := serve_enter hb hstart
              ⟨file, name, v.sitePosition.line, v.sitePosition.column⟩ _ rfl
            refine Eq.trans henter ?_
            dsimp only
            cases p.books.enter ⟨file, name, v.sitePosition.line, v.sitePosition.column⟩ with
            | mk b made =>
                cases made with
                | ok call => rfl
                | error e => cases e <;> rfl
      · rw [if_neg hgets, if_neg hgets]
        rfl

/-- The nodes of a file come to what their requests come to. -/
theorem serve_plan {p : Pass} (hb : p.books.Balanced start) (hstart : 0 ≤ start)
    (file : String) (vs : List Visit) :
    serve (pathWritable p.books.config) start (coordinates p.books.sites)
        (requestsOf p.books.config file p.hookSeen vs) =
      (plan file p vs).2.map fun _ => coordinates (plan file p vs).1.books.sites := by
  induction vs generalizing p with
  | nil => rfl
  | cons v vs ih =>
      have hfirst := serve_look hb hstart file v
      rw [requestsOf, List.flatMap_cons, serve_append, hfirst, plan]
      cases hlook : look file p v with
      | mk p₁ answer =>
        cases answer with
        | error stop => rfl
        | ok call =>
            have hok := look_ok hb hlook
            have hrest := ih hok.balanced
            -- The flag that the node may have set selects the same nodes.
            have hrequests : requestsOf p₁.books.config file p₁.hookSeen vs =
                vs.flatMap (requestOf p.books.config file p.hookSeen) := by
              rw [requestsOf, hok.config, hok.flag]
              congr 1
              funext w
              rw [requestOf, selects_or_marksHook]
              rfl
            rw [hrequests, hok.config] at hrest
            refine Eq.trans hrest ?_
            dsimp only
            cases plan file p₁ vs with
            | mk p₂ answer => cases answer <;> rfl

/-- A file comes to what its requests come to. -/
theorem serve_instrumentUnit {p : Pass} (hb : p.books.Balanced start) (hstart : 0 ≤ start)
    (name : String) (m : Module) :
    serve (pathWritable p.books.config) start (coordinates p.books.sites)
        (requestsOf p.books.config name p.hookSeen
          (visits m.layout { origin := name } m.tree)) =
      (instrumentUnit p name m).2.map fun _ =>
        coordinates (instrumentUnit p name m).1.books.sites := by
  have hquiet := quiet_startPhase p.books ("Instrumenting " ++ name) ""
  refine Eq.trans (serve_plan (hb.of_quiet hquiet) hstart _ _ (p := { p with books :=
    { p.books with trace := p.books.trace.startPhase ("Instrumenting " ++ name) } })) ?_
  unfold instrumentUnit
  dsimp only
  cases plan name _ (visits m.layout { origin := name } m.tree) with
  | mk p₁ answer => cases answer <;> rfl

/-- A program's files come to what their requests come to. -/
theorem serve_instrumentUnits {p : Pass} (hb : p.books.Balanced start) (hstart : 0 ≤ start)
    (modules : List (String × Module)) (hroot : ∀ nm ∈ modules,
      ∃ above more, nm.2.tree = .node .module (.node .header above :: more)) :
    serve (pathWritable p.books.config) start (coordinates p.books.sites)
        (requests p.books.config p.hookSeen modules) =
      (instrumentUnits p modules).2.map fun _ =>
        coordinates (instrumentUnits p modules).1.books.sites := by
  induction modules generalizing p with
  | nil => rfl
  | cons nm rest ih =>
      rcases nm with ⟨name, m⟩
      have hfirst := serve_instrumentUnit hb hstart name m
      rw [requests, serve_append, hfirst, instrumentUnits]
      cases hunit : instrumentUnit p name m with
      | mk p₁ answer =>
        cases answer with
        | error stop => rfl
        | ok unit =>
            rcases instrumentUnit_ok hb hunit with ⟨hb₁, hconfig, d, rfl, rfl, -, hflag, -, -⟩
            -- The file itself says whether it defines the hook.
            rw [any_marksHook p.books.config d (hroot _ List.mem_cons_self)] at hflag
            have hrest := ih hb₁ fun nm hnm => hroot nm (List.mem_cons_of_mem _ hnm)
            rw [hconfig, hflag] at hrest
            refine Eq.trans hrest ?_
            dsimp only
            cases instrumentUnits p₁ rest with
            | mk p₂ answer => cases answer <;> rfl

/-! ### Programs that can be read -/

/-- The files of a program with their trees. -/
def Reads (units : List SourceUnit) (modules : List (String × Module)) : Prop :=
  List.Forall₂ (fun u nm => u.name = nm.1 ∧ Module.parse? u.code = some nm.2) units modules

/-- A file is the first one without a tree. -/
def FirstUnread (units : List SourceUnit) (u : SourceUnit) : Prop :=
  ∃ before after, units = before ++ u :: after ∧ Module.parse? u.code = none ∧
    ∀ e ∈ before, Module.parse? e.code ≠ none

theorem parseUnits_eq_ok_iff (units : List SourceUnit) (modules : List (String × Module)) :
    parseUnits units = .ok modules ↔ Reads units modules := by
  refine ⟨parseUnits_ok, fun h => ?_⟩
  induction h with
  | nil => rfl
  | @cons u nm us rest hu _ ih =>
      rcases nm with ⟨name, m⟩
      rw [parseUnits, hu.2, ih, hu.1]
      rfl

/-- A file without a tree is found, and it is the first one. -/
theorem parseUnits_eq_error {units : List SourceUnit} {name : String}
    (h : parseUnits units = .error name) : ∃ u, FirstUnread units u ∧ u.name = name := by
  induction units with
  | nil => simp only [parseUnits, reduceCtorEq] at h
  | cons e us ih =>
      rw [parseUnits] at h
      cases hparse : Module.parse? e.code with
      | none =>
          simp only [hparse, Except.error.injEq] at h
          exact ⟨e, ⟨[], us, rfl, hparse, fun _ hd => absurd hd List.not_mem_nil⟩, h⟩
      | some m =>
          simp only [hparse] at h
          cases hrest : parseUnits us with
          | ok modules => simp only [hrest, Except.map, reduceCtorEq] at h
          | error found =>
              simp only [hrest, Except.map, Except.error.injEq] at h
              rcases ih (hrest.trans (congrArg _ h)) with
                ⟨u, ⟨before, after, rfl, hnone, hbefore⟩, hname⟩
              refine ⟨u, ⟨e :: before, after, rfl, hnone, fun d hd => ?_⟩, hname⟩
              rcases List.mem_cons.1 hd with rfl | hd
              · rw [hparse]
                exact Option.some_ne_none m
              · exact hbefore d hd

/-- No two files are the first one without a tree. -/
theorem FirstUnread.eq {units : List SourceUnit} {u v : SourceUnit} (hu : FirstUnread units u)
    (hv : FirstUnread units v) : u = v := by
  rcases hu with ⟨before, after, rfl, hunone, hubefore⟩
  rcases hv with ⟨before', after', heq, hvnone, hvbefore⟩
  -- If one of them came earlier, it would be among those that have trees.
  rcases List.append_eq_append_iff.1 heq with ⟨more, rfl, hmore⟩ | ⟨more, rfl, hmore⟩
  · cases more with
    | nil => exact (List.cons.inj hmore).1
    | cons e more =>
        rw [List.cons_append, List.cons.injEq] at hmore
        exact absurd hunone (hvbefore u (List.mem_append_right _ (hmore.1 ▸ List.mem_cons_self)))
  · cases more with
    | nil => exact (List.cons.inj hmore).1.symm
    | cons e more =>
        rw [List.cons_append, List.cons.injEq] at hmore
        exact absurd hvnone (hubefore v (List.mem_append_right _ (hmore.1 ▸ List.mem_cons_self)))

/-! ### The end of a run -/

/-- The end of a run all of whose files have trees is what its requests come to. -/
theorem run_eq_serve (config : Config) (counter : Int) (hcounter : 0 ≤ counter)
    (units : List SourceUnit) (modules : List (String × Module)) (hreads : Reads units modules) :
    match serve (pathWritable config) counter [] (requests config false modules) with
    | .error (.crash reason) => (run config counter units).outcome = .error reason
    | .error (.registry reason) => ∃ trace,
        (run config counter units).outcome = .ok (failed trace (registryFailure reason))
    | .ok _ => ∃ o, (run config counter units).outcome = .ok o ∧ o.success = true ∧
        o.errors = [] := by
  have hroot : ∀ nm ∈ modules,
      ∃ above more, nm.2.tree = .node .module (.node .header above :: more) := by
    intro nm hnm
    rcases List.getElem?_of_mem hnm with ⟨i, hi⟩
    rcases forall₂_getElem? hreads.flip i nm hi with ⟨u, -, -, hparse⟩
    exact (parse?_fits hparse).2
  have hfresh := balanced_fresh config counter
    ((({} : Trace).startPhase "Instrumentation Pipeline"
      s!"{units.length} source units").startPhase "Parsing").endPhase rfl rfl
  have hserve := serve_instrumentUnits hfresh hcounter modules hroot (p := ⟨_, false⟩)
  have hstart : serve (pathWritable config) counter [] (requests config false modules) = _ := hserve
  rw [hstart]
  unfold run
  rw [(parseUnits_eq_ok_iff units modules).2 hreads]
  dsimp only
  cases hunits : instrumentUnits _ modules with
  | mk p answer =>
    cases answer with
    | error stop =>
        cases stop with
        | crash reason => rfl
        | registry reason => exact ⟨_, rfl⟩
    | ok results =>
        -- A run that got through all files becomes a mapping.
        have hb := (instrumentUnits_ok hfresh hunits).1
        have hmaterialize := Registry.materialize_eq hb.registry.toRecords hb.registry.isOpen
        simp only [Except.map, finish, hmaterialize]
        exact ⟨_, rfl, rfl, rfl⟩

/-- A run with a file that has no tree fails before anything is looked at. -/
theorem run_of_unread (config : Config) (counter : Int) {units : List SourceUnit} {u : SourceUnit}
    (h : FirstUnread units u) : ∃ trace, (run config counter units).outcome =
      .ok (failed trace ("Parse Error in " ++ u.name ++ ": " ++ syntaxFault)) ∧
      ∀ kind, kind ≠ .phaseStart → trace.told kind = [] := by
  cases hparse : parseUnits units with
  | ok modules =>
      -- If all files had trees, so would this one.
      have hreads := parseUnits_ok hparse
      rcases h with ⟨before, after, rfl, hnone, -⟩
      rcases forall₂_getElem? hreads before.length u (by simp) with ⟨nm, -, -, hsome⟩
      rw [hnone] at hsome
      exact absurd hsome.symm (Option.some_ne_none _)
  | error name =>
      rcases parseUnits_eq_error hparse with ⟨v, hv, rfl⟩
      cases h.eq hv
      refine ⟨(({} : Trace).startPhase "Instrumentation Pipeline"
        s!"{units.length} source units").startPhase "Parsing", ?_, fun kind hkind => ?_⟩
      · unfold run
        rw [hparse]
      · rw [Trace.told_startPhase _ _ _ _ hkind, Trace.told_startPhase _ _ _ _ hkind]
        rfl

end Engine

end EntryCoverage

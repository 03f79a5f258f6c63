import EntryCoverage.Proofs.Phases
import EntryCoverage.Proofs.Steps

/-!
# What the Trace Tells of Each Function

The trace of a run has a phase for each file, and in it what became of each function.

Looking at a node writes at most one note, and which one follows from what the node comes
to (`Noted`). The hook flag may flip in the middle of a file, but what the nodes come to is
decided by the flag that the file begins with (`verdict_or_marksHook`), and that flag is
known from the names of the files before it. So each function is accounted for by where it
comes from, where its file stands and what the settings say (`Account`).

`Told` repeats the recursion over the files and keeps the traces and nothing else of the
books. A phase that ended is not written to any more, so what it holds is the same at the
end of the run (`Told.phased`).

## Main definitions

* `mutationNote`, `skipNote`: The notes about functions.
* `Account`: What became of a function, and what is told of it.
* `Noted`: The same, by what looking at it came to.
* `Told`: The traces before and after files, and what they tell in between.
* `FileTold`: What the phase of a file holds.
* `FullyTold`: What the trace of a run tells.

## Theorems

* `look_notes`, `plan_notes`, `instrumentUnits_told`: What is written for a node, a file and
  a program.
* `Noted.account`: The account of a function.
* `Told.phased`: The phases of the files.
* `run_tells_all`: The trace of a run accounts for all functions.
-/

namespace EntryCoverage

open Source

namespace Engine

/-! ### One function -/

/-- The note that a function got its call. -/
def mutationNote (config : Config) (s : Site) : Note :=
  ⟨.mutation, (mutationOf config s).1, (mutationOf config s).2⟩

/-- The note that a function was left alone, and why. -/
def skipNote (v : Visit) (detail : String) : Note :=
  ⟨.inspection, "Inspecting '" ++ v.description ++ "'",
    [("outcome", .text "skipped"), ("detail", .text detail)]⟩

/-- What became of a function of a file, given the files before it: its call, if it got one,
    and what the trace tells of it. -/
inductive Account (config : Config) (earlier : List SourceUnit) (file : String) (v : Visit) :
    Option Tree → List Note → Prop
  /-- It got its call, and that is told. -/
  | called (hopen : IsOpen config earlier file) (horigin : v.origin = file)
      (hgets : getsCall config v.kind = true) (s : Site) (call : Tree)
      (hs : Serves config file v s call) :
      Account config earlier file v (some call) [mutationNote config s]
  /-- It comes from another file, which is named. -/
  | foreign (horigin : v.origin ≠ file) :
      Account config earlier file v none [skipNote v ("originates from " ++ v.origin)]
  /-- No file so far defines the hook. -/
  | tooEarly (horigin : v.origin = file) (hname : ¬ NamesHook config file)
      (hearly : ∀ e ∈ earlier, ¬ NamesHook config e.name) :
      Account config earlier file v none [skipNote v "runtime hook file not seen yet"]
  /-- Its file defines the hook, and nothing is told. -/
  | ofHook (horigin : v.origin = file) (hname : NamesHook config file) :
      Account config earlier file v none []
  /-- It is a lambda that the settings leave out, and nothing is told. -/
  | leftOut (hopen : IsOpen config earlier file) (horigin : v.origin = file)
      (hkind : v.kind = .lambda) (hlambdas : config.instrumentLambdas = false) :
      Account config earlier file v none []

/-- The same, by what looking at the function came to. -/
inductive Noted (config : Config) (file : String) (seen : Bool) (v : Visit) :
    Option Tree → List Note → Prop
  | called (h : verdict config file seen v = .eligible) (hgets : getsCall config v.kind = true)
      (s : Site) (call : Tree) (hs : Serves config file v s call) :
      Noted config file seen v (some call) [mutationNote config s]
  | leftOut (h : verdict config file seen v = .eligible)
      (hgets : getsCall config v.kind = false) : Noted config file seen v none []
  | foreign (h : verdict config file seen v = .foreign) :
      Noted config file seen v none [skipNote v ("originates from " ++ v.origin)]
  | tooEarly (h : verdict config file seen v = .tooEarly) :
      Noted config file seen v none [skipNote v "runtime hook file not seen yet"]
  | ofHook (h : verdict config file seen v = .hook) : Noted config file seen v none []

/-- What a node comes to does not change when the hook is seen on the way. -/
theorem verdict_or_marksHook (config : Config) (file : String) (seen : Bool) (v w : Visit) :
    verdict config file (seen || marksHook config file v) w = verdict config file seen w := by
  unfold verdict marksHook
  by_cases horigin : w.origin = file
  · -- Only in a file that defines the hook may the flag flip, and there it is not asked for.
    rw [horigin]
    cases definesHook config file with
    | false => rw [Bool.and_false, Bool.or_false]
    | true => rfl
  · rw [if_pos horigin, if_pos horigin]

theorem Noted.of_verdict_eq {config : Config} {file : String} {seen seen' : Bool} {v : Visit}
    {call : Option Tree} {notes : List Note} (h : Noted config file seen v call notes)
    (heq : verdict config file seen' v = verdict config file seen v) :
    Noted config file seen' v call notes := by
  cases h with
  | called h hgets s call hs => exact .called (heq.trans h) hgets s call hs
  | leftOut h hgets => exact .leftOut (heq.trans h) hgets
  | foreign h => exact .foreign (heq.trans h)
  | tooEarly h => exact .tooEarly (heq.trans h)
  | ofHook h => exact .ofHook (heq.trans h)

/-- The notes about functions tell of calls, or of functions left alone. -/
theorem Noted.kinds {config : Config} {file : String} {seen : Bool} {v : Visit}
    {call : Option Tree} {notes : List Note} (h : Noted config file seen v call notes) :
    ∀ n ∈ notes, n.kind ≠ .phaseStart ∧ n.kind ≠ .phaseEnd := by
  intro n hn
  cases h with
  | called =>
      rw [List.mem_singleton.1 hn]
      exact ⟨EventKind.noConfusion, EventKind.noConfusion⟩
  | foreign | tooEarly =>
      rw [List.mem_singleton.1 hn]
      exact ⟨EventKind.noConfusion, EventKind.noConfusion⟩
  | leftOut | ofHook => exact absurd hn List.not_mem_nil

/-- What the verdict on a node says of where it comes from and where its file stands. -/
theorem verdict_means (config : Config) (earlier : List SourceUnit) (file : String) (v : Visit) :
    match verdict config file (earlier.any fun e => definesHook config e.name) v with
    | .foreign => v.origin ≠ file
    | .hook => v.origin = file ∧ NamesHook config file
    | .tooEarly => v.origin = file ∧ ¬ NamesHook config file ∧
        ∀ e ∈ earlier, ¬ NamesHook config e.name
    | .eligible => v.origin = file ∧ IsOpen config earlier file := by
  unfold verdict
  by_cases horigin : v.origin = file
  · rw [if_neg (not_not.2 horigin), horigin]
    by_cases hname : NamesHook config file
    · rw [if_pos ((definesHook_iff config file).2 hname)]
      exact ⟨rfl, hname⟩
    · rw [if_neg fun hdefines => hname ((definesHook_iff config file).1 hdefines)]
      cases hseen : earlier.any fun e => definesHook config e.name with
      | true =>
          rcases List.any_eq_true.1 hseen with ⟨e, he, hdefines⟩
          exact ⟨rfl, hname, e, he, (definesHook_iff config e.name).1 hdefines⟩
      | false =>
          rw [List.any_eq_false] at hseen
          exact ⟨rfl, hname, fun e he hearlier =>
            hseen e he ((definesHook_iff config e.name).2 hearlier)⟩
  · rw [if_pos horigin]
    exact horigin

/-- What looking at a function came to accounts for it, given the files before its own. -/
theorem Noted.account {config : Config} {file : String} {earlier : List SourceUnit} {v : Visit}
    {call : Option Tree} {notes : List Note}
    (h : Noted config file (earlier.any fun e => definesHook config e.name) v call notes)
    (hfunction : isFunction v.kind = true) : Account config earlier file v call notes := by
  have hmeans := verdict_means config earlier file v
  cases h with
  | called h hgets s call hs =>
      rw [h] at hmeans
      exact .called hmeans.2 hmeans.1 hgets s call hs
  | leftOut h hgets =>
      rw [h] at hmeans
      -- A function that gets no call though it may is a lambda.
      cases hkind : v.kind <;> rw [hkind] at hfunction hgets <;>
        first
        | exact absurd hfunction Bool.false_ne_true
        | exact absurd hgets.symm Bool.false_ne_true
        | exact .leftOut hmeans.2 hmeans.1 hkind hgets
  | foreign h =>
      rw [h] at hmeans
      exact .foreign hmeans
  | tooEarly h =>
      rw [h] at hmeans
      exact .tooEarly hmeans.1 hmeans.2.1 hmeans.2.2
  | ofHook h =>
      rw [h] at hmeans
      exact .ofHook hmeans.1 hmeans.2

/-! ### What is written for a node -/

variable {start : Int} {file : String}

/-- A call that is made is told. -/
theorem enter_trace {b b' : Builder} {p : Place} {call : Tree} (h : b.enter p = (b', .ok call)) :
    b'.trace = b.trace.record .mutation ("Instrumented " ++ p.function)
      [("before", .text "(function entry)"), ("after", .text (Naming.renderAlone call)),
        ("file", .text p.file), ("line", .int p.line)] := by
  rcases Builder.enter_eq_ok.1 h with ⟨registry, identifier, -, -, rfl⟩
  unfold Builder.noteChange Trace.mutation
  simp only [List.foldl_cons, List.foldl_nil, putEntry, String.reduceBEq, Bool.false_eq_true,
    if_false]

/-- The note about a call is that of its site. -/
theorem callFor_notes {b b' : Builder} {v : Visit} {call : Tree} (hb : b.Balanced start)
    (h : callFor file b v = (b', .ok call)) :
    ∃ s, Serves b.config file v s call ∧ b'.trace = b.trace.jot [mutationNote b.config s] := by
  rcases callFor_ok hb h with ⟨-, -, s, hs, -⟩
  refine ⟨s, hs, ?_⟩
  rcases callFor_eq_ok.1 h with ⟨name, hname, henter⟩
  have hfunction : name = s.place.function := Except.ok.inj (hname.symm.trans hs.name)
  rw [enter_trace henter, renderAlone_hookCall _ _ _ _ hs.call, hfunction, ← hs.line]
  rw [Trace.jot, List.foldl_cons, List.foldl_nil, mutationNote, mutationOf, hs.file]

/-- What looking at a node writes: if it is a function, what it came to. -/
theorem look_notes {p p' : Pass} {v : Visit} {call : Option Tree} (hb : p.books.Balanced start)
    (h : look file p v = (p', .ok call)) :
    ∃ notes, p'.books.trace = p.books.trace.jot notes ∧
      if isFunction v.kind then Noted p.books.config file p.hookSeen v call notes
      else notes = [] := by
  -- A node that is left alone is told of if it is a function.
  have hskip : ∀ detail, Noted p.books.config file p.hookSeen v none [skipNote v detail] →
      ∃ notes, (p.skip v detail).books.trace = p.books.trace.jot notes ∧
        if isFunction v.kind then Noted p.books.config file p.hookSeen v none notes
        else notes = [] := by
    intro detail hnoted
    unfold Pass.skip
    split
    · exact ⟨_, rfl, hnoted⟩
    · exact ⟨[], rfl, rfl⟩
  cases look_eq_ok.1 h with
  | foreign hverdict => exact hskip _ (.foreign hverdict)
  | tooEarly hverdict => exact hskip _ (.tooEarly hverdict)
  | hook hverdict =>
      refine ⟨[], rfl, ?_⟩
      split
      · exact .ofHook hverdict
      · rfl
  | called hverdict hgets books made hcall =>
      rcases callFor_notes hb hcall with ⟨s, hs, htrace⟩
      refine ⟨_, htrace, ?_⟩
      rw [if_pos (isFunction_of_getsCall _ _ hgets)]
      exact .called hverdict hgets s made hs
  | leftOut hverdict hgets =>
      refine ⟨[], rfl, ?_⟩
      split
      · exact .leftOut hverdict hgets
      · rfl

/-! ### What is written for a file -/

/-- What is said of a function: its call, if it got one, and the notes about it. -/
abbrev Said := Option Tree × List Note

/-- What looking at the nodes of a file writes. Every node is looked at with the flag of its
    turn, but that of the beginning decides as well. -/
theorem plan_notes {p p' : Pass} {vs : List Visit} {calls : List (Option Tree)}
    (hb : p.books.Balanced start) (h : plan file p vs = (p', .ok calls)) :
    ∃ said : List Said, calls = said.map (·.1) ∧
      p'.books.trace = p.books.trace.jot (said.flatMap (·.2)) ∧
      List.Forall₂ (fun v a => Noted p.books.config file p.hookSeen v a.1 a.2)
        (vs.filter (isFunction ·.kind)) said := by
  induction vs generalizing p calls with
  | nil =>
      simp only [plan, Prod.mk.injEq, Except.ok.injEq] at h
      rcases h with ⟨rfl, rfl⟩
      exact ⟨[], rfl, rfl, .nil⟩
  | cons v vs ih =>
      rcases plan_cons_eq_ok.1 h with ⟨p₁, call, rest, hlook, hrest, rfl⟩
      have hok := look_ok hb hlook
      rcases look_notes hb hlook with ⟨notes, htrace₁, hnotes⟩
      rcases ih hok.balanced hrest with ⟨said, rfl, htrace₂, hsaid⟩
      rw [hok.config, hok.flag] at hsaid
      replace hsaid := hsaid.imp fun w a hnoted => Noted.of_verdict_eq hnoted
        (verdict_or_marksHook p.books.config file p.hookSeen v w).symm
      rw [List.filter_cons]
      split at hnotes
      · rename_i hfunction
        refine ⟨(call, notes) :: said, by rw [if_pos hfunction, List.map_cons], ?_, ?_⟩
        · rw [htrace₂, htrace₁, List.flatMap_cons, Trace.jot_append]
        · rw [if_pos hfunction]
          exact .cons hnotes hsaid
      · -- Of a node that is no function nothing is said.
        rename_i hother
        refine ⟨said, if_neg hother, ?_, ?_⟩
        · rw [htrace₂, htrace₁, hnotes]
          rfl
        · rw [if_neg hother]
          exact hsaid

/-- A file is a phase in which something is said of each of its functions. -/
theorem instrumentUnit_notes {p p' : Pass} {name : String} {m : Module} {unit : InstrumentedUnit}
    (hb : p.books.Balanced start) (h : instrumentUnit p name m = (p', .ok unit)) :
    ∃ said : List Said, unit = written p.books.config (name, m) (said.map (·.1)) ∧
      p'.books.trace = p.books.trace.inPhase ("Instrumenting " ++ name) (said.flatMap (·.2)) ∧
      List.Forall₂ (fun v a => Noted p.books.config name p.hookSeen v a.1 a.2)
        (functions m.layout { origin := name } m.tree) said := by
  rcases instrumentUnit_eq_ok.1 h with ⟨p₁, calls, hplan, rfl, rfl⟩
  have hstart := hb.of_quiet (quiet_startPhase p.books ("Instrumenting " ++ name) "")
  have hconfig : p₁.books.config = p.books.config := (plan_ok hstart hplan).2.1
  rcases plan_notes hstart hplan with ⟨said, rfl, htrace, hsaid⟩
  refine ⟨said, by rw [hconfig], ?_, hsaid⟩
  rw [Trace.inPhase, ← htrace]

/-! ### What is written for a program -/

/-- The traces before and after files are gone through, and for each file the place of its
    phase and what is said of its functions. -/
inductive Told (config : Config) : Bool → Trace → List (String × Module) →
    List (Nat × List Said) → Trace → Prop
  | nil (seen : Bool) (t : Trace) : Told config seen t [] [] t
  | cons {seen : Bool} {t t' : Trace} {name : String} {m : Module} {rest : List (String × Module)}
      {said : List Said} {more : List (Nat × List Said)}
      (hsaid : List.Forall₂ (fun v a => Noted config name seen v a.1 a.2)
        (functions m.layout { origin := name } m.tree) said)
      (hrest : Told config (seen || definesHook config name)
        (t.inPhase ("Instrumenting " ++ name) (said.flatMap (·.2))) rest more t') :
      Told config seen t ((name, m) :: rest) ((t.events.length, said) :: more) t'

/-- The files of a program are phases one after the other. -/
theorem instrumentUnits_told {p p' : Pass} {modules : List (String × Module)}
    {units : List InstrumentedUnit} (hb : p.books.Balanced start)
    (hroot : ∀ nm ∈ modules, ∃ above more,
      nm.2.tree = .node .module (.node .header above :: more))
    (h : instrumentUnits p modules = (p', .ok units)) :
    ∃ told : List (Nat × List Said),
      units = List.zipWith (written p.books.config) modules (told.map (·.2.map (·.1))) ∧
      Told p.books.config p.hookSeen p.books.trace modules told p'.books.trace := by
  induction modules generalizing p units with
  | nil =>
      simp only [instrumentUnits, Prod.mk.injEq, Except.ok.injEq] at h
      rcases h with ⟨rfl, rfl⟩
      exact ⟨[], rfl, .nil _ _⟩
  | cons nm rest ih =>
      rcases nm with ⟨name, m⟩
      rw [List.forall_mem_cons] at hroot
      rcases instrumentUnits_cons_eq_ok.1 h with ⟨p₁, unit, more, hunit, hrest, rfl⟩
      rcases instrumentUnit_ok hb hunit with ⟨hb₁, hconfig, d, rfl, rfl, -, hflag, -, -⟩
      rcases instrumentUnit_notes hb hunit with ⟨said, rfl, htrace, hsaid⟩
      -- The file itself says whether it defines the hook.
      rw [any_marksHook p.books.config d hroot.1] at hflag
      rcases ih hb₁ hroot.2 hrest with ⟨told, rfl, htold⟩
      rw [hconfig, hflag, htrace] at htold
      refine ⟨(p.books.trace.events.length, said) :: told, ?_, .cons hsaid htold⟩
      rw [hconfig]
      rfl

namespace Told

variable {config : Config} {seen : Bool} {t t' : Trace} {modules : List (String × Module)}
  {told : List (Nat × List Said)}

theorem kinds {name : String} {vs : List Visit} {said : List Said}
    (h : List.Forall₂ (fun v a => Noted config name seen v a.1 a.2) vs said) :
    ∀ n ∈ said.flatMap (·.2), n.kind ≠ .phaseStart ∧ n.kind ≠ .phaseEnd := by
  intro n hn
  rcases List.mem_flatMap.1 hn with ⟨a, ha, hn⟩
  rcases List.getElem?_of_mem ha with ⟨i, hi⟩
  rcases forall₂_getElem? h.flip i a hi with ⟨v, -, hnoted⟩
  exact hnoted.kinds n hn

theorem length_eq (h : Told config seen t modules told t') : told.length = modules.length := by
  induction h with
  | nil => rfl
  | cons _ _ ih => rw [List.length_cons, List.length_cons, ih]

/-- More was written, and the same phases are open. -/
theorem later (h : Told config seen t modules told t') :
    Trace.Later t t' ∧ t'.openPhases = t.openPhases := by
  induction h with
  | nil => exact ⟨.refl, rfl⟩
  | cons hsaid _ ih =>
      refine ⟨(Trace.later_inPhase _ _ _ (kinds hsaid)).trans ih.1, ih.2.trans ?_⟩
      rw [Trace.inPhase_eq]

/-- The phases of the files begin one after the other. -/
theorem places (h : Told config seen t modules told t') :
    (∀ d ∈ told, t.events.length ≤ d.1) ∧ told.Pairwise fun d e => d.1 < e.1 := by
  induction h with
  | nil => exact ⟨fun _ hd => absurd hd List.not_mem_nil, .nil⟩
  | @cons _ t _ name _ _ said _ _ _ ih =>
      have hlonger : t.events.length <
          (t.inPhase ("Instrumenting " ++ name) (said.flatMap (·.2))).events.length := by
        rw [Trace.inPhase_eq, List.length_append, List.length_cons]
        omega
      refine ⟨List.forall_mem_cons.2 ⟨Nat.le_refl _, fun d hd => ?_⟩, List.pairwise_cons.2
        ⟨fun d hd => Nat.lt_of_lt_of_le hlonger (ih.1 d hd), ih.2⟩⟩
      exact Nat.le_of_lt (Nat.lt_of_lt_of_le hlonger (ih.1 d hd))

/-- Each file has its phase, and its functions are looked at with the flag that the files
    before it leave. -/
theorem phased (h : Told config seen t modules told t') (hnested : t.Nested) (i : Nat)
    (nm : String × Module) (hnm : modules[i]? = some nm) :
    ∃ k said, told[i]? = some (k, said) ∧
      List.Forall₂ (fun v a => Noted config nm.1
        (seen || (modules.take i).any fun e => definesHook config e.1) v a.1 a.2)
        (functions nm.2.layout { origin := nm.1 } nm.2.tree) said ∧
      t'.Phased t.openPhases.head? ("Instrumenting " ++ nm.1) (said.flatMap (·.2)) k := by
  induction h generalizing i with
  | nil => simp only [List.getElem?_nil, reduceCtorEq] at hnm
  | @cons seen t t' name m rest said more hsaid hrest ih =>
      cases i with
      | zero =>
          cases hnm
          refine ⟨_, said, rfl, ?_, (Trace.phased_inPhase hnested _ _).later hrest.later.1⟩
          rw [List.take_zero, List.any_nil, Bool.or_false]
          exact hsaid
      | succ i =>
          have hlater := Trace.later_inPhase t ("Instrumenting " ++ name) _ (kinds hsaid)
          rcases ih (hlater.nested hnested) i hnm with ⟨k, said', htold, hsaid', hphased⟩
          rw [Trace.inPhase_eq] at hphased
          refine ⟨k, said', htold, ?_, hphased⟩
          rw [List.take_succ_cons, List.any_cons, ← Bool.or_assoc]
          exact hsaid'

/-- What was written is in the phases of the files, but for the events that begin them. -/
theorem elsewhere (h : Told config seen t modules told t') : ∀ e ∈ t'.events,
    e ∈ t.events ∨ e.kind = .phaseStart ∨ ∃ d ∈ told, e.parent = some d.1 := by
  induction h with
  | nil => exact fun e he => .inl he
  | @cons _ t _ name _ _ said more _ _ ih =>
      intro e he
      rcases ih e he with he | he | ⟨d, hd, hparent⟩
      · rw [Trace.inPhase_eq, List.mem_append, List.mem_cons] at he
        rcases he with he | rfl | he
        · exact .inl he
        · exact .inr (.inl rfl)
        · rcases List.mem_map.1 he with ⟨n, -, rfl⟩
          exact .inr (.inr ⟨_, List.mem_cons_self, rfl⟩)
      · exact .inr (.inl he)
      · exact .inr (.inr ⟨d, List.mem_cons_of_mem _ hd, hparent⟩)

end Told

/-! ### Runs -/

/-- What the phase of a file holds, given the files before it, its tree and what became of
    it. -/
structure FileTold (config : Config) (earlier : List SourceUnit) (u : SourceUnit) (m : Module)
    (result : InstrumentedUnit) (t : Trace) (k : Nat) (said : List Said) : Prop where
  parsed : Module.parse? u.code = some m
  /-- The functions are those of the tree, inner ones first. -/
  nodes : List.Forall₂ (Tree.Stands u.name m.tree) m.tree.functionWays
    (functions m.layout { origin := u.name } m.tree)
  /-- Each of them is accounted for. -/
  accounts : List.Forall₂ (fun v a => Account config earlier u.name v a.1 a.2)
    (functions m.layout { origin := u.name } m.tree) said
  /-- The file was written with the calls that they got. -/
  written : result.code = (withCalls config m (said.map (·.1))).render
  /-- What the phase holds are these accounts and its end. -/
  phase : t.Phased (some 0) ("Instrumenting " ++ u.name) (said.flatMap (·.2)) k

/-- An event that tells of a function. -/
def AboutFunction (e : Event) : Prop := e.kind = .mutation ∨ e.kind = .inspection

/-- What the trace of a run tells. -/
structure FullyTold (config : Config) (units : List SourceUnit) (o : Outcome) : Prop where
  /-- No phase is open, so each one has ended once. -/
  closed : o.trace.openPhases = []
  ended : ∀ k e, o.trace.events[k]? = some e → e.kind = .phaseStart → o.trace.ends k = 1
  /-- Each file has its phase, in the order of the files, and nothing else tells of
      functions. -/
  files : ∃ told : List (Nat × List Said), told.length = units.length ∧
    told.Pairwise (fun d e => d.1 < e.1) ∧
    (∀ (i : Nat) (u : SourceUnit), units[i]? = some u → ∃ m result k said,
      o.units[i]? = some result ∧ told[i]? = some (k, said) ∧
        FileTold config (units.take i) u m result o.trace k said) ∧
    ∀ e ∈ o.trace.events, AboutFunction e → ∃ d ∈ told, e.parent = some d.1

theorem nested_opening (config : Config) (counter : Int) (size : Nat) :
    (opening config counter size).books.trace.Nested :=
  ((Trace.Later.refl.startPhase _ _).startPhase _ _).endPhase.nested Trace.nested_empty

/-- At the end of a run more is written, but nothing about functions, and the innermost open
    phase ends. -/
theorem closing_spec (p : Pass) : Trace.Later p.books.trace (closing p) ∧
    (closing p).openPhases = p.books.trace.openPhases.tail ∧
    ∀ e ∈ (closing p).events, AboutFunction e → e ∈ p.books.trace.events := by
  -- That the phase ends comes last, after what else is written.
  have hend : ∀ t : Trace, Trace.Later p.books.trace t →
      t.openPhases = p.books.trace.openPhases →
      (∀ e ∈ t.events, AboutFunction e → e ∈ p.books.trace.events) →
        Trace.Later p.books.trace t.endPhase ∧
          t.endPhase.openPhases = p.books.trace.openPhases.tail ∧
          ∀ e ∈ t.endPhase.events, AboutFunction e → e ∈ p.books.trace.events := by
    intro t hlater hopen hevents
    refine ⟨hlater.endPhase, ?_, ?_⟩ <;> unfold Trace.endPhase <;> split
    · rename_i hnone
      rw [← hopen, hnone, List.tail_nil]
    · rename_i hsome
      rw [← hopen, hsome, List.tail_cons]
    · exact hevents
    · intro e he habout
      rcases List.mem_append.1 he with he | he
      · exact hevents e he habout
      · rw [List.mem_singleton.1 he] at habout
        simp only [AboutFunction, reduceCtorEq, or_self] at habout
  have hphase := Trace.inPhase_eq p.books.trace "Materializing Mapping" []
  have hlater := Trace.later_inPhase p.books.trace "Materializing Mapping" []
    fun _ hn => absurd hn List.not_mem_nil
  have hopen := congrArg Trace.openPhases hphase
  have hevents : ∀ e ∈ (p.books.trace.inPhase "Materializing Mapping" []).events,
      AboutFunction e → e ∈ p.books.trace.events := by
    intro e he habout
    rw [hphase, List.mem_append] at he
    rcases he with he | he
    · exact he
    · rcases List.mem_cons.1 he with rfl | he
      · simp only [AboutFunction, Trace.beginning, reduceCtorEq, or_self] at habout
      · rw [List.mem_singleton.1 he] at habout
        simp only [AboutFunction, Trace.ending, Note.under, reduceCtorEq, or_self] at habout
  unfold closing
  dsimp only
  split
  · exact hend _ hlater hopen hevents
  · refine hend _ (hlater.record _ _ _ EventKind.noConfusion EventKind.noConfusion)
      hopen fun e he habout => ?_
    rcases List.mem_append.1 he with he | he
    · exact hevents e he habout
    · rw [List.mem_singleton.1 he] at habout
      simp only [AboutFunction, reduceCtorEq, or_self] at habout

/-- Whatever the settings and the files, the trace of a run that ends well accounts for all
    functions of the program, each in the phase of its file. -/
theorem run_tells_all (config : Config) (counter : Int) (units : List SourceUnit) (o : Outcome)
    (h : (run config counter units).outcome = .ok o) (hsuccess : o.success = true) :
    FullyTold config units o := by
  rcases (ends_well_iff config counter units o).1 ⟨h, hsuccess⟩ with
    ⟨modules, p, results, hreads, hunits, rfl⟩
  rcases instrumentUnits_told (balanced_opening config counter units.length) hreads.root
    hunits with ⟨told, rfl, htold⟩
  have hnested := nested_opening config counter units.length
  rcases closing_spec p with ⟨hlater, hopen, hevents⟩
  have hclosed : (closing p).openPhases = [] := by
    rw [hopen, htold.later.2]
    rfl
  refine ⟨hclosed, fun k e he hkind => ?_, told, ?_, htold.places.2, fun i u hu => ?_,
    fun e he habout => ?_⟩
  · have hends := (hlater.nested (htold.later.1.nested hnested)).ended k e he hkind
    rw [hclosed, if_neg List.not_mem_nil] at hends
    exact hends
  · rw [htold.length_eq, hreads.length_eq]
  · rcases forall₂_getElem? hreads i u hu with ⟨⟨name, m⟩, hm, rfl, hparse⟩
    rcases htold.phased hnested i (u.name, m) hm with ⟨k, said, hsaid, hnoted, hphased⟩
    refine ⟨m, written config (u.name, m) (said.map (·.1)), k, said, ?_, hsaid, hparse,
      Tree.functions_stand m.layout { origin := u.name } m.tree, ?_, rfl, hphased.later hlater⟩
    · change (List.zipWith _ _ _)[i]? = _
      rw [List.getElem?_zipWith_eq_some]
      exact ⟨_, _, hm, by rw [List.getElem?_map, hsaid, Option.map_some], rfl⟩
    · refine ((List.forall₂_and_left _ _).2 ⟨fun v hv => (List.mem_filter.1 hv).2, hnoted⟩).imp ?_
      rintro v a ⟨hfunction, hnoted⟩
      refine Noted.account (hnoted.of_verdict_eq ?_) hfunction
      exact congrArg (fun seen => verdict config u.name seen v) (hreads.any_definesHook i).symm
  · rcases htold.elsewhere e (hevents e he habout) with he | hstart | hfound
    · -- Before the first file, there are only the phases around.
      simp only [opening, Trace.startPhase, Trace.record, Trace.endPhase, List.nil_append,
        List.cons_append, List.mem_cons, List.not_mem_nil, or_false] at he
      rcases he with rfl | rfl | rfl <;>
        simp only [AboutFunction, reduceCtorEq, or_self] at habout
    · rw [AboutFunction, hstart] at habout
      simp only [reduceCtorEq, or_self] at habout
    · exact hfound

/-- A program with a function before the file that defines the hook, and in the file after it
    one that comes from elsewhere and one that holds a lambda. -/
def tellingSample : List SourceUnit :=
  [⟨"a.py", "def f(): 0\n"⟩, ⟨"instrument_code.py", "def f(): 0\n"⟩,
    ⟨"b.py", "def f(): lambda: 0\n# prodcov: origin=c.py\ndef g(): 0\n"⟩]

def withoutLambdas : Config := { instrumentLambdas := false }

/-- Without lambdas, three of its functions are told of. -/
theorem run_tells_all_sample : ∃ o, (run withoutLambdas 0 tellingSample).outcome = .ok o ∧
    o.success = true ∧ FullyTold withoutLambdas tellingSample o ∧
    (o.trace.events.map (·.kind)).filter (fun kind => kind = .mutation ∨ kind = .inspection) =
      [.inspection, .mutation, .inspection] := by
  have hends : (run withoutLambdas 0 tellingSample).outcome.toOption.map (fun o => (o.success,
      (o.trace.events.map (·.kind)).filter fun kind => kind = .mutation ∨ kind = .inspection)) =
      some (true, [.inspection, .mutation, .inspection]) := by
    decide +kernel
  rcases exists_outcome hends with ⟨o, houtcome, hseen⟩
  rcases Prod.mk.inj hseen with ⟨hsuccess, hkinds⟩
  exact ⟨o, houtcome, hsuccess,
    run_tells_all withoutLambdas 0 tellingSample o houtcome hsuccess, hkinds⟩

end Engine

end EntryCoverage

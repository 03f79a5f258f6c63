import EntryCoverage.Engine
import EntryCoverage.Proofs.Books
import Mathlib.Data.List.ReduceOption

/-!
# Runs

What a run leaves behind, for any settings and any files.

Between a node and the end of a run lie two loops, over the nodes of a file and over
the files. Each of them is described by a relation that repeats its recursion and leaves
out the books: `Looked` is one node, `Planned` the nodes of a file and `Handled` the
files. What they say holds of every pass that does not stop (`look_ok`, `plan_ok`,
`instrumentUnits_ok`), and the books stay balanced on the way.

The hook flag is state that all files share, and it may flip in the middle of a file.
It only flips in a file that defines the hook, and such a file gets no calls whatever
the flag is (`selects_or_marksHook`), so which nodes of a file get calls depends on
the flag at the file's beginning.

## Main definitions

* `selects`: A node gets a call.
* `Serves`: A site and a call are those of a node.
* `LookedOn`: What looking at a node does to what is carried on.
* `Looked`, `Planned`, `Handled`: What nodes, files and programs come to.
* `Done`: A file that a run went through.
* `Ended`: What is known of a run that ends well.
* `Agree`: Its records tell of the same calls.

## Theorems

* `look_ok`: What looking at a node does.
* `plan_ok`: What looking at the nodes of a file does.
* `instrumentUnits_ok`: What going through the files does.
* `run_ok`: What a run that ends well has done.
* `run_records_agree`: The records of a run that ends well agree.
-/

namespace EntryCoverage

open Source

namespace Engine

/-! ### One node -/

/-- Whether a node gets a call: it is a function that may have one, comes from the file
    it stands in, and that file does not define the hook, but an earlier one does. -/
def selects (config : Config) (file : String) (seen : Bool) (v : Visit) : Bool :=
  seen && !definesHook config file && decide (v.origin = file) && getsCall config v.kind

/-- Whether looking at a node lets the hook be seen. -/
def marksHook (config : Config) (file : String) (v : Visit) : Bool :=
  decide (v.origin = file) && definesHook config file

theorem isFunction_of_getsCall (config : Config) (kind : Kind)
    (h : getsCall config kind = true) : isFunction kind = true := by
  cases kind <;> first | rfl | exact absurd h Bool.false_ne_true

/-- A node that gets a call is a function. -/
theorem isFunction_of_selects {config : Config} {file : String} {seen : Bool} {v : Visit}
    (h : selects config file seen v = true) : isFunction v.kind = true := by
  simp only [selects, Bool.and_eq_true] at h
  exact isFunction_of_getsCall config v.kind h.2

/-- Which nodes of a file get calls does not change when the hook is seen on the way. -/
theorem selects_or_marksHook (config : Config) (file : String) (seen : Bool) (v w : Visit) :
    selects config file (seen || marksHook config file v) w = selects config file seen w := by
  unfold selects marksHook
  cases definesHook config file with
  | false => rw [Bool.and_false, Bool.or_false]
  | true => rw [Bool.not_true, Bool.and_false, Bool.and_false]

/-- A node lets the hook be seen if that is what looking at it comes to. -/
theorem marksHook_eq (config : Config) (file : String) (seen : Bool) (v : Visit) :
    marksHook config file v = decide (verdict config file seen v = .hook) := by
  unfold marksHook verdict
  by_cases horigin : v.origin = file
  · rw [if_neg (fun hne => hne horigin), horigin, decide_eq_true rfl, Bool.true_and]
    cases definesHook config file <;> cases seen <;> rfl
  · rw [if_pos horigin, decide_eq_false horigin]
    rfl

/-- A node gets a call if it may have one and is of a kind that does. -/
theorem selects_eq (config : Config) (file : String) (seen : Bool) (v : Visit) :
    selects config file seen v =
      (decide (verdict config file seen v = .eligible) && getsCall config v.kind) := by
  unfold selects verdict
  by_cases horigin : v.origin = file
  · rw [if_neg (fun hne => hne horigin), horigin, decide_eq_true rfl, Bool.and_true]
    cases definesHook config file <;> cases seen <;> rfl
  · rw [if_pos horigin, decide_eq_false horigin, Bool.and_false]
    rfl

/-- A site is that of a node of a file, and a call is that of the site. -/
structure Serves (config : Config) (file : String) (v : Visit) (s : Site) (call : Tree) :
    Prop where
  file : s.place.file = file
  name : v.name config.anonymousName = .ok s.place.function
  line : s.place.line = v.sitePosition.line
  column : s.place.column = v.sitePosition.column
  call : Hook.hookCall? config s.identifier s.place.line = some call

/-- What a node comes to: its sites and its call. -/
inductive Looked (config : Config) (file : String) (seen : Bool) (v : Visit) :
    List Site → Option Tree → Prop
  | passed (h : selects config file seen v = false) : Looked config file seen v [] none
  | called (h : selects config file seen v = true) (s : Site) (call : Tree)
      (hs : Serves config file v s call) : Looked config file seen v [s] (some call)

/-- Leaving a node alone changes nothing but the trace. -/
theorem Pass.quiet_skip (p : Pass) (v : Visit) (detail : String) :
    p.books.Quiet (p.skip v detail).books ∧ (p.skip v detail).hookSeen = p.hookSeen := by
  unfold skip
  split
  · exact ⟨⟨rfl, rfl, rfl, rfl, Trace.told_inspection _ _ _ _ _ (by decide),
      Trace.told_inspection _ _ _ _ _ (by decide)⟩, rfl⟩
  · exact ⟨Builder.Quiet.refl _, rfl⟩

variable {start : Int} {file : String}

/-- A call that is made is that of the node, and its site is the last one. -/
theorem callFor_ok {b b' : Builder} {v : Visit} {call : Tree} (hb : b.Balanced start)
    (h : callFor file b v = (b', .ok call)) :
    b'.Balanced start ∧ b'.config = b.config ∧
      ∃ s, Serves b.config file v s call ∧ b'.sites = b.sites ++ [s] := by
  unfold callFor at h
  cases hname : v.name b.config.anonymousName with
  | error reason => simp only [hname, Prod.mk.injEq, reduceCtorEq, and_false] at h
  | ok name =>
      simp only [hname] at h
      split at h
      · rename_i b₁ made henter
        simp only [Prod.mk.injEq, Except.ok.injEq] at h
        rcases h with ⟨rfl, rfl⟩
        rcases Builder.enter_ok hb _ _ henter with ⟨hbalanced, hconfig, identifier, hsites, hcall⟩
        exact ⟨hbalanced, hconfig,
          ⟨⟨file, name, v.sitePosition.line, v.sitePosition.column⟩, identifier⟩,
          ⟨rfl, hname, rfl, rfl, hcall⟩, hsites⟩
      · simp only [Prod.mk.injEq, reduceCtorEq, and_false] at h
      · simp only [Prod.mk.injEq, reduceCtorEq, and_false] at h

/-- What looking at a node does to what is carried on: a site may be added, and the flag
    may flip. -/
structure LookedOn (start : Int) (file : String) (v : Visit) (p p' : Pass) (call : Option Tree) :
    Prop where
  balanced : p'.books.Balanced start
  config : p'.books.config = p.books.config
  flag : p'.hookSeen = (p.hookSeen || marksHook p.books.config file v)
  looked : ∃ sites, Looked p.books.config file p.hookSeen v sites call ∧
    p'.books.sites = p.books.sites ++ sites

/-- A node that is left alone comes to nothing. -/
theorem skip_ok {p : Pass} {v : Visit} (hb : p.books.Balanced start) (detail : String)
    (hselects : selects p.books.config file p.hookSeen v = false)
    (hmarks : marksHook p.books.config file v = false) :
    LookedOn start file v p (p.skip v detail) none := by
  rcases p.quiet_skip v detail with ⟨hquiet, hflag⟩
  refine ⟨hb.of_quiet hquiet, hquiet.config, ?_, [], .passed hselects, ?_⟩
  · rw [hflag, hmarks, Bool.or_false]
  · rw [hquiet.sites, List.append_nil]

/-- Looking at a node adds the site that it comes to, and flips the flag if the node
    lets the hook be seen. -/
theorem look_ok {p p' : Pass} {v : Visit} {call : Option Tree} (hb : p.books.Balanced start)
    (h : look file p v = (p', .ok call)) : LookedOn start file v p p' call := by
  -- The verdict decides both what the node comes to and what becomes of the flag.
  have hselects := selects_eq p.books.config file p.hookSeen v
  have hmarks := marksHook_eq p.books.config file p.hookSeen v
  unfold look at h
  cases hverdict : verdict p.books.config file p.hookSeen v with
  | foreign =>
      rw [hverdict] at hselects hmarks
      simp only [hverdict, Prod.mk.injEq, Except.ok.injEq] at h
      rcases h with ⟨rfl, rfl⟩
      exact skip_ok hb _ hselects hmarks
  | hook =>
      rw [hverdict] at hselects hmarks
      simp only [hverdict, Prod.mk.injEq, Except.ok.injEq] at h
      rcases h with ⟨rfl, rfl⟩
      refine ⟨hb, rfl, ?_, [], .passed hselects, (List.append_nil _).symm⟩
      rw [hmarks, decide_eq_true rfl, Bool.or_true]
  | tooEarly =>
      rw [hverdict] at hselects hmarks
      simp only [hverdict, Prod.mk.injEq, Except.ok.injEq] at h
      rcases h with ⟨rfl, rfl⟩
      exact skip_ok hb _ hselects hmarks
  | eligible =>
      rw [hverdict, decide_eq_true rfl, Bool.true_and] at hselects
      rw [hverdict] at hmarks
      -- A node that may have a call never lets the hook be seen.
      have hflag : p.hookSeen = (p.hookSeen || marksHook p.books.config file v) := by
        rw [hmarks]
        exact (Bool.or_false _).symm
      simp only [hverdict] at h
      split at h
      · rename_i hgets
        cases hcall : callFor file p.books v with
        | mk books answer =>
          cases answer with
          | error stop => simp only [hcall, Prod.mk.injEq, reduceCtorEq, and_false] at h
          | ok made =>
              simp only [hcall, Prod.mk.injEq, Except.ok.injEq] at h
              rcases h with ⟨rfl, rfl⟩
              rcases callFor_ok hb hcall with ⟨hbalanced, hconfig, s, hserves, hsites⟩
              exact ⟨hbalanced, hconfig, hflag, [s], .called (hselects.trans hgets) s made hserves,
                hsites⟩
      · -- It is no function, or a lambda that the settings leave out.
        rename_i hgets
        simp only [Prod.mk.injEq, Except.ok.injEq] at h
        rcases h with ⟨rfl, rfl⟩
        exact ⟨hb, rfl, hflag, [], .passed (hselects.trans (Bool.eq_false_iff.2 hgets)),
          (List.append_nil _).symm⟩

/-! ### The nodes of a file -/

/-- What the nodes of a file come to: their sites in order, and for each function its
    call, if it has one. -/
inductive Planned (config : Config) (file : String) (seen : Bool) :
    List Visit → List Site → List (Option Tree) → Prop
  | nil : Planned config file seen [] [] []
  | cons {v : Visit} {vs : List Visit} {here sites : List Site} {call : Option Tree}
      {calls : List (Option Tree)} (hv : Looked config file seen v here call)
      (hvs : Planned config file seen vs sites calls) :
      Planned config file seen (v :: vs) (here ++ sites)
        (if isFunction v.kind then call :: calls else calls)

theorem Looked.of_selects_eq {config : Config} {seen seen' : Bool} {v : Visit}
    {sites : List Site} {call : Option Tree} (h : Looked config file seen v sites call)
    (heq : selects config file seen' v = selects config file seen v) :
    Looked config file seen' v sites call := by
  cases h with
  | passed h => exact .passed (heq.trans h)
  | called h s call hs => exact .called (heq.trans h) s call hs

theorem Planned.of_selects_eq {config : Config} {seen seen' : Bool} {vs : List Visit}
    {sites : List Site} {calls : List (Option Tree)}
    (h : Planned config file seen vs sites calls)
    (heq : ∀ v, selects config file seen' v = selects config file seen v) :
    Planned config file seen' vs sites calls := by
  induction h with
  | nil => exact .nil
  | cons hv _ ih => exact .cons (hv.of_selects_eq (heq _)) ih

/-- Looking at the nodes of a file adds their sites. Every node is looked at with the
    flag of its turn, but that of the beginning decides as well. -/
theorem plan_ok {p p' : Pass} {vs : List Visit} {calls : List (Option Tree)}
    (hb : p.books.Balanced start) (h : plan file p vs = (p', .ok calls)) :
    p'.books.Balanced start ∧ p'.books.config = p.books.config ∧
      p'.hookSeen = (p.hookSeen || vs.any (marksHook p.books.config file)) ∧
      ∃ sites, Planned p.books.config file p.hookSeen vs sites calls ∧
        p'.books.sites = p.books.sites ++ sites := by
  induction vs generalizing p calls with
  | nil =>
      simp only [plan, Prod.mk.injEq, Except.ok.injEq] at h
      rcases h with ⟨rfl, rfl⟩
      exact ⟨hb, rfl, (Bool.or_false _).symm, [], .nil, (List.append_nil _).symm⟩
  | cons v vs ih =>
      rw [plan] at h
      cases hlook : look file p v with
      | mk p₁ answer =>
        cases answer with
        | error stop => simp only [hlook, Prod.mk.injEq, reduceCtorEq, and_false] at h
        | ok call =>
            simp only [hlook] at h
            rcases look_ok hb hlook with ⟨hb₁, hconfig₁, hflag₁, here, hhere, hsites₁⟩
            cases hrest : plan file p₁ vs with
            | mk p₂ answer =>
              cases answer with
              | error stop => simp only [hrest, Prod.mk.injEq, reduceCtorEq, and_false] at h
              | ok calls' =>
                  simp only [hrest, Prod.mk.injEq, Except.ok.injEq] at h
                  rcases h with ⟨rfl, rfl⟩
                  rcases ih hb₁ hrest with ⟨hb₂, hconfig₂, hflag₂, sites, hplanned, hsites₂⟩
                  -- The rest was looked at with the flag as the first node left it.
                  rw [hconfig₁] at hconfig₂ hflag₂ hplanned
                  rw [hflag₁] at hflag₂ hplanned
                  refine ⟨hb₂, hconfig₂, ?_, here ++ sites, .cons hhere ?_, ?_⟩
                  · rw [hflag₂, List.any_cons, Bool.or_assoc]
                  · exact hplanned.of_selects_eq fun w =>
                      (selects_or_marksHook p.books.config file p.hookSeen v w).symm
                  · rw [hsites₂, hsites₁, List.append_assoc]

namespace Planned

variable {config : Config} {seen : Bool} {vs : List Visit} {sites : List Site}
  {calls : List (Option Tree)}

/-- The sites are those of the nodes that get calls, in their order. -/
theorem sites_serve (h : Planned config file seen vs sites calls) :
    List.Forall₂ (fun v s => ∃ call, Serves config file v s call)
      (vs.filter (selects config file seen)) sites := by
  induction h with
  | nil => exact .nil
  | @cons v vs here sites call calls hv _ ih =>
      cases hv with
      | passed hno =>
          rw [List.filter_cons_of_neg (by rw [hno]; exact Bool.false_ne_true)]
          exact ih
      | called hyes s call hs =>
          rw [List.filter_cons_of_pos hyes]
          exact .cons ⟨call, hs⟩ ih

/-- The calls are those of the sites. -/
theorem calls_serve (h : Planned config file seen vs sites calls) :
    List.Forall₂ (fun s call => Hook.hookCall? config s.identifier s.place.line = some call)
      sites calls.reduceOption := by
  induction h with
  | nil => exact .nil
  | @cons v vs here sites call calls hv _ ih =>
      cases hv with
      | passed _ =>
          split
          · rw [List.reduceOption_cons_of_none]
            exact ih
          · exact ih
      | called hyes s call hs =>
          rw [if_pos (isFunction_of_selects hyes), List.reduceOption_cons_of_some]
          exact .cons hs.call ih

/-- There are as many calls as sites. -/
theorem length_calls (h : Planned config file seen vs sites calls) :
    (calls.filter (·.isSome)).length = sites.length := by
  rw [← List.reduceOption_length_eq, ← h.calls_serve.length_eq]

/-- Each function that gets a call has one, and no other function has. -/
theorem calls_selected (h : Planned config file seen vs sites calls) :
    List.Forall₂ (fun v call => selects config file seen v = Option.isSome call)
      (vs.filter (isFunction ·.kind)) calls := by
  induction h with
  | nil => exact .nil
  | @cons v vs here sites call calls hv _ ih =>
      -- Every node comes to a call or to none; those of functions are listed.
      have hcall : selects config file seen v = call.isSome := by
        cases hv with
        | passed h => exact h
        | called h s call hs => exact h
      rw [List.filter_cons]
      split
      · exact .cons hcall ih
      · exact ih

/-- Every site is that of a node that gets a call. -/
theorem serves_of_mem (h : Planned config file seen vs sites calls) (s : Site) (hs : s ∈ sites) :
    ∃ v ∈ vs, selects config file seen v = true ∧ ∃ call, Serves config file v s call := by
  induction h with
  | nil => exact absurd hs List.not_mem_nil
  | cons hv _ ih =>
      rcases List.mem_append.1 hs with hs | hs
      · cases hv with
        | passed _ => exact absurd hs List.not_mem_nil
        | called hyes t call ht =>
            exact ⟨_, List.mem_cons_self, hyes, call, List.mem_singleton.1 hs ▸ ht⟩
      · rcases ih hs with ⟨v, hv, hyes, hserves⟩
        exact ⟨v, List.mem_cons_of_mem _ hv, hyes, hserves⟩

end Planned

/-! ### The files of a program -/

/-- A file that a run went through: its tree as it was read, its sites, and its calls. -/
structure Done where
  name : String
  source : Module
  sites : List Site
  calls : List (Option Tree)

namespace Done

/-- The nodes of a file in the order in which they were looked at. -/
def nodes (d : Done) : List Visit := visits d.source.layout { origin := d.name } d.source.tree

/-- What a file has become. -/
def result (config : Config) (d : Done) : InstrumentedUnit :=
  ⟨d.name, (withCalls config d.source d.calls).render, d.sites.length⟩

end Done

/-- What files come to, the hook being seen before and after them as said. -/
inductive Handled (config : Config) : Bool → List Done → Bool → Prop
  | nil (seen : Bool) : Handled config seen [] seen
  | cons {d : Done} {done : List Done} {seen last : Bool}
      (hd : Planned config d.name seen d.nodes d.sites d.calls)
      (hdone : Handled config (seen || d.nodes.any (marksHook config d.name)) done last) :
      Handled config seen (d :: done) last

theorem quiet_startPhase (b : Builder) (name detail : String) :
    b.Quiet { b with trace := b.trace.startPhase name detail } :=
  ⟨rfl, rfl, rfl, rfl, b.trace.told_startPhase name detail _ (by decide),
    b.trace.told_startPhase name detail _ (by decide)⟩

theorem quiet_endPhase (b : Builder) : b.Quiet { b with trace := b.trace.endPhase } :=
  ⟨rfl, rfl, rfl, rfl, b.trace.told_endPhase _ (by decide), b.trace.told_endPhase _ (by decide)⟩

/-- Going through a file adds its sites. -/
theorem instrumentUnit_ok {p p' : Pass} {name : String} {m : Module} {unit : InstrumentedUnit}
    (hb : p.books.Balanced start) (h : instrumentUnit p name m = (p', .ok unit)) :
    p'.books.Balanced start ∧ p'.books.config = p.books.config ∧
      ∃ d : Done, d.name = name ∧ d.source = m ∧ unit = d.result p.books.config ∧
        p'.hookSeen = (p.hookSeen || d.nodes.any (marksHook p.books.config d.name)) ∧
        Planned p.books.config d.name p.hookSeen d.nodes d.sites d.calls ∧
        p'.books.sites = p.books.sites ++ d.sites := by
  unfold instrumentUnit at h
  -- Around the pass, only the trace is told that a phase begins and ends.
  have hstart := quiet_startPhase p.books ("Instrumenting " ++ name) ""
  cases hplan : plan name { p with books := { p.books with
      trace := p.books.trace.startPhase ("Instrumenting " ++ name) } }
      (visits m.layout { origin := name } m.tree) with
  | mk p₁ answer =>
    cases answer with
    | error stop => simp only [hplan, Prod.mk.injEq, reduceCtorEq, and_false] at h
    | ok calls =>
        simp only [hplan, Prod.mk.injEq, Except.ok.injEq] at h
        rcases h with ⟨rfl, rfl⟩
        rcases plan_ok (hb.of_quiet hstart) hplan with
          ⟨hb₁, hconfig, hflag, sites, hplanned, hsites⟩
        have hend := quiet_endPhase p₁.books
        refine ⟨hb₁.of_quiet hend, hconfig, ⟨name, m, sites, calls⟩, rfl, rfl, ?_, hflag,
          hplanned, hsites⟩
        rw [Done.result, hplanned.length_calls, hconfig]

/-- Going through the files adds the sites of each in turn, and each is looked at with
    what the files before it left of the flag. -/
theorem instrumentUnits_ok {p p' : Pass} {modules : List (String × Module)}
    {units : List InstrumentedUnit} (hb : p.books.Balanced start)
    (h : instrumentUnits p modules = (p', .ok units)) :
    p'.books.Balanced start ∧ p'.books.config = p.books.config ∧
      ∃ done : List Done, done.map (fun d => (d.name, d.source)) = modules ∧
        units = done.map (Done.result p.books.config) ∧
        Handled p.books.config p.hookSeen done p'.hookSeen ∧
        p'.books.sites = p.books.sites ++ done.flatMap (·.sites) := by
  induction modules generalizing p units with
  | nil =>
      simp only [instrumentUnits, Prod.mk.injEq, Except.ok.injEq] at h
      rcases h with ⟨rfl, rfl⟩
      exact ⟨hb, rfl, [], rfl, rfl, .nil _, (List.append_nil _).symm⟩
  | cons nameAndModule rest ih =>
      rcases nameAndModule with ⟨name, m⟩
      rw [instrumentUnits] at h
      cases hunit : instrumentUnit p name m with
      | mk p₁ answer =>
        cases answer with
        | error stop => simp only [hunit, Prod.mk.injEq, reduceCtorEq, and_false] at h
        | ok unit =>
            simp only [hunit] at h
            rcases instrumentUnit_ok hb hunit with
              ⟨hb₁, hconfig₁, d, rfl, rfl, hresult, hflag₁, hplanned, hsites₁⟩
            cases hrest : instrumentUnits p₁ rest with
            | mk p₂ answer =>
              cases answer with
              | error stop => simp only [hrest, Prod.mk.injEq, reduceCtorEq, and_false] at h
              | ok units' =>
                  simp only [hrest, Prod.mk.injEq, Except.ok.injEq] at h
                  rcases h with ⟨rfl, rfl⟩
                  rcases ih hb₁ hrest with
                    ⟨hb₂, hconfig₂, done, hmodules, hunits, hhandled, hsites₂⟩
                  -- The other files see the flag as the first one left it.
                  rw [hconfig₁] at hconfig₂ hunits hhandled
                  rw [hflag₁] at hhandled
                  refine ⟨hb₂, hconfig₂, d :: done, ?_, ?_, .cons hplanned hhandled, ?_⟩
                  · rw [List.map_cons, hmodules]
                  · rw [List.map_cons, hunits, hresult]
                  · rw [hsites₂, hsites₁, List.flatMap_cons, List.append_assoc]

/-- The trees of files are read from their texts. -/
theorem parseUnits_ok {units : List SourceUnit} {modules : List (String × Module)}
    (h : parseUnits units = .ok modules) :
    List.Forall₂ (fun u nm => u.name = nm.1 ∧ Module.parse? u.code = some nm.2) units modules := by
  induction units generalizing modules with
  | nil =>
      cases h
      exact .nil
  | cons u us ih =>
      rw [parseUnits] at h
      cases hparse : Module.parse? u.code with
      | none => simp only [hparse, reduceCtorEq] at h
      | some m =>
          simp only [hparse] at h
          cases hrest : parseUnits us with
          | error name => simp only [hrest, Except.map, reduceCtorEq] at h
          | ok rest =>
              simp only [hrest, Except.map, Except.ok.injEq] at h
              rw [← h]
              exact .cons ⟨rfl, hparse⟩ (ih hrest)

/-! ### The whole run -/

/-- The books are balanced before the first file. -/
theorem balanced_fresh (config : Config) (counter : Int) (trace : Trace)
    (hmutations : trace.told .mutation = []) (hwarnings : trace.told .warning = []) :
    ({ config, registry := { counter }, trace } : Builder).Balanced counter where
  registry := Registry.after_nil counter
  numbered := fun _ hs => absurd hs List.not_mem_nil
  changes := rfl
  mutations := hmutations
  warnings := hwarnings

/-- What balanced books become at the end of a run: the registry always becomes a
    mapping, and a warning is given if the hook was not seen. -/
structure Finished (p : Pass) (units : List InstrumentedUnit) (logs : List LogLine)
    (o : Outcome) : Prop where
  units : o.units = units
  sites : o.sites = p.books.sites
  mapping : o.mapping = some ⟨p.books.registry.rows⟩
  changes : o.changedScopes = p.books.changes.map (·.label)
  mutations : o.trace.told .mutation = p.books.trace.told .mutation
  warnings : o.trace.told .warning =
    if p.hookSeen then [] else [(missingHook p.books.config, [("level", .text "warning")])]
  logged : logs.filter (·.level = .warning) =
    if p.hookSeen then [] else [⟨.warning, missingHook p.books.config⟩]

theorem finish_ok {p : Pass} (units : List InstrumentedUnit) (hb : p.books.Balanced start) :
    ∃ o, (finish p units).outcome = .ok o ∧ Finished p units (finish p units).logs o := by
  have hmaterialize := Registry.materialize_eq hb.registry.toRecords hb.registry.isOpen
  -- The phase events around the end tell nothing of mutations and warnings.
  have htold : ∀ kind, kind ≠ .phaseStart → kind ≠ .phaseEnd →
      (p.books.trace.startPhase "Materializing Mapping").endPhase.told kind =
        p.books.trace.told kind := by
    intro kind hstart hend
    rw [Trace.told_endPhase _ _ hend, Trace.told_startPhase _ _ _ _ hstart]
  unfold finish
  simp only [hmaterialize]
  cases hseen : p.hookSeen with
  | true =>
      -- Without a warning, nothing is told besides the phases.
      refine ⟨_, rfl, rfl, rfl, rfl, rfl, ?_, ?_, ?_⟩
      · exact (Trace.told_endPhase _ _ (by decide)).trans (htold _ (by decide) (by decide))
      · rw [if_pos hseen, ← hb.warnings]
        exact (Trace.told_endPhase _ _ (by decide)).trans (htold _ (by decide) (by decide))
      · rw [if_pos hseen]
        rfl
  | false =>
      -- The warning is the one thing that is told besides them.
      have hwarning : ∀ kind, kind ≠ .phaseStart → kind ≠ .phaseEnd →
          ((p.books.trace.startPhase "Materializing Mapping").endPhase.warning
            (missingHook p.books.config)).endPhase.told kind =
            p.books.trace.told kind ++ if .warning = kind then
              [(missingHook p.books.config, [("level", .text "warning")])] else [] := by
        intro kind hstart hend
        rw [Trace.told_endPhase _ _ hend, Trace.warning, Trace.told_record, htold _ hstart hend]
      refine ⟨_, rfl, rfl, rfl, rfl, rfl, ?_, ?_, ?_⟩
      · refine (hwarning _ (by decide) (by decide)).trans ?_
        rw [if_neg (by decide), List.append_nil]
      · refine (hwarning _ (by decide) (by decide)).trans ?_
        rw [hseen, if_neg Bool.false_ne_true, if_pos rfl, hb.warnings, List.nil_append]
      · rw [hseen, if_neg Bool.false_ne_true]
        rfl

/-- What is known of a run that ends well: the files that it went through, whether the
    hook was seen, and what it gives. -/
structure Ended (config : Config) (counter : Int) (units : List SourceUnit) (logs : List LogLine)
    (o : Outcome) (done : List Done) (seen : Bool) : Prop where
  parsed : List.Forall₂ (fun u d => u.name = d.name ∧ Module.parse? u.code = some d.source)
    units done
  handled : Handled config false done seen
  units : o.units = done.map (Done.result config)
  sites : o.sites = done.flatMap (·.sites)
  registry : ∃ r : Registry, r.After counter (coordinates o.sites) ∧ o.mapping = some ⟨r.rows⟩
  numbered : ∀ s ∈ o.sites, Vlq.encode
    (counter + ((coordinates o.sites).eraseDups.idxOf s.place.coordinate : Int) + 1) =
      .ok s.identifier
  changes : o.changedScopes = o.sites.map fun s => s.place.file ++ "::" ++ s.place.function
  mutations : o.trace.told .mutation = o.sites.map (mutationOf config)
  warnings : o.trace.told .warning =
    if seen then [] else [(missingHook config, [("level", .text "warning")])]
  logged : logs.filter (·.level = .warning) =
    if seen then [] else [⟨.warning, missingHook config⟩]

/-- The files that a run went through are the ones that it was given. -/
theorem Ended.names {config : Config} {counter : Int} {units : List SourceUnit}
    {logs : List LogLine} {o : Outcome} {done : List Done} {seen : Bool}
    (h : Ended config counter units logs o done seen) :
    units.map (·.name) = done.map (·.name) := by
  have hnames : List.Forall₂ (· = ·) (units.map (·.name)) (done.map (·.name)) := by
    rw [List.forall₂_map_left_iff, List.forall₂_map_right_iff]
    exact h.parsed.imp fun _ _ hparsed => hparsed.1
  rwa [List.forall₂_eq_eq_eq] at hnames

/-- A run that ends well has kept its books, and all of them are in what it gives. -/
theorem run_ok {config : Config} {counter : Int} {units : List SourceUnit} {o : Outcome}
    (h : (run config counter units).outcome = .ok o) (hsuccess : o.success = true) :
    ∃ done seen, Ended config counter units (run config counter units).logs o done seen := by
  unfold run at h ⊢
  cases hparse : parseUnits units with
  | error name =>
      -- A file that cannot be read ends the run without success.
      simp only [hparse, Except.ok.injEq] at h
      rw [← h] at hsuccess
      exact absurd hsuccess Bool.false_ne_true
  | ok modules =>
      simp only [hparse] at h ⊢
      have hfresh := balanced_fresh config counter
        ((({} : Trace).startPhase "Instrumentation Pipeline"
          s!"{units.length} source units").startPhase "Parsing").endPhase rfl rfl
      split at h
      · simp only [reduceCtorEq] at h
      · -- So does a registry without numbers left.
        simp only [Except.ok.injEq] at h
        rw [← h] at hsuccess
        exact absurd hsuccess Bool.false_ne_true
      · rename_i p results hunits
        rcases instrumentUnits_ok hfresh hunits with
          ⟨hb, hconfig, done, hmodules, hresults, hhandled, hsites⟩
        rcases finish_ok results hb with ⟨o', houtcome, hfinished⟩
        rw [houtcome, Except.ok.injEq] at h
        subst h
        rw [List.nil_append] at hsites
        have hparsed := parseUnits_ok hparse
        rw [← hmodules, List.forall₂_map_right_iff] at hparsed
        refine ⟨done, p.hookSeen, ?_⟩
        exact
          { parsed := hparsed
            handled := hhandled
            units := hfinished.units.trans hresults
            sites := hfinished.sites.trans hsites
            registry := ⟨p.books.registry, hfinished.sites ▸ hb.registry, hfinished.mapping⟩
            numbered := hfinished.sites ▸ hb.numbered
            changes := by
              rw [hfinished.changes, hb.changes, hfinished.sites, List.map_map]
              rfl
            mutations := by
              rw [hfinished.mutations, hb.mutations, hfinished.sites, hconfig]
            warnings := by
              rw [hfinished.warnings, hconfig]
            logged := by
              refine hfinished.logged.trans ?_
              rw [hconfig] }

/-! ### A sample -/

/-- Settings with lambdas. -/
def sampleConfig : Config := { instrumentLambdas := true }

/-- A program of two files, the first of which defines the hook. The second one has a
    function with a docstring and, on the same line, a lambda. -/
def sample : List SourceUnit :=
  [⟨"instrument_code.py", "def f(): 0\n"⟩, ⟨"a.py", "def f():\n  \"a\"; g = lambda: 0\n"⟩]

/-- What is seen of the outcome of a run, if it is seen, is that of an outcome. -/
theorem exists_outcome {config : Config} {counter : Int} {units : List SourceUnit} {α : Type}
    {f : Outcome → α} {a : α}
    (h : (run config counter units).outcome.toOption.map f = some a) :
    ∃ o, (run config counter units).outcome = .ok o ∧ f o = a := by
  rcases Option.map_eq_some_iff.1 h with ⟨o, ho, hf⟩
  cases houtcome : (run config counter units).outcome with
  | error crash =>
      rw [houtcome, Except.toOption] at ho
      exact absurd ho.symm (Option.some_ne_none o)
  | ok o' =>
      rw [houtcome] at ho
      exact ⟨o, congrArg _ (Option.some.inj ho), hf⟩

/-- The run on the sample ends well. -/
theorem sample_ends :
    ∃ o, (run sampleConfig 0 sample).outcome = .ok o ∧ o.success = true := by
  -- Running the sample once shows that it ends, and that it ends well.
  have hends : (run sampleConfig 0 sample).outcome.toOption.map (·.success) = some true := by
    decide +kernel
  exact exists_outcome hends

/-! ### The records of a run -/

/-- The sites of files that were gone through, file by file. -/
theorem Handled.serves {config : Config} {seen last : Bool} {done : List Done}
    (h : Handled config seen done last) : ∀ d ∈ done, ∀ s ∈ d.sites, s.place.file = d.name ∧
      ∃ call, Hook.hookCall? config s.identifier s.place.line = some call := by
  induction h with
  | nil => exact fun d hd => absurd hd List.not_mem_nil
  | cons hplanned _ ih =>
      intro d hd s hs
      rcases List.mem_cons.1 hd with rfl | hd
      · rcases hplanned.serves_of_mem s hs with ⟨v, -, -, call, hserves⟩
        exact ⟨hserves.file, call, hserves.call⟩
      · exact ih d hd s hs

/-- The records that a run gives tell of the same calls: the sites, the changes, the
    mutations in the trace, the files and the mapping. -/
structure Agree (config : Config) (counter : Int) (units : List SourceUnit) (o : Outcome)
    (m : Mapping) : Prop where
  mapping : o.mapping = some m
  /-- Changes and mutations tell of the sites one by one. -/
  changes : o.changedScopes = o.sites.map fun s => s.place.file ++ "::" ++ s.place.function
  mutations : o.trace.told .mutation = o.sites.map (mutationOf config)
  /-- What a mutation says was added is the text of the call of its site. -/
  calls : ∀ s ∈ o.sites, ∃ call, Hook.hookCall? config s.identifier s.place.line = some call ∧
    Naming.renderAlone call = callText config s.identifier s.place.line
  files : o.units.map (·.name) = units.map (·.name)
  /-- The sites of each file stand together, in the order of the files. -/
  blocks : ∃ blocks : List (List Site), o.sites = blocks.flatten ∧
    List.Forall₂ (fun unit block => block.length = unit.siteCount ∧
      ∀ s ∈ block, s.place.file = unit.name) o.units blocks
  keys : ∀ x, x ∈ m.entries.map (·.1) ↔ x ∈ o.sites.map (·.identifier)
  /-- An identifier is the number of its place, counted in the order of the sites. -/
  numbered : ∀ s ∈ o.sites, Vlq.encode
    (counter + ((coordinates o.sites).eraseDups.idxOf s.place.coordinate : Int) + 1) =
      .ok s.identifier
  decoded : ∀ s ∈ o.sites, m.decode s.identifier = .ok s.place.coordinate

/-- Whatever the settings and the files, the records of a run that ends well agree. -/
theorem run_records_agree (config : Config) (counter : Int) (units : List SourceUnit)
    (o : Outcome) (h : (run config counter units).outcome = .ok o) (hsuccess : o.success = true) :
    ∃ m, Agree config counter units o m := by
  rcases run_ok h hsuccess with ⟨done, seen, hended⟩
  rcases hended.registry with ⟨r, hafter, hmapping⟩
  have hserves : ∀ s ∈ o.sites, ∃ call,
      Hook.hookCall? config s.identifier s.place.line = some call := by
    intro s hs
    rw [hended.sites] at hs
    rcases List.mem_flatMap.1 hs with ⟨d, hd, hs⟩
    exact (hended.handled.serves d hd s hs).2
  -- An identifier is the text of its number.
  have htext : ∀ s ∈ o.sites, s.identifier = Vlq.text
      (counter + ((coordinates o.sites).eraseDups.idxOf s.place.coordinate : Int) + 1) :=
    fun s hs => ((Vlq.encode_eq_ok_iff _ _).1 (hended.numbered s hs)).2
  refine ⟨⟨r.rows⟩, ?_⟩
  exact
    { mapping := hmapping
      changes := hended.changes
      mutations := hended.mutations
      calls := by
        intro s hs
        rcases hserves s hs with ⟨call, hcall⟩
        exact ⟨call, hcall, renderAlone_hookCall config _ _ call hcall⟩
      files := by
        rw [hended.units, List.map_map]
        exact hended.names.symm
      blocks := by
        -- The blocks are the sites of the files, one file after the other.
        refine ⟨done.map (·.sites), hended.sites.trans List.flatMap_def, ?_⟩
        rw [hended.units, List.forall₂_map_left_iff, List.forall₂_map_right_iff,
          List.forall₂_same]
        exact fun d hd => ⟨rfl, fun s hs => (hended.handled.serves d hd s hs).1⟩
      keys := by
        intro x
        rw [hafter.mem_entries_iff, List.mem_map]
        constructor
        · rintro ⟨c, hc, rfl⟩
          rcases List.mem_map.1 hc with ⟨s, hs, rfl⟩
          exact ⟨s, hs, htext s hs⟩
        · rintro ⟨s, hs, rfl⟩
          exact ⟨s.place.coordinate, List.mem_map_of_mem hs, htext s hs⟩
      numbered := hended.numbered
      decoded := by
        intro s hs
        rw [htext s hs]
        exact hafter.decode _ (List.mem_map_of_mem hs) }

/-- The records of the sample agree. -/
theorem run_records_agree_sample : ∃ o, (run sampleConfig 0 sample).outcome = .ok o ∧
    o.success = true ∧ ∃ m, Agree sampleConfig 0 sample o m := by
  rcases sample_ends with ⟨o, houtcome, hsuccess⟩
  exact ⟨o, houtcome, hsuccess, run_records_agree sampleConfig 0 sample o houtcome hsuccess⟩

end Engine

end EntryCoverage

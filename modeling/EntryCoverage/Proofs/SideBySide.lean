import EntryCoverage.Proofs.Steps

/-!
# Runs Side by Side

Two runs that differ in something that no decision depends on.

Of what a pass carries on, two things are written but never looked at on the way: the
trace, and whether the hook's module is to be imported, which matters to the text of a
file and to nothing that is carried on. So a pass that got through a file is matched,
step by step, by the same pass with another trace and another answer to that question
(`Pass.beside`): the same calls are made, and the two are beside each other again at the
end.

What can be said of the two traces depends on what they began with. All that is asked of
a relation between them is that it stays when the same is written to both (`Parallel`);
two equal traces stay equal, and of two traces about which nothing is known, nothing is
known later.

## Main definitions

* `Pass.beside`: A pass with another trace, importing the hook's module or not.
* `Parallel`: A relation between traces that are written alike.

## Theorems

* `look_beside`, `plan_beside`, `instrumentUnits_beside`: Passes stay beside each other.
-/

namespace EntryCoverage

open Source

namespace Engine

/-! ### Passes beside each other -/

/-- A relation between traces that stays when the same is written to both. -/
structure Parallel (R : Trace → Trace → Prop) : Prop where
  record : ∀ {t u}, R t u → ∀ kind description metadata,
    R (t.record kind description metadata) (u.record kind description metadata)
  startPhase : ∀ {t u}, R t u → ∀ name detail,
    R (t.startPhase name detail) (u.startPhase name detail)
  endPhase : ∀ {t u}, R t u → R t.endPhase u.endPhase

theorem parallel_eq : Parallel (· = ·) where
  record := fun h _ _ _ => by rw [h]
  startPhase := fun h _ _ => by rw [h]
  endPhase := fun h => by rw [h]

/-- Settings that import the hook's module or not. -/
def importing (config : Config) (inject : Bool) : Config :=
  { config with injectHookImport := inject }

end Engine

/-- The same books with another trace, importing the hook's module or not. -/
def Builder.beside (b : Builder) (inject : Bool) (trace : Trace) : Builder :=
  { b with config := Engine.importing b.config inject, trace }

namespace Engine

variable {start : Int} {R : Trace → Trace → Prop} (inject : Bool) {file : String}

/-- The same pass with another trace, importing the hook's module or not. -/
def Pass.beside (p : Pass) (inject : Bool) (trace : Trace) : Pass :=
  { p with books := p.books.beside inject trace }

theorem skip_beside (hR : Parallel R) (p : Pass) (v : Visit) (detail : String) {u : Trace}
    (hu : R p.books.trace u) : ∃ u', (p.beside inject u).skip v detail =
      (p.skip v detail).beside inject u' ∧ R (p.skip v detail).books.trace u' := by
  unfold Pass.skip
  split
  · exact ⟨_, rfl, hR.record hu _ _ _⟩
  · exact ⟨u, rfl, hu⟩

/-- A call is made from the settings' path, the registry and the place alone. -/
theorem callFor_beside (hR : Parallel R) {b b' : Builder} {v : Visit} {call : Tree} {u : Trace}
    (hu : R b.trace u) (h : callFor file b v = (b', .ok call)) :
    ∃ u', callFor file (b.beside inject u) v = (b'.beside inject u', .ok call) ∧
      R b'.trace u' := by
  rcases callFor_eq_ok.1 h with ⟨name, hname, henter⟩
  rcases Builder.enter_eq_ok.1 henter with ⟨registry, identifier, hencode, hcall, rfl⟩
  exact ⟨_, callFor_eq_ok.2 ⟨name, hname,
    Builder.enter_eq_ok.2 ⟨registry, identifier, hencode, hcall, rfl⟩⟩, hR.record hu _ _ _⟩

/-- What a node comes to does not depend on the trace, nor on whether the hook's module is
    imported. -/
theorem look_beside (hR : Parallel R) {p p' : Pass} {v : Visit} {call : Option Tree} {u : Trace}
    (hu : R p.books.trace u) (h : look file p v = (p', .ok call)) :
    ∃ u', look file (p.beside inject u) v = (p'.beside inject u', .ok call) ∧
      R p'.books.trace u' := by
  have hgets : ∀ kind, getsCall (p.beside inject u).books.config kind =
      getsCall p.books.config kind := fun kind => by cases kind <;> rfl
  cases look_eq_ok.1 h with
  | foreign hverdict =>
      rcases skip_beside inject hR p v ("originates from " ++ v.origin) hu with ⟨u', hskip, hu'⟩
      exact ⟨u', by rw [← hskip]; exact look_eq_ok.2 (.foreign hverdict), hu'⟩
  | hook hverdict => exact ⟨u, look_eq_ok.2 (.hook hverdict), hu⟩
  | tooEarly hverdict =>
      rcases skip_beside inject hR p v "runtime hook file not seen yet" hu with ⟨u', hskip, hu'⟩
      exact ⟨u', by rw [← hskip]; exact look_eq_ok.2 (.tooEarly hverdict), hu'⟩
  | called hverdict hyes books made hcall =>
      rcases callFor_beside inject hR hu hcall with ⟨u', hbeside, hu'⟩
      exact ⟨u', look_eq_ok.2 (.called (p := p.beside inject u) hverdict ((hgets _).trans hyes) _
        made hbeside), hu'⟩
  | leftOut hverdict hno =>
      exact ⟨u, look_eq_ok.2 (.leftOut hverdict ((hgets _).trans hno)), hu⟩

/-- The nodes of a file come to the same calls. -/
theorem plan_beside (hR : Parallel R) {p p' : Pass} {vs : List Visit} {calls : List (Option Tree)}
    {u : Trace} (hu : R p.books.trace u) (h : plan file p vs = (p', .ok calls)) :
    ∃ u', plan file (p.beside inject u) vs = (p'.beside inject u', .ok calls) ∧
      R p'.books.trace u' := by
  induction vs generalizing p u calls with
  | nil =>
      simp only [plan, Prod.mk.injEq, Except.ok.injEq] at h ⊢
      rcases h with ⟨rfl, rfl⟩
      exact ⟨u, ⟨rfl, rfl⟩, hu⟩
  | cons v vs ih =>
      rcases plan_cons_eq_ok.1 h with ⟨p₁, call, rest, hlook, hrest, rfl⟩
      rcases look_beside inject hR hu hlook with ⟨u₁, hbeside, hu₁⟩
      rcases ih hu₁ hrest with ⟨u₂, hbeside', hu₂⟩
      exact ⟨u₂, plan_cons_eq_ok.2 ⟨_, _, _, hbeside, hbeside', rfl⟩, hu₂⟩

/-! ### Files beside each other -/

/-- A file comes to the same calls, and is written as the settings say. -/
theorem instrumentUnit_beside (hR : Parallel R) {p p' : Pass} {name : String} {m : Module}
    {result : InstrumentedUnit} {u : Trace} (hb : p.books.Balanced start) (hu : R p.books.trace u)
    (h : instrumentUnit p name m = (p', .ok result)) :
    ∃ u' calls, result = written p.books.config (name, m) calls ∧
      instrumentUnit (p.beside inject u) name m = (p'.beside inject u',
        .ok (written (importing p.books.config inject) (name, m) calls)) ∧
        R p'.books.trace u' := by
  rcases instrumentUnit_eq_ok.1 h with ⟨p₁, calls, hplan, rfl, rfl⟩
  have hquiet := quiet_startPhase p.books ("Instrumenting " ++ name) ""
  have hconfig : p₁.books.config = p.books.config := (plan_ok (hb.of_quiet hquiet) hplan).2.1
  rcases plan_beside inject hR (hR.startPhase hu ("Instrumenting " ++ name) "") hplan with
    ⟨u₁, hbeside, hu₁⟩
  refine ⟨u₁.endPhase, calls, by rw [hconfig], ?_, hR.endPhase hu₁⟩
  rw [← hconfig]
  exact instrumentUnit_eq_ok.2 ⟨p₁.beside inject u₁, calls, hbeside, rfl, rfl⟩

/-- Files come to the same calls, each of them. -/
theorem instrumentUnits_beside (hR : Parallel R) {p p' : Pass} {modules : List (String × Module)}
    {results : List InstrumentedUnit} {u : Trace} (hb : p.books.Balanced start)
    (hu : R p.books.trace u) (h : instrumentUnits p modules = (p', .ok results)) :
    ∃ u' callss, List.length callss = modules.length ∧
      results = List.zipWith (written p.books.config) modules callss ∧
        instrumentUnits (p.beside inject u) modules = (p'.beside inject u',
          .ok (List.zipWith (written (importing p.books.config inject)) modules callss)) ∧
          R p'.books.trace u' := by
  induction modules generalizing p u results with
  | nil =>
      simp only [instrumentUnits, Prod.mk.injEq, Except.ok.injEq] at h
      rcases h with ⟨rfl, rfl⟩
      exact ⟨u, [], rfl, rfl, rfl, hu⟩
  | cons nm modules ih =>
      rcases instrumentUnits_cons_eq_ok.1 h with ⟨p₁, unit, more, hunit, hrest, rfl⟩
      rcases instrumentUnit_ok hb hunit with ⟨hb₁, hconfig, -⟩
      rcases instrumentUnit_beside inject hR hb hu hunit with ⟨u₁, calls, rfl, hbeside, hu₁⟩
      rcases ih hb₁ hu₁ hrest with ⟨u₂, callss, hlength, rfl, hbeside', hu₂⟩
      -- The other files are written with the same settings.
      rw [hconfig] at hbeside' ⊢
      exact ⟨u₂, calls :: callss, congrArg Nat.succ hlength, rfl,
        instrumentUnits_cons_eq_ok.2 ⟨_, _, _, hbeside, hbeside', rfl⟩, hu₂⟩

end Engine

end EntryCoverage

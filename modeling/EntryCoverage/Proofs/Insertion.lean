import EntryCoverage.Proofs.Restoring
import EntryCoverage.Proofs.Selection

/-!
# Instrumentation Only Inserts

The code of every file that a run gives is the tree that was read with calls in it, and
nothing else has happened to the tree.

Calls are put in by one recursion over the tree, which hands a list of them from
function to function. `restore_insertCalls` shows that `restore` is its inverse: of each
function, the call that was put in is the one that is taken out, and the parts it is
taken out of are those that it was put into, because going back inside of them and
putting it in can change places.

For a run, `Undone` adds which functions these are. Turns stand in the order of the
functions of the tree, and one takes a call out exactly if its function is chosen in an
open file.

## Main definitions

* `functionCount`: How many functions a tree has.
* `Answers`: A turn is that of a function with a call or without.
* `Undone`: What is known of a file that got calls.
* `OnlyInserts`: It is known of all files of a run.

## Theorems

* `restore_insertCalls`: Going back from a tree with calls gives the tree.
* `insertCalls_of_none`: A tree without calls stays as it is.
* `run_only_inserts`: Going back from the files of a run gives the trees that were read.
-/

namespace EntryCoverage

open Source

/-! ### The whole tree -/

mutual

/-- How many functions a tree has. -/
def functionCount : Tree → Nat
  | .leaf _ => 0
  | .node kind ts => functionCountAll ts + if isFunction kind then 1 else 0

/-- How many functions trees in a row have. -/
def functionCountAll : List Tree → Nat
  | [] => 0
  | t :: ts => functionCount t + functionCountAll ts

end

mutual

/-- As many functions are visited. -/
theorem length_walk_functions (layout : Layout) : ∀ (margin : String) (c : Context) (p : Position)
    (t : Tree),
    ((walk layout margin c p t).visits.filter (isFunction ·.kind)).length = functionCount t
  | _, _, _, .leaf _ => rfl
  | margin, c, p, .node kind ts => by
      have hrow := length_walkAll_functions layout (kind.marginWithin layout margin)
        (c.within kind ts) (c.lastBinding kind ts) p ts
      rw [walk, List.filter_append, List.length_append, hrow, functionCount, List.filter_singleton]
      cases isFunction kind <;> rfl

theorem length_walkAll_functions (layout : Layout) : ∀ (margin : String) (c : Context)
    (last : Naming.Binding) (p : Position) (ts : List Tree),
    ((walkAll layout margin c last p ts).visits.filter (isFunction ·.kind)).length =
      functionCountAll ts
  | _, _, _, _, [] => rfl
  | margin, c, last, p, t :: ts => by
      rw [walkAll, List.filter_append, List.length_append, length_walk_functions,
        length_walkAll_functions, functionCountAll]

end

/-- A turn is that of a function with a call or without. What joins lines is a semicolon
    that was read. -/
inductive Answers : Option Tree → Turn → Prop
  | keep : Answers none .keep
  | take (call : Tree) {joint : Option Tree} (hjoint : IsJoint joint) :
      Answers (some call) (.take joint)

/-- A turn takes a call out exactly if there is one. -/
theorem Answers.isTake {call : Option Tree} {turn : Turn} (h : Answers call turn) :
    turn.isTake = call.isSome := by
  cases h <;> rfl

theorem isFunction_iff (kind : Kind) :
    isFunction kind = true ↔ kind = .functionDef ∨ kind = .lambda := by
  constructor
  · intro h
    unfold isFunction at h
    split at h
    · exact .inl rfl
    · exact .inr rfl
    · exact absurd h Bool.false_ne_true
  · rintro (rfl | rfl)
    · rfl
    · rfl

/-- A function with its call or without, given its parts with calls and the way back from
    them. -/
theorem restore_insertOwn {kind : Kind} {ts ts' calls : List Tree} {turns : List Turn}
    (own : Option Tree) (hkind : isFunction kind = true)
    (hfits : Tree.Everywhere Fits (.node kind ts)) (hcall : ∀ call, own = some call → IsCall call)
    (hback : ∀ left, restoreAll ts' (turns ++ left) = some (ts, calls, left)) :
    ∃ turn, Answers own turn ∧ ∀ left,
      restore (own.elim (.node kind ts') fun call => insertCall call kind ts')
        ((turns ++ [turn]) ++ left) = some (.node kind ts, calls ++ own.toList, left) := by
  cases own with
  | none =>
      refine ⟨.keep, .keep, fun left => ?_⟩
      rw [List.append_assoc, List.singleton_append, Option.elim_none, restore,
        hback (.keep :: left)]
      simp only [hkind, if_true, Option.toList_none, List.append_nil]
  | some call =>
      have hcall := hcall call rfl
      rcases takeOut_insertCall call hcall kind ts hkind hfits with ⟨joint, hjoint, htake⟩
      -- Inner calls go first: the parts with the call go back to those that were read.
      refine ⟨.take joint, .take call hjoint, fun left => ?_⟩
      have hparts := restoreAll_partsWithCall call hcall kind (hback (.take joint :: left)) hfits.2
      rw [List.append_assoc, List.singleton_append, Option.elim_some,
        insertCall_eq call kind ts' hkind, restore, hparts]
      simp only [hkind, if_true, htake, Option.map_some, Option.toList_some]

mutual

/-- Going back from a tree that was read and got calls gives the tree and the calls. -/
theorem restore_insertCalls : ∀ (t : Tree) (used rest : List (Option Tree)),
    t.Everywhere Fits → used.length = functionCount t →
      (∀ call, some call ∈ used → IsCall call) →
        ∃ t' turns, insertCalls t (used ++ rest) = (t', rest) ∧ List.Forall₂ Answers used turns ∧
          ∀ left, restore t' (turns ++ left) = some (t, used.reduceOption, left)
  | .leaf l, used, rest, _, hlength, _ => by
      rw [List.length_eq_zero_iff.1 hlength]
      exact ⟨.leaf l, [], rfl, .nil, fun left => rfl⟩
  | .node kind ts, used, rest, hfits, hlength, hcalls => by
      by_cases hkind : isFunction kind = true
      · -- The last call is for the function, the others are for what is in it.
        rw [functionCount, if_pos hkind] at hlength
        rcases List.eq_nil_or_concat used with rfl | ⟨inner, own, rfl⟩
        · exact absurd hlength (Nat.succ_ne_zero _).symm
        · rw [List.concat_eq_append] at hlength hcalls ⊢
          rw [List.length_append, List.length_singleton] at hlength
          rcases restoreAll_insertCallsAll ts inner (own :: rest) hfits.2 (Nat.succ.inj hlength)
            (fun call hin => hcalls call (List.mem_append_left _ hin)) with
            ⟨ts', turns, hinsert, hturns, hback⟩
          have hown : ∀ call, own = some call → IsCall call := fun call heq =>
            hcalls call (List.mem_append_right _ (heq ▸ List.mem_cons_self))
          rcases restore_insertOwn own hkind hfits hown hback with ⟨turn, hturn, hrestore⟩
          have hinsertOwn : insertCalls (.node kind ts) ((inner ++ [own]) ++ rest) =
              (own.elim (.node kind ts') fun call => insertCall call kind ts', rest) := by
            rw [insertCalls, List.append_assoc, List.singleton_append, hinsert]
            simp only [if_pos ((isFunction_iff kind).1 hkind)]
            cases own with
            | none => rfl
            | some call => rfl
          refine ⟨_, turns ++ [turn], hinsertOwn, List.rel_append hturns (.cons hturn .nil),
            fun left => ?_⟩
          rw [List.reduceOption_append, List.reduceOption_singleton]
          exact hrestore left
      · rw [functionCount, if_neg hkind] at hlength
        rcases restoreAll_insertCallsAll ts used rest hfits.2 hlength hcalls with
          ⟨ts', turns, hinsert, hturns, hback⟩
        rw [insertCalls, hinsert]
        simp only [if_neg (fun h => hkind ((isFunction_iff kind).2 h))]
        exact ⟨.node kind ts', turns, rfl, hturns, fun left =>
          (restore_node_eq_some (Bool.eq_false_iff.2 hkind)).2 ⟨ts, hback left, rfl⟩⟩

theorem restoreAll_insertCallsAll : ∀ (ts : List Tree) (used rest : List (Option Tree)),
    Tree.EverywhereAll Fits ts → used.length = functionCountAll ts →
      (∀ call, some call ∈ used → IsCall call) →
        ∃ ts' turns, insertCallsAll ts (used ++ rest) = (ts', rest) ∧
          List.Forall₂ Answers used turns ∧
            ∀ left, restoreAll ts' (turns ++ left) = some (ts, used.reduceOption, left)
  | [], used, rest, _, hlength, _ => by
      rw [List.length_eq_zero_iff.1 hlength]
      exact ⟨[], [], rfl, .nil, fun left => rfl⟩
  | t :: ts, used, rest, hfits, hlength, hcalls => by
      -- The first calls are for the first tree.
      rw [functionCountAll] at hlength
      rw [← List.take_append_drop (functionCount t) used] at hcalls ⊢
      have hfirst : (used.take (functionCount t)).length = functionCount t := by
        rw [List.length_take]
        omega
      have hrest : (used.drop (functionCount t)).length = functionCountAll ts := by
        rw [List.length_drop]
        omega
      rcases restore_insertCalls t _ (used.drop (functionCount t) ++ rest) hfits.1 hfirst
        (fun call hin => hcalls call (List.mem_append_left _ hin)) with
        ⟨t', turns, hinsert, hturns, hback⟩
      rcases restoreAll_insertCallsAll ts _ rest hfits.2 hrest
        (fun call hin => hcalls call (List.mem_append_right _ hin)) with
        ⟨ts', turns', hinsert', hturns', hback'⟩
      refine ⟨t' :: ts', turns ++ turns', ?_, List.rel_append hturns hturns', fun left => ?_⟩
      · rw [insertCallsAll, List.append_assoc, hinsert]
        simp only [hinsert']
      · rw [List.append_assoc, List.reduceOption_append]
        exact restoreAll_cons_eq_some.2
          ⟨t, ts, _, _, turns' ++ left, hback _, hback' left, rfl, rfl⟩

end

mutual

/-- A tree without calls stays as it is. -/
theorem insertCalls_of_none : ∀ (t : Tree) (calls : List (Option Tree)),
    (∀ call ∈ calls, call = none) → (insertCalls t calls).1 = t ∧ (insertCalls t calls).2 ⊆ calls
  | .leaf _, calls, _ => ⟨rfl, List.Subset.refl calls⟩
  | .node kind ts, calls, h => by
      rcases insertCallsAll_of_none ts calls h with ⟨hsame, hsub⟩
      rw [insertCalls]
      -- A function takes one entry from the list, and it is none.
      by_cases hfunction : kind = .functionDef ∨ kind = .lambda
      · simp only [if_pos hfunction]
        cases hleft : (insertCallsAll ts calls).2 with
        | nil => exact ⟨congrArg _ hsame, List.nil_subset calls⟩
        | cons call left =>
            rw [hleft] at hsub
            cases call with
            | none => exact ⟨congrArg _ hsame, fun call hin => hsub (List.mem_cons_of_mem _ hin)⟩
            | some call => exact absurd (h _ (hsub List.mem_cons_self)) (Option.some_ne_none call)
      · simp only [if_neg hfunction]
        exact ⟨congrArg _ hsame, hsub⟩

theorem insertCallsAll_of_none : ∀ (ts : List Tree) (calls : List (Option Tree)),
    (∀ call ∈ calls, call = none) →
      (insertCallsAll ts calls).1 = ts ∧ (insertCallsAll ts calls).2 ⊆ calls
  | [], calls, _ => ⟨rfl, List.Subset.refl calls⟩
  | t :: ts, calls, h => by
      rcases insertCalls_of_none t calls h with ⟨hsame, hsub⟩
      rcases insertCallsAll_of_none ts (insertCalls t calls).2
        (fun call hin => h call (hsub hin)) with ⟨hsame', hsub'⟩
      exact ⟨congrArg₂ List.cons hsame hsame', List.Subset.trans hsub' hsub⟩

end

/-! ### The files of a run -/

/-- Lists that correspond to a third one correspond to each other. -/
theorem forall₂_trans {α β γ : Type} {R : α → β → Prop} {S : β → γ → Prop} {T : α → γ → Prop}
    (h : ∀ a b c, R a b → S b c → T a c) {l : List α} {m : List β} {n : List γ}
    (hlm : List.Forall₂ R l m) (hmn : List.Forall₂ S m n) : List.Forall₂ T l n := by
  induction hlm generalizing n with
  | nil =>
      cases hmn
      exact .nil
  | cons hab _ ih =>
      cases hmn with
      | cons hbc hrest => exact .cons (h _ _ _ hab hbc) (ih hrest)

namespace Engine

/-- What is known of a file that a run went through, given the files before it, its
    tree, its new code, its sites, its calls and the turns on the way back. -/
structure Undone (config : Config) (earlier : List SourceUnit) (u : SourceUnit) (m : Module)
    (code : String) (sites : List Site) (calls : List (Option Tree)) (turns : List Turn) :
    Prop where
  /-- The code is that of the tree with calls, and with the import if it is to have it. -/
  written : code = (withCalls config m calls).render
  /-- Without the calls, the tree is as it was read, and no turn is left. -/
  restored : restore (insertCalls m.tree calls).1 turns = some (m.tree, calls.reduceOption, [])
  /-- The calls that are taken out are those of the sites. -/
  served : List.Forall₂ (fun s call => Hook.hookCall? config s.identifier s.place.line = some call)
    sites calls.reduceOption
  /-- There is a turn for each function, and calls are taken out of the chosen ones. -/
  chosen : List.Forall₂ (fun w turn =>
      Turn.isTake turn = true ↔ IsOpen config earlier u.name ∧ Chosen config u.name m.tree w)
    m.tree.functionWays turns
  /-- Lines are joined by semicolons: blanks and the sign. -/
  joined : ∀ joint, Turn.take joint ∈ turns → IsJoint joint
  /-- A file without sites is written as it was read. -/
  untouched : sites = [] → (insertCalls m.tree calls).1 = m.tree ∧ code = m.render

/-- What is written for a site is a call. -/
theorem isCall_of_hookCall? {config : Config} {identifier : String} {line : Int} {call : Tree}
    (h : Hook.hookCall? config identifier line = some call) : IsCall call :=
  ⟨[.token config.hookPath, .token "(", .token ("\"" ++ identifier ++ "\""), .token ",", .blank " ",
    .token (toString line), .token ")"], (hookCall?_eq_some config identifier line call h).1⟩

section Chosen

variable {config : Config} {d : Done} {earlier : List SourceUnit}

/-- Of the functions of a tree, the chosen ones get calls if the file is open. -/
theorem Planned.calls_chosen
    (h : Planned config d.name (earlier.any fun e => definesHook config e.name) d.nodes d.sites
      d.calls) :
    List.Forall₂ (fun w call => Option.isSome call = true ↔
      IsOpen config earlier d.name ∧ Chosen config d.name d.source.tree w)
      d.source.tree.functionWays d.calls :=
  forall₂_trans (fun w v call hv hcall => by rw [← hcall, selects_iff_chosen hv, isOpen_iff])
    (Tree.functions_stand d.source.layout { origin := d.name } d.source.tree) h.calls_selected

/-- Turns that answer the calls of the functions of a tree take calls out of the chosen
    ones. -/
theorem Planned.chosen {turns : List Turn}
    (h : Planned config d.name (earlier.any fun e => definesHook config e.name) d.nodes d.sites
      d.calls) (hturns : List.Forall₂ Answers d.calls turns) :
    List.Forall₂ (fun w turn => Turn.isTake turn = true ↔
      IsOpen config earlier d.name ∧ Chosen config d.name d.source.tree w)
      d.source.tree.functionWays turns :=
  forall₂_trans (fun w call turn hcall hturn => by rw [hturn.isTake, hcall]) h.calls_chosen hturns

/-- The calls that are made are calls of the hook. -/
theorem Planned.calls_made {seen : Bool}
    (h : Planned config d.name seen d.nodes d.sites d.calls) : ∀ call, some call ∈ d.calls →
      ∃ identifier line, Hook.hookCall? config identifier line = some call := by
  intro call hcall
  rcases List.getElem?_of_mem (List.reduceOption_mem_iff.2 hcall) with ⟨i, hi⟩
  rcases forall₂_getElem? h.calls_serve.flip i call hi with ⟨s, -, hs⟩
  exact ⟨s.identifier, s.place.line, hs⟩

end Chosen

/-- What was planned for a tree that was read can be undone. -/
theorem Planned.undone {config : Config} {d : Done} {u : SourceUnit} {earlier : List SourceUnit}
    (h : Planned config d.name (earlier.any fun e => definesHook config e.name) d.nodes d.sites
      d.calls) (hname : u.name = d.name) (hparse : Module.parse? u.code = some d.source) :
    ∃ turns, Undone config earlier u d.source (d.result config).code d.sites d.calls turns := by
  have hserve := h.calls_serve
  have hlength : d.calls.length = functionCount d.source.tree := by
    rw [← h.calls_selected.length_eq]
    exact length_walk_functions d.source.layout "" { origin := d.name } {} d.source.tree
  have hcalls : ∀ call, some call ∈ d.calls → IsCall call := by
    intro call hcall
    rcases h.calls_made call hcall with ⟨identifier, line, hmade⟩
    exact isCall_of_hookCall? hmade
  rcases restore_insertCalls d.source.tree d.calls [] (parse?_fits hparse).1 hlength hcalls with
    ⟨t', turns, hinsert, hanswers, hback⟩
  rw [List.append_nil] at hinsert
  refine ⟨turns, ⟨rfl, ?_, hserve, ?_, ?_, ?_⟩⟩
  · have hrestored := hback []
    rw [List.append_nil] at hrestored
    rw [hinsert]
    exact hrestored
  · rw [hname]
    exact h.chosen hanswers
  · intro joint hturn
    rcases List.getElem?_of_mem hturn with ⟨i, hi⟩
    rcases forall₂_getElem? hanswers.flip i _ hi with ⟨call, -, hanswer⟩
    cases hanswer with
    | take call hjoint => exact hjoint
  · -- Without sites there are no calls, and nothing is put in.
    intro hnone
    rw [hnone, List.forall₂_nil_left_iff, List.reduceOption_eq_nil_iff] at hserve
    rcases hserve with ⟨n, hnone⟩
    have hsame := (insertCalls_of_none d.source.tree d.calls fun call hcall => by
      rw [hnone] at hcall
      exact List.eq_of_mem_replicate hcall).1
    have hany : d.calls.any (·.isSome) = false := by
      rw [hnone, List.any_eq_false]
      intro call hcall
      rw [List.eq_of_mem_replicate hcall]
      exact Bool.false_ne_true
    refine ⟨hsame, ?_⟩
    rw [Done.result, withCalls, hany, Bool.and_false, if_neg Bool.false_ne_true, hsame]

/-- Every file that a run gives can be undone, the sites of the run being those of its
    files one after the other. -/
def OnlyInserts (config : Config) (units : List SourceUnit) (o : Outcome) : Prop :=
  ∃ blocks : List (List Site), o.sites = blocks.flatten ∧ blocks.length = units.length ∧
    ∀ i u, units[i]? = some u → ∃ m result block calls turns,
      Module.parse? u.code = some m ∧ o.units[i]? = some result ∧ blocks[i]? = some block ∧
        result.siteCount = block.length ∧
        Undone config (units.take i) u m result.code block calls turns

/-- Whatever the settings and the files, all that a run that ends well does to the tree of
    a file is to put calls into its chosen functions: taking the calls out again gives the
    tree that was read, up to the blanks around the semicolons of lines that were split. -/
theorem run_only_inserts (config : Config) (counter : Int) (units : List SourceUnit)
    (o : Outcome) (h : (run config counter units).outcome = .ok o) (hsuccess : o.success = true) :
    OnlyInserts config units o := by
  rcases run_ok h hsuccess with ⟨done, seen, hended⟩
  rcases hended.handled.planned hended.root with ⟨-, hplanned⟩
  refine ⟨done.map (·.sites), ?_, ?_, ?_⟩
  · rw [hended.sites, List.flatMap_def]
  · rw [List.length_map, hended.parsed.length_eq]
  · intro i u hu
    rcases forall₂_getElem? hended.parsed i u hu with ⟨d, hd, hname, hparse⟩
    have hd' := hplanned i d hd
    rw [Bool.false_or, hended.any_definesHook] at hd'
    rcases hd'.undone hname hparse with ⟨turns, hundone⟩
    refine ⟨d.source, d.result config, d.sites, d.calls, turns, hparse, ?_, ?_, rfl, hundone⟩
    · rw [hended.units, List.getElem?_map, hd, Option.map_some]
    · rw [List.getElem?_map, hd, Option.map_some]

/-- In the sample, a call is taken out of a docstring's line that was split, and one out of
    a lambda on the rest of that line. -/
theorem run_only_inserts_sample : ∃ o, (run sampleConfig 0 sample).outcome = .ok o ∧
    o.success = true ∧ OnlyInserts sampleConfig sample o := by
  rcases sample_ends with ⟨o, houtcome, hsuccess⟩
  exact ⟨o, houtcome, hsuccess, run_only_inserts sampleConfig 0 sample o houtcome hsuccess⟩

end Engine

end EntryCoverage

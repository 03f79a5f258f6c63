import EntryCoverage.Proofs.Definitions
import EntryCoverage.Proofs.Selection

/-!
# Qualified Names

The names that defined functions are recorded under.

A definition opens a scope: a class its name, a function its name with `<locals>` after it.
The scopes around a node are those of the definitions on the way to it (`Tree.enclosing`), the
outermost first, whatever else is on the way and whether or not any of them gets a call. A
defined function is recorded under these scopes and its own name, with dots between them.

In a visit the scopes come from the nodes above. The same scopes are on a stack that sees no
more than nodes being entered and left, one after the other: a definition that is entered puts
its scope there, and takes it off when it is left, before anything is asked about it
(`ScopeStack.pass_eq`). So the stack is balanced over any tree, and empty after each file.

## Main definitions

* `Opens`: A definition opens a scope.
* `Tree.enclosing`, `Tree.scopesAt`: The definitions on a way, and their scopes.
* `ScopeStack`: The scopes of the definitions that were entered and not left.
* `SitesMeet`: The sites of a run are those of the nodes that get calls, and as is asked of them.
* `Qualifies`: The defined functions of a run have their qualified names.

## Theorems

* `forall₂_opens`: The scopes around a node are those of the definitions around it.
* `ScopeStack.pass_eq`: What a stack has when the nodes of a tree are left.
* `run_qualifies`: The sites of a run that are those of defined functions.
-/

namespace EntryCoverage

open Source

/-! ### Dots -/

namespace Naming

theorem scopePrefix_cons (scope : String) (scopes : List String) :
    scopePrefix (scope :: scopes) = scope ++ "." ++ scopePrefix scopes := rfl

/-- Scopes and a name behind them have dots between them. -/
theorem scopePrefix_append (scopes : List String) (x : String) :
    scopePrefix scopes ++ x = Text.joined "." (scopes ++ [x]) := by
  induction scopes with
  | nil => exact String.empty_append
  | cons scope scopes ih =>
      rw [scopePrefix_cons, String.append_assoc, ih]
      cases scopes <;> rfl

end Naming

namespace Source

/-! ### Scopes on a way -/

/-- A definition opens a scope. -/
inductive Opens : Tree → String → Prop
  | ofFunction {x : String} {ts : List Tree} (h : Defines "def" x ts) :
      Opens (.node .functionDef ts) (x ++ ".<locals>")
  | ofClass {x : String} {ts : List Tree} (h : Defines "class" x ts) : Opens (.node .classDef ts) x

namespace Tree

/-- Whether a tree is a definition. -/
def isDefinition : Tree → Bool
  | .node .functionDef _ | .node .classDef _ => true
  | _ => false

/-- The scope that a tree opens. -/
def scope? : Tree → Option String
  | .leaf _ => none
  | .node kind ts => Naming.scopeOf? kind ts

/-- The nodes on a way, the outermost first, each with the number of the child that the way
    goes on to. -/
def steps (t : Tree) : Way → List (Tree × Nat)
  | [] => []
  | i :: w =>
      match t.children[i]? with
      | none => []
      | some child => (t, i) :: child.steps w

/-- The definitions on a way. -/
def enclosing (t : Tree) (w : Way) : List (Tree × Nat) := (t.steps w).filter (·.1.isDefinition)

/-- The scopes of the definitions on a way. -/
def scopesAt (t : Tree) (w : Way) : List String := (t.enclosing w).filterMap (·.1.scope?)

/-- The nodes on a way stand where its beginnings lead, and have the children that it goes on to. -/
theorem getElem?_steps {t s : Tree} {w : Way} (n i : Nat) : (t.steps w)[n]? = some (s, i) ↔
    t.at? (w.take n) = some s ∧ w[n]? = some i ∧ (s.children[i]?).isSome = true := by
  induction w generalizing t n with
  | nil => simp only [steps, List.getElem?_nil, reduceCtorEq, false_and, and_false]
  | cons j w ih =>
      cases n with
      | zero =>
          simp only [List.take_zero, at?, List.getElem?_cons_zero, Option.some.injEq, steps]
          constructor
          · intro h
            split at h
            · cases h
            · rename_i child hchild
              cases h
              exact ⟨rfl, rfl, by rw [hchild, Option.isSome_some]⟩
          · rintro ⟨rfl, rfl, hsome⟩
            rcases Option.isSome_iff_exists.1 hsome with ⟨child, hchild⟩
            rw [hchild, List.getElem?_cons_zero]
      | succ n =>
          rw [List.take_succ_cons, at?, List.getElem?_cons_succ, steps]
          cases hchild : t.children[j]? with
          | none => simp only [List.getElem?_nil, Option.bind_none, reduceCtorEq, false_and]
          | some child => rw [List.getElem?_cons_succ, ih, Option.bind_some]

/-- Of a way into a child, the scopes are those of the child behind that of the parent. -/
theorem scopesAt_cons {kind : Kind} {ts : List Tree} {i : Nat} {t : Tree} (ht : ts[i]? = some t)
    (w : Way) : (Tree.node kind ts).scopesAt (i :: w) =
      (Naming.scopeOf? kind ts).toList ++ t.scopesAt w := by
  rw [scopesAt, enclosing, steps, children, ht]
  -- Definitions are kept on the way and have scopes; all other kinds are dropped and have none.
  cases kind
  case functionDef | classDef => rfl
  all_goals rfl

/-- Scopes are handed down along the way. -/
theorem scopes_contextAt (c : Context) (t : Tree) (w : Way) :
    (t.contextAt c w).scopes = c.scopes ++ t.scopesAt w := by
  induction w generalizing c t with
  | nil => exact (List.append_nil _).symm
  | cons i w ih =>
      cases t with
      | leaf l => exact (List.append_nil _).symm
      | node kind ts =>
          cases hchild : ts[i]? with
          | none =>
              rw [contextAt, hchild, scopesAt, enclosing, steps, children, hchild]
              exact (List.append_nil _).symm
          | some child =>
              have hscopes : (c.forChild kind ts i).scopes =
                  c.scopes ++ (Naming.scopeOf? kind ts).toList := by
                unfold Context.forChild
                split <;> rfl
              rw [contextAt_cons hchild, ih, hscopes, scopesAt_cons hchild, List.append_assoc]

/-- Around the tree of a file there are no scopes. -/
theorem Visited.scopes_eq {file : String} {t : Tree} {w : Way} {v : Visit}
    (h : Visited { origin := file } t w v) : v.scopes = t.scopesAt w := by
  rw [h.scopes, scopes_contextAt, List.nil_append]

end Tree

theorem Opens.scope?_eq {t : Tree} {scope : String} (h : Opens t scope) :
    t.scope? = some scope := by
  cases h with
  | ofFunction h => rw [Tree.scope?, Naming.scopeOf?, h.definedName_eq]
  | ofClass h => rw [Tree.scope?, Naming.scopeOf?, h.definedName_eq]

/-- In a file, each definition opens a scope. -/
theorem exists_opens {t : Tree} (ht : t.Everywhere Named) (hdefinition : t.isDefinition = true) :
    ∃ scope, Opens t scope := by
  unfold Tree.isDefinition at hdefinition
  split at hdefinition
  · rcases ht.1 with ⟨x, hx⟩
    exact ⟨_, .ofFunction hx⟩
  · rcases ht.1 with ⟨x, hx⟩
    exact ⟨x, .ofClass hx⟩
  · exact absurd hdefinition Bool.false_ne_true

/-- Of definitions in a row, those that open a scope are all of them. -/
theorem forall₂_opens_filterMap {steps : List (Tree × Nat)}
    (h : ∀ step ∈ steps, ∃ scope, Opens step.1 scope) :
    List.Forall₂ (fun step scope => Opens step.1 scope) steps (steps.filterMap (·.1.scope?)) := by
  induction steps with
  | nil => exact .nil
  | cons step steps ih =>
      rw [List.forall_mem_cons] at h
      rcases h.1 with ⟨scope, hscope⟩
      rw [List.filterMap_cons_some (f := fun step : Tree × Nat => step.1.scope?) hscope.scope?_eq]
      exact .cons hscope (ih h.2)

/-- In a file, each definition on a way opens a scope. -/
theorem exists_opens_of_mem_enclosing {t : Tree} (ht : t.Everywhere Named) {w : Way}
    {step : Tree × Nat} (hstep : step ∈ t.enclosing w) : ∃ scope, Opens step.1 scope := by
  rcases List.mem_filter.1 hstep with ⟨hmem, hdefinition⟩
  rcases List.getElem?_of_mem hmem with ⟨n, hn⟩
  have hat := ((Tree.getElem?_steps n step.2).1 hn).1
  exact exists_opens (everywhere_of_at? ht hat) hdefinition

/-- The scopes on a way are those of the definitions on it, one for each. -/
theorem forall₂_opens {t : Tree} (ht : t.Everywhere Named) (w : Way) :
    List.Forall₂ (fun step scope => Opens step.1 scope) (t.enclosing w) (t.scopesAt w) :=
  forall₂_opens_filterMap fun _ hstep => exists_opens_of_mem_enclosing ht hstep

end Source

/-! ### A stack of scopes -/

/-- The scopes of the definitions that were entered and not left, the outermost first, and the
    scopes around each node when it was left. -/
structure ScopeStack where
  scopes : List String := []
  around : List (List String) := []

namespace ScopeStack

/-- A definition that is entered puts its scope on the stack. -/
def enter (s : ScopeStack) (kind : Kind) (ts : List Tree) : ScopeStack :=
  { s with scopes := s.scopes ++ (Naming.scopeOf? kind ts).toList }

/-- A definition that is left takes it off, and is then in the scopes that are left. -/
def leave (s : ScopeStack) (kind : Kind) (ts : List Tree) : ScopeStack :=
  let scopes := if Tree.isDefinition (.node kind ts) then s.scopes.dropLast else s.scopes
  { scopes, around := s.around ++ [scopes] }

mutual

/-- The nodes of a tree are entered and left. -/
def pass (s : ScopeStack) : Tree → ScopeStack
  | .leaf _ => s
  | .node kind ts => ((s.enter kind ts).passAll ts).leave kind ts

/-- The same for trees in a row. -/
def passAll (s : ScopeStack) : List Tree → ScopeStack
  | [] => s
  | t :: ts => (s.pass t).passAll ts

end

/-- What is put on the stack for a node is taken off again. -/
theorem leave_enter (scopes : List String) (around : List (List String)) (kind : Kind)
    (ts : List Tree) :
    leave ⟨scopes ++ (Naming.scopeOf? kind ts).toList, around⟩ kind ts =
      ⟨scopes, around ++ [scopes]⟩ := by
  unfold leave
  cases kind
  case functionDef | classDef =>
    have hdrop : ∀ scope : String, (scopes ++ [scope]).dropLast = scopes := fun scope =>
      List.dropLast_concat
    simp only [Naming.scopeOf?, Option.toList_some, Tree.isDefinition, if_true, hdrop]
  -- The other kinds neither put a scope there nor take one off.
  all_goals
    simp only [Naming.scopeOf?, Option.toList_none, List.append_nil]
    rfl

mutual

/-- A tree leaves the stack as it was, and each of its nodes was left in the scopes of its
    visit. -/
theorem pass_eq (layout : Layout) : ∀ (margin : String) (c : Context) (p : Position)
    (around : List (List String)) (t : Tree), pass ⟨c.scopes, around⟩ t =
      ⟨c.scopes, around ++ (walk layout margin c p t).visits.map (·.scopes)⟩
  | _, _, _, _, .leaf _ => by
      rw [pass, walk, List.map_nil, List.append_nil]
  | margin, c, p, around, .node kind ts => by
      -- The children find the scope of this node on the stack, and leave it there.
      have hrow := passAll_eq layout (kind.marginWithin layout margin) (c.within kind ts)
        (c.lastBinding kind ts) p around ts
      rw [pass, enter]
      change (passAll ⟨(c.within kind ts).scopes, around⟩ ts).leave kind ts = _
      rw [hrow, walk, List.map_append, ← List.append_assoc]
      exact leave_enter c.scopes _ kind ts

/-- The same for trees in a row. -/
theorem passAll_eq (layout : Layout) : ∀ (margin : String) (c : Context) (last : Naming.Binding)
    (p : Position) (around : List (List String)) (ts : List Tree), passAll ⟨c.scopes, around⟩ ts =
      ⟨c.scopes, around ++ (walkAll layout margin c last p ts).visits.map (·.scopes)⟩
  | _, _, _, _, _, [] => by
      rw [passAll, walkAll, List.map_nil, List.append_nil]
  | margin, c, last, p, around, t :: ts => by
      -- What the last tree is bound to does not matter to the scopes.
      have hfirst := pass_eq layout margin (if ts.isEmpty then { c with binding := last } else c) p
        around t
      have hscopes : (if ts.isEmpty then { c with binding := last } else c).scopes = c.scopes := by
        split <;> rfl
      rw [hscopes] at hfirst
      rw [passAll, hfirst, passAll_eq layout margin c last _ _ ts, walkAll, List.map_append,
        List.append_assoc]

end

end ScopeStack

namespace Engine

/-! ### Runs -/

/-- A site is that of a node at the end of a way, which is visited with all that it takes from
    the nodes around it. -/
theorem SiteAt.exists_visited {config : Config} {file : String} {m : Module} {w : Way} {s : Site}
    (h : SiteAt config file m w s) : ∃ v, m.tree.Visited { origin := file } w v ∧
      s.place.file = file ∧ v.name config.anonymousName = .ok s.place.function := by
  rcases h with ⟨v, call, hzip, -, hserves⟩
  exact ⟨v, List.forall₂_zip (Tree.visits_visited m.layout { origin := file } m.tree) hzip,
    hserves.file, hserves.name⟩

/-- The sites of a run are those of the chosen nodes of its open files, file by file, each once
    and children before their parents, and each of them is as is asked of it. -/
def SitesMeet (config : Config) (units : List SourceUnit) (o : Outcome)
    (ok : Module → Way → Site → Prop) : Prop :=
  ∃ blocks : List (List Site), o.sites = blocks.flatten ∧ blocks.length = units.length ∧
    ∀ i u, units[i]? = some u → ∃ m block, Module.parse? u.code = some m ∧
      blocks[i]? = some block ∧
        (IsOpen config (units.take i) u.name → ∃ ways : List Way, ways.Nodup ∧
          ways.Pairwise Way.Before ∧ (∀ w, w ∈ ways ↔ Chosen config u.name m.tree w) ∧
            List.Forall₂ (fun w s => s.place.file = u.name ∧ ok m w s) ways block) ∧
        (¬ IsOpen config (units.take i) u.name → block = [])

/-- What holds of the sites of all nodes holds of the sites of a run. -/
theorem Ended.sitesMeet {config : Config} {counter : Int} {units : List SourceUnit}
    {logs : List LogLine} {o : Outcome} {done : List Done} {seen : Bool}
    (h : Ended config counter units logs o done seen) {ok : Module → Way → Site → Prop}
    (hok : ∀ text m, Module.parse? text = some m → ∀ file w s, SiteAt config file m w s →
      ok m w s) : SitesMeet config units o ok := by
  refine ⟨done.map (·.sites), ?_, ?_, fun i u hu => ?_⟩
  · rw [h.sites, List.flatMap_def]
  · rw [List.length_map, h.parsed.length_eq]
  · rcases h.covered hu with ⟨d, hd, hparse, hopen, hclosed⟩
    refine ⟨d.source, d.sites, hparse, by rw [List.getElem?_map, hd, Option.map_some],
      fun hisOpen => ?_, hclosed⟩
    rcases hopen hisOpen with ⟨ways, hnodup, hbefore, hchosen, hsites⟩
    -- Which nodes get calls is known; what is asked of their sites is added.
    refine ⟨ways, hnodup, hbefore, hchosen, hsites.imp fun w s hs => ⟨?_, ?_⟩⟩
    · rcases hs.exists_visited with ⟨v, -, hfile, -⟩
      exact hfile
    · exact hok u.code d.source hparse u.name w s hs

/-- A name is the qualified one of the function that is defined at the end of a way: the scopes
    of the definitions around it, the outermost first, and the name behind its word. -/
def QualifiedAt (t : Tree) (w : Way) (name : String) : Prop :=
  ∀ ts, t.at? w = some (.node .functionDef ts) → ∃ scopes x,
    List.Forall₂ (fun step scope => Opens step.1 scope) (t.enclosing w) scopes ∧
      Defines "def" x ts ∧ name = Text.joined "." (scopes ++ [x])

/-- The defined functions of a run have their qualified names, and the stack of scopes is empty
    after each file, having been in between what the visits say. -/
structure Qualifies (config : Config) (units : List SourceUnit) (o : Outcome) : Prop where
  names : SitesMeet config units o fun m w s => QualifiedAt m.tree w s.place.function
  stack : ∀ u ∈ units, ∃ m, Module.parse? u.code = some m ∧ ScopeStack.pass {} m.tree =
    ⟨[], (visits m.layout { origin := u.name } m.tree).map (·.scopes)⟩

/-- A defined function that is served is recorded under its qualified name. -/
theorem SiteAt.qualifiedAt {config : Config} {file : String} {m : Module} {w : Way} {s : Site}
    (h : SiteAt config file m w s) (hnamed : m.tree.Everywhere Named) :
    QualifiedAt m.tree w s.place.function := by
  rcases h.exists_visited with ⟨v, hvisited, -, hname⟩
  intro ts hat
  have hnode := hvisited.node
  rw [hat, Option.some.injEq, Tree.node.injEq] at hnode
  rcases hnode with ⟨hkind, rfl⟩
  -- In a file, the definition has its name behind its word, and so does each one around it.
  rcases (everywhere_of_at? hnamed hat).1 with ⟨x, hx⟩
  refine ⟨m.tree.scopesAt w, x, forall₂_opens hnamed w, hx, ?_⟩
  rw [Visit.name, ← hkind, Naming.functionName, hvisited.scopes_eq, hx.definedName_eq,
    Naming.scopePrefix_append] at hname
  exact (Except.ok.inj hname).symm

/-- Whatever the settings and the files, a run that ends well records each defined function that
    gets a call under the names of the definitions around it and its own. -/
theorem run_qualifies (config : Config) (counter : Int) (units : List SourceUnit) (o : Outcome)
    (h : (run config counter units).outcome = .ok o) (hsuccess : o.success = true) :
    Qualifies config units o := by
  rcases run_ok h hsuccess with ⟨done, seen, hended⟩
  refine ⟨hended.sitesMeet fun text m hparse file w s hs => hs.qualifiedAt (parse?_named hparse),
    fun u hu => ?_⟩
  rcases List.getElem?_of_mem hu with ⟨i, hi⟩
  rcases hended.covered hi with ⟨d, -, hparse, -, -⟩
  refine ⟨d.source, hparse, ?_⟩
  -- A file begins with no scopes around it, and with nothing on the stack.
  exact ScopeStack.pass_eq d.source.layout "" { origin := u.name } {} [] d.source.tree

/-- A function in a method, which is decorated and asynchronous, in a class. -/
def nestedSample : List SourceUnit :=
  [⟨"instrument_code.py", ""⟩,
    ⟨"a.py", "class A:\n  @d\n  async def f(s):\n    def g(): 0\n"⟩]

/-- The functions in the sample are recorded with the definitions around them. -/
theorem run_qualifies_nested : ∃ o, (run sampleConfig 0 nestedSample).outcome = .ok o ∧
    o.success = true ∧ o.sites.map (·.place.function) = ["A.f.<locals>.g", "A.f"] ∧
      Qualifies sampleConfig nestedSample o := by
  have hends : (run sampleConfig 0 nestedSample).outcome.toOption.map (fun o =>
      (o.success, o.sites.map (·.place.function))) = some (true, ["A.f.<locals>.g", "A.f"]) := by
    decide +kernel
  rcases exists_outcome hends with ⟨o, houtcome, hseen⟩
  rcases Prod.mk.inj hseen with ⟨hsuccess, hnames⟩
  exact ⟨o, houtcome, hsuccess, hnames,
    run_qualifies sampleConfig 0 nestedSample o houtcome hsuccess⟩

end Engine

end EntryCoverage

import EntryCoverage.Proofs.Bindings

/-!
# Scopes That Lambdas Are Evaluated In

The scopes in the names of lambdas, and those that they should have.

A definition is evaluated where it stands, with its decorators, the defaults and annotations of
its parameters and its bases. Only its body, which is its last part, is evaluated in its scope.
A lambda gets the scopes of all definitions around it, whatever part of them it is in, so it
has the right ones exactly if it is in no head (`name_eq_bodies_iff`). Otherwise it has
those of the definitions that it is an argument to.

This is about lambdas that are bound to a single name or to a key. Other names do not have
scopes.

## Main definitions

* `entersBody`: A way goes into the body of a definition.
* `Tree.bodyScopesAt`: The scopes in which what is at the end of a way is evaluated.
* `BoundName`: A lambda is bound to a single name.
* `ScopedAt`: The scopes in the name of a lambda.

## Theorems

* `name_eq_bodies_iff`: When the scopes around are those that something is evaluated in.
* `run_scopes_lambdas`: The names of the lambdas of a run.
-/

namespace EntryCoverage

open Source Naming

namespace Source

/-- A step of a way goes into the last part of a node, which is the body of a definition. -/
def entersBody (step : Tree × Nat) : Bool := step.2 + 1 == step.1.children.length

namespace Tree

/-- The scopes of the definitions on a way that go into the body. -/
def bodyScopesAt (t : Tree) (w : Way) : List String :=
  ((t.enclosing w).filter entersBody).filterMap (·.1.scope?)

end Tree

/-- The scopes in which something is evaluated are those of the definitions that it is in the
    body of, one for each. -/
theorem forall₂_opens_bodies {t : Tree} (ht : t.Everywhere Named) (w : Way) :
    List.Forall₂ (fun step scope => Opens step.1 scope) ((t.enclosing w).filter entersBody)
      (t.bodyScopesAt w) :=
  forall₂_opens_filterMap fun _ hstep =>
    exists_opens_of_mem_enclosing ht (List.mem_of_mem_filter hstep)

/-- A name with the scopes of all definitions around is the one with those that it is evaluated
    in exactly if it is in the body of all of them. -/
theorem name_eq_bodies_iff {t : Tree} (ht : t.Everywhere Named) (w : Way) (x : String) :
    Text.joined "." (t.scopesAt w ++ [x]) = Text.joined "." (t.bodyScopesAt w ++ [x]) ↔
      ∀ step ∈ t.enclosing w, entersBody step = true := by
  have hsublist : (t.bodyScopesAt w).Sublist (t.scopesAt w) := List.filter_sublist.filterMap _
  rw [joined_eq_joined_iff hsublist]
  constructor
  · intro hscopes
    -- There are as many scopes as definitions, so none of the definitions was left out.
    have hlength := congrArg List.length hscopes
    rw [← (forall₂_opens_bodies ht w).length_eq, ← (forall₂_opens ht w).length_eq] at hlength
    exact List.length_filter_eq_length_iff.1 hlength
  · intro hall
    rw [Tree.bodyScopesAt, List.filter_eq_self.2 hall, Tree.scopesAt]

/-- A lambda is bound to a single name: that of a target, a keyword, or a key. -/
def BoundName (t : Tree) (w : Way) (x : String) : Prop :=
  (∃ target, BoundTo t w target ∧ Dotted target [x]) ∨
    ∃ key literal cs, BoundToKey t w key ∧ IsStringKey key literal ∧
      StringValue.ofLiteral literal.toList = .text cs ∧ cs ≠ [] ∧ x = String.ofList cs

/-- The name of the lambda at the end of a way, if it is bound to a single name. Without dots,
    the name gets the scopes of all definitions around, and they are those that the lambda is
    evaluated in exactly if it is in no head. With dots, which only keys have, it gets none, and
    that is right exactly if the lambda is evaluated in none. -/
def ScopedAt (t : Tree) (w : Way) (name : String) : Prop :=
  ∀ ts x, t.at? w = some (.node .lambda ts) → BoundName t w x →
    ∃ scopes bodies,
      List.Forall₂ (fun step scope => Opens step.1 scope) (t.enclosing w) scopes ∧
      List.Forall₂ (fun step scope => Opens step.1 scope) ((t.enclosing w).filter entersBody)
        bodies ∧
      ('.' ∉ x.toList → name = Text.joined "." (scopes ++ [x]) ∧
        (name = Text.joined "." (bodies ++ [x]) ↔ ∀ step ∈ t.enclosing w, entersBody step = true)) ∧
      ('.' ∈ x.toList → name = x ∧ (name = Text.joined "." (bodies ++ [x]) ↔ bodies = []))

end Source

namespace Engine

/-- A lambda that is served is recorded under the scopes around it. -/
theorem SiteAt.scopedAt {config : Config} {file : String} {m : Module} {w : Way} {s : Site}
    (h : SiteAt config file m w s) {text : String} (hparse : Module.parse? text = some m) :
    ScopedAt m.tree w s.place.function := by
  rcases h.exists_visited with ⟨v, hvisited, -, hname⟩
  intro ts x hat hbound
  have hnamed := parse?_named hparse
  have hnode := hvisited.node
  rw [hat, Option.some.injEq, Tree.node.injEq] at hnode
  have hfollows := hvisited.followsBinding hparse rfl hnode.1.symm
  rw [Visit.name, hvisited.scopes_eq] at hname
  have hrecorded : '.' ∉ x.toList ∧
      s.place.function = Text.joined "." (m.tree.scopesAt w ++ [x]) ∨
        '.' ∈ x.toList ∧ s.place.function = x := by
    rcases hbound with
      ⟨target, htarget, hdotted⟩ | ⟨key, literal, cs, hkey, hliteral, hvalue, hne, rfl⟩
    · -- Words of a file have no dots.
      rw [hfollows.plain target x htarget hdotted] at hname
      rcases htarget with ⟨kind, us, hvalue, -, hfirst⟩
      have hdotless := hdotted.dotless (everywhere_of_isValueOf hnamed hvalue hfirst)
      exact .inl ⟨hdotless x (List.mem_singleton_self x), (Except.ok.inj hname).symm⟩
    · rcases hfollows.key key literal cs hkey hliteral hvalue hne (m.tree.scopesAt w)
        config.anonymousName with ⟨hscopes, hplain⟩
      rw [String.toList_ofList]
      by_cases hdot : '.' ∈ cs
      · exact .inr ⟨hdot, Except.ok.inj (hname.symm.trans (hplain hdot))⟩
      · exact .inl ⟨hdot, Except.ok.inj (hname.symm.trans (hscopes.2 (.inl hdot)))⟩
  refine ⟨_, _, forall₂_opens hnamed w, forall₂_opens_bodies hnamed w, fun hdot => ?_,
    fun hdot => ?_⟩
  · rcases hrecorded with ⟨-, hrecorded⟩ | ⟨hdot', -⟩
    · exact ⟨hrecorded, by rw [hrecorded, name_eq_bodies_iff hnamed]⟩
    · exact absurd hdot' hdot
  · rcases hrecorded with ⟨hdot', -⟩ | ⟨-, hrecorded⟩
    · exact absurd hdot hdot'
    · refine ⟨hrecorded, ?_⟩
      rw [hrecorded, eq_comm, joined_concat_eq_self_iff]

/-- Whatever the settings and the files, a run that ends well records each lambda that gets a
    call and is bound to a single name under the scopes of all definitions around it. -/
theorem run_scopes_lambdas (config : Config) (counter : Int) (units : List SourceUnit)
    (o : Outcome) (h : (run config counter units).outcome = .ok o) (hsuccess : o.success = true) :
    SitesMeet config units o fun m w s => ScopedAt m.tree w s.place.function := by
  rcases run_ok h hsuccess with ⟨done, seen, hended⟩
  exact hended.sitesMeet fun text m hparse file w s hs => hs.scopedAt hparse

/-- A function that is decorated with a call that a lambda is an argument of. -/
def decoratedSample : List SourceUnit :=
  [⟨"instrument_code.py", ""⟩, ⟨"a.py", "@d(key=lambda: 0)\ndef f(): 0\n"⟩]

/-- The lambda is recorded as if it was in the function. -/
theorem run_scopes_lambdas_decorator :
    ∃ o, (run sampleConfig 0 decoratedSample).outcome = .ok o ∧ o.success = true ∧
      o.sites.map (·.place.function) = ["f.<locals>.key", "f"] ∧
        SitesMeet sampleConfig decoratedSample o fun m w s =>
          ScopedAt m.tree w s.place.function := by
  have hends : (run sampleConfig 0 decoratedSample).outcome.toOption.map (fun o =>
      (o.success, o.sites.map (·.place.function))) = some (true, ["f.<locals>.key", "f"]) := by
    decide +kernel
  rcases exists_outcome hends with ⟨o, houtcome, hseen⟩
  rcases Prod.mk.inj hseen with ⟨hsuccess, hnames⟩
  exact ⟨o, houtcome, hsuccess, hnames,
    run_scopes_lambdas sampleConfig 0 decoratedSample o houtcome hsuccess⟩

end Engine

end EntryCoverage

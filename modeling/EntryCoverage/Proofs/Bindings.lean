import EntryCoverage.Proofs.Scopes

/-!
# Names of Lambdas

What a lambda is bound to, and the name that it gets for that.

The last part of a node is its value, and so is what stands there in parentheses (`IsValueOf`).
Assignments, assignment expressions and keyword arguments bind their values to their first part,
and entries theirs to their key. A lambda that is a value is named for that: for a chain of
attributes on a name by its words with dots between them (`Dotted`), for a key that is one
string by the text of the string. All other lambdas are anonymous.

Chains are taken as they are written, and single names get the scopes around before them. What
decides is whether the name has a dot. For targets this is the same, because no word of a file
has one (`Dotted.dotless`). The text of a key may have dots, too, and then the scopes around
are left out although nothing but a key was written.

## Main definitions

* `IsValueOf`: A way leads to the value of a node.
* `BoundTo`, `BoundToKey`: What the value at the end of a way is bound to.
* `Dotted`: An expression is a chain of attributes on a name.
* `FollowsBinding`: A lambda is named for what it is bound to.

## Theorems

* `fullName?_eq_some_iff`: The names that expressions in files have.
* `exists_isValueOf`: Only values are bound to something.
* `visits_follow_binding`: How the lambdas of a file are named.
-/

namespace EntryCoverage

open Source Naming

namespace Source

/-! ### Values -/

/-- The nodes that bind their value to their first part as a target. -/
def Kind.bindsTarget : Kind → Bool
  | .assignment | .annotatedAssignment | .walrus | .keywordArgument => true
  | _ => false

/-- A way leads to the value of a node: its last part, perhaps in parentheses. -/
inductive IsValueOf (t : Tree) (kind : Kind) (ts : List Tree) : Way → Prop
  | last {w : Way} {i : Nat} (hat : t.at? w = some (.node kind ts)) (hkind : kind ≠ .paren)
      (hi : i + 1 = ts.length) : IsValueOf t kind ts (w ++ [i])
  | inParens {w : Way} {us : List Tree} {i : Nat} (h : IsValueOf t kind ts w)
      (hat : t.at? w = some (.node .paren us)) (hi : i < us.length) : IsValueOf t kind ts (w ++ [i])

/-- What is at the end of a way is bound to a target. -/
def BoundTo (t : Tree) (w : Way) (target : Tree) : Prop :=
  ∃ kind ts, IsValueOf t kind ts w ∧ kind.bindsTarget = true ∧
    (Grammar.nodes ts).head? = some target

/-- What is at the end of a way is bound to the key of an entry. -/
def BoundToKey (t : Tree) (w : Way) (key : Tree) : Prop :=
  ∃ ts, IsValueOf t .dictElement ts w ∧ (Grammar.nodes ts).head? = some key

/-- What is at the end of a way with one more step. -/
theorem at?_concat (t : Tree) (w : Way) (i : Nat) :
    t.at? (w ++ [i]) = (t.at? w).bind fun s => s.children[i]? := by
  induction w generalizing t with
  | nil =>
      rw [List.nil_append, Tree.at?, Tree.at?, Option.bind_some]
      cases t.children[i]? <;> rfl
  | cons j w ih =>
      rw [List.cons_append, Tree.at?, Tree.at?, Option.bind_assoc]
      exact congrArg _ (funext fun child => ih child)

/-- The last step of a way hands down what the node there does. -/
theorem contextAt_concat {c : Context} {t : Tree} {w : Way} {kind : Kind} {ts : List Tree} {i : Nat}
    (hat : t.at? w = some (.node kind ts)) (hi : i < ts.length) :
    t.contextAt c (w ++ [i]) = (t.contextAt c w).forChild kind ts i := by
  induction w generalizing c t with
  | nil =>
      cases hat
      exact Tree.contextAt_cons (List.getElem?_eq_getElem hi) []
  | cons j w ih =>
      cases t with
      | leaf l =>
          simp only [Tree.at?, Tree.children, List.getElem?_nil, Option.bind_none,
            reduceCtorEq] at hat
      | node kind' us =>
          rw [Tree.at?, Option.bind_eq_some_iff, Tree.children] at hat
          rcases hat with ⟨child, hchild, hat⟩
          rw [List.cons_append, Tree.contextAt_cons hchild, Tree.contextAt_cons hchild, ih hat]

theorem binding_forChild_paren (c : Context) (ts : List Tree) (i : Nat) :
    (c.forChild .paren ts i).binding = c.binding := by
  unfold Context.forChild
  split <;> rfl

theorem binding_forChild {kind : Kind} (hkind : kind ≠ .paren) (c : Context) (ts : List Tree)
    (i : Nat) : (c.forChild kind ts i).binding =
      if i + 1 = ts.length then Binding.ofParent kind ts else .free := by
  unfold Context.forChild
  split
  · exact if_neg hkind
  · exact if_neg hkind

/-- A value is bound to what its node binds it to. -/
theorem IsValueOf.binding_eq {t : Tree} {kind : Kind} {ts : List Tree} {w : Way}
    (h : IsValueOf t kind ts w) (c : Context) :
    (t.contextAt c w).binding = Binding.ofParent kind ts := by
  induction h with
  | last hat hkind hi =>
      rw [contextAt_concat hat (by omega), binding_forChild hkind, if_pos hi]
  | inParens _ hat hi ih => rw [contextAt_concat hat hi, binding_forChild_paren, ih]

/-- Only values are bound to something. -/
theorem exists_isValueOf {t : Tree} {w : Way} {c : Context} (hat : (t.at? w).isSome = true)
    (hfree : c.binding = .free) (hbound : (t.contextAt c w).binding ≠ .free) :
    ∃ kind ts, IsValueOf t kind ts w := by
  -- The induction is on the way from its end, along the parentheses around the value.
  induction w using List.reverseRecOn with
  | nil => exact absurd hfree hbound
  | append_singleton w i ih =>
      rw [at?_concat] at hat
      cases hnode : t.at? w with
      | none =>
          rw [hnode] at hat
          exact absurd hat Bool.false_ne_true
      | some s =>
          rw [hnode, Option.bind_some] at hat
          cases s with
          | leaf l =>
              rw [Tree.children, List.getElem?_nil] at hat
              exact absurd hat Bool.false_ne_true
          | node kind ts =>
              rcases Option.isSome_iff_exists.1 hat with ⟨child, hchild⟩
              have hi : i < ts.length := (List.getElem?_eq_some_iff.1 hchild).1
              rw [contextAt_concat hnode hi] at hbound
              by_cases hkind : kind = .paren
              · subst hkind
                rw [binding_forChild_paren] at hbound
                rcases ih (by rw [hnode]; rfl) hbound with ⟨kind', ts', hvalue⟩
                exact ⟨kind', ts', .inParens hvalue hnode hi⟩
              · rw [binding_forChild hkind] at hbound
                by_cases hlast : i + 1 = ts.length
                · exact ⟨kind, ts, .last hnode hkind hlast⟩
                · exact absurd (if_neg hlast) hbound

/-- The node that a value belongs to is a node of the tree. -/
theorem IsValueOf.exists_at? {t : Tree} {kind : Kind} {ts : List Tree} {w : Way}
    (h : IsValueOf t kind ts w) : ∃ u, t.at? u = some (.node kind ts) := by
  induction h with
  | @last w i hat _ _ => exact ⟨w, hat⟩
  | inParens _ _ _ ih => exact ih

/-! ### Dotted names -/

/-- A tree is an attribute with a name. -/
inductive IsAttribute : Tree → String → Prop
  | intro {us inner : List Tree} {x : String} (hinner : .node .name inner ∈ us)
      (hx : IsWord x inner) : IsAttribute (.node .attribute us) x

/-- An expression is a chain of attributes on a name, with these words in this order,
    parentheses aside. -/
inductive Dotted : Tree → List String → Prop
  | name {ts : List Tree} {x : String} (h : IsWord x ts) : Dotted (.node .name ts) [x]
  | paren {ts : List Tree} {u : Tree} {ns : List String} (hu : u ∈ ts) (h : Dotted u ns) :
      Dotted (.node .paren ts) ns
  | primary {ts : List Tree} {u : Tree} {trailers : List Tree} {ns xs : List String}
      (hts : Grammar.nodes ts = u :: trailers) (h : Dotted u ns)
      (hxs : List.Forall₂ IsAttribute trailers xs) : Dotted (.node .primary ts) (ns ++ xs)

/-- One more word behind a dot. -/
theorem joined_concat {ns : List String} (hns : ns ≠ []) (x : String) :
    Text.joined "." ns ++ "." ++ x = Text.joined "." (ns ++ [x]) := by
  induction ns with
  | nil => exact absurd rfl hns
  | cons n ns ih =>
      cases ns with
      | nil => rfl
      | cons m ns =>
          have hjoined : ∀ rest, Text.joined "." (n :: m :: rest) =
              n ++ "." ++ Text.joined "." (m :: rest) := fun _ => rfl
          rw [hjoined, List.cons_append, List.cons_append, hjoined, ← List.cons_append,
            ← ih (List.cons_ne_nil _ _)]
          simp only [String.append_assoc]

theorem Dotted.ne_nil {t : Tree} {ns : List String} (h : Dotted t ns) : ns ≠ [] := by
  induction h with
  | name => exact List.cons_ne_nil _ _
  | paren _ _ ih => exact ih
  | primary _ _ _ ih => exact List.append_ne_nil_of_left_ne_nil ih _

/-- Of the nodes in a row, the first one has the name. -/
theorem innerName?_eq (ts : List Tree) :
    innerName? ts = (Grammar.nodes ts).head?.bind fullName? := by
  induction ts with
  | nil => rfl
  | cons t ts ih =>
      cases t with
      | leaf l => exact ih
      | node kind us => rfl

/-- Of the nodes in a row, the first one has the name, and the others are its attributes. -/
theorem primaryName?_eq (ts : List Tree) :
    primaryName? ts = (Grammar.nodes ts).head?.bind fun u =>
      (fullName? u).bind fun base => withAttributes base (Grammar.nodes ts).tail := by
  induction ts with
  | nil => rfl
  | cons t ts ih =>
      cases t with
      | leaf l => exact ih
      | node kind us => rfl

/-- Of an attribute, only the nodes matter. -/
theorem attributeName?_nodes (us : List Tree) : attributeName? (.node .attribute us) =
    attributeName? (.node .attribute (Grammar.nodes us)) := by
  induction us with
  | nil => rfl
  | cons u us ih =>
      cases u with
      | leaf l => exact ih
      | node kind ts =>
          have hnodes : Grammar.nodes (.node kind ts :: us) =
              .node kind ts :: Grammar.nodes us := rfl
          rw [hnodes]
          simp only [attributeName?, List.findSome?_cons] at ih ⊢
          rw [ih]

/-- In a file, an attribute adds the name behind its dot. -/
theorem attributeName?_eq_some_iff {t : Tree} (ht : t.Everywhere Named) (x : String) :
    attributeName? t = some x ↔ IsAttribute t x := by
  unfold attributeName?
  split
  · -- The name behind the dot is the only node of the attribute.
    rename_i us
    rcases ht.1 with ⟨inner, y, hnodes, hy⟩
    have hname : attributeName? (.node .attribute us) = some y := by
      rw [attributeName?_nodes, hnodes, attributeName?, List.findSome?_cons]
      simp only [hy.firstWord?_eq]
    rw [← attributeName?, hname, Option.some.injEq]
    constructor
    · rintro rfl
      exact .intro (mem_nodes.1 (hnodes ▸ List.mem_singleton_self _)) hy
    · rintro ⟨hinner, hx⟩
      rw [← mem_nodes, hnodes, List.mem_singleton] at hinner
      cases hinner
      exact Option.some.inj (hy.firstWord?_eq.symm.trans hx.firstWord?_eq)
  · rename_i hother
    refine iff_of_false (Option.some_ne_none x).symm ?_
    rintro ⟨-, -⟩
    exact hother _ rfl

/-- Attributes add their names one after the other. -/
theorem withAttributes_eq_some_iff {trailers : List Tree}
    (htrailers : Tree.EverywhereAll Named trailers) {ns : List String} (hns : ns ≠ [])
    (s : String) : withAttributes (Text.joined "." ns) trailers = some s ↔
      ∃ xs, List.Forall₂ IsAttribute trailers xs ∧ s = Text.joined "." (ns ++ xs) := by
  induction trailers generalizing ns with
  | nil =>
      simp only [withAttributes, List.foldlM_nil, Option.pure_def, Option.some.injEq,
        List.forall₂_nil_left_iff, exists_eq_left, List.append_nil, eq_comm]
  | cons t trailers ih =>
      have hstep : withAttributes (Text.joined "." ns) (t :: trailers) =
          (attributeName? t).bind fun x =>
            withAttributes (Text.joined "." (ns ++ [x])) trailers := by
        rw [withAttributes, List.foldlM_cons]
        cases attributeName? t with
        | none => rfl
        | some x =>
            rw [Option.bind_some, ← joined_concat hns]
            rfl
      rw [hstep, Option.bind_eq_some_iff]
      constructor
      · rintro ⟨x, hx, hrest⟩
        rcases (ih htrailers.2 (List.append_ne_nil_of_left_ne_nil hns _)).1 hrest with
          ⟨xs, hxs, rfl⟩
        exact ⟨x :: xs, .cons ((attributeName?_eq_some_iff htrailers.1 x).1 hx) hxs,
          by rw [List.append_assoc, List.singleton_append]⟩
      · rintro ⟨xs, hxs, rfl⟩
        cases hxs with
        | @cons _ x _ xs hx hxs =>
            refine ⟨x, (attributeName?_eq_some_iff htrailers.1 x).2 hx, ?_⟩
            refine (ih htrailers.2 (List.append_ne_nil_of_left_ne_nil hns _)).2 ⟨xs, hxs, ?_⟩
            rw [List.append_assoc, List.singleton_append]

mutual

/-- An expression with a name is a chain. -/
theorem exists_dotted : ∀ (t : Tree) (s : String), t.Everywhere Named → fullName? t = some s →
    ∃ ns, Dotted t ns ∧ s = Text.joined "." ns
  | .leaf _, s, _, h => by simp only [fullName?, reduceCtorEq] at h
  | .node kind ts, s, ht, h => by
      unfold fullName? at h
      split at h
      · rename_i heq
        cases heq
        rcases ht.1 with ⟨x, hx, -⟩
        rw [hx.firstWord?_eq, Option.some.injEq] at h
        exact ⟨[x], .name hx, h.symm⟩
      · rename_i heq
        cases heq
        rcases exists_dotted_inner ts s ht.2 h with ⟨u, hu, ns, hdotted, rfl⟩
        exact ⟨ns, .paren hu hdotted, rfl⟩
      · -- The first node is what the attributes are taken from.
        rename_i heq
        cases heq
        rcases exists_dotted_primary ts s ht.2 h with ⟨u, trailers, ns, xs, hts, hdotted, hxs, rfl⟩
        exact ⟨ns ++ xs, .primary hts hdotted hxs, rfl⟩
      · simp only [reduceCtorEq] at h

theorem exists_dotted_inner : ∀ (ts : List Tree) (s : String), Tree.EverywhereAll Named ts →
    innerName? ts = some s → ∃ u ∈ ts, ∃ ns, Dotted u ns ∧ s = Text.joined "." ns
  | [], s, _, h => by simp only [innerName?, reduceCtorEq] at h
  | .leaf _ :: ts, s, hts, h => by
      rw [innerName?] at h
      rcases exists_dotted_inner ts s hts.2 h with ⟨u, hu, hdotted⟩
      exact ⟨u, List.mem_cons_of_mem _ hu, hdotted⟩
  | .node kind us :: ts, s, hts, h => by
      exact ⟨_, List.mem_cons_self, exists_dotted (.node kind us) s hts.1 h⟩

theorem exists_dotted_primary : ∀ (ts : List Tree) (s : String), Tree.EverywhereAll Named ts →
    primaryName? ts = some s → ∃ u trailers ns xs, Grammar.nodes ts = u :: trailers ∧ Dotted u ns ∧
      List.Forall₂ IsAttribute trailers xs ∧ s = Text.joined "." (ns ++ xs)
  | [], s, _, h => by simp only [primaryName?, reduceCtorEq] at h
  | .leaf _ :: ts, s, hts, h => by
      rw [primaryName?] at h
      exact exists_dotted_primary ts s hts.2 h
  | .node kind us :: ts, s, hts, h => by
      rcases Option.bind_eq_some_iff.1 h with ⟨base, hbase, h⟩
      rcases exists_dotted (.node kind us) base hts.1 hbase with ⟨ns, hdotted, rfl⟩
      rcases (withAttributes_eq_some_iff hts.2.nodes hdotted.ne_nil s).1 h with ⟨xs, hxs, rfl⟩
      exact ⟨_, _, ns, xs, rfl, hdotted, hxs, rfl⟩

end

/-- What stands in parentheses is the only node there. -/
theorem nodes_eq_of_paren {ts : List Tree} (hshaped : Shaped .paren ts) {kind : Kind}
    {us : List Tree} (hmem : .node kind us ∈ ts) : Grammar.nodes ts = [.node kind us] := by
  have hlength : (Grammar.nodes ts).length ≤ 1 := by
    rw [← length_kinds]
    exact hshaped
  rw [← mem_nodes] at hmem
  cases hnodes : Grammar.nodes ts with
  | nil =>
      rw [hnodes] at hmem
      exact absurd hmem List.not_mem_nil
  | cons u rest =>
      rw [hnodes, List.length_cons] at hlength
      rw [List.eq_nil_of_length_eq_zero (l := rest) (by omega)] at hnodes ⊢
      rw [hnodes, List.mem_singleton] at hmem
      rw [hmem]

theorem Dotted.exists_node {t : Tree} {ns : List String} (h : Dotted t ns) :
    ∃ kind ts, t = .node kind ts := by
  cases h with
  | name => exact ⟨_, _, rfl⟩
  | paren => exact ⟨_, _, rfl⟩
  | primary => exact ⟨_, _, rfl⟩

/-- In a file, a chain has its name. -/
theorem Dotted.fullName?_eq {t : Tree} {ns : List String} (h : Dotted t ns)
    (hnamed : t.Everywhere Named) (hshaped : t.Everywhere Shaped) :
    fullName? t = some (Text.joined "." ns) := by
  induction h with
  | name h => exact h.firstWord?_eq
  | paren hu h ih =>
      -- Nothing else stands in the parentheses that could have the name.
      rcases h.exists_node with ⟨kind, us, rfl⟩
      rw [fullName?, innerName?_eq, nodes_eq_of_paren hshaped.1 hu]
      exact ih (hnamed.2.of_mem hu) (hshaped.2.of_mem hu)
  | @primary ts u trailers ns xs hts h hxs ih =>
      have hnamed' := hts ▸ hnamed.2.nodes
      have hshaped' := hts ▸ hshaped.2.nodes
      rw [fullName?, primaryName?_eq, hts, List.head?_cons, Option.bind_some,
        ih hnamed'.1 hshaped'.1, Option.bind_some, List.tail_cons,
        withAttributes_eq_some_iff hnamed'.2 h.ne_nil]
      exact ⟨xs, hxs, rfl⟩

/-- In a file, the expressions with names are the chains. -/
theorem fullName?_eq_some_iff {t : Tree} (hnamed : t.Everywhere Named)
    (hshaped : t.Everywhere Shaped) (s : String) :
    fullName? t = some s ↔ ∃ ns, Dotted t ns ∧ s = Text.joined "." ns := by
  constructor
  · exact exists_dotted t s hnamed
  · rintro ⟨ns, hdotted, rfl⟩
    exact hdotted.fullName?_eq hnamed hshaped

/-- In a file, no dot is in the words of a chain. -/
theorem Dotted.dotless {t : Tree} {ns : List String} (h : Dotted t ns)
    (hnamed : t.Everywhere Named) : ∀ x ∈ ns, '.' ∉ x.toList := by
  have hname : ∀ {ts : List Tree} {x : String}, Named .name ts → IsWord x ts → '.' ∉ x.toList := by
    rintro ts x ⟨y, hy, hdot⟩ hx
    rwa [Option.some.inj (hx.firstWord?_eq.symm.trans hy.firstWord?_eq)]
  induction h with
  | name h => exact List.forall_mem_singleton.2 (hname hnamed.1 h)
  | paren hu _ ih => exact ih (hnamed.2.of_mem hu)
  | @primary ts u trailers ns xs hts _ hxs ih =>
      have hnamed' := hts ▸ hnamed.2.nodes
      refine List.forall_mem_append.2 ⟨ih hnamed'.1, fun x hx => ?_⟩
      -- Each word of the chain is that of an attribute.
      rcases List.getElem?_of_mem hx with ⟨i, hi⟩
      rcases forall₂_getElem? hxs.flip i x hi with ⟨trailer, htrailer, hinner, hx⟩
      have hattribute := hnamed'.2.of_mem (List.mem_of_getElem? htrailer)
      exact hname (hattribute.2.of_mem hinner).1 hx

/-! ### Keys -/

/-- A key is one string, parentheses aside, and this is what is written for it. -/
inductive IsStringKey : Tree → String → Prop
  | string {ts : List Tree} {literal : String} (h : IsWord literal ts) :
      IsStringKey (.node .string ts) literal
  | paren {ts : List Tree} {u : Tree} {literal : String} (hu : u ∈ ts) (h : IsStringKey u literal) :
      IsStringKey (.node .paren ts) literal

/-- What is in parentheses is the first node there. -/
theorem unparenthesized_inner_eq {ts rest : List Tree} {u : Tree}
    (h : Grammar.nodes ts = u :: rest) : Tree.unparenthesized.inner ts = u.unparenthesized := by
  induction ts with
  | nil => exact absurd h.symm (List.cons_ne_nil _ _)
  | cons t ts ih =>
      cases t with
      | leaf l => exact ih h
      | node kind us =>
          cases h
          rfl

/-- In a file, a string is what is left of a key without its parentheses. -/
theorem IsStringKey.exists_unparenthesized {t : Tree} {literal : String} (h : IsStringKey t literal)
    (hshaped : t.Everywhere Shaped) :
    ∃ ts, t.unparenthesized = .node .string ts ∧ firstWord? ts = some literal := by
  induction h with
  | string h => exact ⟨_, rfl, h.firstWord?_eq⟩
  | @paren ts u literal hu h ih =>
      have hnode : ∃ kind us, u = Tree.node kind us := by
        cases h with
        | string => exact ⟨_, _, rfl⟩
        | paren => exact ⟨_, _, rfl⟩
      rcases hnode with ⟨kind, us, rfl⟩
      -- It is the only node in the parentheses, so nothing else is found there.
      rw [Tree.unparenthesized, unparenthesized_inner_eq (nodes_eq_of_paren hshaped.1 hu)]
      exact ih (hshaped.2.of_mem hu)

mutual

/-- Nothing else is. -/
theorem exists_isStringKey : ∀ (t : Tree) (ts : List Tree), t.Everywhere Named →
    t.unparenthesized = .node .string ts →
      ∃ literal, IsStringKey t literal ∧ firstWord? ts = some literal
  | .leaf _, ts, _, h => by simp only [Tree.unparenthesized, reduceCtorEq] at h
  | .node kind us, ts, ht, h => by
      unfold Tree.unparenthesized at h
      split at h
      · rename_i heq
        cases heq
        rcases exists_isStringKey_inner us ts ht.2 h with ⟨u, hu, literal, hkey, hfirst⟩
        exact ⟨literal, .paren hu hkey, hfirst⟩
      · cases h
        rcases ht.1 with ⟨literal, hliteral⟩
        exact ⟨literal, .string hliteral, hliteral.firstWord?_eq⟩

theorem exists_isStringKey_inner : ∀ (us ts : List Tree), Tree.EverywhereAll Named us →
    Tree.unparenthesized.inner us = .node .string ts →
      ∃ u ∈ us, ∃ literal, IsStringKey u literal ∧ firstWord? ts = some literal
  | [], ts, _, h => by simp only [Tree.unparenthesized.inner, Tree.node.injEq, reduceCtorEq,
      false_and] at h
  | .leaf _ :: us, ts, hus, h => by
      rcases exists_isStringKey_inner us ts hus.2 h with ⟨u, hu, hkey⟩
      exact ⟨u, List.mem_cons_of_mem _ hu, hkey⟩
  | .node kind vs :: us, ts, hus, h =>
      ⟨_, List.mem_cons_self, exists_isStringKey (.node kind vs) ts hus.1 h⟩

end

/-! ### Names -/

/-- Several words with dots between them have a dot. -/
theorem dot_mem_joined {ns : List String} (hns : 2 ≤ ns.length) :
    '.' ∈ (Text.joined "." ns).toList := by
  rcases ns with _ | ⟨n, _ | ⟨m, ns⟩⟩
  · simp only [List.length_nil] at hns
    omega
  · simp only [List.length_cons, List.length_nil] at hns
    omega
  · have hjoined : Text.joined "." (n :: m :: ns) = n ++ "." ++ Text.joined "." (m :: ns) := rfl
    rw [hjoined, String.toList_append, String.toList_append]
    simp

/-- With fewer scopes, what stands before a name is shorter. -/
theorem length_scopePrefix_lt {fewer scopes : List String} (h : fewer.Sublist scopes)
    (hlt : fewer.length < scopes.length) :
    (scopePrefix fewer).length < (scopePrefix scopes).length := by
  have hlength : ∀ (scope : String) (scopes : List String),
      (scopePrefix (scope :: scopes)).length = scope.length + 1 + (scopePrefix scopes).length := by
    intro scope scopes
    rw [scopePrefix_cons, String.length_append, String.length_append]
    rfl
  induction h with
  | slnil => exact absurd hlt (Nat.lt_irrefl _)
  | @cons fewer scopes scope h ih =>
      rw [hlength]
      -- The scope is left out, and perhaps more of the others.
      by_cases hless : fewer.length < scopes.length
      · have hshorter := ih hless
        omega
      · rw [h.eq_of_length_le (Nat.not_lt.1 hless)]
        omega
  | @cons_cons fewer scopes scope h ih =>
      rw [List.length_cons, List.length_cons, Nat.add_lt_add_iff_right] at hlt
      rw [hlength, hlength]
      have hshorter := ih hlt
      omega

/-- Scopes are seen in a name: with some of them left out it is another one. -/
theorem joined_eq_joined_iff {fewer scopes : List String} (h : fewer.Sublist scopes) (x : String) :
    Text.joined "." (scopes ++ [x]) = Text.joined "." (fewer ++ [x]) ↔ fewer = scopes := by
  constructor
  · intro hname
    -- With fewer scopes the name would be shorter, and equal names are equally long.
    refine h.eq_of_length_le (Nat.not_lt.1 fun hlt => ?_)
    have hshorter := length_scopePrefix_lt h hlt
    have hlength := congrArg String.length hname
    rw [← scopePrefix_append, ← scopePrefix_append, String.length_append,
      String.length_append] at hlength
    omega
  · rintro rfl
    rfl

theorem joined_concat_eq_self_iff (scopes : List String) (x : String) :
    Text.joined "." (scopes ++ [x]) = x ↔ scopes = [] :=
  (joined_eq_joined_iff (List.nil_sublist scopes) x).trans eq_comm

/-- A name without dots gets the scopes, any other name is taken as it is. -/
theorem lambdaName_of_dot {x : String} (hdot : '.' ∈ x.toList) (scopes : List String)
    (anonymous : String) : lambdaName scopes anonymous (some x) = x := by
  rw [lambdaName, if_pos (List.contains_iff_mem.2 hdot)]

theorem lambdaName_of_no_dot {x : String} (hdot : '.' ∉ x.toList) (scopes : List String)
    (anonymous : String) :
    lambdaName scopes anonymous (some x) = Text.joined "." (scopes ++ [x]) := by
  rw [lambdaName, if_neg (fun h => hdot (List.contains_iff_mem.1 h)), scopePrefix_append]

/-- A lambda at the end of a way is named for what it is bound to, whatever the scopes around it
    are and whatever the settings call lambdas that are bound to nothing. -/
structure FollowsBinding (t : Tree) (w : Way)
    (name : List String → String → Except NamingError String) : Prop where
  /-- A chain of attributes on a name is taken as it is. -/
  chain : ∀ target ns, BoundTo t w target → Dotted target ns → 2 ≤ ns.length →
    ∀ scopes anonymous, name scopes anonymous = .ok (Text.joined "." ns)
  /-- A single name, such as a keyword, gets the scopes. -/
  plain : ∀ target x, BoundTo t w target → Dotted target [x] →
    ∀ scopes anonymous, name scopes anonymous = .ok (Text.joined "." (scopes ++ [x]))
  /-- The text of a key gets the scopes exactly if no dot is in it, or if there are none.
      Otherwise it is taken as it is. -/
  key : ∀ key literal cs, BoundToKey t w key → IsStringKey key literal →
    StringValue.ofLiteral literal.toList = .text cs → cs ≠ [] → ∀ scopes anonymous,
      (name scopes anonymous = .ok (Text.joined "." (scopes ++ [String.ofList cs])) ↔
        '.' ∉ cs ∨ scopes = []) ∧
      ('.' ∈ cs → name scopes anonymous = .ok (String.ofList cs))
  /-- A key that stands for no text gives no name. -/
  malformed : ∀ key literal, BoundToKey t w key → IsStringKey key literal →
    StringValue.ofLiteral literal.toList = .malformed → ∀ scopes anonymous,
      name scopes anonymous = .error (.malformedKey literal)
  /-- All other lambdas are anonymous, those under keys that are bytes or empty, too. -/
  other : (∀ target ns, BoundTo t w target → ¬ Dotted target ns) →
    (∀ key literal, BoundToKey t w key → IsStringKey key literal →
      StringValue.ofLiteral literal.toList = .bytes ∨
        StringValue.ofLiteral literal.toList = .text []) →
      ∀ scopes anonymous, name scopes anonymous = .ok anonymous

/-- A target is what a value is bound to. -/
theorem BoundTo.binding_eq {t : Tree} {w : Way} {target : Tree} (h : BoundTo t w target)
    (c : Context) : (t.contextAt c w).binding = .target target := by
  rcases h with ⟨kind, ts, hvalue, hkind, hfirst⟩
  rw [hvalue.binding_eq]
  have hnode : Binding.firstNode ts = target := by rw [Binding.firstNode, hfirst, Option.getD_some]
  unfold Kind.bindsTarget at hkind
  split at hkind
  all_goals first
    | exact congrArg Binding.target hnode
    | exact absurd hkind Bool.false_ne_true

/-- A key is what a value is bound to. -/
theorem BoundToKey.binding_eq {t : Tree} {w : Way} {key : Tree} (h : BoundToKey t w key)
    (c : Context) : (t.contextAt c w).binding = .key key := by
  rcases h with ⟨ts, hvalue, hfirst⟩
  rw [hvalue.binding_eq]
  have hnode : Binding.firstNode ts = key := by rw [Binding.firstNode, hfirst, Option.getD_some]
  exact congrArg Binding.key hnode

/-- The first node of a node is in the tree that the node is in. -/
theorem everywhere_of_isValueOf {ok : Kind → List Tree → Prop} {t u : Tree} {w : Way} {kind : Kind}
    {ts : List Tree} (ht : t.Everywhere ok) (hvalue : IsValueOf t kind ts w)
    (hfirst : (Grammar.nodes ts).head? = some u) : u.Everywhere ok := by
  rcases hvalue.exists_at? with ⟨v, hat⟩
  exact (everywhere_of_at? ht hat).2.nodes.of_mem (List.mem_of_mem_head? hfirst)

/-- In a file, a value that is bound to a chain is named for it. -/
theorem BoundTo.name?_eq {t : Tree} {w : Way} {target : Tree} {ns : List String}
    (h : BoundTo t w target) (hdotted : Dotted target ns) (hnamed : t.Everywhere Named)
    (hshaped : t.Everywhere Shaped) (c : Context) :
    (t.contextAt c w).binding.name? = .ok (some (Text.joined "." ns)) := by
  rw [h.binding_eq, Binding.name?]
  rcases h with ⟨kind, ts, hvalue, -, hfirst⟩
  rw [hdotted.fullName?_eq (everywhere_of_isValueOf hnamed hvalue hfirst)
    (everywhere_of_isValueOf hshaped hvalue hfirst)]

/-- The name that a key gives, by what its string stands for. -/
def nameOfKey (literal : String) : StringValue → Except NamingError (Option String)
  | .text [] | .bytes => .ok none
  | .text cs => .ok (some (String.ofList cs))
  | .malformed => .error (.malformedKey literal)

/-- In a file, a value under a key that is a string is named for the text of the string. -/
theorem BoundToKey.name?_eq {t : Tree} {w : Way} {key : Tree} {literal : String}
    (h : BoundToKey t w key) (hkey : IsStringKey key literal) (hshaped : t.Everywhere Shaped)
    (c : Context) : (t.contextAt c w).binding.name? =
      nameOfKey literal (StringValue.ofLiteral literal.toList) := by
  rw [h.binding_eq, Binding.name?]
  rcases h with ⟨ts, hvalue, hfirst⟩
  rcases hkey.exists_unparenthesized (everywhere_of_isValueOf hshaped hvalue hfirst) with
    ⟨us, hstring, hword⟩
  simp only [hstring, hword, Option.getD_some]
  cases StringValue.ofLiteral literal.toList with
  | text cs => cases cs <;> rfl
  | bytes => rfl
  | malformed => rfl

/-- In a file, what is bound to no chain and to no key with a text has no name. -/
theorem name?_of_unbound {t : Tree} {w : Way} {c : Context} (hat : (t.at? w).isSome = true)
    (hnamed : t.Everywhere Named) (hfree : c.binding = .free)
    (htarget : ∀ target ns, BoundTo t w target → ¬ Dotted target ns)
    (hkey : ∀ key literal, BoundToKey t w key → IsStringKey key literal →
      StringValue.ofLiteral literal.toList = .bytes ∨
        StringValue.ofLiteral literal.toList = .text []) :
    (t.contextAt c w).binding.name? = .ok none := by
  by_cases hbound : (t.contextAt c w).binding = .free
  · rw [hbound]
    rfl
  rcases exists_isValueOf hat hfree hbound with ⟨kind, ts, hvalue⟩
  rw [hvalue.binding_eq]
  cases hfirst : (Grammar.nodes ts).head? with
  | none =>
      -- There is nothing that it could be bound to.
      have hnode : Binding.firstNode ts = default := by rw [Binding.firstNode, hfirst]; rfl
      unfold Binding.ofParent
      split
      all_goals first
        | rw [hnode]; rfl
        | rfl
  | some first =>
      have hnode : Binding.firstNode ts = first := by rw [Binding.firstNode, hfirst]; rfl
      have hfirstNamed := everywhere_of_isValueOf hnamed hvalue hfirst
      -- A target with a name would be a chain, which the value is not bound to.
      have htargetName : kind.bindsTarget = true → fullName? first = none := by
        intro hkind
        by_contra hsome
        rcases Option.ne_none_iff_exists'.1 hsome with ⟨s, hs⟩
        rcases exists_dotted first s hfirstNamed hs with ⟨ns, hdotted, -⟩
        exact htarget first ns ⟨kind, ts, hvalue, hkind, hfirst⟩ hdotted
      unfold Binding.ofParent
      split
      iterate 4 exact congrArg Except.ok (hnode ▸ htargetName rfl)
      · -- A key with a text would have a name.
        rw [hnode, Binding.name?]
        split
        · rename_i us hstring
          rcases exists_isStringKey first us hfirstNamed hstring with ⟨literal, hliteral, hword⟩
          rw [hword, Option.getD_some]
          rcases hkey first literal ⟨ts, hvalue, hfirst⟩ hliteral with hbytes | hempty
          · simp only [hbytes]
          · simp only [hempty]
        · rfl
      · rfl

/-- In a file, a lambda that is visited is named for what it is bound to. -/
theorem Tree.Visited.followsBinding {text : String} {m : Module}
    (hparse : Module.parse? text = some m) {c : Context} (hfree : c.binding = .free) {w : Way}
    {v : Visit} (h : m.tree.Visited c w v) (hkind : v.kind = .lambda) :
    FollowsBinding m.tree w fun scopes anonymous =>
      functionName v.kind v.children scopes v.binding anonymous := by
  have hnamed := parse?_named hparse
  have hshaped := parse?_shaped hparse
  have hname : ∀ scopes anonymous, functionName v.kind v.children scopes v.binding anonymous =
      (m.tree.contextAt c w).binding.name?.map (lambdaName scopes anonymous) := by
    intro scopes anonymous
    rw [hkind, h.binding]
    rfl
  constructor
  · intro target ns hbound hdotted hns scopes anonymous
    rw [hname, hbound.name?_eq hdotted hnamed hshaped, Except.map,
      lambdaName_of_dot (dot_mem_joined hns)]
  · intro target x hbound hdotted scopes anonymous
    rw [hname, hbound.name?_eq hdotted hnamed hshaped]
    -- A single name is a word of the file, so it has no dot to be taken for a chain.
    rcases hbound with ⟨kind, ts, hvalue, -, hfirst⟩
    have hdotless := hdotted.dotless (everywhere_of_isValueOf hnamed hvalue hfirst)
    exact congrArg Except.ok
      (lambdaName_of_no_dot (hdotless x (List.mem_singleton_self x)) scopes anonymous)
  · intro key literal cs hbound hkey hvalue hne scopes anonymous
    have hresult : functionName v.kind v.children scopes v.binding anonymous =
        .ok (lambdaName scopes anonymous (some (String.ofList cs))) := by
      rw [hname, hbound.name?_eq hkey hshaped, hvalue]
      cases cs with
      | nil => exact absurd rfl hne
      | cons => rfl
    rw [hresult]
    by_cases hdot : '.' ∈ cs
    · -- The scopes are left out, and are missed unless there are none.
      rw [lambdaName_of_dot (by rwa [String.toList_ofList]), Except.ok.injEq, eq_comm,
        joined_concat_eq_self_iff]
      exact ⟨(or_iff_right (not_not_intro hdot)).symm, fun _ => rfl⟩
    · rw [lambdaName_of_no_dot (by rwa [String.toList_ofList])]
      exact ⟨iff_of_true rfl (.inl hdot), fun h => absurd h hdot⟩
  · intro key literal hbound hkey hvalue scopes anonymous
    rw [hname, hbound.name?_eq hkey hshaped, hvalue]
    rfl
  · intro hno hnoKey scopes anonymous
    have hat : (m.tree.at? w).isSome = true := by rw [h.node]; rfl
    rw [hname, name?_of_unbound hat hnamed hfree hno hnoKey]
    rfl

end Source

end EntryCoverage

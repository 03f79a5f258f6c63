import EntryCoverage.Visit
import Mathlib.Data.List.Forall2

/-!
# Ways Through a Tree

A node of a tree by the way that leads to it.

Visits say what a node is and what is around it, but two nodes of a tree may look
the same. A way, the numbers of the children on the path from the root, is what
tells them apart, and it is what "each node once, children first" can be said with:
`postorder` lists the ways to all nodes (`mem_postorder`), in an order in which a node
stands after what lies in it and after what lies to its left (`pairwise_postorder`).

The visits of a tree are in step with that list (`visits_visited`). So anything that is
shown of the visits in their order is shown of the nodes of the tree. What a visit has from
its surroundings was handed down along the way, from parent to child (`contextAt`).

## Main definitions

* `Way`: A path from the root.
* `Way.Before`: The order in which children come before their parents.
* `Tree.at?`: The tree at the end of a way.
* `Tree.postorder`: The ways to the nodes of a tree, children first.
* `Tree.originAt`: The file that the node at the end of a way comes from.
* `Tree.contextAt`: What the node at the end of a way takes from the nodes around it.
* `Tree.functionWays`: The ways to the functions of a tree.

## Theorems

* `mem_postorder`: The ways to all nodes are listed, and no others.
* `pairwise_postorder`, `nodup_postorder`: They are listed in order, each once.
* `visits_visited`: The visits of a tree are those of its nodes in that order.
* `visits_stand`: The files that they come from.
* `functions_stand`: The functions among them are those of the tree.
-/

namespace EntryCoverage

/-- What a child takes from its parent, given the number of the child. -/
def Context.forChild (c : Context) (kind : Source.Kind) (ts : List Source.Tree) (i : Nat) :
    Context :=
  if i + 1 = ts.length then { c.within kind ts with binding := c.lastBinding kind ts }
  else c.within kind ts

namespace Source

/-- A path from the root of a tree: the number of the child to go to, step by step. -/
abbrev Way := List Nat

/-- A way comes before another one if it goes on where the other ends, or turns to an
    earlier child where they part. -/
def Way.Before : Way → Way → Prop
  | [], _ => False
  | _ :: _, [] => True
  | i :: u, j :: v => i < j ∨ (i = j ∧ Way.Before u v)

/-- No way comes before itself. -/
theorem Way.not_before_self (w : Way) : ¬ w.Before w := by
  induction w with
  | nil => exact id
  | cons i w ih =>
      rintro (hlt | ⟨-, hbefore⟩)
      · exact Nat.lt_irrefl i hlt
      · exact ih hbefore

namespace Tree

/-- The children of a node; none for a leaf. -/
def children : Tree → List Tree
  | .leaf _ => []
  | .node _ ts => ts

/-- The tree at the end of a way. -/
def at? (t : Tree) : Way → Option Tree
  | [] => some t
  | i :: w => t.children[i]?.bind (·.at? w)

mutual

/-- The ways to the nodes of a tree, those below a node before the node. -/
def postorder : Tree → List Way
  | .leaf _ => []
  | .node _ ts => postorderAll 0 ts ++ [[]]

/-- The ways to the nodes of trees in a row, the first of which is child `i`. -/
def postorderAll (i : Nat) : List Tree → List Way
  | [] => []
  | t :: ts => t.postorder.map (i :: ·) ++ postorderAll (i + 1) ts

end

/-! ### The list of ways -/

/-- A way into a row of trees begins with the number of one of them. -/
theorem mem_postorderAll_iff (i : Nat) (ts : List Tree) (w : Way) :
    w ∈ postorderAll i ts ↔
      ∃ j u t, w = (i + j) :: u ∧ ts[j]? = some t ∧ u ∈ t.postorder := by
  induction ts generalizing i with
  | nil =>
      constructor
      · exact fun h => absurd h List.not_mem_nil
      · rintro ⟨j, u, t, -, ht, -⟩
        simp only [List.getElem?_nil, reduceCtorEq] at ht
  | cons t ts ih =>
      -- The way leads into the first tree, or into the rest, which is counted from there.
      rw [postorderAll, List.mem_append, List.mem_map, ih]
      constructor
      · rintro (⟨u, hu, rfl⟩ | ⟨j, u, t', rfl, ht', hu⟩)
        · exact ⟨0, u, t, rfl, rfl, hu⟩
        · exact ⟨j + 1, u, t', by rw [Nat.add_assoc, Nat.add_comm 1 j], ht', hu⟩
      · rintro ⟨j, u, t', rfl, ht', hu⟩
        cases j with
        | zero => exact .inl ⟨u, Option.some.inj ht' ▸ hu, rfl⟩
        | succ j =>
            exact .inr ⟨j, u, t', by rw [Nat.add_assoc, Nat.add_comm 1 j], ht', hu⟩

/-- The ways to all nodes are listed, and no others. -/
theorem mem_postorder (t : Tree) (w : Way) :
    w ∈ t.postorder ↔ ∃ kind ts, t.at? w = some (.node kind ts) := by
  induction w generalizing t with
  | nil =>
      cases t with
      | leaf l =>
          constructor
          · exact fun h => absurd h List.not_mem_nil
          · rintro ⟨kind, ts, h⟩
            simp only [at?, Option.some.injEq, reduceCtorEq] at h
      | node kind ts =>
          rw [postorder]
          exact ⟨fun _ => ⟨kind, ts, rfl⟩, fun _ => List.mem_append_right _ List.mem_cons_self⟩
  | cons i w ih =>
      cases t with
      | leaf l =>
          constructor
          · exact fun h => absurd h List.not_mem_nil
          · rintro ⟨kind, ts, h⟩
            simp only [at?, children, List.getElem?_nil, Option.bind_none, reduceCtorEq] at h
      | node kind ts =>
          -- No way with a step in it is that of the root.
          rw [postorder, List.mem_append, List.mem_singleton, mem_postorderAll_iff, at?, children]
          constructor
          · rintro (⟨j, u, t, hw, ht, hu⟩ | hw)
            · rw [Nat.zero_add, List.cons.injEq] at hw
              rcases hw with ⟨rfl, rfl⟩
              rw [ht, Option.bind_some]
              exact (ih t).1 hu
            · exact absurd hw (List.cons_ne_nil _ _)
          · rintro ⟨k, cs, h⟩
            rcases Option.bind_eq_some_iff.1 h with ⟨t, ht, hat⟩
            exact .inl ⟨i, w, t, by rw [Nat.zero_add], ht, (ih t).2 ⟨k, cs, hat⟩⟩

mutual

/-- The ways are listed in their order. -/
theorem pairwise_postorder : ∀ t : Tree, t.postorder.Pairwise Way.Before
  | .leaf _ => .nil
  | .node _ ts => by
      -- The root comes last.
      rw [postorder, List.pairwise_append]
      refine ⟨pairwise_postorderAll 0 ts, List.pairwise_singleton _ _, ?_⟩
      intro w hw v hv
      rcases (mem_postorderAll_iff 0 ts w).1 hw with ⟨j, u, t, rfl, -, -⟩
      rw [List.mem_singleton.1 hv]
      exact trivial

theorem pairwise_postorderAll : ∀ (i : Nat) (ts : List Tree),
    (postorderAll i ts).Pairwise Way.Before
  | _, [] => .nil
  | i, t :: ts => by
      rw [postorderAll, List.pairwise_append, List.pairwise_map]
      -- Ways into the first tree turn to an earlier child than ways into the rest.
      refine ⟨(pairwise_postorder t).imp fun h => .inr ⟨rfl, h⟩,
        pairwise_postorderAll (i + 1) ts, ?_⟩
      intro w hw v hv
      rcases List.mem_map.1 hw with ⟨u, -, rfl⟩
      rcases (mem_postorderAll_iff (i + 1) ts v).1 hv with ⟨j, u', t', rfl, -, -⟩
      exact .inl (by omega)

end

/-- No way is listed twice. -/
theorem nodup_postorder (t : Tree) : t.postorder.Nodup := by
  refine t.pairwise_postorder.imp ?_
  rintro w v hbefore rfl
  exact w.not_before_self hbefore

/-! ### Visits -/

/-- The file that the lines above a node name. -/
def markOf? : Tree → Option String
  | .leaf _ => none
  | .node _ ts => Provenance.readOrigin? ts

/-- The file that the node at the end of a way comes from: the one that the nearest
    mark on the way names, or else the one that the tree stands in. -/
def originAt (file : String) (t : Tree) : Way → String
  | [] => t.markOf?.getD file
  | i :: w =>
      match t.children[i]? with
      | none => t.markOf?.getD file
      | some child => child.originAt (t.markOf?.getD file) w

/-- What the node at the end of a way takes from the nodes around it, given what the tree
    does. -/
def contextAt (c : Context) (t : Tree) : Way → Context
  | [] => c
  | i :: w =>
      match t with
      | .leaf _ => c
      | .node kind ts =>
          match ts[i]? with
          | none => c
          | some child => child.contextAt (c.forChild kind ts i) w

/-- The context of a node in a child is handed down by the parent. -/
theorem contextAt_cons {c : Context} {kind : Kind} {ts : List Tree} {i : Nat} {t : Tree}
    (ht : ts[i]? = some t) (w : Way) :
    (Tree.node kind ts).contextAt c (i :: w) = t.contextAt (c.forChild kind ts i) w := by
  rw [contextAt, ht]

/-- The parent's part in finding what is at the end of a way. -/
theorem at?_cons {kind : Kind} {ts : List Tree} {i : Nat} {t : Tree} (ht : ts[i]? = some t)
    (w : Way) : (Tree.node kind ts).at? (i :: w) = t.at? w := by
  rw [at?, children, ht, Option.bind_some]

/-- A visit is that of the node at the end of a way, and has what the node takes from the
    nodes around it. -/
structure Visited (c : Context) (t : Tree) (w : Way) (v : Visit) : Prop where
  node : t.at? w = some (.node v.kind v.children)
  origin : v.origin = (t.contextAt c w).originOf v.children
  scopes : v.scopes = (t.contextAt c w).scopes
  binding : v.binding = (t.contextAt c w).binding

/-- A visit of a child is one of the parent, one step further down. -/
theorem Visited.of_child {c : Context} {kind : Kind} {ts : List Tree} {i : Nat} {t : Tree} {w : Way}
    {v : Visit} (ht : ts[i]? = some t) (h : Visited (c.forChild kind ts i) t w v) :
    Visited c (.node kind ts) (i :: w) v := by
  constructor
  · rw [at?_cons ht, h.node]
  · rw [contextAt_cons ht, h.origin]
  · rw [contextAt_cons ht, h.scopes]
  · rw [contextAt_cons ht, h.binding]

mutual

/-- The visits that walking through a tree gives are those of its nodes, in the order
    of their ways. -/
theorem walk_visited (layout : Layout) : ∀ (margin : String) (c : Context) (p : Position)
    (t : Tree), List.Forall₂ (Visited c t) t.postorder (walk layout margin c p t).visits
  | _, _, _, .leaf _ => .nil
  | margin, c, p, .node kind ts => by
      rw [postorder, walk]
      refine List.rel_append ?_ (.cons ⟨rfl, rfl, rfl, rfl⟩ .nil)
      have hrow := walkAll_visited layout (kind.marginWithin layout margin) (c.within kind ts)
        (c.lastBinding kind ts) p 0 ts
      refine hrow.imp ?_
      rintro w v ⟨j, u, t, rfl, ht, hvisited⟩
      rw [Nat.zero_add]
      exact hvisited.of_child ht

/-- The same for trees in a row, the first of which is child `i`. -/
theorem walkAll_visited (layout : Layout) : ∀ (margin : String) (c : Context)
    (last : Naming.Binding) (p : Position) (i : Nat) (ts : List Tree),
    List.Forall₂ (fun w v => ∃ j u t, w = (i + j) :: u ∧ ts[j]? = some t ∧
      Visited (if j + 1 = ts.length then { c with binding := last } else c) t u v)
      (postorderAll i ts) (walkAll layout margin c last p ts).visits
  | _, _, _, _, _, [] => .nil
  | margin, c, last, p, i, t :: ts => by
      rw [postorderAll, walkAll]
      refine List.rel_append ?_ ?_
      · rw [List.forall₂_map_left_iff]
        -- The first of the trees is the last one, too, if nothing follows it.
        have hlast : (if ts.isEmpty then { c with binding := last } else c) =
            if 0 + 1 = (t :: ts).length then { c with binding := last } else c := by
          cases ts with
          | nil => rfl
          | cons => rfl
        rw [hlast]
        exact (walk_visited layout margin _ p t).imp fun u v hvisited =>
          ⟨0, u, t, rfl, rfl, hvisited⟩
      · refine (walkAll_visited layout margin c last _ (i + 1) ts).imp ?_
        rintro w v ⟨j, u, t', rfl, ht', hvisited⟩
        refine ⟨j + 1, u, t', by rw [Nat.add_assoc, Nat.add_comm 1 j], ht', ?_⟩
        simpa only [List.length_cons, Nat.add_right_cancel_iff] using hvisited

end

/-- The visits of a tree are those of its nodes, children first. -/
theorem visits_visited (layout : Layout) (c : Context) (t : Tree) :
    List.Forall₂ (Visited c t) t.postorder (visits layout c t) :=
  walk_visited layout "" c {} t

/-- A visit is that of the node at the end of a way in a tree. -/
structure Stands (file : String) (t : Tree) (w : Way) (v : Visit) : Prop where
  node : t.at? w = some (.node v.kind v.children)
  origin : v.origin = t.originAt file w

/-- Of what a node takes from the nodes around it, only the file matters to the file that it
    comes from. -/
theorem originOf_contextAt {c : Context} {t : Tree} {w : Way} {kind : Kind} {ts : List Tree}
    (hat : t.at? w = some (.node kind ts)) :
    (t.contextAt c w).originOf ts = t.originAt c.origin w := by
  induction w generalizing t c with
  | nil =>
      cases hat
      rfl
  | cons i w ih =>
      cases t with
      | leaf l =>
          simp only [at?, children, List.getElem?_nil, Option.bind_none, reduceCtorEq] at hat
      | node kind' us =>
          rw [at?, Option.bind_eq_some_iff, children] at hat
          rcases hat with ⟨child, hchild, hat⟩
          have horigin : (c.forChild kind' us i).origin = c.originOf us := by
            unfold Context.forChild
            split <;> rfl
          rw [contextAt_cons hchild, ih hat, horigin, originAt, children, hchild]
          rfl

theorem Visited.stands {c : Context} {t : Tree} {w : Way} {v : Visit} (h : Visited c t w v) :
    Stands c.origin t w v := ⟨h.node, h.origin.trans (originOf_contextAt h.node)⟩

/-- Whether a function is at the end of a way. -/
def isFunctionAt (t : Tree) (w : Way) : Bool :=
  match t.at? w with
  | some (.node kind _) => isFunction kind
  | _ => false

/-- The ways to the functions of a tree, those in a function before the function. -/
def functionWays (t : Tree) : List Way := t.postorder.filter t.isFunctionAt

/-- The visits of a tree stand where its nodes do. -/
theorem visits_stand (layout : Layout) (c : Context) (t : Tree) :
    List.Forall₂ (Stands c.origin t) t.postorder (visits layout c t) :=
  (visits_visited layout c t).imp fun _ _ h => h.stands

/-- The functions of a tree are visited in that order, too. -/
theorem functions_stand (layout : Layout) (c : Context) (t : Tree) :
    List.Forall₂ (Stands c.origin t) t.functionWays (functions layout c t) := by
  refine List.rel_filter ?_ (visits_stand layout c t)
  intro w v h
  simp only [isFunctionAt, h.node]

end Tree

end Source

end EntryCoverage

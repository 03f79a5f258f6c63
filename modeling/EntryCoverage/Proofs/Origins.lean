import EntryCoverage.Proofs.Marks
import Mathlib.Data.List.TakeWhile

/-!
# The Nearest Mark

Which file a node comes from, said without a walk.

A node comes from the file that the nearest mark names, on the path from the node up to the
root, or from the file it stands in if nothing on that path is marked. `NearestMark` says
this of ways, and `FirstMark` what marks a node: of the lines above it, the first one whose
comment has the form of a mark.

Two ways to find the file out are compared with this. The walk hands the file down from
parents to children (`nearestMark_originAt`). The other way keeps no surroundings at all: a
`Tracker` only sees nodes being entered and left, and has a stack of files for the nodes
that it is in. What carries its proof is that a tree leaves the stack as it was
(`run_events`), so what a tree's marks put there is gone when the next one begins.

## Main definitions

* `Provenance.IsMark`: The form of a mark.
* `Provenance.FirstMark`: The first mark above a statement names a file.
* `Tree.NearestMark`: The nearest mark on a way names a file.
* `Tracker`: A stack of files, and the file of each node so far.

## Theorems

* `originOf?_eq_some_iff`, `readOrigin?_eq_some_iff`: What is read of marks.
* `nearestMark_originAt`: What is handed down is what the nearest mark names.
* `run_events`: A tree leaves the stack as it was.
* `visits_nearest_mark`: Each node of a tree gets one file, that of the nearest mark.
-/

namespace EntryCoverage

open Source

/-! ### Texts with blanks in them -/

namespace Text

theorem after?_eq_some_iff (beginning cs rest : List Char) :
    after? beginning cs = some rest ↔ cs = beginning ++ rest := by
  constructor
  · intro h
    induction beginning generalizing cs with
    | nil => exact Option.some.inj h
    | cons p ps ih =>
        cases cs with
        | nil => simp only [after?, reduceCtorEq] at h
        | cons c cs =>
            rw [after?] at h
            split at h
            · rename_i heq
              rw [eq_of_beq heq, ih cs h, List.cons_append]
            · simp only [reduceCtorEq] at h
  · rintro rfl
    exact after?_append beginning rest

/-- A text that begins with no blank is found behind the blanks before it. -/
theorem dropWhile_eq_append_iff {c : Char} (hc : isBlank c = false) (cs word rest : List Char) :
    cs.dropWhile isBlank = (c :: word) ++ rest ↔
      ∃ gap, gap.all isBlank = true ∧ cs = gap ++ (c :: word) ++ rest := by
  constructor
  · intro h
    refine ⟨cs.takeWhile isBlank, List.all_takeWhile, ?_⟩
    rw [List.append_assoc, ← h, List.takeWhile_append_dropWhile]
  · rintro ⟨gap, hgap, rfl⟩
    rw [List.append_assoc, List.dropWhile_append_of_pos (List.all_eq_true.1 hgap),
      List.cons_append, List.dropWhile_cons_of_neg (by rw [hc]; exact Bool.false_ne_true)]

/-- What is left without the blanks at the end. -/
theorem stripRight_eq_iff {c : Char} {cs kept : List Char} (hc : isBlank c = false) :
    stripRight (c :: cs) = kept ↔
      (∃ gap, gap.all isBlank = true ∧ c :: cs = kept ++ gap) ∧
        kept.getLast?.any (!isBlank ·) = true := by
  rw [stripRight, List.reverse_eq_iff]
  constructor
  · intro h
    constructor
    · refine ⟨((c :: cs).reverse.takeWhile isBlank).reverse, ?_, ?_⟩
      · rw [List.all_reverse]
        exact List.all_takeWhile
      · rw [← List.reverse_inj, List.reverse_append, List.reverse_reverse, ← h,
          List.takeWhile_append_dropWhile]
    · -- Not all of it is blank, so something is left, and it ends without a blank.
      rw [List.getLast?_eq_head?_reverse, ← h]
      cases hleft : (c :: cs).reverse.dropWhile isBlank with
      | nil =>
          rw [List.dropWhile_eq_nil_iff] at hleft
          have hblank := hleft c (List.mem_reverse.2 List.mem_cons_self)
          rw [hc] at hblank
          exact absurd hblank Bool.false_ne_true
      | cons d ds =>
          have hd := List.head_dropWhile_not isBlank (l := (c :: cs).reverse)
            (by rw [hleft]; exact List.cons_ne_nil d ds)
          simp only [hleft, List.head_cons] at hd
          rw [List.head?_cons, Option.any_some, hd, Bool.not_false]
  · rintro ⟨⟨gap, hgap, htext⟩, hlast⟩
    rcases List.eq_nil_or_concat kept with rfl | ⟨kept, d, rfl⟩
    · simp only [List.getLast?_nil, Option.any_none, Bool.false_eq_true] at hlast
    · rw [List.concat_eq_append, List.getLast?_concat, Option.any_some, Bool.not_eq_true'] at hlast
      rw [htext, List.reverse_append, List.dropWhile_append_of_pos
        (List.all_eq_true.1 (by rwa [List.all_reverse])), List.concat_eq_append,
        List.reverse_concat,
        List.dropWhile_cons_of_neg (by rw [hlast]; exact Bool.false_ne_true)]

end Text

/-! ### Marks -/

namespace Provenance

/-- A comment is a mark for a file: the words of the mark one after the other, with blanks
    between them or not, and then the name of the file, which neither begins nor ends with
    a blank. -/
def IsMark (comment origin : String) : Prop :=
  (∃ gap₁ gap₂ gap₃ : List Char,
    (gap₁.all Text.isBlank = true ∧ gap₂.all Text.isBlank = true ∧ gap₃.all Text.isBlank = true) ∧
      comment.toList = "#".toList ++ (gap₁ ++ "prodcov:".toList ++ (gap₂ ++ "origin=".toList ++
        (origin.toList ++ gap₃)))) ∧
    origin.toList.head?.any (!Text.isBlank ·) = true ∧
      origin.toList.getLast?.any (!Text.isBlank ·) = true

/-- Files are read from marks, and from nothing else. -/
theorem originOf?_eq_some_iff (comment origin : String) :
    originOf? comment = some origin ↔ IsMark comment origin := by
  have hword : "prodcov:".toList = 'p' :: "rodcov:".toList := rfl
  have hsign : "origin=".toList = 'o' :: "rigin=".toList := rfl
  have hp : Text.isBlank 'p' = false := by decide
  have ho : Text.isBlank 'o' = false := by decide
  simp only [originOf?, Option.bind_eq_bind, Option.bind_eq_some_iff, Text.after?_eq_some_iff]
  rw [IsMark, hword, hsign]
  constructor
  · rintro ⟨rest₁, hcomment, rest₂, h₁, rest₃, h₂, hname⟩
    rcases (Text.dropWhile_eq_append_iff hp _ _ _).1 h₁ with ⟨gap₁, hgap₁, rfl⟩
    rcases (Text.dropWhile_eq_append_iff ho _ _ _).1 h₂ with ⟨gap₂, hgap₂, rfl⟩
    cases rest₃ with
    | nil => simp only [reduceCtorEq] at hname
    | cons c rest =>
        simp only at hname
        split at hname
        · simp only [reduceCtorEq] at hname
        · rename_i hc
          rw [Bool.not_eq_true] at hc
          rw [Option.some.injEq] at hname
          rcases (Text.stripRight_eq_iff hc).1 rfl with ⟨⟨gap₃, hgap₃, htext⟩, hlast⟩
          have horigin : origin.toList = Text.stripRight (c :: rest) := by
            rw [← hname, String.toList_ofList]
          rw [← horigin] at htext hlast
          refine ⟨⟨gap₁, gap₂, gap₃, ⟨hgap₁, hgap₂, hgap₃⟩, ?_⟩, ?_, hlast⟩
          · rw [hcomment, htext]
            rfl
          · -- What is left begins as the text does.
            cases hkept : origin.toList with
            | nil =>
                rw [hkept] at hlast
                simp only [List.getLast?_nil, Option.any_none, Bool.false_eq_true] at hlast
            | cons d ds =>
                rw [hkept, List.cons_append, List.cons.injEq] at htext
                rw [List.head?_cons, Option.any_some, ← htext.1, hc, Bool.not_false]
  · rintro ⟨⟨gap₁, gap₂, gap₃, ⟨hgap₁, hgap₂, hgap₃⟩, hcomment⟩, hhead, hlast⟩
    refine ⟨_, hcomment, _, (Text.dropWhile_eq_append_iff hp _ _ _).2 ⟨gap₁, hgap₁, rfl⟩, _,
      (Text.dropWhile_eq_append_iff ho _ _ _).2 ⟨gap₂, hgap₂, rfl⟩, ?_⟩
    cases horigin : origin.toList with
    | nil =>
        rw [horigin] at hhead
        simp only [List.head?_nil, Option.any_none, Bool.false_eq_true] at hhead
    | cons c cs =>
        rw [horigin, List.head?_cons, Option.any_some, Bool.not_eq_true'] at hhead
        rw [horigin] at hlast
        have hkept : Text.stripRight (c :: (cs ++ gap₃)) = c :: cs :=
          (Text.stripRight_eq_iff hhead).2 ⟨⟨gap₃, hgap₃, rfl⟩, hlast⟩
        simp only [List.cons_append, hhead, Bool.false_eq_true, if_false, hkept]
        rw [← horigin, String.ofList_toList]

/-- The comment on a line is a mark for a file. -/
def MarkOn (line : Tree) (origin : String) : Prop :=
  ∃ comment, commentOf? line = some comment ∧ IsMark comment origin

theorem markOn?_eq_some_iff (line : Tree) (origin : String) :
    markOn? line = some origin ↔ MarkOn line origin := by
  simp only [markOn?, MarkOn, Option.bind_eq_some_iff, originOf?_eq_some_iff]

/-- Of the lines above a statement, the first one with a mark names a file. -/
def FirstMark (ts : List Tree) (origin : String) : Prop :=
  ∃ before line after, linesAbove ts = before ++ line :: after ∧ MarkOn line origin ∧
    ∀ l ∈ before, ∀ other, ¬ MarkOn l other

theorem readOrigin?_eq_some_iff (ts : List Tree) (origin : String) :
    readOrigin? ts = some origin ↔ FirstMark ts origin := by
  rw [readOrigin?, List.findSome?_eq_some_iff]
  refine exists_congr fun before => exists_congr fun line => exists_congr fun after => ?_
  refine and_congr_right fun _ => and_congr (markOn?_eq_some_iff line origin) ?_
  refine forall₂_congr fun l _ => ?_
  rw [Option.eq_none_iff_forall_ne_some]
  exact forall_congr' fun other => not_congr (markOn?_eq_some_iff l other)

end Provenance

open Provenance

namespace Source.Tree

/-! ### The nearest mark -/

/-- The node at the end of a way is marked with a file. -/
def MarkedAt (t : Tree) (w : Way) (origin : String) : Prop :=
  ∃ kind ts, t.at? w = some (.node kind ts) ∧ FirstMark ts origin

/-- Of the nodes on a way, its end and the root included, the nearest to its end that is
    marked is marked with a file; or none is, and the file is the one the tree stands in. -/
def NearestMark (file : String) (t : Tree) (w : Way) (origin : String) : Prop :=
  (∃ u, u <+: w ∧ t.MarkedAt u origin ∧
    ∀ v, v <+: w → u.length < v.length → ∀ other, ¬ t.MarkedAt v other) ∨
  (origin = file ∧ ∀ u, u <+: w → ∀ other, ¬ t.MarkedAt u other)

theorem markOf?_eq_some_iff (t : Tree) (origin : String) :
    t.markOf? = some origin ↔ t.MarkedAt [] origin := by
  cases t with
  | leaf l => simp only [markOf?, MarkedAt, at?, Option.some.injEq, reduceCtorEq, false_and,
      exists_false]
  | node kind ts =>
      rw [markOf?, readOrigin?_eq_some_iff]
      constructor
      · exact fun h => ⟨kind, ts, rfl, h⟩
      · rintro ⟨kind', ts', heq, h⟩
        cases heq
        exact h

/-- What is marked in a child is so in its parent, one step further down. -/
theorem markedAt_cons {t child : Tree} {i : Nat} (hchild : t.children[i]? = some child) (u : Way)
    (origin : String) : t.MarkedAt (i :: u) origin ↔ child.MarkedAt u origin := by
  simp only [MarkedAt, at?, hchild, Option.bind_some]

/-- At its root, a tree has the mark of the root. -/
theorem nearestMark_root (file : String) (t : Tree) :
    t.NearestMark file [] (t.markOf?.getD file) := by
  cases hmark : t.markOf? with
  | some origin =>
      refine .inl ⟨[], List.prefix_rfl, (markOf?_eq_some_iff t origin).1 hmark, ?_⟩
      intro v hv hlt
      rw [List.prefix_nil.1 hv] at hlt
      exact absurd hlt (Nat.lt_irrefl _)
  | none =>
      refine .inr ⟨rfl, fun u hu other hother => ?_⟩
      rw [List.prefix_nil.1 hu, ← markOf?_eq_some_iff, hmark] at hother
      simp only [reduceCtorEq] at hother

/-- A way into a child has the nearest mark in the child, where the mark of the parent
    stands for the file around. -/
theorem NearestMark.of_child {file : String} {t child : Tree} {i : Nat} {w : Way}
    {origin : String} (hchild : t.children[i]? = some child)
    (h : child.NearestMark (t.markOf?.getD file) w origin) : t.NearestMark file (i :: w) origin := by
  have hbelow : (∀ u, u <+: w → ∀ other, ¬ child.MarkedAt u other) →
      ∀ v, v <+: i :: w → 0 < v.length → ∀ other, ¬ t.MarkedAt v other := by
    intro hnone v hv hpos other hmarked
    rcases List.prefix_cons_iff.1 hv with rfl | ⟨u, rfl, hu⟩
    · exact absurd hpos (Nat.lt_irrefl _)
    · exact hnone u hu other ((markedAt_cons hchild u other).1 hmarked)
  rcases h with ⟨u, hu, hmarked, hnearest⟩ | ⟨rfl, hnone⟩
  · -- The mark is in the child.
    refine .inl ⟨i :: u, (List.prefix_cons_inj i).2 hu, (markedAt_cons hchild u origin).2 hmarked,
      ?_⟩
    intro v hv hlt other hother
    rcases List.prefix_cons_iff.1 hv with rfl | ⟨v', rfl, hv'⟩
    · exact absurd hlt (Nat.not_lt_zero _)
    · exact hnearest v' hv' (Nat.lt_of_succ_lt_succ hlt) other
        ((markedAt_cons hchild v' other).1 hother)
  · -- Nothing in the child is marked, so it is the parent's mark that counts.
    rcases nearestMark_root file t with ⟨u, hu, hmarked, -⟩ | ⟨heq, hroot⟩
    · rw [List.prefix_nil.1 hu] at hmarked
      exact .inl ⟨[], List.nil_prefix, hmarked, hbelow hnone⟩
    · refine .inr ⟨heq, fun u hu other => ?_⟩
      rcases u with _ | ⟨j, u⟩
      · exact hroot [] List.nil_prefix other
      · exact hbelow hnone _ hu (Nat.succ_pos _) other

/-- What is handed down to a node is what the nearest mark names. -/
theorem nearestMark_originAt {file : String} {t s : Tree} {w : Way} (hat : t.at? w = some s) :
    t.NearestMark file w (t.originAt file w) := by
  induction w generalizing file t with
  | nil => exact nearestMark_root file t
  | cons i w ih =>
      rw [at?, Option.bind_eq_some_iff] at hat
      rcases hat with ⟨child, hchild, hat⟩
      rw [originAt, hchild]
      exact (ih hat).of_child hchild

/-- No more than one file is named by the nearest mark. -/
theorem NearestMark.unique {file : String} {t : Tree} {w : Way} {origin origin' : String}
    (h : t.NearestMark file w origin) (h' : t.NearestMark file w origin') : origin = origin' := by
  rcases h with ⟨u, hu, hmarked, hnearest⟩ | ⟨rfl, hnone⟩
  · rcases h' with ⟨u', hu', hmarked', hnearest'⟩ | ⟨-, hnone'⟩
    · -- Neither of the two is nearer, so both marks are those of one node.
      have hlength : u.length = u'.length := Nat.le_antisymm
        (Nat.not_lt.1 fun hlt => hnearest' u hu hlt origin hmarked)
        (Nat.not_lt.1 fun hlt => hnearest u' hu' hlt origin' hmarked')
      have hsame : u = u' :=
        (List.prefix_of_prefix_length_le hu hu' (Nat.le_of_eq hlength)).eq_of_length hlength
      subst hsame
      rcases hmarked with ⟨kind, ts, hat, hfirst⟩
      rcases hmarked' with ⟨kind', ts', hat', hfirst'⟩
      rw [hat] at hat'
      cases hat'
      rw [← readOrigin?_eq_some_iff] at hfirst hfirst'
      exact Option.some.inj (hfirst.symm.trans hfirst')
    · exact absurd hmarked (hnone' u hu origin)
  · rcases h' with ⟨u', hu', hmarked', -⟩ | ⟨rfl, -⟩
    · exact absurd hmarked' (hnone u' hu' origin')
    · rfl

/-- Only marks on the way matter, and not those of trees beside it. -/
theorem nearestMark_congr {file : String} {t t' : Tree} {w : Way}
    (h : ∀ u, u <+: w → ∀ origin, t.MarkedAt u origin ↔ t'.MarkedAt u origin) (origin : String) :
    t.NearestMark file w origin ↔ t'.NearestMark file w origin := by
  refine or_congr (exists_congr fun u => and_congr_right fun hu => ?_) (and_congr_right fun _ => ?_)
  · refine and_congr (h u hu origin) (forall₂_congr fun v hv => imp_congr_right fun _ => ?_)
    exact forall_congr' fun other => not_congr (h v hv other)
  · exact forall₂_congr fun u hu => forall_congr' fun other => not_congr (h u hu other)

end Source.Tree

/-! ### A stack of files -/

/-- What is seen of a node: that it is entered, with the file that it is marked with, or
    that it is left. -/
inductive Tracker.Event
  | enter (w : Way) (mark : Option String)
  | leave

/-- The files of the nodes that were entered and not left, the innermost first, and the file
    that each node got. -/
structure Tracker where
  origins : List String
  assigned : List (Way × String) := []

namespace Tracker

/-- A node that is entered is given the file it is marked with, or that of the node around
    it. -/
def step (s : Tracker) : Event → Tracker
  | .enter w mark =>
      { origins := mark.getD (s.origins.headD "") :: s.origins
        assigned := s.assigned ++ [(w, mark.getD (s.origins.headD ""))] }
  | .leave => { s with origins := s.origins.tail }

/-- One event after the other. -/
def run (s : Tracker) (events : List Event) : Tracker := events.foldl step s

theorem run_of_append (s : Tracker) (es es' : List Event) : s.run (es ++ es') = (s.run es).run es' :=
  List.foldl_append

end Tracker

namespace Source.Tree

mutual

/-- The nodes of a tree that a way leads to, being entered and left. -/
def events (w : Way) : Tree → List Tracker.Event
  | .leaf _ => []
  | .node _ ts => .enter w (readOrigin? ts) :: eventsAll w 0 ts ++ [.leave]

/-- The same for trees in a row, the first of which is child `i` of the end of the way. -/
def eventsAll (w : Way) (i : Nat) : List Tree → List Tracker.Event
  | [] => []
  | t :: ts => t.events (w ++ [i]) ++ eventsAll w (i + 1) ts

end

/-- The files that a stack gives to the nodes of a tree. -/
def tracked (file : String) (t : Tree) : Tracker := Tracker.run ⟨[file], []⟩ (t.events [])

mutual

/-- The ways to the nodes of a tree in the order in which nodes are entered. -/
def preorder : Tree → List Way
  | .leaf _ => []
  | .node _ ts => [] :: preorderAll 0 ts

def preorderAll (i : Nat) : List Tree → List Way
  | [] => []
  | t :: ts => t.preorder.map (i :: ·) ++ preorderAll (i + 1) ts

end

mutual

/-- These are the nodes of the tree, in another order. -/
theorem perm_preorder : ∀ t : Tree, t.preorder.Perm t.postorder
  | .leaf _ => .nil
  | .node _ ts => by
      rw [preorder, postorder]
      exact ((perm_preorderAll 0 ts).cons []).trans (List.perm_append_singleton [] _).symm

theorem perm_preorderAll : ∀ (i : Nat) (ts : List Tree),
    (preorderAll i ts).Perm (postorderAll i ts)
  | _, [] => .nil
  | i, t :: ts => by
      rw [preorderAll, postorderAll]
      exact ((perm_preorder t).map _).append (perm_preorderAll (i + 1) ts)

end

/-- What a tree at the end of a way is given, if `origin` is the file of the node around
    it. -/
def given (origin : String) (u : Way) (t : Tree) : List (Way × String) :=
  t.preorder.map fun w => (u ++ w, t.originAt origin w)

/-- The same for trees in a row. -/
def givenAll (origin : String) (u : Way) (i : Nat) : List Tree → List (Way × String)
  | [] => []
  | t :: ts => t.given origin (u ++ [i]) ++ givenAll origin u (i + 1) ts

/-- A node is given its own file, and its children what they are given with that file around
    them. -/
theorem given_node (origin : String) (u : Way) (kind : Kind) (ts : List Tree) :
    (Tree.node kind ts).given origin u =
      (u, (readOrigin? ts).getD origin) :: givenAll ((readOrigin? ts).getD origin) u 0 ts := by
  have hrow : ∀ (i : Nat) (rest : List Tree), (∀ j, rest[j]? = ts[i + j]?) →
      (preorderAll i rest).map (fun w => (u ++ w, (Tree.node kind ts).originAt origin w)) =
        givenAll ((readOrigin? ts).getD origin) u i rest := by
    intro i rest hrest
    induction rest generalizing i with
    | nil => rfl
    | cons t rest ih =>
        have hchild : ts[i]? = some t := (hrest 0).symm
        rw [preorderAll, givenAll, List.map_append, List.map_map]
        refine congrArg₂ _ (List.map_congr_left fun w _ => ?_) (ih (i + 1) fun j => ?_)
        · simp only [Function.comp_apply, originAt, children, hchild, markOf?, List.append_assoc,
            List.singleton_append]
        · rw [Nat.add_assoc, Nat.add_comm 1 j]
          exact hrest (j + 1)
  rw [given, preorder, List.map_cons, hrow 0 ts fun j => by rw [Nat.zero_add], List.append_nil,
    originAt, markOf?]

mutual

/-- A tree leaves the stack as it was, and each of its nodes has got what is handed down to
    it from the top of the stack. -/
theorem run_events (origin : String) (outer : List String) : ∀ (u : Way) (t : Tree)
    (before : List (Way × String)),
    Tracker.run ⟨origin :: outer, before⟩ (t.events u) =
      ⟨origin :: outer, before ++ t.given origin u⟩
  | _, .leaf _, before => by
      rw [events, given, preorder, List.map_nil, List.append_nil]
      rfl
  | u, .node kind ts, before => by
      rw [events, List.cons_append, given_node]
      have hchildren := run_eventsAll ((readOrigin? ts).getD origin) (origin :: outer) u 0 ts
        (before ++ [(u, (readOrigin? ts).getD origin)])
      calc Tracker.run ⟨origin :: outer, before⟩
            (.enter u (readOrigin? ts) :: (eventsAll u 0 ts ++ [.leave]))
          = Tracker.run (Tracker.run ⟨(readOrigin? ts).getD origin :: origin :: outer,
              before ++ [(u, (readOrigin? ts).getD origin)]⟩ (eventsAll u 0 ts)) [.leave] := by
            rw [← Tracker.run_of_append]
            rfl
        _ = _ := by
            -- The file that was put on the stack is taken off again.
            rw [hchildren, List.append_assoc, List.singleton_append]
            rfl

theorem run_eventsAll (origin : String) (outer : List String) : ∀ (u : Way) (i : Nat)
    (ts : List Tree) (before : List (Way × String)),
    Tracker.run ⟨origin :: outer, before⟩ (eventsAll u i ts) =
      ⟨origin :: outer, before ++ givenAll origin u i ts⟩
  | _, _, [], before => by
      rw [eventsAll, givenAll, List.append_nil]
      rfl
  | u, i, t :: ts, before => by
      rw [eventsAll, givenAll, Tracker.run_of_append, run_events origin outer (u ++ [i]) t before,
        run_eventsAll origin outer u (i + 1) ts, List.append_assoc]

end

/-- What the stack gives, node by node. -/
theorem tracked_eq (file : String) (t : Tree) :
    t.tracked file = ⟨[file], t.preorder.map fun w => (w, t.originAt file w)⟩ := by
  rw [tracked, run_events file [] [] t, List.nil_append]
  rfl

/-- The nodes that the stack gives a file to are those of the tree, each once. -/
theorem perm_tracked (file : String) (t : Tree) :
    ((t.tracked file).assigned.map Prod.fst).Perm t.postorder := by
  rw [tracked_eq, List.map_map]
  exact (List.map_id t.preorder).symm ▸ perm_preorder t

/-- The file that the stack gives to a node is the one that the nearest mark names. -/
theorem mem_tracked_iff (file : String) (t : Tree) (w : Way) (origin : String) :
    (w, origin) ∈ (t.tracked file).assigned ↔ w ∈ t.postorder ∧ t.NearestMark file w origin := by
  rw [tracked_eq, List.mem_map]
  constructor
  · rintro ⟨w', hw', heq⟩
    cases heq
    have hin := (perm_preorder t).mem_iff.1 hw'
    rcases (mem_postorder t w).1 hin with ⟨kind, ts, hat⟩
    exact ⟨hin, nearestMark_originAt hat⟩
  · rintro ⟨hin, hnearest⟩
    rcases (mem_postorder t w).1 hin with ⟨kind, ts, hat⟩
    refine ⟨w, (perm_preorder t).mem_iff.2 hin, ?_⟩
    rw [hnearest.unique (nearestMark_originAt hat)]

end Source.Tree

open Source.Tree

/-- Each node of a tree gets one file, and it is the one that the nearest mark on the path up
    to the root names, or the file around if there is none: in the visits of the tree, and
    from a stack that only sees nodes entered and left, which is in the end as it was. Marks
    are the first above a statement that have their form, and marks of other trees than
    those on the path do not matter. -/
theorem visits_nearest_mark (layout : Layout) (file : String) (t : Tree) :
    (t.postorder.Nodup ∧ ∀ w, w ∈ t.postorder ↔ ∃ kind ts, t.at? w = some (.node kind ts)) ∧
    List.Forall₂ (fun w v => t.at? w = some (.node v.kind v.children) ∧
      t.NearestMark file w v.origin) t.postorder (visits layout { origin := file } t) ∧
    ((t.tracked file).origins = [file] ∧ ((t.tracked file).assigned.map Prod.fst).Perm t.postorder ∧
      ∀ w origin, (w, origin) ∈ (t.tracked file).assigned ↔
        w ∈ t.postorder ∧ t.NearestMark file w origin) ∧
    (∀ ts origin, readOrigin? ts = some origin ↔ FirstMark ts origin) ∧
    ∀ (t' : Tree) w origin, (∀ u, u <+: w → ∀ origin, t.MarkedAt u origin ↔ t'.MarkedAt u origin) →
      (t.NearestMark file w origin ↔ t'.NearestMark file w origin) := by
  refine ⟨⟨nodup_postorder t, mem_postorder t⟩, ?_, ⟨?_, perm_tracked file t, mem_tracked_iff file t⟩,
    readOrigin?_eq_some_iff, fun t' w origin h => nearestMark_congr h origin⟩
  · refine (visits_stand layout { origin := file } t).imp fun w v h => ⟨h.node, ?_⟩
    rw [h.origin]
    exact nearestMark_originAt h.node
  · rw [tracked_eq]

end EntryCoverage
